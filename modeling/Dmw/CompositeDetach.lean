import Dmw.KeyedTable
import Dmw.WaitSetAdd

/-!
# Detaching a composite registration

`WaitSetState::detach` of a registration made of any number of readers, with
every field that a release touches: registration ids, callbacks, the quarantine
and the deferred deletion. Native detachments and DDS deletions succeed or fail
as the environment says; no other thread takes part.
-/

namespace Dmw.CompositeDetach

open KeyedTable
open WaitSetAdd (ReaderId RegistrationPhase)

/-- Whether the DDS reader behind a wait state may be deleted. -/
inductive Lifecycle
  | open
  | deleteDeferredByWaitSet
  | closed
  deriving DecidableEq

/-- WaitSet and registration id of a callback. -/
structure Token where
  /-- The WaitSet. -/
  waitSetId : ℕ
  /-- The registration within it. -/
  registrationId : ℕ
  deriving DecidableEq

/-- One constituent reader; id 0 is none. -/
structure ReaderWaitState where
  /-- WaitSet the reader is registered in. -/
  waitSetId : ℕ
  /-- Registration it belongs to. -/
  registrationId : ℕ
  /-- WaitSet that a notification wakes. -/
  wakeCallback : Option ℕ
  /-- Registration that `close` detaches. -/
  detachCallback : Option Token
  /-- Registration and index that a change of capacity reconciles. -/
  topologyCallback : Option (Token × ℕ)
  /-- WaitSet kept alive after a failed detachment. -/
  quarantinedWaitSet : Option ℕ
  /-- State of the deferred deletion. -/
  lifecycle : Lifecycle
  /-- The DDS reader exists. -/
  present : Bool
  deriving DecidableEq

/-- The fixed part of a registration. A claim refuses a reader it holds
already, so the readers are distinct. -/
structure Registration where
  /-- Which object it is. -/
  ref : ℕ
  /-- Its id. -/
  id : ℕ
  /-- Its constituent readers. -/
  readers : List ReaderId
  /-- No reader occurs twice. -/
  distinct : readers.Nodup

/-- The WaitSet, the changing part of the registration and all readers. -/
structure World where
  /-- Identity of the WaitSet. -/
  waitSetId : ℕ
  /-- 0 is no WaitSet. -/
  positive : 0 < waitSetId
  /-- Registration objects by id. -/
  registrations : Table ℕ ℕ
  /-- The native WaitSet may be out of step. -/
  poisoned : Bool
  /-- Topology mutations so far. -/
  topologyGeneration : ℕ
  /-- Topology mutations in progress. -/
  activeTopologyMutations : ℕ
  /-- Phase of the registration. -/
  phase : RegistrationPhase
  /-- Native conditions attached for it, by index. -/
  readerConditions : ℕ → Bool
  /-- The readers. -/
  readers : ReaderId → ReaderWaitState

/-- Answers of DDS. -/
structure Native where
  /-- Native detachment of an index succeeds. -/
  detaches : ℕ → Bool
  /-- A deferred deletion succeeds. -/
  deletes : ReaderId → Bool

namespace ReaderWaitState

/-- `complete_deferred_delete`. -/
def completeDeferredDelete (deleted : Bool) (reader : ReaderWaitState) : ReaderWaitState :=
  if reader.lifecycle ≠ .deleteDeferredByWaitSet || reader.waitSetId ≠ 0 then reader
  else if !reader.present then {reader with lifecycle := .closed}
  else if deleted then {reader with present := false, lifecycle := .closed}
  else reader

/-- Identity and callbacks of a registration are gone. -/
def clear (reader : ReaderWaitState) : ReaderWaitState :=
  {reader with
    wakeCallback := none
    detachCallback := none
    topologyCallback := none
    quarantinedWaitSet := none
    registrationId := 0
    waitSetId := 0}

/-- A reader after its release. -/
def released (deleted : Bool) (reader : ReaderWaitState) : ReaderWaitState :=
  reader.clear.completeDeferredDelete deleted

/-- Two states carry the same identity and the same callbacks. -/
def SameContext (before after : ReaderWaitState) : Prop :=
  after.waitSetId = before.waitSetId ∧ after.registrationId = before.registrationId ∧
    after.wakeCallback = before.wakeCallback ∧ after.detachCallback = before.detachCallback ∧
      after.topologyCallback = before.topologyCallback

/-- Neither identity nor callbacks. -/
def Unregistered (reader : ReaderWaitState) : Prop :=
  reader.waitSetId = 0 ∧ reader.registrationId = 0 ∧ reader.wakeCallback = none ∧
    reader.detachCallback = none ∧ reader.topologyCallback = none

/-- A release leaves neither identity nor callbacks. -/
theorem unregistered_released (deleted : Bool) (reader : ReaderWaitState) :
    (reader.released deleted).Unregistered := by
  unfold released completeDeferredDelete
  split_ifs
  all_goals exact ⟨rfl, rfl, rfl, rfl, rfl⟩

end ReaderWaitState

namespace World

/-- The reader carries the identity of the registration. -/
def carries (reg : Registration) (s : World) (r : ReaderId) : Bool :=
  (s.readers r).waitSetId == s.waitSetId && (s.readers r).registrationId == reg.id

/-- Replace one reader. -/
def setReader (r : ReaderId) (reader : ReaderWaitState) (s : World) : World :=
  {s with readers := Function.update s.readers r reader}

/-- Start of a `TopologyMutationGuard`. -/
def beginTopologyMutation (s : World) : World :=
  {s with activeTopologyMutations := s.activeTopologyMutations+1}

/-- `note_topology_mutation`. -/
def noteTopologyMutation (s : World) : World :=
  if s.topologyGeneration = UInt64.size-1 then {s with poisoned := true}
  else {s with topologyGeneration := s.topologyGeneration+1}

/-- End of a `TopologyMutationGuard`. -/
def endTopologyMutation (s : World) : World :=
  let noted := s.noteTopologyMutation
  {noted with activeTopologyMutations := noted.activeTopologyMutations-1}

/-- Quarantine the WaitSet in every reader of the registration. -/
def quarantine (reg : Registration) (s : World) : World :=
  {s with
    readers := fun r =>
      if r ∈ reg.readers then {s.readers r with quarantinedWaitSet := some s.waitSetId}
      else s.readers r}

/-- Erase the registration if the map still holds it under its id. -/
def eraseRegistration (reg : Registration) (s : World) : World :=
  if s.registrations.lookup reg.id = some reg.ref then
    {s with registrations := s.registrations.erase reg.id}
  else s

end World

/-- `release` of one reader: detach its condition and clear it, if it still
belongs to the registration. -/
def releaseReader (native : Native) (reg : Registration) (index : ℕ) (r : ReaderId) (s : World) :
    Bool × World :=
  if !s.carries reg r then (true,s)
  else if s.readerConditions index && !native.detaches index then (false,s)
  else
    (true,{s.setReader r ((s.readers r).released (native.deletes r)) with
      readerConditions := Function.update s.readerConditions index false})

/-- `release`: reader by reader, up to the first failed detachment. -/
def releaseReaders (native : Native) (reg : Registration) :
    ℕ → List ReaderId → World → Bool × World
  | _, [], s => (true,s)
  | index, r :: rest, s =>
    match releaseReader native reg index r s with
    | (false,s) => (false,s)
    | (true,s) => releaseReaders native reg (index+1) rest s

/-- What `detach` makes of a release. -/
def settle (reg : Registration) : Bool × World → Bool × World
  | (false,s) => (false,{s.quarantine reg with phase := .attached, poisoned := true})
  | (true,s) => (true,{s.eraseRegistration reg with phase := .detached})

/-- `WaitSetState::detach`. -/
def detach (native : Native) (reg : Registration) (s : World) : Bool × World :=
  if s.phase ≠ .attached then (false,s)
  else
    let mutating := {s with phase := .detaching}.beginTopologyMutation
    let (detached,settled) := settle reg (releaseReaders native reg 0 reg.readers mutating)
    (detached,settled.endTopologyMutation)

/-- The native detachment of a carried reader would fail. -/
def Fails (native : Native) (reg : Registration) (s : World) (index : ℕ) (r : ReaderId) : Prop :=
  s.carries reg r = true ∧ s.readerConditions index = true ∧ native.detaches index = false

/-- All-or-nothing: a failed native detachment leaves identity and callbacks of
every constituent as they were; success leaves none of them and takes the
registration out of the map. -/
structure AllOrNothing (native : Native) (reg : Registration) (s : World) : Prop where
  /-- The call returned false although it owned the phase. -/
  failed : s.phase = .attached → (detach native reg s).1 = false →
    ∀ r ∈ reg.readers, (s.readers r).SameContext ((detach native reg s).2.readers r)
  /-- The call returned true. -/
  detached : (detach native reg s).1 = true →
    (∀ r ∈ reg.readers, if s.carries reg r then ((detach native reg s).2.readers r).Unregistered
      else (detach native reg s).2.readers r = s.readers r) ∧
    (∀ r ∈ reg.readers, (detach native reg s).2.carries reg r = false) ∧
      (detach native reg s).2.registrations.lookup reg.id ≠ some reg.ref

variable {native : Native} {reg : Registration} {s s' : World} {index : ℕ} {r : ReaderId}

/-- A release of one reader fails exactly when its native detachment does, and
then changes nothing. -/
theorem releaseReader_false :
    releaseReader native reg index r s = (false,s') ↔ Fails native reg s index r ∧ s' = s := by
  unfold releaseReader Fails
  cases hcarries : s.carries reg r with
  | false => simp
  | true =>
    cases hcondition : s.readerConditions index with
    | false => simp
    | true =>
      cases hdetach : native.detaches index with
      | false =>
        simp only [Bool.not_true, Bool.not_false, Bool.and_true, Bool.false_eq_true, if_false,
          if_true, Prod.mk.injEq, true_and, and_self]
        exact eq_comm
      | true => simp

/-- What a successful release of one reader does to every reader. -/
theorem releaseReader_true (h : releaseReader native reg index r s = (true,s')) :
    ¬ Fails native reg s index r ∧
      (∀ r', s'.readers r' = if r' = r ∧ s.carries reg r = true then
        (s.readers r').released (native.deletes r') else s.readers r') ∧
      (∀ i, i ≠ index → s'.readerConditions i = s.readerConditions i) ∧
      s'.waitSetId = s.waitSetId ∧ s'.registrations = s.registrations := by
  have hnot : ¬ Fails native reg s index r := by
    intro hfails
    have hfalse := releaseReader_false.mpr ⟨hfails, rfl⟩
    rw [hfalse] at h
    cases h
  refine ⟨hnot, ?_⟩
  unfold releaseReader at h
  cases hcarries : s.carries reg r with
  | false =>
    simp only [hcarries, Bool.not_false, if_true, Prod.mk.injEq, true_and] at h
    subst h
    simp
  | true =>
    have hcondition : (s.readerConditions index && !native.detaches index) = false := by
      unfold Fails at hnot
      cases hc : s.readerConditions index <;> cases hd : native.detaches index <;> simp_all
    simp only [hcarries, hcondition, Bool.not_true, Bool.false_eq_true, if_false, Prod.mk.injEq,
      true_and] at h
    subst h
    refine ⟨?_, ?_, rfl, rfl⟩
    · intro r'
      by_cases hr : r' = r
      · subst hr
        simp [World.setReader]
      · simp [World.setReader, hr]
    · intro i hi
      simp [hi]

/-- Releasing the head does not change whether a later reader fails. -/
theorem fails_after_release {i : ℕ} {r' : ReaderId}
    (h : releaseReader native reg index r s = (true,s')) (hi : i ≠ index) (hr : r' ≠ r) :
    (s'.carries reg r' = s.carries reg r') ∧
      (Fails native reg s' i r' ↔ Fails native reg s i r') := by
  obtain ⟨_, hreaders, hconditions, hid, _⟩ := releaseReader_true h
  have hsame : s'.readers r' = s.readers r' := by rw [hreaders r', if_neg fun hc => hr hc.1]
  have hcarries : s'.carries reg r' = s.carries reg r' := by
    unfold World.carries
    rw [hsame, hid]
  refine ⟨hcarries, ?_⟩
  unfold Fails
  rw [hcarries, hconditions i hi]

/-- A release has passed some readers: the carried ones among them are
released, all others are as before. -/
def Passed (native : Native) (reg : Registration) (before after : World) (readers : List ReaderId) :
    Prop :=
  ∀ r, after.readers r = if r ∈ readers ∧ before.carries reg r = true then
    (before.readers r).released (native.deletes r) else before.readers r

/-- Passing the head and then others passes all of them. -/
theorem passed_cons {middle : World} {rest : List ReaderId} (hnew : r ∉ rest)
    (hhead : releaseReader native reg index r s = (true,middle))
    (hrest : Passed native reg middle s' rest) : Passed native reg s s' (r :: rest) := by
  obtain ⟨_, hreaders, _, hid, _⟩ := releaseReader_true hhead
  intro r'
  rw [hrest r']
  by_cases hr : r' = r
  · subst hr
    rw [if_neg fun hc => hnew hc.1, hreaders r']
    simp
  · have hsame : middle.readers r' = s.readers r' := by
      rw [hreaders r', if_neg fun hc => hr hc.1]
    have hcarries : middle.carries reg r' = s.carries reg r' := by
      unfold World.carries
      rw [hsame, hid]
    simp [hsame, hcarries, hr]

/-- A release that returns true met no failure and passed every reader. -/
theorem releaseReaders_true {readers : List ReaderId} (hdistinct : readers.Nodup)
    (h : releaseReaders native reg index readers s = (true,s')) :
    (∀ i r, readers[i]? = some r → ¬ Fails native reg s (index+i) r) ∧
      Passed native reg s s' readers ∧ s'.waitSetId = s.waitSetId ∧
        s'.registrations = s.registrations := by
  induction readers generalizing index s with
  | nil =>
    cases h
    simp [Passed]
  | cons head rest ih =>
    obtain ⟨hnew, hdistinctRest⟩ := List.nodup_cons.mp hdistinct
    cases hhead : releaseReader native reg index head s with
    | mk released middle =>
      cases released with
      | false => simp [releaseReaders, hhead] at h
      | true =>
        simp only [releaseReaders, hhead] at h
        obtain ⟨hnone, hpassed, hid, hmap⟩ := ih hdistinctRest h
        obtain ⟨hnot, _, _, hid', hmap'⟩ := releaseReader_true hhead
        refine ⟨?_, passed_cons hnew hhead hpassed, hid.trans hid', hmap.trans hmap'⟩
        intro i r hi
        cases i with
        | zero =>
          simp only [List.getElem?_cons_zero, Option.some.injEq] at hi
          rw [← hi]
          exact hnot
        | succ i =>
          have hmem : r ∈ rest := List.mem_of_getElem? hi
          have hne : r ≠ head := fun he => hnew (he ▸ hmem)
          have hlater := hnone i r hi
          rw [(fails_after_release hhead (by omega) hne).2] at hlater
          rwa [show index + (i+1) = index+1+i by omega]

/-- A release that returns false stopped at the first failing reader and passed
the readers before it. -/
theorem releaseReaders_false {readers : List ReaderId} (hdistinct : readers.Nodup)
    (h : releaseReaders native reg index readers s = (false,s')) :
    ∃ k r, readers[k]? = some r ∧ Fails native reg s (index+k) r ∧
      (∀ i < k, ∀ r, readers[i]? = some r → ¬ Fails native reg s (index+i) r) ∧
        Passed native reg s s' (readers.take k) := by
  induction readers generalizing index s with
  | nil => simp [releaseReaders] at h
  | cons head rest ih =>
    obtain ⟨hnew, hdistinctRest⟩ := List.nodup_cons.mp hdistinct
    cases hhead : releaseReader native reg index head s with
    | mk released middle =>
      cases released with
      | false =>
        simp only [releaseReaders, hhead, Prod.mk.injEq, true_and] at h
        obtain ⟨hfails, hsame⟩ := releaseReader_false.mp hhead
        refine ⟨0, head, rfl, hfails, fun i hi => absurd hi (Nat.not_lt_zero i), ?_⟩
        rw [← h, hsame]
        intro r
        simp
      | true =>
        simp only [releaseReaders, hhead] at h
        obtain ⟨k, r, hk, hfails, hbefore, hpassed⟩ := ih hdistinctRest h
        have hmem : r ∈ rest := List.mem_of_getElem? hk
        have hne : r ≠ head := fun he => hnew (he ▸ hmem)
        rw [(fails_after_release hhead (by omega) hne).2] at hfails
        have hnotTaken : head ∉ rest.take k := fun hc => hnew (List.mem_of_mem_take hc)
        refine ⟨k+1, r, hk, ?_, ?_, passed_cons hnotTaken hhead hpassed⟩
        · rwa [show index + (k+1) = index+1+k by omega]
        · intro i hi r' hr'
          cases i with
          | zero =>
            simp only [List.getElem?_cons_zero, Option.some.injEq] at hr'
            rw [← hr']
            exact (releaseReader_true hhead).1
          | succ i =>
            have hmem' : r' ∈ rest := List.mem_of_getElem? hr'
            have hne' : r' ≠ head := fun he => hnew (he ▸ hmem')
            have hlater := hbefore i (by omega) r' hr'
            rw [(fails_after_release hhead (by omega) hne').2] at hlater
            rwa [show index + (i+1) = index+1+i by omega]

/-- The state in which `detach` starts its release. -/
def releasing (s : World) : World := {s with phase := .detaching}.beginTopologyMutation

@[simp] theorem readers_endTopologyMutation (s : World) :
    s.endTopologyMutation.readers = s.readers := by
  unfold World.endTopologyMutation World.noteTopologyMutation
  split <;> rfl

@[simp] theorem registrations_endTopologyMutation (s : World) :
    s.endTopologyMutation.registrations = s.registrations := by
  unfold World.endTopologyMutation World.noteTopologyMutation
  split <;> rfl

@[simp] theorem waitSetId_endTopologyMutation (s : World) :
    s.endTopologyMutation.waitSetId = s.waitSetId := by
  unfold World.endTopologyMutation World.noteTopologyMutation
  split <;> rfl

/-- Erasing a registration leaves every reader alone. -/
@[simp] theorem readers_eraseRegistration (s : World) :
    (s.eraseRegistration reg).readers = s.readers := by
  unfold World.eraseRegistration
  split <;> rfl

@[simp] theorem waitSetId_eraseRegistration (s : World) :
    (s.eraseRegistration reg).waitSetId = s.waitSetId := by
  unfold World.eraseRegistration
  split <;> rfl

/-- An erased registration is not in the map. -/
theorem lookup_eraseRegistration (s : World) :
    (s.eraseRegistration reg).registrations.lookup reg.id ≠ some reg.ref := by
  unfold World.eraseRegistration
  split
  · simp
  · next hother => exact hother

/-- Without the phase a detach does nothing and reports false. -/
theorem detach_of_phase (hphase : s.phase ≠ .attached) : detach native reg s = (false,s) := by
  unfold detach
  rw [if_pos hphase]

/-- A detach that owns the phase reports whether its release succeeded. -/
theorem detach_of_attached (hphase : s.phase = .attached) :
    detach native reg s =
      ((releaseReaders native reg 0 reg.readers (releasing s)).1,
        (settle reg (releaseReaders native reg 0 reg.readers (releasing s))).2.endTopologyMutation) := by
  unfold detach
  rw [if_neg (not_not.mpr hphase)]
  cases hrelease : releaseReaders native reg 0 reg.readers (releasing s) with
  | mk released after =>
    unfold releasing at hrelease
    simp only [hrelease]
    cases released <;> rfl

/-- A failed detach stopped at a failing reader, passed those before it and
only quarantined the WaitSet in the others. -/
theorem detach_false (hphase : s.phase = .attached) (h : (detach native reg s).1 = false) :
    ∃ k r, reg.readers[k]? = some r ∧ Fails native reg s k r ∧
      (∀ i < k, ∀ r, reg.readers[i]? = some r → ¬ Fails native reg s i r) ∧
        ∀ r ∈ reg.readers, (if r ∈ reg.readers.take k ∧ s.carries reg r = true then
          (s.readers r).released (native.deletes r) else s.readers r).SameContext
            ((detach native reg s).2.readers r) := by
  rw [detach_of_attached hphase] at h ⊢
  cases hrelease : releaseReaders native reg 0 reg.readers (releasing s) with
  | mk released after =>
    simp only [hrelease] at h
    subst h
    obtain ⟨k, r, hk, hfails, hbefore, hpassed⟩ := releaseReaders_false reg.distinct hrelease
    simp only [Nat.zero_add] at hfails hbefore
    refine ⟨k, r, hk, hfails, hbefore, ?_⟩
    intro r' hmem
    have hafter : after.readers r' = if r' ∈ reg.readers.take k ∧ s.carries reg r' = true then
        (s.readers r').released (native.deletes r') else s.readers r' := hpassed r'
    rw [← hafter]
    simp [settle, World.quarantine, hmem, ReaderWaitState.SameContext]

/-- A successful detach met no failure, released what the registration carried
and took it out of the map. -/
theorem detach_true (h : (detach native reg s).1 = true) :
    s.phase = .attached ∧ (∀ i r, reg.readers[i]? = some r → ¬ Fails native reg s i r) ∧
      Passed native reg s (detach native reg s).2 reg.readers ∧
        (detach native reg s).2.waitSetId = s.waitSetId ∧
          (detach native reg s).2.registrations.lookup reg.id ≠ some reg.ref := by
  by_cases hphase : s.phase = .attached
  · rw [detach_of_attached hphase] at h ⊢
    cases hrelease : releaseReaders native reg 0 reg.readers (releasing s) with
    | mk released after =>
      simp only [hrelease] at h
      subst h
      obtain ⟨hnone, hpassed, hid, _⟩ := releaseReaders_true reg.distinct hrelease
      simp only [Nat.zero_add] at hnone
      refine ⟨hphase, hnone, ?_, ?_, ?_⟩
      · intro r
        simp only [settle, readers_endTopologyMutation, readers_eraseRegistration]
        exact hpassed r
      · simp only [settle, waitSetId_endTopologyMutation, waitSetId_eraseRegistration]
        exact hid
      · simp only [settle, registrations_endTopologyMutation]
        exact lookup_eraseRegistration after
  · rw [detach_of_phase hphase] at h
    cases h

/-- Success leaves no constituent registered and no entry in the map. -/
theorem detached_spec (h : (detach native reg s).1 = true) :
    (∀ r ∈ reg.readers, if s.carries reg r then ((detach native reg s).2.readers r).Unregistered
      else (detach native reg s).2.readers r = s.readers r) ∧
    (∀ r ∈ reg.readers, (detach native reg s).2.carries reg r = false) ∧
      (detach native reg s).2.registrations.lookup reg.id ≠ some reg.ref := by
  obtain ⟨_, _, hpassed, hid, hmap⟩ := detach_true h
  have hreader : ∀ r ∈ reg.readers, if s.carries reg r then
      ((detach native reg s).2.readers r).Unregistered
        else (detach native reg s).2.readers r = s.readers r := by
    intro r hmem
    rw [hpassed r]
    cases hcarries : s.carries reg r with
    | false => simp
    | true =>
      simp only [hmem, and_self, if_true]
      exact ReaderWaitState.unregistered_released _ _
  refine ⟨hreader, ?_, hmap⟩
  intro r hmem
  have hafter := hreader r hmem
  cases hcarries : s.carries reg r with
  | true =>
    simp only [hcarries, if_true] at hafter
    have hzero : (0 == s.waitSetId) = false := by
      have hpositive := s.positive
      simp only [beq_eq_false_iff_ne, ne_eq]
      omega
    unfold World.carries
    rw [hid, hafter.1, hzero]
    rfl
  | false =>
    simp only [hcarries, Bool.false_eq_true, if_false] at hafter
    unfold World.carries
    rw [hafter, hid]
    exact hcarries

/-- Detaching is all-or-nothing exactly when, if any native detachment fails,
that of the first carried reader does. -/
theorem allOrNothing_iff (native : Native) (reg : Registration) (s : World) :
    AllOrNothing native reg s ↔
      (s.phase = .attached → ∀ i r, reg.readers[i]? = some r → Fails native reg s i r →
        ∃ k r, k ≤ i ∧ reg.readers[k]? = some r ∧ Fails native reg s k r ∧
          ∀ r ∈ reg.readers.take k, s.carries reg r = false) := by
  constructor
  · intro hall hphase i r hi hfails
    have hfalse : (detach native reg s).1 = false := by
      cases hresult : (detach native reg s).1 with
      | false => rfl
      | true => exact absurd hfails ((detach_true hresult).2.1 i r hi)
    obtain ⟨k, rk, hk, hkfails, hbefore, hreaders⟩ := detach_false hphase hfalse
    have hle : k ≤ i := by
      by_contra hlt
      exact hbefore i (by omega) r hi hfails
    refine ⟨k, rk, hle, hk, hkfails, ?_⟩
    intro r' htake
    have hmem : r' ∈ reg.readers := List.mem_of_mem_take htake
    have hafter := hreaders r' hmem
    have hsame := hall.failed hphase hfalse r' hmem
    cases hcarries : s.carries reg r' with
    | false => rfl
    | true =>
      rw [if_pos ⟨htake, hcarries⟩] at hafter
      have hzero := (ReaderWaitState.unregistered_released (native.deletes r') (s.readers r')).1
      have hid : (s.readers r').waitSetId = s.waitSetId := by
        unfold World.carries at hcarries
        simp only [Bool.and_eq_true, beq_iff_eq] at hcarries
        exact hcarries.1
      have hpositive := s.positive
      have hbeforeId := hsame.1
      have hafterId := hafter.1
      omega
  · intro hcondition
    refine ⟨?_, detached_spec⟩
    intro hphase hfalse r hmem
    obtain ⟨k, rk, hk, hkfails, hbefore, hreaders⟩ := detach_false hphase hfalse
    obtain ⟨k', rk', hle, hk', hkfails', hnone⟩ := hcondition hphase k rk hk hkfails
    have heq : k' = k := by
      by_contra hne
      exact hbefore k' (by omega) rk' hk' hkfails'
    subst heq
    have hafter := hreaders r hmem
    rwa [if_neg fun hc => by simp [hnone r hc.1] at hc] at hafter

/-- A registration of two readers. -/
def sampleRegistration : Registration := ⟨0,1,[0,1],by decide⟩

/-- Both readers are registered in WaitSet 7 with their conditions attached. -/
def sampleWorld : World where
  waitSetId := 7
  positive := by decide
  registrations := (∅ : Table ℕ ℕ).insert 1 0
  poisoned := false
  topologyGeneration := 0
  activeTopologyMutations := 0
  phase := .attached
  readerConditions := fun _ => true
  readers := fun r => ⟨7,1,some 7,some ⟨7,1⟩,some (⟨7,1⟩,r),none,.open,true⟩

/-- The native detachment of the second reader fails after that of the first. -/
theorem not_allOrNothing_second_fails :
    ¬ ∀ (native : Native) (reg : Registration) (s : World), AllOrNothing native reg s := by
  intro hall
  let native : Native := ⟨fun index => index == 0,fun _ => true⟩
  have hsame := (hall native sampleRegistration sampleWorld).failed rfl (by decide) 0 (by decide)
  exact absurd hsame.1 (by decide)

end Dmw.CompositeDetach
