import Dmw.GuardedRuns
import Dmw.WaitSetAdd

/-!
# Closing a WaitSet

`WaitSetState::close` drains the registrations of one WaitSet while waitables
that close themselves detach theirs. Every section of the topology mutex or of a
waitable's callback mutex is one event, and so is every exchange of a phase.
Native detachments succeed. The condition mutex of a registration has no second
owner among these calls, and the map is unordered.
-/

namespace Dmw.WaitSetClose

open GuardedRuns
open WaitSetAdd (RegistrationPhase)

/-- Threads are numbered. -/
abbrev ThreadId := ℕ

/-- Waitables are numbered: guard conditions, timers, graph events, readers. -/
abbrev WaitableId := ℕ

/-- The fixed part of a registration. -/
structure Registration where
  /-- Its key in the map. -/
  id : ℕ
  /-- Its one logical waitable or its constituent readers. -/
  waitables : List WaitableId
  /-- The waitable is no reader: it is released in one section. -/
  logical : Bool
  deriving DecidableEq

/-- The registration context of a waitable; id 0 is none. -/
structure Waitable where
  /-- WaitSet it is registered in. -/
  waitSetId : ℕ
  /-- Registration it belongs to. -/
  registrationId : ℕ
  /-- Registration that its own `close` detaches. -/
  detachCallback : Option Registration
  /-- It is closing. -/
  closing : Bool

/-- Who detaches. -/
inductive Caller
  | waitSet
  | waitable
  deriving DecidableEq

/-- Next step of a thread. -/
inductive Pc
  | idle
  /-- `close` of the WaitSet, at the start of its loop. -/
  | draining
  /-- `detach`, about to take the phase. -/
  | claiming (caller : Caller) (registration : Registration)
  /-- `release`, with the waitables still to visit. -/
  | visiting (caller : Caller) (registration : Registration) (rest : List WaitableId)
  /-- `release`, with the condition of a reader detached. -/
  | clearing (caller : Caller) (registration : Registration) (w : WaitableId)
      (rest : List WaitableId)
  /-- About to erase the map entry. -/
  | erasing (caller : Caller) (registration : Registration)
  /-- About to publish the end of the detachment. -/
  | finishing (caller : Caller) (registration : Registration)
  deriving DecidableEq

/-- What a thread has still to release of the registration it detaches. -/
def Pc.task : Pc → Option (Registration × List WaitableId)
  | .visiting _ registration rest => some (registration,rest)
  | .clearing _ registration w rest => some (registration,w :: rest)
  | .erasing _ registration | .finishing _ registration => some (registration,[])
  | _ => none

/-- The thread runs `close` of the WaitSet. -/
def Pc.drains : Pc → Bool
  | .draining | .claiming .waitSet _ | .visiting .waitSet _ _ | .clearing .waitSet _ _ _
  | .erasing .waitSet _ | .finishing .waitSet _ => true
  | _ => false

/-- A WaitSet as `add` leaves it: every registration has an id and waitables of
its own. -/
structure Topology where
  /-- Identity of the WaitSet. -/
  waitSetId : ℕ
  /-- No WaitSet has the id that means none. -/
  positive : 0 < waitSetId
  /-- Its registrations. -/
  registrations : List Registration
  /-- Ids are given out once. -/
  distinct : ∀ r ∈ registrations, ∀ r' ∈ registrations, r.id = r'.id → r = r'
  /-- A waitable is claimed once. -/
  disjoint : ∀ r ∈ registrations, ∀ r' ∈ registrations, ∀ w ∈ r.waitables, w ∈ r'.waitables → r = r'

/-- The WaitSet, its waitables and the threads. -/
structure System where
  /-- Identity of the WaitSet. -/
  waitSetId : ℕ
  /-- `closing_`. -/
  closing : Bool
  /-- `registrations_`. -/
  registrations : List Registration
  /-- Phase of each registration. -/
  phase : ℕ → RegistrationPhase
  /-- The waitables. -/
  waitables : WaitableId → Waitable
  /-- The threads. -/
  pc : ThreadId → Pc

namespace System

/-- The registration that holds a waitable. -/
def holder (topology : Topology) (w : WaitableId) : Option Registration :=
  topology.registrations.find? fun r => r.waitables.contains w

/-- Everything is registered and nobody has begun to close. -/
def initial (topology : Topology) : System where
  waitSetId := topology.waitSetId
  closing := false
  registrations := topology.registrations
  phase := fun _ => .attached
  waitables := fun w =>
    match holder topology w with
    | some r => ⟨topology.waitSetId,r.id,some r,false⟩
    | none => ⟨0,0,none,false⟩
  pc := fun _ => .idle

/-- Move one thread. -/
def goto (t : ThreadId) (next : Pc) (s : System) : System :=
  {s with pc := Function.update s.pc t next}

/-- Publish a phase. -/
def setPhase (r : Registration) (phase : RegistrationPhase) (s : System) : System :=
  {s with phase := Function.update s.phase r.id phase}

/-- The waitable still has the context of this registration. -/
def carries (r : Registration) (w : WaitableId) (s : System) : Bool :=
  (s.waitables w).waitSetId = s.waitSetId ∧ (s.waitables w).registrationId = r.id

/-- Forget the registration context of a waitable. -/
def clear (w : WaitableId) (s : System) : System :=
  {s with waitables := Function.update s.waitables w ⟨0,0,none,(s.waitables w).closing⟩}

/-- `close` of the WaitSet, up to its loop; a second call returns. -/
def close (t : ThreadId) (s : System) : System :=
  if s.closing then s else {s.goto t .draining with closing := true}

/-- `close` finds the map empty and leaves its loop. -/
def finishClose (t : ThreadId) (s : System) : System := s.goto t .idle

/-- A waitable begins to close. -/
def markClosing (w : WaitableId) (s : System) : System :=
  {s with waitables := Function.update s.waitables w {s.waitables w with closing := true}}

/-- Call a detach callback, if there is one. -/
def runCallback : Option Registration → Pc
  | none => .idle
  | some r => .claiming .waitable r

/-- `close` of a waitable up to its callback. -/
def closeWaitable (t : ThreadId) (w : WaitableId) (s : System) : System :=
  (s.markClosing w).goto t (runCallback (s.waitables w).detachCallback)

/-- Where a thread goes on after its `detach` succeeded. -/
def afterDetach : Caller → Pc
  | .waitSet => .draining
  | .waitable => .idle

/-- The exchange of the phase. A call that loses it returns false, on which
`close` of the WaitSet leaves its loop. -/
def claim (t : ThreadId) (caller : Caller) (r : Registration) (s : System) : System :=
  match s.phase r.id with
  | .attached => (s.goto t (.visiting caller r r.waitables)).setPhase r .detaching
  | _ => s.goto t .idle

/-- First section of a release. A waitable without this context was cleaned by
another call; a logical waitable is cleaned at once. -/
def visit (t : ThreadId) (caller : Caller) (r : Registration) (rest : List WaitableId)
    (s : System) : System :=
  match rest with
  | [] => s.goto t (.erasing caller r)
  | w :: rest =>
    if s.carries r w then
      if r.logical then (s.clear w).goto t (.visiting caller r rest)
      else s.goto t (.clearing caller r w rest)
    else s.goto t (.visiting caller r rest)

/-- Second section of the release of a reader. -/
def clearReader (t : ThreadId) (caller : Caller) (r : Registration) (w : WaitableId)
    (rest : List WaitableId) (s : System) : System :=
  if s.carries r w then (s.clear w).goto t (.visiting caller r rest)
  else s.goto t (.visiting caller r rest)

/-- Erase the map entry. -/
def erase (t : ThreadId) (caller : Caller) (r : Registration) (s : System) : System :=
  {s.goto t (.finishing caller r) with
    registrations := s.registrations.filter fun r' => r' ≠ r}

/-- Publish the end of the detachment. -/
def finish (t : ThreadId) (caller : Caller) (r : Registration) (s : System) : System :=
  (s.goto t (afterDetach caller)).setPhase r .detached

end System

/-- One atomic event. -/
inductive Event
  | close (t : ThreadId)
  /-- The loop of `close` picks some map entry. -/
  | pick (t : ThreadId) (r : Registration)
  | finishClose (t : ThreadId)
  | closeWaitable (t : ThreadId) (w : WaitableId)
  | claim (t : ThreadId) (caller : Caller) (r : Registration)
  | visit (t : ThreadId) (caller : Caller) (r : Registration) (rest : List WaitableId)
  | clearReader (t : ThreadId) (caller : Caller) (r : Registration) (w : WaitableId)
      (rest : List WaitableId)
  | erase (t : ThreadId) (caller : Caller) (r : Registration)
  | finish (t : ThreadId) (caller : Caller) (r : Registration)
  deriving DecidableEq

/-- Threads follow their steps. -/
def Enabled (s : System) : Event → Prop
  | .close t => s.pc t = .idle
  | .pick t r => s.pc t = .draining ∧ r ∈ s.registrations
  | .finishClose t => s.pc t = .draining ∧ s.registrations = []
  | .closeWaitable t _ => s.pc t = .idle
  | .claim t caller r => s.pc t = .claiming caller r
  | .visit t caller r rest => s.pc t = .visiting caller r rest
  | .clearReader t caller r w rest => s.pc t = .clearing caller r w rest
  | .erase t caller r => s.pc t = .erasing caller r
  | .finish t caller r => s.pc t = .finishing caller r

/-- Effect of an enabled event. -/
def next (s : System) : Event → System
  | .close t => s.close t
  | .pick t r => s.goto t (.claiming .waitSet r)
  | .finishClose t => s.finishClose t
  | .closeWaitable t w => s.closeWaitable t w
  | .claim t caller r => s.claim t caller r
  | .visit t caller r rest => s.visit t caller r rest
  | .clearReader t caller r w rest => s.clearReader t caller r w rest
  | .erase t caller r => s.erase t caller r
  | .finish t caller r => s.finish t caller r

instance (s : System) (e : Event) : Decidable (Enabled s e) := by
  cases e <;> unfold Enabled <;> infer_instance

/-- The WaitSet as a guarded machine. -/
def machine : Machine System Event where
  enabled := Enabled
  next := next
  decidableEnabled := inferInstance

/-- What holds in every reachable state of a WaitSet with these registrations. -/
structure Consistent (topology : Topology) (s : System) : Prop where
  /-- The WaitSet keeps its identity. -/
  identity : s.waitSetId = topology.waitSetId
  /-- Nothing is added to the map. -/
  mapped : ∀ r ∈ s.registrations, r ∈ topology.registrations
  /-- What is attached is in the map. -/
  present : ∀ r ∈ topology.registrations, s.phase r.id = .attached → r ∈ s.registrations
  /-- What is detached is not. -/
  erased : ∀ r ∈ s.registrations, s.phase r.id ≠ .detached
  /-- Callbacks name registrations of this WaitSet. -/
  callbacks : ∀ w r, (s.waitables w).detachCallback = some r → r ∈ topology.registrations
  /-- So do calls about to take a phase. -/
  claims : ∀ t caller r, s.pc t = .claiming caller r → r ∈ topology.registrations
  /-- A context belongs to a constituent. -/
  carried : ∀ r ∈ topology.registrations, ∀ w, s.carries r w = true → w ∈ r.waitables
  /-- A registered waitable belongs to a registration that is not detached. -/
  held : ∀ w, (s.waitables w).waitSetId = s.waitSetId →
    ∃ r ∈ topology.registrations, s.carries r w = true ∧ s.phase r.id ≠ .detached
  /-- A detachment owns its phase and has cleared what is behind it. -/
  owned : ∀ t r rest, (s.pc t).task = some (r,rest) →
    r ∈ topology.registrations ∧ s.phase r.id = .detaching ∧ ∀ w, s.carries r w = true → w ∈ rest
  /-- Nobody else owns it. -/
  exclusive : ∀ t u r rest rest', (s.pc t).task = some (r,rest) → (s.pc u).task = some (r,rest') →
    t = u
  /-- A phase in between has its owner. -/
  owner : ∀ r ∈ topology.registrations, s.phase r.id = .detaching →
    ∃ t rest, (s.pc t).task = some (r,rest)
  /-- Whoever is about to finish has erased the entry. -/
  finishing : ∀ t caller r, s.pc t = .finishing caller r → r ∉ s.registrations

section Steps

variable {topology : Topology} {s : System} {t : ThreadId} {r : Registration}
  {rest : List WaitableId}

/-- A context names the WaitSet and the registration. -/
theorem carries_iff {w : WaitableId} : s.carries r w = true ↔
    (s.waitables w).waitSetId = s.waitSetId ∧ (s.waitables w).registrationId = r.id := by
  simp [System.carries]

/-- A thread between two calls moves on. -/
theorem Consistent.goto (h : Consistent topology s) {p : Pc} (hidle : (s.pc t).task = none)
    (hp : p.task = none) (hclaim : ∀ caller r, p = .claiming caller r → r ∈ topology.registrations) :
    Consistent topology (s.goto t p) := by
  have hother : ∀ {u r rest}, ((s.goto t p).pc u).task = some (r,rest) →
      (s.pc u).task = some (r,rest) := by
    intro u r rest htask
    by_cases hut : u = t
    · subst hut
      simp [System.goto, hp] at htask
    · simpa [System.goto, hut] using htask
  refine ⟨h.identity, h.mapped, h.present, h.erased, h.callbacks, ?_, h.carried, h.held,
    fun u r rest htask => h.owned u r rest (hother htask),
    fun u v r rest rest' hu hv => h.exclusive u v r rest rest' (hother hu) (hother hv), ?_, ?_⟩
  · intro u caller r hpc
    by_cases hut : u = t
    · subst hut
      exact hclaim caller r (by simpa [System.goto] using hpc)
    · exact h.claims u caller r (by simpa [System.goto, hut] using hpc)
  · intro r hr hphase
    obtain ⟨u, rest, hu⟩ := h.owner r hr hphase
    have hut : u ≠ t := by
      intro heq
      rw [heq, hidle] at hu
      cases hu
    exact ⟨u, rest, by simpa [System.goto, hut] using hu⟩
  · intro u caller r hpc
    by_cases hut : u = t
    · subst hut
      have hfinishing : p = .finishing caller r := by simpa [System.goto] using hpc
      rw [hfinishing] at hp
      cases hp
    · exact h.finishing u caller r (by simpa [System.goto, hut] using hpc)

/-- A detachment moves on with less to release. -/
theorem Consistent.advance (h : Consistent topology s) {p : Pc} {rest' : List WaitableId}
    (hold : (s.pc t).task = some (r,rest)) (hnew : p.task = some (r,rest'))
    (hrest : ∀ w, s.carries r w = true → w ∈ rest')
    (hfinishing : ∀ caller r', p = .finishing caller r' → r' ∉ s.registrations) :
    Consistent topology (s.goto t p) := by
  have htask : ∀ {u r' l}, ((s.goto t p).pc u).task = some (r',l) →
      u = t ∧ r' = r ∧ l = rest' ∨ (s.pc u).task = some (r',l) := by
    intro u r' l hu
    by_cases hut : u = t
    · subst hut
      have heq : (r,rest') = (r',l) := by simpa [System.goto, hnew] using hu
      obtain ⟨hr, hl⟩ := Prod.mk.inj heq
      exact .inl ⟨rfl, hr.symm, hl.symm⟩
    · exact .inr (by simpa [System.goto, hut] using hu)
  obtain ⟨hr, hphase, -⟩ := h.owned t r rest hold
  refine ⟨h.identity, h.mapped, h.present, h.erased, h.callbacks, ?_, h.carried, h.held, ?_, ?_, ?_,
    ?_⟩
  · intro u caller r' hpc
    by_cases hut : u = t
    · subst hut
      have hclaiming : p = .claiming caller r' := by simpa [System.goto] using hpc
      rw [hclaiming] at hnew
      cases hnew
    · exact h.claims u caller r' (by simpa [System.goto, hut] using hpc)
  · intro u r' l hu
    rcases htask hu with ⟨-, rfl, rfl⟩ | hbefore
    · exact ⟨hr, hphase, hrest⟩
    · exact h.owned u r' l hbefore
  · intro u v r' l l' hu hv
    rcases htask hu with ⟨rfl, rfl, -⟩ | hubefore
    · rcases htask hv with ⟨rfl, -, -⟩ | hvbefore
      · rfl
      · exact h.exclusive u v r' rest l' hold hvbefore
    · rcases htask hv with ⟨rfl, rfl, -⟩ | hvbefore
      · exact h.exclusive u v r' l rest hubefore hold
      · exact h.exclusive u v r' l l' hubefore hvbefore
  · intro r' hr' hphase'
    obtain ⟨u, l, hu⟩ := h.owner r' hr' hphase'
    by_cases hut : u = t
    · subst hut
      obtain ⟨rfl, -⟩ := Prod.mk.inj (Option.some.inj (hold.symm.trans hu))
      exact ⟨u, rest', by simpa [System.goto] using hnew⟩
    · exact ⟨u, l, by simpa [System.goto, hut] using hu⟩
  · intro u caller r' hpc
    by_cases hut : u = t
    · subst hut
      exact hfinishing caller r' (by simpa [System.goto] using hpc)
    · exact h.finishing u caller r' (by simpa [System.goto, hut] using hpc)

/-- A cleared waitable carries nothing, the others what they did. -/
theorem Consistent.carries_clear (h : Consistent topology s) {w w' : WaitableId}
    (hcarries : (s.clear w).carries r w' = true) : w' ≠ w ∧ s.carries r w' = true := by
  have hne : w' ≠ w := by
    intro heq
    subst heq
    have hzero := (carries_iff.mp hcarries).1
    simp only [System.clear, Function.update_self] at hzero
    have hpositive := topology.positive
    rw [← h.identity] at hpositive
    omega
  refine ⟨hne, ?_⟩
  have hsame : (s.clear w).waitables w' = s.waitables w' := Function.update_of_ne hne _ _
  have hboth := carries_iff.mp hcarries
  rw [hsame] at hboth
  exact carries_iff.mpr hboth

/-- Clearing a waitable. -/
theorem Consistent.clear (h : Consistent topology s) (w : WaitableId) :
    Consistent topology (s.clear w) := by
  refine ⟨h.identity, h.mapped, h.present, h.erased, ?_, h.claims,
    fun r hr w' hcarries => h.carried r hr w' (h.carries_clear hcarries).2, ?_, ?_, h.exclusive,
    h.owner, h.finishing⟩
  · intro w' r hcallback
    by_cases hw : w' = w
    · subst hw
      simp [System.clear] at hcallback
    · exact h.callbacks w' r (by simpa [System.clear, hw] using hcallback)
  · intro w' hcarries
    have hne : w' ≠ w := by
      intro heq
      subst heq
      simp only [System.clear, Function.update_self] at hcarries
      have hpositive := topology.positive
      rw [← h.identity] at hpositive
      omega
    have hsame : (s.clear w).waitables w' = s.waitables w' := Function.update_of_ne hne _ _
    obtain ⟨r, hr, hcarried, hphase⟩ := h.held w' (by rw [← hsame]; exact hcarries)
    refine ⟨r, hr, ?_, hphase⟩
    rw [carries_iff, hsame]
    exact carries_iff.mp hcarried
  · intro t r rest htask
    obtain ⟨hr, hphase, hrest⟩ := h.owned t r rest htask
    exact ⟨hr, hphase, fun w' hcarries => hrest w' (h.carries_clear hcarries).2⟩

/-- A clear followed by the rest of the visit. -/
theorem Consistent.clearNext (h : Consistent topology s) {caller : Caller} {w : WaitableId}
    (hold : (s.pc t).task = some (r,w :: rest)) :
    Consistent topology ((s.clear w).goto t (.visiting caller r rest)) := by
  have hcleared := h.clear w
  refine hcleared.advance hold rfl (fun w' hcarries => ?_) fun _ _ hc => nomatch hc
  obtain ⟨hne, hbefore⟩ := h.carries_clear hcarries
  rcases List.mem_cons.mp ((h.owned t r _ hold).2.2 w' hbefore) with heq | hmem
  · exact absurd heq hne
  · exact hmem

/-- A visit that finds another context goes on. -/
theorem Consistent.skip (h : Consistent topology s) {caller : Caller} {w : WaitableId}
    (hold : (s.pc t).task = some (r,w :: rest)) (hnot : s.carries r w ≠ true) :
    Consistent topology (s.goto t (.visiting caller r rest)) := by
  refine h.advance hold rfl (fun w' hcarries => ?_) fun _ _ hc => nomatch hc
  rcases List.mem_cons.mp ((h.owned t r _ hold).2.2 w' hcarries) with heq | hmem
  · exact absurd (heq ▸ hcarries) hnot
  · exact hmem

/-- Taking an attached phase. -/
theorem Consistent.take (h : Consistent topology s) {caller : Caller}
    (hpc : s.pc t = .claiming caller r) (hphase : s.phase r.id = .attached) :
    Consistent topology ((s.goto t (.visiting caller r r.waitables)).setPhase r .detaching) := by
  have hr := h.claims t caller r hpc
  have hunowned : ∀ {u l}, (s.pc u).task ≠ some (r,l) := by
    intro u l hu
    have howned := (h.owned u r l hu).2.1
    rw [hphase] at howned
    cases howned
  have htask : ∀ {u r' l}, (((s.goto t (.visiting caller r r.waitables)).pc u).task = some (r',l)) →
      u = t ∧ r' = r ∧ l = r.waitables ∨ r' ≠ r ∧ (s.pc u).task = some (r',l) := by
    intro u r' l hu
    by_cases hut : u = t
    · subst hut
      have heq : (r,r.waitables) = (r',l) := by simpa [System.goto, Pc.task] using hu
      obtain ⟨hr', hl⟩ := Prod.mk.inj heq
      exact .inl ⟨rfl, hr'.symm, hl.symm⟩
    · have hbefore : (s.pc u).task = some (r',l) := by simpa [System.goto, hut] using hu
      exact .inr ⟨fun heq => hunowned (heq ▸ hbefore), hbefore⟩
  have hdetaching : ∀ {r'}, r' ∈ topology.registrations → r' ≠ r →
      ((s.goto t (.visiting caller r r.waitables)).setPhase r .detaching).phase r'.id =
        s.phase r'.id := by
    intro r' hr' hne
    exact Function.update_of_ne (fun hid => hne (topology.distinct r' hr' r hr hid)) _ _
  refine ⟨h.identity, h.mapped, ?_, ?_, h.callbacks, ?_, h.carried, ?_, ?_, ?_, ?_, ?_⟩
  · intro r' hr' hattached
    by_cases heq : r' = r
    · subst heq
      simp [System.setPhase] at hattached
    · rw [hdetaching hr' heq] at hattached
      exact h.present r' hr' hattached
  · intro r' hmapped
    by_cases heq : r' = r
    · subst heq
      simp [System.setPhase]
    · rw [hdetaching (h.mapped r' hmapped) heq]
      exact h.erased r' hmapped
  · intro u caller' r' hclaim
    by_cases hut : u = t
    · subst hut
      simp [System.goto, System.setPhase] at hclaim
    · exact h.claims u caller' r' (by simpa [System.goto, System.setPhase, hut] using hclaim)
  · intro w hcarries
    obtain ⟨r', hr', hcarried, hnot⟩ := h.held w hcarries
    refine ⟨r', hr', hcarried, ?_⟩
    by_cases heq : r' = r
    · subst heq
      simp [System.setPhase]
    · rw [hdetaching hr' heq]
      exact hnot
  · intro u r' l hu
    rcases htask hu with ⟨-, rfl, rfl⟩ | ⟨hne, hbefore⟩
    · exact ⟨hr, by simp [System.setPhase], fun w hcarries => h.carried _ hr w hcarries⟩
    · obtain ⟨hr', howned, hrest⟩ := h.owned u r' l hbefore
      exact ⟨hr', by rw [hdetaching hr' hne]; exact howned, hrest⟩
  · intro u v r' l l' hu hv
    rcases htask hu with ⟨rfl, rfl, -⟩ | ⟨hne, hubefore⟩
    · rcases htask hv with ⟨rfl, -, -⟩ | ⟨hne, -⟩
      · rfl
      · exact absurd rfl hne
    · rcases htask hv with ⟨rfl, rfl, -⟩ | ⟨-, hvbefore⟩
      · exact absurd rfl hne
      · exact h.exclusive u v r' l l' hubefore hvbefore
  · intro r' hr' hphase'
    by_cases heq : r' = r
    · subst heq
      exact ⟨t, r'.waitables, by simp [System.goto, System.setPhase, Pc.task]⟩
    · rw [hdetaching hr' heq] at hphase'
      obtain ⟨u, l, hu⟩ := h.owner r' hr' hphase'
      have hut : u ≠ t := by
        intro hut
        rw [hut, hpc] at hu
        cases hu
      exact ⟨u, l, by simpa [System.goto, System.setPhase, hut] using hu⟩
  · intro u caller' r' hfinishing
    by_cases hut : u = t
    · subst hut
      simp [System.goto, System.setPhase] at hfinishing
    · exact h.finishing u caller' r' (by simpa [System.goto, System.setPhase, hut] using hfinishing)

/-- Erasing an entry. -/
theorem Consistent.erase (h : Consistent topology s) {caller : Caller}
    (hpc : s.pc t = .erasing caller r) : Consistent topology (s.erase t caller r) := by
  have hold : (s.pc t).task = some (r,[]) := by
    rw [hpc]
    rfl
  obtain ⟨-, hphase, hrest⟩ := h.owned t r [] hold
  have hsub : ∀ {r'}, r' ∈ s.registrations.filter (fun r' => r' ≠ r) → r' ∈ s.registrations :=
    fun hmem => (List.mem_filter.mp hmem).1
  have hentry : Consistent topology {s with
      registrations := s.registrations.filter fun r' => r' ≠ r} := by
    refine ⟨h.identity, fun r' hr' => h.mapped r' (hsub hr'), ?_, fun r' hr' => h.erased r' (hsub hr'),
      h.callbacks, h.claims, h.carried, h.held, h.owned, h.exclusive, h.owner,
      fun u caller' r' hfinishing hmem => h.finishing u caller' r' hfinishing (hsub hmem)⟩
    intro r' hr' hattached
    refine List.mem_filter.mpr ⟨h.present r' hr' hattached, decide_eq_true fun heq => ?_⟩
    rw [heq, hphase] at hattached
    cases hattached
  refine hentry.advance hold rfl hrest fun caller' r' hfinishing hmem => ?_
  obtain ⟨-, hr⟩ := Pc.finishing.inj hfinishing
  exact of_decide_eq_true (List.mem_filter.mp hmem).2 hr.symm

/-- Publishing the end of a detachment. -/
theorem Consistent.finish (h : Consistent topology s) {caller : Caller}
    (hpc : s.pc t = .finishing caller r) : Consistent topology (s.finish t caller r) := by
  have hold : (s.pc t).task = some (r,[]) := by
    rw [hpc]
    rfl
  obtain ⟨hr, hphase, hrest⟩ := h.owned t r [] hold
  have hafter : (System.afterDetach caller).task = none := by
    cases caller <;> rfl
  have hother : ∀ {r'}, r' ∈ topology.registrations → r' ≠ r →
      (s.finish t caller r).phase r'.id = s.phase r'.id := by
    intro r' hr' hne
    exact Function.update_of_ne (fun hid => hne (topology.distinct r' hr' r hr hid)) _ _
  have htask : ∀ {u r' l}, (((s.goto t (System.afterDetach caller)).pc u).task = some (r',l)) →
      r' ≠ r ∧ (s.pc u).task = some (r',l) := by
    intro u r' l hu
    by_cases hut : u = t
    · subst hut
      simp [System.goto, hafter] at hu
    · have hbefore : (s.pc u).task = some (r',l) := by simpa [System.goto, hut] using hu
      refine ⟨fun heq => hut ?_, hbefore⟩
      exact h.exclusive u t r l [] (heq ▸ hbefore) hold
  refine ⟨h.identity, h.mapped, ?_, ?_, h.callbacks, ?_, h.carried, ?_, ?_,
    fun u v r' l l' hu hv => h.exclusive u v r' l l' (htask hu).2 (htask hv).2, ?_, ?_⟩
  · intro r' hr' hattached
    by_cases heq : r' = r
    · subst heq
      simp [System.finish, System.setPhase] at hattached
    · rw [hother hr' heq] at hattached
      exact h.present r' hr' hattached
  · intro r' hmapped
    have heq : r' ≠ r := by
      intro heq
      exact h.finishing t caller r hpc (heq ▸ hmapped)
    rw [hother (h.mapped r' hmapped) heq]
    exact h.erased r' hmapped
  · intro u caller' r' hclaim
    by_cases hut : u = t
    · subst hut
      cases caller <;> simp [System.finish, System.setPhase, System.goto, System.afterDetach] at hclaim
    · exact h.claims u caller' r' (by simpa [System.finish, System.setPhase, System.goto, hut] using hclaim)
  · intro w hcarries
    obtain ⟨r', hr', hcarried, hnot⟩ := h.held w hcarries
    have heq : r' ≠ r := by
      intro heq
      exact absurd (hrest w (heq ▸ hcarried)) List.not_mem_nil
    refine ⟨r', hr', hcarried, ?_⟩
    rw [hother hr' heq]
    exact hnot
  · intro u r' l hu
    obtain ⟨hne, hbefore⟩ := htask hu
    obtain ⟨hr', howned, hrest'⟩ := h.owned u r' l hbefore
    refine ⟨hr', ?_, hrest'⟩
    rw [hother hr' hne]
    exact howned
  · intro r' hr' hphase'
    by_cases heq : r' = r
    · subst heq
      simp [System.finish, System.setPhase] at hphase'
    · rw [hother hr' heq] at hphase'
      obtain ⟨u, l, hu⟩ := h.owner r' hr' hphase'
      have hut : u ≠ t := by
        intro hut
        rw [hut, hold] at hu
        exact heq (Prod.mk.inj (Option.some.inj hu)).1.symm
      exact ⟨u, l, by simpa [System.finish, System.setPhase, System.goto, hut] using hu⟩
  · intro u caller' r' hfinishing
    by_cases hut : u = t
    · subst hut
      cases caller <;> simp [System.finish, System.setPhase, System.goto, System.afterDetach] at hfinishing
    · exact h.finishing u caller' r' (by simpa [System.finish, System.setPhase, System.goto, hut] using hfinishing)

/-- A waitable that begins to close keeps its context. -/
theorem markClosing_context (w w' : WaitableId) :
    ((s.markClosing w).waitables w').waitSetId = (s.waitables w').waitSetId ∧
      ((s.markClosing w).waitables w').registrationId = (s.waitables w').registrationId ∧
      ((s.markClosing w).waitables w').detachCallback = (s.waitables w').detachCallback := by
  by_cases hw : w' = w
  · subst hw
    simp [System.markClosing]
  · simp [System.markClosing, hw]

/-- So it carries what it did. -/
theorem carries_markClosing (w w' : WaitableId) :
    (s.markClosing w).carries r w' = s.carries r w' := by
  obtain ⟨hset, hid, -⟩ := markClosing_context (s := s) w w'
  simp only [System.carries, hset, hid]
  rfl

/-- A waitable begins to close. -/
theorem Consistent.markClosing (h : Consistent topology s) (w : WaitableId) :
    Consistent topology (s.markClosing w) := by
  refine ⟨h.identity, h.mapped, h.present, h.erased, ?_, h.claims, ?_, ?_, ?_, h.exclusive, h.owner,
    h.finishing⟩
  · intro w' r hcallback
    exact h.callbacks w' r ((markClosing_context w w').2.2 ▸ hcallback)
  · intro r hr w' hw'
    rw [carries_markClosing] at hw'
    exact h.carried r hr w' hw'
  · intro w' hw'
    rw [(markClosing_context w w').1] at hw'
    obtain ⟨r, hr, hcarried, hphase⟩ := h.held w' hw'
    exact ⟨r, hr, (carries_markClosing w w').trans hcarried, hphase⟩
  · intro t r rest htask
    obtain ⟨hr, hphase, hrest⟩ := h.owned t r rest htask
    refine ⟨hr, hphase, fun w' hw' => hrest w' ?_⟩
    rw [carries_markClosing] at hw'
    exact hw'

/-- Every step keeps a WaitSet consistent. -/
theorem Consistent.step (h : Consistent topology s) {e : Event} (hen : Enabled s e) :
    Consistent topology (next s e) := by
  have htask : ∀ {t : ThreadId} {p : Pc}, s.pc t = p → (s.pc t).task = p.task :=
    fun hpc => congrArg Pc.task hpc
  cases e with
  | close t =>
    simp only [next, System.close]
    split
    · exact h
    · have hmoved : Consistent topology (s.goto t .draining) :=
        h.goto (htask hen) rfl fun _ _ hc => nomatch hc
      exact ⟨hmoved.identity, hmoved.mapped, hmoved.present, hmoved.erased, hmoved.callbacks,
        hmoved.claims, hmoved.carried, hmoved.held, hmoved.owned, hmoved.exclusive, hmoved.owner,
        hmoved.finishing⟩
  | pick t r =>
    refine h.goto (htask hen.1) rfl fun caller r' hc => ?_
    obtain ⟨-, rfl⟩ := Pc.claiming.inj hc
    exact h.mapped r hen.2
  | finishClose t => exact h.goto (htask hen.1) rfl fun _ _ hc => nomatch hc
  | closeWaitable t w =>
    refine (h.markClosing w).goto (htask hen) ?_ ?_
    · cases (s.waitables w).detachCallback <;> rfl
    · intro caller r hc
      cases hcallback : (s.waitables w).detachCallback with
      | none =>
        rw [hcallback] at hc
        cases hc
      | some r' =>
        rw [hcallback] at hc
        obtain ⟨-, rfl⟩ := Pc.claiming.inj hc
        exact h.callbacks w r' hcallback
  | claim t caller r =>
    have hidle : Consistent topology (s.goto t .idle) :=
      h.goto (htask hen) rfl fun _ _ hc => nomatch hc
    simp only [next, System.claim]
    split
    · next hphase => exact h.take hen hphase
    · exact hidle
  | visit t caller r rest =>
    have hold : (s.pc t).task = some (r,rest) := htask hen
    cases rest with
    | nil => exact h.advance hold rfl (h.owned t r [] hold).2.2 fun _ _ hc => nomatch hc
    | cons w rest =>
      simp only [next, System.visit]
      split
      · split
        · exact h.clearNext hold
        · exact h.advance hold rfl (h.owned t r _ hold).2.2 fun _ _ hc => nomatch hc
      · next hnot => exact h.skip hold hnot
  | clearReader t caller r w rest =>
    have hold : (s.pc t).task = some (r,w :: rest) := htask hen
    simp only [next, System.clearReader]
    split
    · exact h.clearNext hold
    · next hnot => exact h.skip hold hnot
  | erase t caller r => exact h.erase hen
  | finish t caller r => exact h.finish hen

end Steps

/-- The holder of a waitable is a registration with it. -/
theorem mem_of_holder {topology : Topology} {w : WaitableId} {r : Registration}
    (h : System.holder topology w = some r) : r ∈ topology.registrations ∧ w ∈ r.waitables :=
  ⟨List.mem_of_find?_eq_some h, by simpa using List.find?_some h⟩

/-- The initial WaitSet is consistent. -/
theorem Consistent.initial (topology : Topology) : Consistent topology (.initial topology) where
  identity := rfl
  mapped := fun _ hr => hr
  present := fun _ hr _ => hr
  erased := by
    intro r _ hphase
    cases hphase
  callbacks := by
    intro w r hcallback
    simp only [System.initial] at hcallback
    cases hfound : System.holder topology w with
    | none => simp [hfound] at hcallback
    | some r' =>
      simp only [hfound, Option.some.injEq] at hcallback
      exact hcallback ▸ (mem_of_holder hfound).1
  claims := by
    intro t caller r hpc
    cases hpc
  carried := by
    intro r hr w hcarries
    obtain ⟨hset, hid⟩ := carries_iff.mp hcarries
    simp only [System.initial] at hset hid
    cases hfound : System.holder topology w with
    | none =>
      have hpositive := topology.positive
      simp only [hfound] at hset
      omega
    | some r' =>
      simp only [hfound] at hid
      obtain ⟨hr', hw⟩ := mem_of_holder hfound
      rw [← topology.distinct r' hr' r hr hid]
      exact hw
  held := by
    intro w hset
    simp only [System.initial] at hset
    cases hfound : System.holder topology w with
    | none =>
      have hpositive := topology.positive
      simp only [hfound] at hset
      omega
    | some r =>
      refine ⟨r, (mem_of_holder hfound).1, carries_iff.mpr ?_, ?_⟩
      · simp [System.initial, hfound]
      · intro hphase
        cases hphase
  owned := by
    intro t r rest htask
    cases htask
  exclusive := by
    intro t u r rest rest' htask
    cases htask
  owner := by
    intro r _ hphase
    cases hphase
  finishing := by
    intro t caller r hpc
    cases hpc

/-- Every reachable WaitSet is consistent. -/
theorem consistent_of_run {topology : Topology} {ok : System → Event → Prop} {es : List Event}
    {s : System} (h : machine.RunWhen ok (.initial topology) es s) : Consistent topology s :=
  h.invariant (Consistent topology) (.initial topology) fun _ _ hconsistent hen _ =>
    hconsistent.step hen

/-- No other WaitSet takes part. -/
def Local (s : System) : Prop :=
  ∀ w, (s.waitables w).waitSetId = 0 ∨ (s.waitables w).waitSetId = s.waitSetId

/-- Clearing a waitable leaves it to nobody. -/
theorem Local.clear {s : System} (h : Local s) (w : WaitableId) : Local (s.clear w) := by
  intro w'
  by_cases hw : w' = w
  · subst hw
    simp [System.clear]
  · simpa [System.clear, hw] using h w'

/-- No step registers a waitable elsewhere. -/
theorem Local.step {s : System} (h : Local s) (e : Event) : Local (next s e) := by
  cases e with
  | close t =>
    simp only [next, System.close]
    split
    · exact h
    · exact h
  | closeWaitable t w =>
    intro w'
    have hsame := (markClosing_context (s := s) w w').1
    have hw' := h w'
    rw [← hsame] at hw'
    exact hw'
  | claim t caller r =>
    simp only [next, System.claim]
    split
    · exact h
    · exact h
  | visit t caller r rest =>
    cases rest with
    | nil => exact h
    | cons w rest =>
      simp only [next, System.visit]
      split
      · split
        · exact h.clear w
        · exact h
      · exact h
  | clearReader t caller r w rest =>
    simp only [next, System.clearReader]
    split
    · exact h.clear w
    · exact h
  | _ => exact h

/-- In every reachable state a waitable is registered here or nowhere. -/
theorem local_of_run {topology : Topology} {ok : System → Event → Prop} {es : List Event}
    {s : System} (h : machine.RunWhen ok (.initial topology) es s) : Local s := by
  refine h.invariant Local (fun w => ?_) fun _ e hlocal _ _ => hlocal.step e
  simp only [System.initial]
  split
  · exact .inr rfl
  · exact .inl rfl

/-- Where `close` loses the exchange of a phase, nothing in the map is still
attached. -/
def Uncontended (s : System) : Event → Prop
  | .claim _ .waitSet r => s.phase r.id ≠ .attached → ∀ r' ∈ s.registrations, s.phase r'.id ≠ .attached
  | _ => True

/-- Once `close` has left its loop, every entry that remains is being detached. -/
def Settled (s : System) : Prop :=
  s.closing = true → (∀ t, (s.pc t).drains = false) → ∀ r ∈ s.registrations, s.phase r.id ≠ .attached

section Settling

variable {s : System} {t : ThreadId}

/-- A step of another call than `close` settles nothing new. -/
theorem Settled.goto (h : Settled s) {p : Pc} (hdrains : (s.pc t).drains = p.drains) :
    Settled (s.goto t p) := by
  intro hclosing hquiet
  refine h hclosing fun u => ?_
  have hu := hquiet u
  by_cases hut : u = t
  · subst hut
    rw [hdrains]
    simpa [System.goto] using hu
  · simpa [System.goto, hut] using hu

/-- While `close` is in its loop nothing need be settled. -/
theorem Settled.of_drains {p : Pc} (hp : p.drains = true) : Settled (s.goto t p) := by
  intro _ hquiet
  have ht := hquiet t
  simp [System.goto, hp] at ht

/-- A phase that is taken or published is not attached. -/
theorem Settled.setPhase (h : Settled s) (r : Registration) {phase : RegistrationPhase}
    (hphase : phase ≠ .attached) : Settled (s.setPhase r phase) := by
  intro hclosing hquiet r' hr' hattached
  simp only [System.setPhase, Function.update_apply] at hattached
  split at hattached
  · exact hphase hattached
  · exact h hclosing hquiet r' hr' hattached

/-- Every uncontended step keeps the WaitSet settled. -/
theorem Settled.step (h : Settled s) {e : Event} (hen : Enabled s e) (hok : Uncontended s e) :
    Settled (next s e) := by
  have hsame : ∀ {t : ThreadId} {p q : Pc}, s.pc t = p → p.drains = q.drains →
      (s.pc t).drains = q.drains := by
    intro t p q hpc hpq
    rw [hpc, hpq]
  cases e with
  | close t =>
    simp only [next, System.close]
    split
    · exact h
    · intro _ hquiet
      have ht := hquiet t
      simp [System.goto, Pc.drains] at ht
  | pick t r => exact .of_drains rfl
  | finishClose t =>
    intro _ _ r hr
    have hempty : s.registrations = [] := hen.2
    simp only [next, System.finishClose, System.goto, hempty] at hr
    cases hr
  | closeWaitable t w =>
    have hmarked : Settled (s.markClosing w) := h
    refine hmarked.goto (hsame hen ?_)
    cases (s.waitables w).detachCallback <;> rfl
  | claim t caller r =>
    simp only [next, System.claim]
    split
    · refine Settled.setPhase (h.goto (hsame hen ?_)) r (by simp)
      cases caller <;> rfl
    · next hlost =>
      cases caller with
      | waitSet => exact fun _ _ r' hr' => hok hlost r' hr'
      | waitable => exact h.goto (hsame hen rfl)
  | visit t caller r rest =>
    have hcleared : ∀ w, Settled (s.clear w) := fun _ => h
    cases rest with
    | nil =>
      refine h.goto (hsame hen ?_)
      cases caller <;> rfl
    | cons w rest =>
      simp only [next, System.visit]
      split
      · split
        · refine (hcleared w).goto (hsame hen ?_)
          cases caller <;> rfl
        · refine h.goto (hsame hen ?_)
          cases caller <;> rfl
      · refine h.goto (hsame hen ?_)
        cases caller <;> rfl
  | clearReader t caller r w rest =>
    have hcleared : Settled (s.clear w) := h
    simp only [next, System.clearReader]
    split
    · refine hcleared.goto (hsame hen ?_)
      cases caller <;> rfl
    · refine h.goto (hsame hen ?_)
      cases caller <;> rfl
  | erase t caller r =>
    have hentry : Settled {s with registrations := s.registrations.filter fun r' => r' ≠ r} :=
      fun hclosing hquiet r' hr' => h hclosing hquiet r' (List.mem_filter.mp hr').1
    refine hentry.goto (hsame hen ?_)
    cases caller <;> rfl
  | finish t caller r =>
    refine Settled.setPhase (h.goto (hsame hen ?_)) r (by simp)
    cases caller <;> rfl

end Settling

/-- In every state of an uncontended run the WaitSet is settled. -/
theorem settled_of_run {topology : Topology} {es : List Event} {s : System}
    (h : machine.RunWhen Uncontended (.initial topology) es s) : Settled s :=
  h.invariant Settled (fun hclosing => Bool.noConfusion hclosing) fun _ _ hsettled hen hok =>
    hsettled.step hen hok

/-- The WaitSet has let go of all its waitables. -/
structure Released (s : System) : Prop where
  /-- The map is empty. -/
  empty : s.registrations = []
  /-- No waitable is registered here. -/
  free : ∀ w, (s.waitables w).waitSetId ≠ s.waitSetId
  /-- Another WaitSet can add it. -/
  addable : ∀ w, (s.waitables w).waitSetId = 0

/-- In an uncontended run, once `close` and every detachment have returned, the
WaitSet has released all its waitables. -/
theorem close_releases {topology : Topology} {es : List Event} {s : System}
    (h : machine.RunWhen Uncontended (.initial topology) es s) (hclosing : s.closing = true)
    (hreturned : ∀ t, s.pc t = .idle) : Released s := by
  have hconsistent := consistent_of_run h
  have hunowned : ∀ r ∈ topology.registrations, s.phase r.id ≠ .detaching := by
    intro r hr hphase
    obtain ⟨t, rest, htask⟩ := hconsistent.owner r hr hphase
    rw [hreturned t] at htask
    cases htask
  have hquiet : ∀ t, (s.pc t).drains = false := by
    intro t
    rw [hreturned t]
    rfl
  have hempty : s.registrations = [] := by
    refine List.eq_nil_iff_forall_not_mem.mpr fun r hr => ?_
    have hattached := settled_of_run h hclosing hquiet r hr
    have hdetaching := hunowned r (hconsistent.mapped r hr)
    have hdetached := hconsistent.erased r hr
    cases hphase : s.phase r.id with
    | attached => exact hattached hphase
    | detaching => exact hdetaching hphase
    | detached => exact hdetached hphase
  have hfree : ∀ w, (s.waitables w).waitSetId ≠ s.waitSetId := by
    intro w hset
    obtain ⟨r, hr, -, hnot⟩ := hconsistent.held w hset
    cases hphase : s.phase r.id with
    | attached =>
      have hmem := hconsistent.present r hr hphase
      rw [hempty] at hmem
      cases hmem
    | detaching => exact hunowned r hr hphase
    | detached => exact hnot hphase
  exact ⟨hempty, hfree, fun w => (local_of_run h w).resolve_right (hfree w)⟩

/-- A WaitSet with an action client of two readers and a timer. -/
def sampleTopology : Topology where
  waitSetId := 5
  positive := by decide
  registrations := [⟨1,[0,1],false⟩,⟨2,[2],true⟩]
  distinct := by decide
  disjoint := by decide

/-- The WaitSet closes while the timer closes itself. -/
def sampleRun : List Event :=
  let reader : Registration := ⟨1,[0,1],false⟩
  let timer : Registration := ⟨2,[2],true⟩
  [.closeWaitable 1 2,.close 0,.pick 0 reader,.claim 1 .waitable timer,.claim 0 .waitSet reader,
    .visit 0 .waitSet reader [0,1],.visit 1 .waitable timer [2],.clearReader 0 .waitSet reader 0 [1],
    .visit 0 .waitSet reader [1],.clearReader 0 .waitSet reader 1 [],.visit 0 .waitSet reader [],
    .erase 0 .waitSet reader,.finish 0 .waitSet reader,.pick 0 timer,.claim 0 .waitSet timer,
    .visit 1 .waitable timer [],.erase 1 .waitable timer,.finish 1 .waitable timer]

/-- The exchange of a phase is won, or nothing in the map is attached. -/
def uncontended (s : System) : Event → Bool
  | .claim _ .waitSet r =>
    s.phase r.id = .attached ∨ ∀ r' ∈ s.registrations, s.phase r'.id ≠ .attached
  | _ => true

/-- The test is sufficient. -/
theorem Uncontended.of_test (s : System) (e : Event) (h : uncontended s e = true) :
    Uncontended s e := by
  cases e with
  | claim t caller r =>
    cases caller with
    | waitSet =>
      have htest := of_decide_eq_true h
      exact fun hlost => htest.resolve_left hlost
    | waitable => trivial
  | _ => trivial

/-- Both registrations are released, one of them by its timer. -/
theorem close_releases_sampleRun :
    ∃ s, machine.exec (.initial sampleTopology) sampleRun = some s ∧ Released s := by
  have hend : (machine.exec (.initial sampleTopology) sampleRun).map (·.closing) = some true := by
    decide
  have hidle : ∀ t, (machine.exec (.initial sampleTopology) sampleRun).map (·.pc t) = some .idle
    | 0 => by decide
    | 1 => by decide
    | t+2 => rfl
  obtain ⟨s, hexec, hclosing⟩ := Option.map_eq_some_iff.mp hend
  have hmeets : machine.meets uncontended (.initial sampleTopology) sampleRun = true := by decide
  refine ⟨s, hexec, close_releases
    (Machine.runWhen_of_exec uncontended Uncontended.of_test hexec hmeets) hclosing fun t => ?_⟩
  have ht := hidle t
  rw [hexec] at ht
  exact Option.some.inj ht

/-- A guard condition and a timer. -/
def twoTopology : Topology where
  waitSetId := 5
  positive := by decide
  registrations := [⟨1,[0],true⟩,⟨2,[1],true⟩]
  distinct := by decide
  disjoint := by decide

/-- The guard condition detaches itself when `close` tries to. -/
def contendedRun : List Event :=
  let guard : Registration := ⟨1,[0],true⟩
  [.closeWaitable 1 0,.claim 1 .waitable guard,.close 0,.pick 0 guard,.claim 0 .waitSet guard,
    .visit 1 .waitable guard [0],.visit 1 .waitable guard [],.erase 1 .waitable guard,
    .finish 1 .waitable guard]

/-- `close` has returned and so has the detachment, and the timer stays
registered. -/
theorem not_released_contendedRun : ¬ ∀ (topology : Topology) (es : List Event) (s : System),
    machine.Run (.initial topology) es s → s.closing = true → (∀ t, s.pc t = .idle) → Released s := by
  intro hall
  have hend : (machine.exec (.initial twoTopology) contendedRun).map
      (fun s => (s.closing,s.registrations)) = some (true,[⟨2,[1],true⟩]) := by decide
  have hidle : ∀ t, (machine.exec (.initial twoTopology) contendedRun).map (·.pc t) = some .idle
    | 0 => by decide
    | 1 => by decide
    | t+2 => rfl
  obtain ⟨s, hexec, hs⟩ := Option.map_eq_some_iff.mp hend
  obtain ⟨hclosing, hregistrations⟩ := Prod.mk.inj hs
  have hreleased := hall twoTopology contendedRun s (Machine.run_of_exec hexec) hclosing fun t => by
    have ht := hidle t
    rw [hexec] at ht
    exact Option.some.inj ht
  rw [hreleased.empty] at hregistrations
  cases hregistrations

end Dmw.WaitSetClose
