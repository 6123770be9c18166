import Dmw.ReaderAnnouncements

/-!
# Native conditions match interest

Where no change of capacity copies the callbacks of a reader whose condition an
add has decided about but not yet covered by its callback, the conditions of
every attached registration are those of the readers that it is interested in
and that block.
-/

namespace Dmw.ReaderConditions

open GuardedRuns
open WaitSetAdd (RegistrationPhase)

section Matching

variable (endpoints : EndpointId → Endpoint)

namespace System

/-- The condition of a reader of a registration is attached, or a call is about to attach it. -/
def AttachedSoon (r : RegistrationId) (i : ℕ) (s : System) : Prop :=
  (s.registrations r).readerConditions i = true ∨ ∃ t, (s.pc t).Binds r i

/-- A registration is interested in a reader that blocks. -/
def Wanted (r : RegistrationId) (i : ℕ) (s : System) : Prop :=
  s.interested endpoints r i = true ∧ (s.readers (s.reader r i)).blockingEnabled = true

/-- A call has decided about the condition of a reader of a registration. -/
def Decided (r : RegistrationId) (i : ℕ) (s : System) : Prop :=
  s.Installed r i ∨ ∃ t, (s.pc t).Exposes r i

/-- The condition of a reader is as wanted, or a call is going to reconcile it. -/
def Matched (r : RegistrationId) (i : ℕ) (s : System) : Prop :=
  (s.AttachedSoon r i ↔ s.Wanted endpoints r i) ∨ ∃ t, (s.pc t).Revises (s.reader r i) r i

end System

/-- A change of capacity copies the callback of a reader while another change does so too, while a
reader of its endpoint is closing, or while the condition of every add that has decided about it
and not yet installed its callback is as wanted. -/
def Heeded (s : System) : Event → Prop
  | .step t => ∀ x, s.pc t = .copying x →
    (∃ t', t' ≠ t ∧ s.pc t' = .copying x) ∨ s.ClosingAny x.endpoint ∨
      ∀ t' r, (s.registrations r).endpoint = x.endpoint → (s.pc t').Exposes r x.index →
        (s.AttachedSoon r x.index ↔ s.Wanted endpoints r x.index)
  | _ => True

/-- The conditions of attached registrations match. -/
def Matching (s : System) : Prop :=
  ∀ r i, s.Decided r i → i < s.size endpoints r → (s.registrations r).phase = .attached →
    ¬ s.ClosingAny (s.registrations r).endpoint → s.Matched endpoints r i

end Matching

section Matched

variable {endpoints : EndpointId → Endpoint} {s s' : System} {t : CallId} {r : RegistrationId}
variable {i : ℕ} {x : ReaderId}

/-- What is wanted is read from interest and the flag of the reader. -/
theorem wanted_congr (hreader : s'.reader r i = s.reader r i)
    (hinterest : (s'.registrations r).interest = (s.registrations r).interest)
    (hblocking : (s'.readers (s.reader r i)).blockingEnabled =
      (s.readers (s.reader r i)).blockingEnabled) :
    s'.Wanted endpoints r i ↔ s.Wanted endpoints r i := by
  have hendpoint : (s'.registrations r).endpoint = (s.registrations r).endpoint :=
    congrArg ReaderId.endpoint hreader
  rw [System.Wanted, System.Wanted, System.interested, System.interested, hreader, hinterest,
    hendpoint, hblocking]

/-- A match is kept where the same is attached and wanted, and the call goes on reconciling. -/
theorem System.Matched.transfer (hmatched : s.Matched endpoints r i)
    (hothers : ∀ t', t' ≠ t → s'.pc t' = s.pc t') (hreader : s'.reader r i = s.reader r i)
    (hattached : s'.AttachedSoon r i ↔ s.AttachedSoon r i)
    (hwanted : s'.Wanted endpoints r i ↔ s.Wanted endpoints r i)
    (hrevises : (s.pc t).Revises (s.reader r i) r i →
      (s'.pc t).Revises (s.reader r i) r i) : s'.Matched endpoints r i := by
  rcases hmatched with hsame | ⟨t',ht'⟩
  · exact .inl (hattached.trans (hsame.trans hwanted.symm))
  · refine .inr ⟨t',?_⟩
    rw [hreader]
    by_cases hne : t' = t
    · subst hne
      exact hrevises ht'
    · rw [hothers t' hne]
      exact ht'

/-- The same is attached soon where the condition stays and the call is about to attach as before. -/
theorem attachedSoon_congr (hothers : ∀ t', t' ≠ t → s'.pc t' = s.pc t')
    (hcondition : (s'.registrations r).readerConditions i = (s.registrations r).readerConditions i)
    (hbinds : (s'.pc t).Binds r i ↔ (s.pc t).Binds r i) :
    s'.AttachedSoon r i ↔ s.AttachedSoon r i := by
  have hcalls (t' : CallId) : (s'.pc t').Binds r i ↔ (s.pc t').Binds r i := by
    by_cases hne : t' = t
    · subst hne
      exact hbinds
    · rw [hothers t' hne]
  rw [System.AttachedSoon, System.AttachedSoon, hcondition]
  exact or_congr_right (exists_congr hcalls)

end Matched

namespace Pc

/-- The next step of the call may change, attach or reconcile the condition of a reader. -/
def Concerns (x : ReaderId) (r : RegistrationId) (i : ℕ) : Pc → Prop
  | .attaching q k | .calling q k => q = r ∧ k = i
  | .attachingNative q _ | .unattaching q | .clearingReader q _ _ | .interesting q _
  | .deciding q _ _ | .rechecking q _ _ | .fixing q _ _ => q = r
  | .copying y => y = x
  | _ => False

end Pc

section Frame

/-- Flags, and the condition and the interest of a registration, stay. -/
structure Framed (r : RegistrationId) (i : ℕ) (s s' : System) : Prop where
  /-- No flag changes. -/
  blocking : ∀ x, (s'.readers x).blockingEnabled = (s.readers x).blockingEnabled
  /-- The condition stays attached or not. -/
  condition : (s'.registrations r).readerConditions i = (s.registrations r).readerConditions i
  /-- Interest stays. -/
  interest : (s'.registrations r).interest = (s.registrations r).interest

variable {endpoints : EndpointId → Endpoint} {s s' : System} {t : CallId} {r : RegistrationId}
variable {i : ℕ}

/-- Nothing changes. -/
theorem Framed.refl : Framed r i s s := ⟨fun _ => rfl,rfl,rfl⟩

/-- A call moves. -/
theorem Framed.goto {p : Pc} (h : Framed r i s s') : Framed r i s (s'.goto t p) :=
  ⟨h.blocking,h.condition,h.interest⟩

/-- A `mutex_` changes its owner. -/
theorem Framed.setMutex {w : WaitSetId} {owner : Option CallId} (h : Framed r i s s') :
    Framed r i s (s'.setMutex w owner) :=
  ⟨h.blocking,h.condition,h.interest⟩

/-- A reader keeps its flag. -/
theorem Framed.setReader {x : ReaderId} {f : ReaderWaitState → ReaderWaitState}
    (h : Framed r i s s') (hf : ∀ u, (f u).blockingEnabled = u.blockingEnabled) :
    Framed r i s (s'.setReader x f) := by
  refine ⟨fun y => ?_,h.condition,h.interest⟩
  rw [System.setReader_readers, Function.update_apply]
  split_ifs with hy
  · subst hy
    exact (hf _).trans (h.blocking y)
  · exact h.blocking y

/-- A registration keeps its condition and its interest, or is another one. -/
theorem Framed.setRegistration {q : RegistrationId} {f : Registration → Registration}
    (h : Framed r i s s') (hf : q = r → ∀ g, (f g).readerConditions i = g.readerConditions i ∧
      (f g).interest = g.interest) : Framed r i s (s'.setRegistration q f) := by
  refine ⟨h.blocking,?_,?_⟩ <;> rw [System.setRegistration_registrations, Function.update_apply]
  · split_ifs with hr
    · subst hr
      exact (hf rfl _).1.trans h.condition
    · exact h.condition
  · split_ifs with hr
    · subst hr
      exact (hf rfl _).2.trans h.interest
    · exact h.interest

/-- An add fails. -/
theorem Framed.failAdd {q : RegistrationId} (h : Framed r i s s') :
    Framed r i s (s'.failAdd t q) :=
  (h.setMutex.setRegistration (by intro _ _; exact ⟨rfl,rfl⟩)).goto

/-- A detachment returns. -/
theorem Framed.leaveDetach {q : RegistrationId} {caller : Caller} (h : Framed r i s s') :
    Framed r i s (s'.leaveDetach t q caller) := by
  cases caller with
  | rollback => exact h.failAdd
  | remove => exact h.goto
  | close => exact h.goto
  | add => exact h.goto

/-- Another condition changes. -/
theorem Framed.setCondition {q : RegistrationId} {k : ℕ} {attached : Bool} (h : Framed r i s s')
    (hother : q = r → k ≠ i) : Framed r i s (s'.setCondition q k attached) :=
  h.setRegistration fun hq _ => ⟨Function.update_of_ne (hother hq).symm _ _,rfl⟩

/-- Reconciling goes on or ends. -/
theorem Framed.leaveReader {q : RegistrationId} {k : ℕ} {all : Bool} (h : Framed r i s s') :
    Framed r i s (s'.leaveReader endpoints t q k all) := by
  unfold System.leaveReader
  split_ifs
  · exact h.goto
  · exact (h.setRegistration (by intro _ _; exact ⟨rfl,rfl⟩)).goto

/-- A step leaves flags, and of what it is not concerned with all that matters. -/
theorem step_framed (hunconcerned : ¬ (s.pc t).Concerns (s.reader r i) r i) :
    Framed r i s (s.step endpoints t) := by
  unfold System.step
  cases hpc : s.pc t <;> rw [hpc] at hunconcerned <;> dsimp only
  case idle => exact .refl
  case claiming q k =>
    unfold System.claim System.rejectClaim
    dsimp only
    split_ifs
    · exact (Framed.refl.setReader (by intro _; rfl)).goto
    · exact (Framed.refl.setReader (by intro _; rfl)).goto
    · exact (Framed.refl.setReader (by intro _; rfl)).goto
    · exact Framed.refl.goto
  case rejecting q k j => exact (Framed.refl.setReader (by intro _; rfl)).goto
  case clearing q k =>
    unfold System.clearClaim
    split_ifs
    · exact (Framed.refl.setReader (by intro _; rfl)).goto
    · exact Framed.refl.failAdd
  case attaching q k =>
    unfold System.attach
    split_ifs
    · exact Framed.refl.goto
    · exact Framed.refl.goto
    · exact (Framed.refl.setRegistration (by intro _ _; exact ⟨rfl,rfl⟩)).goto
  case attachingNative q k =>
    unfold System.attachNative
    split_ifs
    · exact Framed.refl.goto
    · exact (Framed.refl.setCondition fun hq => absurd hq hunconcerned).goto
  case unattaching q => exact (Framed.refl.setRegistration fun hq => absurd hq hunconcerned).goto
  case publishing q k closed =>
    unfold System.publish
    dsimp only
    split_ifs
    · exact (Framed.refl.setReader (by intro _; rfl)).goto
    · exact Framed.refl.goto
    · exact Framed.refl.goto
  case checking q =>
    unfold System.check
    split_ifs <;> exact Framed.refl.goto
  case installing q k =>
    unfold System.install
    split_ifs
    · exact (Framed.refl.setReader (by intro _; rfl)).goto
    · exact Framed.refl.goto
  case listing q => exact (Framed.refl.setMutex.setRegistration (by intro _ _; exact ⟨rfl,rfl⟩)).goto
  case detaching q caller =>
    unfold System.detach
    split_ifs
    · exact (Framed.refl.setRegistration (by intro _ _; exact ⟨rfl,rfl⟩)).goto
    · exact Framed.refl.leaveDetach
  case locking q caller => exact (Framed.refl.setRegistration (by intro _ _; exact ⟨rfl,rfl⟩)).goto
  case releasing q k caller =>
    unfold System.release
    split_ifs
    · exact Framed.refl.goto
    · exact Framed.refl.goto
    · cases caller with
      | add => exact Framed.refl.failAdd
      | remove => exact Framed.refl.goto
      | close => exact Framed.refl.goto
      | rollback => exact Framed.refl.goto
  case clearingReader q k caller =>
    unfold System.clearReader
    split_ifs
    · exact Framed.refl.goto
    · exact ((Framed.refl.setReader (by intro _; rfl)).setCondition fun hq =>
        absurd hq hunconcerned).goto
  case erasing q caller => exact (Framed.refl.setRegistration (by intro _ _; exact ⟨rfl,rfl⟩)).goto
  case finishing q caller => exact (Framed.refl.setRegistration (by intro _ _; exact ⟨rfl,rfl⟩)).leaveDetach
  case waiting x =>
    unfold System.callDetach
    cases (s.readers x).detachCallback <;> exact Framed.refl.goto
  case copying x =>
    unfold System.copyCallback
    cases (s.readers x).topologyCallback <;> exact Framed.refl.goto
  case calling q k =>
    unfold System.setReaderBlocking
    split_ifs
    · exact (Framed.refl.setRegistration (by intro _ _; exact ⟨rfl,rfl⟩)).goto
    · exact Framed.refl.goto
  case interesting q mask =>
    unfold System.storeInterest
    split_ifs
    · exact Framed.refl.goto
    · exact (Framed.refl.setRegistration fun hq => absurd hq hunconcerned).goto
  case deciding q k all =>
    unfold System.decide
    dsimp only
    split_ifs
    · exact Framed.refl.leaveReader
    · exact Framed.refl.goto
    · exact (Framed.refl.setCondition fun hq => absurd hq hunconcerned).leaveReader
  case rechecking q k all =>
    unfold System.recheck
    split_ifs
    · exact Framed.refl.leaveReader
    · exact Framed.refl.goto
  case fixing q k all =>
    unfold System.fix
    split_ifs
    · exact Framed.refl.goto
    · exact (Framed.refl.setCondition fun hq => absurd hq hunconcerned).leaveReader
  case poisoning q =>
    have hunlock : Framed r i s (s.unlock q) := Framed.refl.setRegistration (by intro _ _; exact ⟨rfl,rfl⟩)
    exact ⟨hunlock.blocking,hunlock.condition,hunlock.interest⟩

/-- A condition is attached again only after the flags were looked at again. -/
theorem step_fixing {k : ℕ} {all : Bool}
    (h : (s.step endpoints t).pc t = .fixing r k all) : s.pc t = .rechecking r k all := by
  by_cases hleaves : (s.pc t).Leaves
  · have hcalm : ((s.step endpoints t).pc t).Calm := step_calm hleaves
    rw [h] at hcalm
    exact absurd hcalm id
  unfold System.step at h
  cases hpc : s.pc t <;> rw [hpc] at hleaves <;> simp only [hpc] at h
  case idle => exact Pc.noConfusion h
  case claiming q k =>
    unfold System.claim System.rejectClaim at h
    dsimp only at h
    split_ifs at h <;> simp at h
  case attaching q k =>
    unfold System.attach System.beginPublish at h
    split_ifs at h <;> simp at h
  case attachingNative q k =>
    unfold System.attachNative at h
    split_ifs at h <;> simp at h
  case publishing q k closed =>
    unfold System.publish at h
    dsimp only at h
    split_ifs at h <;> simp at h
  case checking q =>
    unfold System.check at h
    split_ifs at h <;> simp at h
  case installing q k =>
    unfold System.install at h
    split_ifs at h <;> simp at h
  case copying x =>
    unfold System.copyCallback at h
    cases hcallback : (s.readers x).topologyCallback <;> simp [hcallback] at h
  case calling q k =>
    unfold System.setReaderBlocking at h
    split_ifs at h <;> simp at h
  case interesting q mask =>
    unfold System.storeInterest at h
    split_ifs at h <;> simp at h
  case deciding q k all =>
    unfold System.decide System.leaveReader at h
    dsimp only at h
    split_ifs at h <;> simp at h
  case rechecking q k all =>
    unfold System.recheck System.leaveReader at h
    split_ifs at h <;> simp at h
    obtain ⟨rfl,rfl,rfl⟩ := h
    rfl
  case fixing q k all =>
    unfold System.fix System.leaveReader at h
    split_ifs at h <;> simp at h
  all_goals exact absurd trivial hleaves

/-- A step that is not concerned with a reader does not get to attach its condition. -/
theorem step_unbound (hunconcerned : ¬ (s.pc t).Concerns (s.reader r i) r i) :
    ¬ (s.pc t).Binds r i ∧ ¬ (s.pc t).Revises (s.reader r i) r i ∧
      ¬ ((s.step endpoints t).pc t).Binds r i := by
  refine ⟨fun hbinds => hunconcerned ?_,fun hrevises => hunconcerned ?_,
    fun hbinds => hunconcerned ?_⟩
  · cases hpc : s.pc t <;> rw [hpc] at hbinds
    case attachingNative => exact hbinds.1
    case fixing => exact hbinds.1
    all_goals exact absurd hbinds id
  · cases hpc : s.pc t <;> rw [hpc] at hrevises
    case copying => exact hrevises
    case calling => exact hrevises
    case deciding => exact hrevises.1
    case rechecking => exact hrevises.1
    case fixing => exact hrevises.1
    all_goals exact absurd hrevises id
  · cases hpc : (s.step endpoints t).pc t <;> rw [hpc] at hbinds
    case attachingNative q k =>
      obtain ⟨rfl,rfl⟩ := hbinds
      have hmove : AddMove endpoints s q (s.pc t) ((s.step endpoints t).pc t) :=
        step_adds (by rw [hpc]; rfl)
      rw [hpc] at hmove
      generalize s.pc t = p at hmove ⊢
      cases hmove with
      | bind => exact ⟨rfl,rfl⟩
    case fixing q k all =>
      obtain ⟨rfl,rfl⟩ := hbinds
      rw [step_fixing hpc]
      rfl
    all_goals exact absurd hbinds id

/-- A match is kept by a step that is not concerned with the reader. -/
theorem unconcerned_kept (hmatched : s.Matched endpoints r i)
    (heffect : Effect s t (s.step endpoints t))
    (hissued : (s.registrations r).stage ≠ .unissued)
    (hunconcerned : ¬ (s.pc t).Concerns (s.reader r i) r i) :
    (s.step endpoints t).Matched endpoints r i := by
  have hunbinding : ¬ (s.pc t).Binds r i ∧ ¬ (s.pc t).Revises (s.reader r i) r i ∧
      ¬ ((s.step endpoints t).pc t).Binds r i := step_unbound hunconcerned
  obtain ⟨hunbound,hunrevised,hstill⟩ := hunbinding
  have hframed : Framed r i s (s.step endpoints t) := step_framed hunconcerned
  have hreader := heffect.reader_kept hissued i
  exact hmatched.transfer heffect.others hreader
    (attachedSoon_congr heffect.others hframed.condition (iff_of_false hstill hunbound))
    (wanted_congr hreader hframed.interest (hframed.blocking _))
    fun hrevises => absurd hrevises hunrevised

end Frame

section Concerned

variable {endpoints : EndpointId → Endpoint} {s s' : System} {t : CallId} {r : RegistrationId}
variable {i k : ℕ} {all : Bool}

/-- Only the call that has locked the conditions is about to attach one again. -/
theorem others_unbound (hinv : Structured endpoints s)
    (howner : (s.registrations r).stage = .claimed t ∨ s.Holds t r) (t' : CallId) (hne : t' ≠ t) :
    ¬ (s.pc t').Binds r i := by
  intro hbinds
  have hsound := hinv.calls t'
  cases hpc : s.pc t' <;> rw [hpc] at hbinds hsound
  case attachingNative q k =>
    obtain ⟨rfl,-⟩ := hbinds
    rcases howner with hstage | hholds
    · exact hne (Stage.claimed.inj (hsound.1.symm.trans hstage))
    · exact hholds.1.unclaimed hsound.1
  case fixing q k all =>
    obtain ⟨rfl,-⟩ := hbinds
    rcases howner with hstage | hholds
    · exact hsound.1.1.unclaimed hstage
    · exact hne (Option.some.inj (hsound.1.2.symm.trans hholds.2))
  all_goals exact absurd hbinds id

/-- Where nothing is attached or about to be, nothing is attached soon. -/
theorem not_attachedSoon (hothers : ∀ t', t' ≠ t → s'.pc t' = s.pc t')
    (hunbound : ∀ t', t' ≠ t → ¬ (s.pc t').Binds r i)
    (hcondition : (s'.registrations r).readerConditions i = false)
    (hcall : ¬ (s'.pc t).Binds r i) : ¬ s'.AttachedSoon r i := by
  rintro (hattached | ⟨t',ht'⟩)
  · exact Bool.false_ne_true (hcondition.symm.trans hattached)
  · by_cases hne : t' = t
    · exact hcall (hne ▸ ht')
    · rw [hothers t' hne] at ht'
      exact hunbound t' hne ht'

/-- Reconciling all readers goes on with those after the reader. -/
theorem leaveReader_goes_on (x : ReaderId) (hall : all = true) (hk : k < i)
    (hi : i < s.size endpoints r) :
    ((s.leaveReader endpoints t r k all).pc t).Revises x r i := by
  unfold System.leaveReader
  rw [if_pos ⟨hall,by omega⟩, System.goto_pc, Function.update_self]
  exact ⟨rfl,(Nat.lt_or_eq_of_le hk).elim (fun hlt => .inr ⟨hall,hlt⟩) .inl⟩

/-- A call that is done with a reader attaches nothing. -/
theorem leaveReader_unbound : ¬ ((s.leaveReader endpoints t r k all).pc t).Binds r i := by
  unfold System.leaveReader
  split_ifs <;> rw [System.goto_pc, Function.update_self] <;> exact id

/-- The decision of an add about a reader is a match. -/
theorem attaching_matched (hinv : Structured endpoints s)
    (heffect : Effect s t (s.step endpoints t)) (hpc : s.pc t = .attaching r i)
    (hi : i < s.size endpoints r) : (s.step endpoints t).Matched endpoints r i := by
  have hsound := hinv.calls t
  rw [hpc] at hsound
  obtain ⟨hstage,-,hunattached⟩ := hsound
  have hissued : (s.registrations r).stage ≠ .unissued := fun hnew =>
    Stage.noConfusion (hstage.symm.trans hnew)
  have hstep : s.step endpoints t = s.attach endpoints t r i := by simp only [System.step,hpc]
  rw [hstep] at heffect ⊢
  unfold System.attach at heffect ⊢
  rw [if_pos hi] at heffect ⊢
  split_ifs at heffect ⊢ with hunwanted
  · refine .inl (iff_of_false ?_ ?_)
    · refine not_attachedSoon heffect.others (others_unbound hinv (.inl hstage))
        (hunattached i (Nat.le_refl i)) ?_
      rw [System.goto_pc, Function.update_self]
      exact id
    · rintro ⟨hinterested,hblocking⟩
      rcases hunwanted with hnone | hnone
      · exact Bool.false_ne_true (hnone.symm.trans hinterested)
      · exact Bool.false_ne_true (hnone.symm.trans hblocking)
  · obtain ⟨hinterested,hblocking⟩ := not_or.mp hunwanted
    refine .inl (iff_of_true (.inr ⟨t,?_⟩) ⟨?_,?_⟩)
    · rw [System.goto_pc, Function.update_self]
      exact ⟨rfl,rfl⟩
    · exact Bool.not_eq_false _ ▸ hinterested
    · exact Bool.not_eq_false _ ▸ hblocking

/-- Attaching a condition for the first time keeps a match. -/
theorem attachingNative_matched (hmatched : s.Matched endpoints r i)
    (heffect : Effect s t (s.step endpoints t))
    (hissued : (s.registrations r).stage ≠ .unissued) (hpc : s.pc t = .attachingNative r k)
    (hopen : ¬ s.ClosingAny (s.registrations r).endpoint) :
    (s.step endpoints t).Matched endpoints r i := by
  have hstep : s.step endpoints t =
      (s.setCondition r k true).goto t (.attaching r (k+1)) := by
    have hclosing : ¬ (s.readers (s.reader r k)).closing = true := fun hclosing =>
      hopen ⟨k,hclosing⟩
    simp only [System.step,hpc,System.attachNative,if_neg hclosing]
  have hreader := heffect.reader_kept hissued i
  have hunbound : ¬ ((s.step endpoints t).pc t).Binds r i := by
    rw [hstep, System.goto_pc, Function.update_self]
    exact id
  refine hmatched.transfer heffect.others hreader ?_
    (wanted_congr hreader ?_ (by rw [hstep]; rfl)) fun hrevises => ?_
  · by_cases hik : k = i
    · subst hik
      refine iff_of_true (.inl ?_) (.inr ⟨t,by rw [hpc]; exact ⟨rfl,rfl⟩⟩)
      rw [hstep, System.goto_registrations, System.setCondition, setRegistration_self]
      exact Function.update_self ..
    · refine attachedSoon_congr heffect.others ?_ (iff_of_false hunbound ?_)
      · rw [hstep]
        exact (Framed.refl.setCondition fun _ => hik).condition
      · rw [hpc]
        exact fun hbinds => hik hbinds.2
  · rw [hstep, System.goto_registrations, System.setCondition, setRegistration_self]
  · rw [hpc] at hrevises
    exact absurd hrevises id

/-- A change of capacity that copies the callback reconciles the reader. -/
theorem copying_matched (hann : Announcing endpoints s)
    (heffect : Effect s t (s.step endpoints t)) (hissued : (s.registrations r).stage ≠ .unissued)
    (hpc : s.pc t = .copying (s.reader r i)) (hdecided : s.Decided r i)
    (hi : i < s.size endpoints r) (hphase : (s.registrations r).phase = .attached)
    (hopen : ¬ s.ClosingAny (s.registrations r).endpoint)
    (hheeded : Heeded endpoints s (.step t)) : (s.step endpoints t).Matched endpoints r i := by
  have hreader := heffect.reader_kept hissued i
  have hframed : Framed r i s (s.step endpoints t) := by
    simp only [System.step,hpc,System.copyCallback]
    cases (s.readers (s.reader r i)).topologyCallback <;> exact Framed.refl.goto
  rcases hheeded _ hpc with ⟨t',hne,ht'⟩ | hclosing | hagrees
  · refine .inr ⟨t',?_⟩
    rw [heffect.others t' hne, ht', hreader]
    rfl
  · exact absurd hclosing hopen
  · rcases hdecided with hinstalled | ⟨t',ht'⟩
    · have hcallback := hann.covered r i hinstalled hi hphase hopen
      have hstep : s.step endpoints t = s.goto t (.calling r i) := by
        simp only [System.step,hpc,System.copyCallback,hcallback]
        rfl
      refine .inr ⟨t,?_⟩
      rw [hstep, System.goto_pc, Function.update_self]
      exact ⟨rfl,rfl⟩
    · have hsame : s.AttachedSoon r i ↔ s.Wanted endpoints r i := hagrees t' r rfl ht'
      refine .inl (Iff.trans ?_ (hsame.trans
        (wanted_congr hreader hframed.interest (hframed.blocking _)).symm))
      refine attachedSoon_congr heffect.others hframed.condition (iff_of_false ?_ ?_)
      · simp only [System.step,hpc,System.copyCallback]
        cases (s.readers (s.reader r i)).topologyCallback
          <;> rw [System.goto_pc, Function.update_self] <;> exact id
      · rw [hpc]
        exact id

/-- A callback reconciles its reader. -/
theorem calling_matched (heffect : Effect s t (s.step endpoints t))
    (hissued : (s.registrations r).stage ≠ .unissued) (hpc : s.pc t = .calling r i)
    (hi : i < s.size endpoints r) (hphase : (s.registrations r).phase = .attached) :
    (s.step endpoints t).Matched endpoints r i := by
  refine .inr ⟨t,?_⟩
  rw [heffect.reader_kept hissued]
  simp only [System.step,hpc,System.setReaderBlocking,if_pos (And.intro hphase hi),
    System.goto_pc,Function.update_self]
  exact ⟨rfl,.inl rfl⟩

/-- A change of interest reconciles every reader. -/
theorem interesting_matched {mask : Mask} (hmatched : s.Matched endpoints r i)
    (heffect : Effect s t (s.step endpoints t)) (hissued : (s.registrations r).stage ≠ .unissued)
    (hpc : s.pc t = .interesting r mask) : (s.step endpoints t).Matched endpoints r i := by
  have hreader := heffect.reader_kept hissued i
  by_cases hinvalid : (s.registrations r).phase ≠ .attached ∨
      (endpoints (s.registrations r).endpoint).kind ≠ .actionServer ∨ mask &&& ~~~allowed ≠ 0
  · have hstep : s.step endpoints t = s.goto t .idle := by
      simp only [System.step,hpc,System.storeInterest,if_pos hinvalid]
    refine hmatched.transfer heffect.others hreader
      (attachedSoon_congr heffect.others (by rw [hstep]; rfl) (iff_of_false ?_ ?_))
      (wanted_congr hreader (by rw [hstep]; rfl) (by rw [hstep]; rfl)) fun hrevises => ?_
    · rw [hstep, System.goto_pc, Function.update_self]
      exact id
    · rw [hpc]
      exact id
    · rw [hpc] at hrevises
      exact absurd hrevises id
  · refine .inr ⟨t,?_⟩
    rw [hreader]
    simp only [System.step,hpc,System.storeInterest,if_neg hinvalid,System.goto_pc,
      Function.update_self]
    exact ⟨rfl,(Nat.eq_zero_or_pos i).elim (fun h => .inl h.symm) fun h => .inr ⟨rfl,h⟩⟩

/-- A call that is done with another reader keeps a match. -/
theorem leaveReader_matched (hmatched : s.Matched endpoints r i)
    (hframed : Framed r i s s') (heffect : Effect s t (s'.leaveReader endpoints t r k all))
    (hissued : (s.registrations r).stage ≠ .unissued) (hsize : i < s'.size endpoints r)
    (hunbound : ¬ (s.pc t).Binds r i)
    (hrevises : (s.pc t).Revises (s.reader r i) r i → all = true ∧ k < i) :
    (s'.leaveReader endpoints t r k all).Matched endpoints r i := by
  have hleft : Framed r i s (s'.leaveReader endpoints t r k all) := hframed.leaveReader
  have hsame := heffect.reader_kept hissued i
  exact hmatched.transfer heffect.others hsame
    (attachedSoon_congr heffect.others hleft.condition (iff_of_false leaveReader_unbound hunbound))
    (wanted_congr hsame hleft.interest (hleft.blocking _))
    fun h => leaveReader_goes_on _ (hrevises h).1 (hrevises h).2 hsize

/-- A condition of another reader may change before. -/
theorem condition_matched {attached : Bool} (hmatched : s.Matched endpoints r i) (hik : k ≠ i)
    (heffect : Effect s t ((s.setCondition r k attached).leaveReader endpoints t r k all))
    (hissued : (s.registrations r).stage ≠ .unissued) (hi : i < s.size endpoints r)
    (hunbound : ¬ (s.pc t).Binds r i)
    (hrevises : (s.pc t).Revises (s.reader r i) r i → all = true ∧ k < i) :
    ((s.setCondition r k attached).leaveReader endpoints t r k all).Matched endpoints r i := by
  have hendpoint : ((s.setCondition r k attached).registrations r).endpoint =
      (s.registrations r).endpoint := by rw [System.setCondition, setRegistration_self]
  refine leaveReader_matched hmatched (Framed.refl.setCondition fun _ => hik) heffect hissued ?_
    hunbound hrevises
  rw [System.size, hendpoint]
  exact hi

/-- Looking at the flags of a reader keeps a match. -/
theorem deciding_matched (hinv : Structured endpoints s) (hmatched : s.Matched endpoints r i)
    (heffect : Effect s t (s.step endpoints t)) (hissued : (s.registrations r).stage ≠ .unissued)
    (hpc : s.pc t = .deciding r k all) (hi : i < s.size endpoints r)
    (hopen : ¬ s.ClosingAny (s.registrations r).endpoint) :
    (s.step endpoints t).Matched endpoints r i := by
  have hholds : s.Holds t r := by
    have hsound := hinv.calls t
    rw [hpc] at hsound
    exact hsound
  have hunbound : ¬ (s.pc t).Binds r i := by
    rw [hpc]
    exact id
  have hreader := heffect.reader_kept hissued i
  have hrevises (hik : k ≠ i) (h : (s.pc t).Revises (s.reader r i) r i) : all = true ∧ k < i := by
    rw [hpc] at h
    exact h.2.resolve_left hik
  have hstep : s.step endpoints t = s.decide endpoints t r k all := by
    simp only [System.step,hpc]
  rw [hstep] at heffect hreader ⊢
  unfold System.decide at heffect hreader ⊢
  dsimp only at heffect hreader ⊢
  split_ifs at heffect hreader ⊢ with henabled hattached
  · by_cases hik : k = i
    · subst hik
      have hleft : Framed r k s (s.leaveReader endpoints t r k all) := Framed.refl.leaveReader
      have hwanted : s.Wanted endpoints r k := by
        obtain ⟨hboth,-⟩ := Bool.and_eq_true_iff.mp henabled
        exact Bool.and_eq_true_iff.mp hboth
      exact .inl (iff_of_true (.inl (hleft.condition.trans hattached))
        ((wanted_congr hreader hleft.interest (hleft.blocking _)).mpr hwanted))
    · exact leaveReader_matched hmatched .refl heffect hissued hi hunbound
        (hrevises hik)
  · refine hmatched.transfer heffect.others hreader
      (attachedSoon_congr heffect.others rfl (iff_of_false ?_ hunbound))
      (wanted_congr hreader rfl rfl) fun h => ?_
    · rw [System.goto_pc, Function.update_self]
      exact id
    · rw [hpc] at h
      rw [System.goto_pc, Function.update_self]
      exact h
  · by_cases hik : k = i
    · subst hik
      have hframed : Framed r k (s.setCondition r k false)
          ((s.setCondition r k false).leaveReader endpoints t r k all) := Framed.refl.leaveReader
      refine .inl (iff_of_false (not_attachedSoon heffect.others
        (others_unbound hinv (.inr hholds)) ?_ leaveReader_unbound) ?_)
      · rw [hframed.condition, System.setCondition, setRegistration_self]
        exact Function.update_self ..
      · intro hwanted
        obtain ⟨hinterested,hblocking⟩ := (wanted_congr hreader (hframed.interest.trans (by
          rw [System.setCondition, setRegistration_self])) (hframed.blocking _)).mp hwanted
        have hclosing : (s.readers (s.reader r k)).closing = false :=
          Bool.eq_false_iff.mpr fun hclosing => hopen ⟨k,hclosing⟩
        exact henabled (by rw [hinterested, hblocking, hclosing]; rfl)
    · exact condition_matched hmatched hik heffect hissued hi hunbound (hrevises hik)

/-- Looking at the flag of a reader again keeps a match. -/
theorem rechecking_matched (hinv : Structured endpoints s) (hmatched : s.Matched endpoints r i)
    (heffect : Effect s t (s.step endpoints t)) (hissued : (s.registrations r).stage ≠ .unissued)
    (hpc : s.pc t = .rechecking r k all) (hi : i < s.size endpoints r) :
    (s.step endpoints t).Matched endpoints r i := by
  obtain ⟨hholds,hunattached⟩ : s.Holds t r ∧ (s.registrations r).readerConditions k = false := by
    have hsound := hinv.calls t
    rw [hpc] at hsound
    exact hsound
  have hunbound : ¬ (s.pc t).Binds r i := by
    rw [hpc]
    exact id
  have hreader := heffect.reader_kept hissued i
  have hrevises (hik : k ≠ i) (h : (s.pc t).Revises (s.reader r i) r i) : all = true ∧ k < i := by
    rw [hpc] at h
    exact h.2.resolve_left hik
  have hstep : s.step endpoints t = s.recheck endpoints t r k all := by
    simp only [System.step,hpc]
  rw [hstep] at heffect hreader ⊢
  unfold System.recheck at heffect hreader ⊢
  split_ifs at heffect hreader ⊢ with hunwanted
  · by_cases hik : k = i
    · subst hik
      have hleft : Framed r k s (s.leaveReader endpoints t r k all) := Framed.refl.leaveReader
      refine .inl (iff_of_false (not_attachedSoon heffect.others
        (others_unbound hinv (.inr hholds)) (hleft.condition.trans hunattached)
        leaveReader_unbound) fun hwanted => ?_)
      obtain ⟨hinterested,hblocking⟩ :=
        (wanted_congr hreader hleft.interest (hleft.blocking _)).mp hwanted
      rcases hunwanted with hnone | hnone
      · exact Bool.false_ne_true (hnone.symm.trans hinterested)
      · exact Bool.false_ne_true (hnone.symm.trans hblocking)
    · exact leaveReader_matched hmatched .refl heffect hissued hi hunbound
        (hrevises hik)
  · obtain ⟨hinterested,hblocking⟩ := not_or.mp hunwanted
    by_cases hik : k = i
    · subst hik
      refine .inl (iff_of_true (.inr ⟨t,?_⟩) ⟨Bool.not_eq_false _ ▸ hinterested,
        Bool.not_eq_false _ ▸ hblocking⟩)
      rw [System.goto_pc, Function.update_self]
      exact ⟨rfl,rfl⟩
    · refine hmatched.transfer heffect.others hreader
        (attachedSoon_congr heffect.others rfl (iff_of_false ?_ hunbound))
        (wanted_congr hreader rfl rfl) fun h => ?_
      · rw [System.goto_pc, Function.update_self]
        exact fun hbinds => hik hbinds.2
      · rw [System.goto_pc, Function.update_self]
        exact ⟨rfl,hrevises hik h⟩

/-- Attaching a condition again keeps a match. -/
theorem fixing_matched (hmatched : s.Matched endpoints r i)
    (heffect : Effect s t (s.step endpoints t)) (hissued : (s.registrations r).stage ≠ .unissued)
    (hpc : s.pc t = .fixing r k all) (hi : i < s.size endpoints r)
    (hopen : ¬ s.ClosingAny (s.registrations r).endpoint) :
    (s.step endpoints t).Matched endpoints r i := by
  have hreader := heffect.reader_kept hissued i
  have hrevises (h : (s.pc t).Revises (s.reader r i) r i) : all = true ∧ k < i := by
    rw [hpc] at h
    exact h.2
  have hstep : s.step endpoints t = (s.setCondition r k true).leaveReader endpoints t r k all := by
    have hclosing : ¬ (s.readers (s.reader r k)).closing = true := fun hclosing =>
      hopen ⟨k,hclosing⟩
    simp only [System.step,hpc,System.fix,if_neg hclosing]
  rw [hstep] at heffect hreader ⊢
  by_cases hik : k = i
  · subst hik
    have hframed : Framed r k (s.setCondition r k true)
        ((s.setCondition r k true).leaveReader endpoints t r k all) := Framed.refl.leaveReader
    refine hmatched.transfer heffect.others hreader
      (iff_of_true (.inl ?_) (.inr ⟨t,by rw [hpc]; exact ⟨rfl,rfl⟩⟩))
      (wanted_congr hreader (hframed.interest.trans ?_) (hframed.blocking _))
      fun h => absurd (hrevises h).2 (Nat.lt_irrefl k)
    · rw [hframed.condition, System.setCondition, setRegistration_self]
      exact Function.update_self ..
    · rw [System.setCondition, setRegistration_self]
  · refine condition_matched hmatched hik heffect hissued hi ?_ hrevises
    rw [hpc]
    exact fun hbinds => hik hbinds.2

end Concerned

section Matches

variable {endpoints : EndpointId → Endpoint} {s : System} {t : CallId} {r : RegistrationId} {i : ℕ}

/-- A registration is decided about by its own add, or was. -/
theorem System.Decided.adder (hinv : Structured endpoints s) (h : s.Decided r i) :
    (s.registrations r).stage = .settled ∨ ∃ t, (s.pc t).Adds r ∧
      ((s.registrations r).stage = .claimed t ∨ (s.registrations r).stage = .published t) := by
  rcases h with (hlisted | ⟨t,ht⟩) | ⟨t,ht⟩
  · exact .inl (hinv.listed r hlisted)
  · exact .inr ⟨t,ht.adds,adds_stage hinv ht.adds⟩
  · exact .inr ⟨t,ht.adds,adds_stage hinv ht.adds⟩

/-- What is decided about is issued. -/
theorem System.Decided.issued (hinv : Structured endpoints s) (h : s.Decided r i) :
    (s.registrations r).stage ≠ .unissued := by
  intro hnew
  rcases h.adder hinv with hsettled | ⟨t,-,hclaimed | hpublished⟩
  · exact Stage.noConfusion (hnew.symm.trans hsettled)
  · exact Stage.noConfusion (hnew.symm.trans hclaimed)
  · exact Stage.noConfusion (hnew.symm.trans hpublished)

/-- A reader is decided about by the step that reads its flag. -/
theorem decided_begins {e : Event} (hinv : Structured endpoints s)
    (henabled : Enabled endpoints s e) (h : (next endpoints s e).Decided r i)
    (hi : i < (next endpoints s e).size endpoints r) :
    i < s.size endpoints r ∧ (s.Decided r i ∨ s.pc e.caller = .attaching r i) := by
  obtain ⟨heffect,-⟩ := next_proceeds hinv henabled
  have hold (h : s.Decided r i) :
      i < s.size endpoints r ∧ (s.Decided r i ∨ s.pc e.caller = .attaching r i) := by
    refine ⟨?_,.inl h⟩
    rw [← heffect.size_kept (h.issued hinv)]
    exact hi
  have hcall (h : ((next endpoints s e).pc e.caller).Exposes r i ∨
      ((next endpoints s e).pc e.caller).Installs r i) :
      i < s.size endpoints r ∧ (s.Decided r i ∨ s.pc e.caller = .attaching r i) := by
    have hmove := next_adds henabled (h.elim Pc.Exposes.adds Pc.Installs.adds)
    have hsize : i < s.size endpoints r := by
      rw [← heffect.size_kept (hmove.issued (hinv.calls e.caller))]
      exact hi
    refine ⟨hsize,(hmove.decides hsize h).imp_left ?_⟩
    rintro (hexposes | hinstalls)
    · exact .inr ⟨_,hexposes⟩
    · exact .inl (.inr ⟨_,hinstalls⟩)
  rcases h with (hlisted | ⟨t,ht⟩) | ⟨t,ht⟩
  · rcases heffect.listed_begins hlisted with hlisted | hpc
    · exact hold (.inl (.inl hlisted))
    · exact hold (.inl (.inr ⟨e.caller,by rw [hpc]; rfl⟩))
  · by_cases hne : t = e.caller
    · exact hcall (.inr (hne ▸ ht))
    · rw [heffect.others t hne] at ht
      exact hold (.inl (.inr ⟨t,ht⟩))
  · by_cases hne : t = e.caller
    · exact hcall (.inl (hne ▸ ht))
    · rw [heffect.others t hne] at ht
      exact hold (.inr ⟨t,ht⟩)

/-- A call that begins and leaves what matters keeps a match. -/
theorem begun_matched {s' : System} (hmatched : s.Matched endpoints r i) (heffect : Effect s t s')
    (hissued : (s.registrations r).stage ≠ .unissued) (hidle : s.pc t = .idle)
    (hcondition : (s'.registrations r).readerConditions i = (s.registrations r).readerConditions i)
    (hinterest : (s'.registrations r).interest = (s.registrations r).interest)
    (hblocking : (s'.readers (s.reader r i)).blockingEnabled =
      (s.readers (s.reader r i)).blockingEnabled)
    (hunbound : ¬ (s'.pc t).Binds r i) : s'.Matched endpoints r i := by
  have hreader := heffect.reader_kept hissued i
  refine hmatched.transfer heffect.others hreader
    (attachedSoon_congr heffect.others hcondition (iff_of_false hunbound ?_))
    (wanted_congr hreader hinterest hblocking) fun hrevises => ?_
  · rw [hidle]
    exact id
  · rw [hidle] at hrevises
    exact absurd hrevises id

/-- A call that begins keeps a match. -/
theorem begin_matched {e : Event} (hinv : Structured endpoints s)
    (hmatched : s.Matched endpoints r i) (hissued : (s.registrations r).stage ≠ .unissued)
    (hidle : s.pc e.caller = .idle) (henabled : Enabled endpoints s e) :
    (next endpoints s e).Matched endpoints r i := by
  obtain ⟨heffect,-⟩ := next_proceeds hinv henabled
  have hstay : ¬ (s.pc e.caller).Binds r i := by
    rw [hidle]
    exact id
  cases e with
  | step t =>
    have hready : s.Ready endpoints t := henabled
    rw [System.Ready, show s.pc t = _ from hidle] at hready
    exact absurd hready id
  | add t w e =>
    simp only [next,System.add,Event.caller] at heffect hidle hstay ⊢
    split_ifs at heffect ⊢
    · exact hmatched
    · have hne : r ≠ s.nextRegistration := fun hr =>
        hissued (hinv.unissued r (Nat.le_of_eq hr.symm))
      have hregistration : ({((s.setRegistration s.nextRegistration
          fun _ => .fresh w e (.claimed t)).setMutex w (some t)).goto t
            (.claiming s.nextRegistration 0) with
          nextRegistration := s.nextRegistration+1} : System).registrations r =
          s.registrations r := Function.update_of_ne hne _ _
      refine begun_matched hmatched heffect hissued hidle (by rw [hregistration])
        (by rw [hregistration]) rfl ?_
      change ¬ Pc.Binds r i (Function.update s.pc t _ t)
      rw [Function.update_self]
      exact id
  | remove t q =>
    simp only [next,System.remove,Event.caller] at heffect hidle hstay ⊢
    split_ifs at heffect ⊢
    · refine begun_matched hmatched heffect hissued hidle rfl rfl rfl ?_
      rw [System.goto_pc, Function.update_self]
      exact id
    · exact hmatched
  | close t x =>
    simp only [next,System.close,Event.caller] at heffect hidle hstay ⊢
    have hframed : Framed r i s (s.setReader x fun reader => {reader with closing := true}) :=
      Framed.refl.setReader (by intro _; rfl)
    refine begun_matched hmatched heffect hissued hidle rfl rfl (hframed.blocking _) ?_
    rw [System.goto_pc, Function.update_self]
    exact id
  | setInterest t q mask =>
    simp only [next,System.setInterest,Event.caller] at heffect hidle hstay ⊢
    split_ifs at heffect ⊢
    · refine begun_matched hmatched heffect hissued hidle rfl rfl rfl ?_
      rw [System.goto_pc, Function.update_self]
      exact id
    · exact hmatched
  | setBlockingEnabled t x enabled =>
    simp only [next,System.setBlockingEnabled,Event.caller] at heffect hidle hstay ⊢
    split_ifs at heffect ⊢
    · exact hmatched
    · by_cases hx : s.reader r i = x
      · refine .inr ⟨t,?_⟩
        rw [System.goto_pc, Function.update_self]
        exact hx.symm
      · refine begun_matched hmatched heffect hissued hidle rfl rfl ?_ ?_
        · rw [System.goto_readers, System.setReader_readers, Function.update_of_ne hx]
        · rw [System.goto_pc, Function.update_self]
          exact id

/-- A step of a call keeps a match. -/
theorem step_matched (hinv : Structured endpoints s) (hann : Announcing endpoints s)
    (hmatched : s.Matched endpoints r i) (heffect : Effect s t (s.step endpoints t))
    (hdecided : s.Decided r i) (hi : i < s.size endpoints r)
    (hphase : (s.registrations r).phase = .attached)
    (hopen : ¬ s.ClosingAny (s.registrations r).endpoint)
    (hheeded : Heeded endpoints s (.step t)) : (s.step endpoints t).Matched endpoints r i := by
  have hissued := hdecided.issued hinv
  by_cases hconcerned : (s.pc t).Concerns (s.reader r i) r i
  · have hsound := hinv.calls t
    cases hpc : s.pc t <;> rw [hpc] at hconcerned hsound
    case attaching q k =>
      obtain ⟨rfl,rfl⟩ := hconcerned
      exact attaching_matched hinv heffect hpc hi
    case attachingNative q k =>
      obtain rfl := hconcerned
      exact attachingNative_matched hmatched heffect hissued hpc hopen
    case unattaching q =>
      -- Its add has given up, so nobody has decided about it.
      obtain rfl := hconcerned
      exfalso
      rcases hdecided.adder hinv with hsettled | ⟨t',hadds,hclaimed | hpublished⟩
      · exact Stage.noConfusion (hsound.1.symm.trans hsettled)
      · obtain rfl := Stage.claimed.inj (hsound.1.symm.trans hclaimed)
        rw [hpc] at hadds
        exact hadds
      · exact Stage.noConfusion (hsound.1.symm.trans hpublished)
    case clearingReader q k caller =>
      obtain rfl := hconcerned
      exact absurd hphase hsound.2.1
    case copying x =>
      obtain rfl := hconcerned
      exact copying_matched hann heffect hissued hpc hdecided hi hphase hopen hheeded
    case calling q k =>
      obtain ⟨rfl,rfl⟩ := hconcerned
      exact calling_matched heffect hissued hpc hi hphase
    case interesting q mask =>
      obtain rfl := hconcerned
      exact interesting_matched hmatched heffect hissued hpc
    case deciding q k all =>
      obtain rfl := hconcerned
      exact deciding_matched hinv hmatched heffect hissued hpc hi hopen
    case rechecking q k all =>
      obtain rfl := hconcerned
      exact rechecking_matched hinv hmatched heffect hissued hpc hi
    case fixing q k all =>
      obtain rfl := hconcerned
      exact fixing_matched hmatched heffect hissued hpc hi hopen
    all_goals exact absurd hconcerned id
  · exact unconcerned_kept hmatched heffect hissued hconcerned

/-- Every heeded event keeps the conditions of attached registrations matched. -/
theorem matching_kept {e : Event} (hinv : Structured endpoints s) (hann : Announcing endpoints s)
    (hmatching : Matching endpoints s) (henabled : Enabled endpoints s e)
    (hheeded : Heeded endpoints s e) : Matching endpoints (next endpoints s e) := by
  intro r i hdecided hi hphase hopen
  obtain ⟨heffect,-⟩ := next_proceeds hinv henabled
  obtain ⟨hsize,hbefore⟩ := decided_begins hinv henabled hdecided hi
  rcases hbefore with hbefore | hpc
  · have hissued := hbefore.issued hinv
    have hattached : (s.registrations r).phase = .attached := by
      by_contra hdetached
      exact heffect.phase_kept hissued hdetached hphase
    rw [heffect.endpoint_kept hissued] at hopen
    have hstill : ¬ s.ClosingAny (s.registrations r).endpoint := fun hclosing =>
      hopen (heffect.closingAny_kept hclosing)
    have hmatched := hmatching r i hbefore hsize hattached hstill
    by_cases hidle : s.pc e.caller = .idle
    · exact begin_matched hinv hmatched hissued hidle henabled
    · obtain ⟨t,rfl⟩ := event_of_busy henabled hidle
      exact step_matched hinv hann hmatched heffect hbefore hsize hattached hstill hheeded
  · obtain ⟨t,rfl⟩ := event_of_busy henabled (by rw [hpc]; exact Pc.noConfusion)
    exact attaching_matched hinv heffect hpc hsize

/-- Where every change of capacity is heeded, the conditions of attached registrations match. -/
theorem matching {es : List Event}
    (hrun : (machine endpoints).RunWhen (Heeded endpoints) .initial es s) :
    Matching endpoints s := by
  have hknown {es : List Event} {s : System}
      (hrun : (machine endpoints).RunWhen (Heeded endpoints) .initial es s) :
      Structured endpoints s ∧ Announcing endpoints s := ⟨structured hrun,announcing hrun⟩
  refine hrun.invariant_using (Matching endpoints) hknown ?_
    fun s e hknown hmatching henabled hheeded =>
      matching_kept hknown.1 hknown.2 hmatching henabled hheeded
  intro r i hdecided
  rcases hdecided with (hlisted | ⟨_,ht⟩) | ⟨_,ht⟩
  · exact Bool.noConfusion hlisted
  · exact absurd ht id
  · exact absurd ht id

/-- Where every change of capacity is heeded and no call is in progress, the condition of a reader
of an attached registration is attached just where the registration is interested in it and it
blocks and is not closing. -/
theorem conditions_match {es : List Event}
    (hrun : (machine endpoints).RunWhen (Heeded endpoints) .initial es s)
    (hquiet : ∀ t, s.pc t = .idle) (r : RegistrationId)
    (hlisted : (s.registrations r).listed = true)
    (hphase : (s.registrations r).phase = .attached) (i : ℕ) (hi : i < s.size endpoints r) :
    (s.registrations r).readerConditions i = true ↔
      s.interested endpoints r i = true ∧
      (s.readers (s.reader r i)).blockingEnabled = true ∧
      (s.readers (s.reader r i)).closing = false := by
  have hann := announcing hrun
  have hunclosed (k : ℕ) (hk : k < s.size endpoints r) :
      (s.readers (s.reader r k)).closing = false := by
    refine Bool.eq_false_iff.mpr fun hclosing => ?_
    obtain ⟨t,ht | ⟨_,ht⟩⟩ := hann.doomed r k (.inl hlisted) hk hphase hclosing
    · exact Pc.noConfusion ((hquiet t).symm.trans ht)
    · exact Pc.noConfusion ((hquiet t).symm.trans ht)
  have hopen : ¬ s.ClosingAny (s.registrations r).endpoint := by
    rintro ⟨k,hclosing⟩
    have hk : k < s.size endpoints r := closing_inside hrun hclosing
    exact Bool.false_ne_true ((hunclosed k hk).symm.trans hclosing)
  have hcalls {P : Pc → Prop} (hidle : ¬ P .idle) : ¬ ∃ t, P (s.pc t) := by
    rintro ⟨t,ht⟩
    exact hidle (hquiet t ▸ ht)
  rcases matching hrun r i (.inl (.inl hlisted)) hi hphase hopen with hsame | hrevises
  · have hattached : s.AttachedSoon r i ↔ (s.registrations r).readerConditions i = true :=
      or_iff_left (hcalls id)
    rw [← hattached, hsame, System.Wanted, hunclosed i hi]
    simp only [and_true]
  · exact absurd hrevises (hcalls id)

end Matches

/-- An endpoint of one reader each. -/
def serverEndpoints : EndpointId → Endpoint := fun _ => ⟨.server,1⟩

/-- Its reader. -/
def requestReader : ReaderId := ⟨0,0⟩

/-- An add from its begin to its end. -/
def wholeAdd : List Event := .add 0 0 0 :: List.replicate 11 (.step 0)

/-- No callback is copied. -/
def uncopied (s : System) : Event → Bool
  | .step t =>
    match s.pc t with
    | .copying _ => false
    | _ => true
  | _ => true

/-- The test is sufficient. -/
theorem Heeded.of_test (s : System) (e : Event) (h : uncopied s e = true) :
    Heeded serverEndpoints s e := by
  cases e with
  | step t =>
    intro x hpc
    simp only [uncopied,hpc] at h
    exact Bool.noConfusion h
  | _ => exact trivial

/-- The reader becomes full after its add, up to the copy of its callback. -/
def fullAfterAdd : List Event := wholeAdd ++ [.setBlockingEnabled 1 requestReader false]

/-- A reader that is full after its add is detached. -/
theorem conditions_match_fullAfterAdd : ∃ s,
    (machine serverEndpoints).exec .initial (fullAfterAdd ++ [.step 1] ++ [.step 1,.step 1]) =
      some s ∧
    ((s.registrations 0).readerConditions 0 = true ↔ s.interested serverEndpoints 0 0 = true ∧
      (s.readers (s.reader 0 0)).blockingEnabled = true ∧
      (s.readers (s.reader 0 0)).closing = false) := by
  have hmeets : (machine serverEndpoints).meets uncopied .initial fullAfterAdd = true := by
    decide +kernel
  have hcopying : ∀ t, ((machine serverEndpoints).exec .initial fullAfterAdd).map (·.pc t) =
      some (if t = 1 then .copying requestReader else .idle)
    | 0 => by decide +kernel
    | 1 => by decide +kernel
    | t+2 => rfl
  have hrest : ((machine serverEndpoints).exec .initial (fullAfterAdd ++ [.step 1])).map (fun s =>
      (machine serverEndpoints).meets uncopied s [.step 1,.step 1]) = some true := by
    decide +kernel
  have hend : ((machine serverEndpoints).exec .initial
      (fullAfterAdd ++ [.step 1] ++ [.step 1,.step 1])).map (fun s =>
        ((s.registrations 0).listed,(s.registrations 0).phase)) = some (true,.attached) := by
    decide +kernel
  have hidle : ∀ t, ((machine serverEndpoints).exec .initial
      (fullAfterAdd ++ [.step 1] ++ [.step 1,.step 1])).map (·.pc t) = some .idle
    | 0 => by decide +kernel
    | 1 => by decide +kernel
    | t+2 => rfl
  obtain ⟨s₁, hexec₁, -⟩ := Option.map_eq_some_iff.mp (hcopying 0)
  obtain ⟨s₂, hexec₂, hmeets₂⟩ := Option.map_eq_some_iff.mp hrest
  obtain ⟨s₃, hexec₃, hs₃⟩ := Option.map_eq_some_iff.mp hend
  obtain ⟨hlisted,hphase⟩ := Prod.mk.inj hs₃
  have hcopy : (machine serverEndpoints).exec s₁ [.step 1] = some s₂ := by
    rw [Machine.exec_append, hexec₁] at hexec₂
    exact hexec₂
  have hlast : (machine serverEndpoints).exec s₂ [.step 1,.step 1] = some s₃ := by
    rw [Machine.exec_append, hexec₂] at hexec₃
    exact hexec₃
  -- No add is in progress when the callback is copied.
  have hheeded : Heeded serverEndpoints s₁ (.step 1) := by
    refine fun x _ => .inr (.inr fun t r _ hexposes => ?_)
    have ht := hcopying t
    rw [hexec₁] at ht
    rw [show s₁.pc t = _ from Option.some.inj ht] at hexposes
    split_ifs at hexposes
    · exact absurd hexposes id
    · exact absurd hexposes id
  have hsecond : (machine serverEndpoints).RunWhen (Heeded serverEndpoints) s₁ [.step 1] s₂ := by
    simp only [Machine.exec] at hcopy
    split_ifs at hcopy with henabled
    obtain rfl := Option.some.inj hcopy
    exact .snoc .nil henabled hheeded
  have hrun := ((Machine.runWhen_of_exec uncopied Heeded.of_test hexec₁ hmeets).append hsecond).append
    (Machine.runWhen_of_exec uncopied Heeded.of_test hlast hmeets₂)
  refine ⟨s₃,hexec₃,conditions_match hrun (fun t => ?_) 0 hlisted hphase 0 Nat.zero_lt_one⟩
  have ht := hidle t
  rw [hexec₃] at ht
  exact Option.some.inj ht

/-- The reader becomes full after its condition was attached and before its topology callback is
installed. -/
def lostChange : List Event :=
  .add 0 0 0 :: List.replicate 4 (.step 0) ++ [.setBlockingEnabled 1 requestReader false,.step 1] ++
    List.replicate 7 (.step 0)

/-- The condition of a reader that does not block stays attached. -/
theorem not_matching_lostChange : ¬ ∀ (endpoints : EndpointId → Endpoint) (es : List Event)
    (s : System), (machine endpoints).Run .initial es s → (∀ t, s.pc t = .idle) →
    ∀ r, (s.registrations r).listed = true → (s.registrations r).phase = .attached →
    ∀ i, i < s.size endpoints r → ((s.registrations r).readerConditions i = true ↔
      s.interested endpoints r i = true ∧
      (s.readers (s.reader r i)).blockingEnabled = true ∧
      (s.readers (s.reader r i)).closing = false) := by
  intro hall
  have hend : ((machine serverEndpoints).exec .initial lostChange).map (fun s =>
      ((s.registrations 0).listed,(s.registrations 0).phase,(s.registrations 0).endpoint,
        (s.registrations 0).readerConditions 0,(s.readers requestReader).blockingEnabled)) =
      some (true,.attached,0,true,false) := by decide +kernel
  have hidle : ∀ t, ((machine serverEndpoints).exec .initial lostChange).map (·.pc t) = some .idle
    | 0 => by decide +kernel
    | 1 => by decide +kernel
    | t+2 => rfl
  obtain ⟨s, hexec, hs⟩ := Option.map_eq_some_iff.mp hend
  simp only [Prod.mk.injEq] at hs
  obtain ⟨hlisted,hphase,hendpoint,hattached,hblocking⟩ := hs
  have hquiet : ∀ t, s.pc t = .idle := fun t => by
    have ht := hidle t
    rw [hexec] at ht
    exact Option.some.inj ht
  have hmatch := (hall serverEndpoints lostChange s (Machine.run_of_exec hexec) hquiet 0 hlisted
    hphase 0 Nat.zero_lt_one).mp hattached
  have hreader : s.reader 0 0 = requestReader := by
    rw [System.reader, hendpoint]
    rfl
  rw [hreader, hblocking] at hmatch
  exact Bool.false_ne_true hmatch.2.1

end Dmw.ReaderConditions
