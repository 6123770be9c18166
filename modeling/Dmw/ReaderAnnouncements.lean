import Dmw.ReaderSteps

/-!
# What an add has announced

The readers that an add has published stay registered under it and, once their
topology callbacks are installed, covered by them, as long as the registration
is attached and no reader closes. When a reader closes, a call is about to
detach the registration.
-/

namespace Dmw.ReaderConditions

open GuardedRuns
open WaitSetAdd (RegistrationPhase)

namespace Pc

/-- The call attaches or publishes the readers of a registration. -/
def Adds (r : RegistrationId) : Pc → Prop
  | .attaching q _ | .attachingNative q _ | .publishing q _ _ | .checking q | .installing q _
  | .listing q => q = r
  | _ => False

/-- The call has decided about the condition of a reader and not yet installed its topology
callback. -/
def Exposes (r : RegistrationId) (i : ℕ) : Pc → Prop
  | .attaching q k => q = r ∧ i < k
  | .attachingNative q k => q = r ∧ i ≤ k
  | .publishing q _ _ | .checking q => q = r
  | .installing q k => q = r ∧ k ≤ i
  | _ => False

/-- The call has installed the topology callback of a reader. -/
def Installs (r : RegistrationId) (i : ℕ) : Pc → Prop
  | .installing q k => q = r ∧ i < k
  | .listing q => q = r
  | _ => False

/-- The call has published a reader, and no reader that it published was closing. -/
def Announces (r : RegistrationId) (i : ℕ) : Pc → Prop
  | .publishing q k closed => q = r ∧ closed = false ∧ i < k
  | .checking q | .installing q _ | .listing q => q = r
  | _ => False

/-- The call is about to attach the condition of a reader. -/
def Binds (r : RegistrationId) (i : ℕ) : Pc → Prop
  | .attachingNative q k | .fixing q k _ => q = r ∧ k = i
  | _ => False

/-- The call is going to reconcile the condition of a reader. -/
def Revises (x : ReaderId) (r : RegistrationId) (i : ℕ) : Pc → Prop
  | .copying y => y = x
  | .calling q k => q = r ∧ k = i
  | .deciding q k all | .rechecking q k all => q = r ∧ (k = i ∨ all = true ∧ k < i)
  | .fixing q k all => q = r ∧ all = true ∧ k < i
  | _ => False

/-- The call neither adds nor reconciles. -/
def Calm : Pc → Prop
  | .attaching _ _ | .attachingNative _ _ | .publishing _ _ _ | .checking _ | .installing _ _
  | .listing _ | .copying _ | .calling _ _ | .deciding _ _ _ | .rechecking _ _ _
  | .fixing _ _ _ => False
  | _ => True

/-- The next step of the call neither adds nor reconciles. -/
def Leaves : Pc → Prop
  | .rejecting _ _ _ | .clearing _ _ | .unattaching _ | .listing _ | .detaching _ _ | .locking _ _
  | .releasing _ _ _ | .clearingReader _ _ _ | .erasing _ _ | .finishing _ _ | .waiting _
  | .poisoning _ => True
  | _ => False

variable {r : RegistrationId} {i : ℕ} {p : Pc}

/-- What is exposed is being added. -/
theorem Exposes.adds (h : p.Exposes r i) : p.Adds r := by
  cases p with
  | attaching => exact h.1
  | attachingNative => exact h.1
  | publishing => exact h
  | checking => exact h
  | installing => exact h.1
  | _ => exact absurd h id

/-- What has its callback is being added. -/
theorem Installs.adds (h : p.Installs r i) : p.Adds r := by
  cases p with
  | installing => exact h.1
  | listing => exact h
  | _ => exact absurd h id

/-- What is announced is being added. -/
theorem Announces.adds (h : p.Announces r i) : p.Adds r := by
  cases p with
  | publishing => exact h.1
  | checking => exact h
  | installing => exact h
  | listing => exact h
  | _ => exact absurd h id

/-- A calm call adds nothing. -/
theorem Calm.unadds (h : p.Calm) : ¬ p.Adds r := by
  cases p with
  | attaching => exact absurd h id
  | attachingNative => exact absurd h id
  | publishing => exact absurd h id
  | checking => exact absurd h id
  | installing => exact absurd h id
  | listing => exact absurd h id
  | _ => exact id

/-- What has its callback is announced. -/
theorem Installs.announces (h : p.Installs r i) : p.Announces r i := by
  cases p with
  | installing => exact h.1
  | listing => exact h
  | _ => exact absurd h id

end Pc

namespace System

/-- The reader of a registration is published, and its add goes on or is over. -/
def Announced (r : RegistrationId) (i : ℕ) (s : System) : Prop :=
  (s.registrations r).listed = true ∨ ∃ t, (s.pc t).Announces r i

/-- The topology callback of a reader of a registration is installed. -/
def Installed (r : RegistrationId) (i : ℕ) (s : System) : Prop :=
  (s.registrations r).listed = true ∨ ∃ t, (s.pc t).Installs r i

end System

section Moves

variable {endpoints : EndpointId → Endpoint} {s : System} {t : CallId} {r : RegistrationId} {i : ℕ}

/-- A call that leaves is calm from then on. -/
theorem step_calm (hleaves : (s.pc t).Leaves) : ((s.step endpoints t).pc t).Calm := by
  have hleave (caller : Caller) (s : System) (r : RegistrationId) :
      ((s.leaveDetach t r caller).pc t).Calm := by
    cases caller <;> simp [System.leaveDetach, System.failAdd, Pc.Calm]
  unfold System.step
  cases hpc : s.pc t <;> rw [hpc] at hleaves <;> dsimp only
  case rejecting r k j => simp [System.reject, Pc.Calm]
  case clearing r k =>
    unfold System.clearClaim
    split_ifs <;> simp [System.failAdd, Pc.Calm]
  case unattaching r => simp [System.unattach, Pc.Calm]
  case listing r => simp [System.list, Pc.Calm]
  case detaching r caller =>
    unfold System.detach
    split_ifs
    · simp [Pc.Calm]
    · exact hleave caller s r
  case locking r caller => simp [System.lock, Pc.Calm]
  case releasing r k caller =>
    unfold System.release
    split_ifs
    · simp [Pc.Calm]
    · simp [Pc.Calm]
    · cases caller <;> simp [System.failAdd, Pc.Calm]
  case clearingReader r k caller =>
    unfold System.clearReader
    split_ifs <;> simp [Pc.Calm]
  case erasing r caller => simp [System.erase, Pc.Calm]
  case finishing r caller => exact hleave caller _ r
  case waiting x =>
    unfold System.callDetach
    cases (s.readers x).detachCallback <;> simp [Pc.Calm]
  case poisoning r => simp [System.poison, Pc.Calm]
  all_goals exact absurd hleaves id

/-- The steps of an add between its claim and its return. -/
inductive AddMove (endpoints : EndpointId → Endpoint) (s : System) (r : RegistrationId) :
    Pc → Pc → Prop
  | claimed (k : ℕ) : AddMove endpoints s r (.claiming r k) (.attaching r 0)
  | skip (k : ℕ) (hk : k < s.size endpoints r)
    (hunwanted : s.interested endpoints r k = false ∨
      (s.readers (s.reader r k)).blockingEnabled = false) :
    AddMove endpoints s r (.attaching r k) (.attaching r (k+1))
  | bind (k : ℕ) (hk : k < s.size endpoints r)
    (hwanted : s.interested endpoints r k = true ∧
      (s.readers (s.reader r k)).blockingEnabled = true) :
    AddMove endpoints s r (.attaching r k) (.attachingNative r k)
  | attach (k : ℕ) : AddMove endpoints s r (.attachingNative r k) (.attaching r (k+1))
  | attached (k : ℕ) (hk : s.size endpoints r ≤ k) :
    AddMove endpoints s r (.attaching r k) (.publishing r 0 false)
  | publish (k : ℕ) (closed : Bool) (hk : k < s.size endpoints r) :
    AddMove endpoints s r (.publishing r k closed)
      (.publishing r (k+1) (closed || (s.readers (s.reader r k)).closing))
  | published (k : ℕ) (hk : s.size endpoints r ≤ k) :
    AddMove endpoints s r (.publishing r k false) (.checking r)
  | check : AddMove endpoints s r (.checking r) (.installing r 0)
  | install (k : ℕ) (hk : k < s.size endpoints r) :
    AddMove endpoints s r (.installing r k) (.installing r (k+1))
  | installed (k : ℕ) (hk : s.size endpoints r ≤ k) :
    AddMove endpoints s r (.installing r k) (.listing r)

/-- Only an add gets to attach and publish a registration. -/
theorem step_adds (h : ((s.step endpoints t).pc t).Adds r) :
    AddMove endpoints s r (s.pc t) ((s.step endpoints t).pc t) := by
  by_cases hleaves : (s.pc t).Leaves
  · exact absurd h (step_calm hleaves).unadds
  unfold System.step at h ⊢
  cases hpc : s.pc t <;> rw [hpc] at hleaves <;> simp only [hpc] at h ⊢
  case idle => exact absurd h id
  case claiming q k =>
    unfold System.claim at h ⊢
    dsimp only at h ⊢
    split_ifs at h ⊢ <;> simp only [System.rejectClaim,System.goto_pc,Function.update_self] at h ⊢
    · exact absurd h id
    · exact absurd h id
    · exact absurd h id
    · obtain rfl := h
      exact .claimed k
  case attaching q k =>
    unfold System.attach at h ⊢
    split_ifs at h ⊢ with hk hwanted
      <;> simp only [System.beginPublish,System.goto_pc,Function.update_self] at h ⊢ <;> obtain rfl := h
    · exact .skip k hk hwanted
    · exact .bind k hk (by simpa using hwanted)
    · exact .attached k (Nat.not_lt.mp hk)
  case attachingNative q k =>
    unfold System.attachNative at h ⊢
    split_ifs at h ⊢ <;> simp only [System.goto_pc,Function.update_self] at h ⊢
    · exact absurd h id
    · obtain rfl := h
      exact .attach k
  case publishing q k closed =>
    unfold System.publish at h ⊢
    dsimp only at h ⊢
    split_ifs at h ⊢ with hk hclosed <;> simp only [System.goto_pc,Function.update_self] at h ⊢
    · obtain rfl := h
      exact .publish k closed hk
    · exact absurd h id
    · obtain rfl := h
      rw [Bool.not_eq_true] at hclosed
      subst hclosed
      exact .published k (Nat.not_lt.mp hk)
  case checking q =>
    unfold System.check at h ⊢
    split_ifs at h ⊢ <;> simp only [System.goto_pc,Function.update_self] at h ⊢
    · obtain rfl := h
      exact .check
    · exact absurd h id
  case installing q k =>
    unfold System.install at h ⊢
    split_ifs at h ⊢ with hk <;> simp only [System.goto_pc,Function.update_self] at h ⊢ <;> obtain rfl := h
    · exact .install k hk
    · exact .installed k (Nat.not_lt.mp hk)
  case copying x =>
    unfold System.copyCallback at h
    cases hcallback : (s.readers x).topologyCallback <;> simp [hcallback,Pc.Adds] at h
  case calling q k =>
    unfold System.setReaderBlocking at h
    split_ifs at h <;> simp [Pc.Adds] at h
  case interesting q mask =>
    unfold System.storeInterest at h
    split_ifs at h <;> simp [Pc.Adds] at h
  case deciding q k all =>
    unfold System.decide System.leaveReader at h
    dsimp only at h
    split_ifs at h <;> simp [Pc.Adds] at h
  case rechecking q k all =>
    unfold System.recheck System.leaveReader at h
    split_ifs at h <;> simp [Pc.Adds] at h
  case fixing q k all =>
    unfold System.fix System.leaveReader at h
    split_ifs at h <;> simp [Pc.Adds] at h
  all_goals exact absurd trivial hleaves

/-- A call that begins adds nothing yet. -/
theorem next_adds {e : Event} (henabled : Enabled endpoints s e)
    (h : ((next endpoints s e).pc e.caller).Adds r) :
    AddMove endpoints s r (s.pc e.caller) ((next endpoints s e).pc e.caller) := by
  have hidle (h : s.pc e.caller = .idle) : ¬ (s.pc e.caller).Adds r := by
    rw [h]
    exact id
  cases e with
  | step t => exact step_adds h
  | add t w e =>
    simp only [next,System.add,Event.caller] at h
    split_ifs at h
    · exact absurd h (hidle henabled.1)
    · simp [Pc.Adds] at h
  | remove t q =>
    simp only [next,System.remove,Event.caller] at h
    split_ifs at h
    · simp [Pc.Adds] at h
    · exact absurd h (hidle henabled.1)
  | close t x => simp [next,System.close,Event.caller,Pc.Adds] at h
  | setBlockingEnabled t x enabled =>
    simp only [next,System.setBlockingEnabled,Event.caller] at h
    split_ifs at h
    · exact absurd h (hidle henabled.1)
    · simp [Pc.Adds] at h
  | setInterest t q mask =>
    simp only [next,System.setInterest,Event.caller] at h
    split_ifs at h
    · simp [Pc.Adds] at h
    · exact absurd h (hidle henabled.1)

section Begins

variable {p p' : Pc}

/-- A reader is announced by the step that publishes it. -/
theorem AddMove.announces (hmove : AddMove endpoints s r p p') (hi : i < s.size endpoints r)
    (h : p'.Announces r i) :
    p.Announces r i ∨ p = .publishing r i false ∧ (s.readers (s.reader r i)).closing = false := by
  cases hmove with
  | publish k closed =>
    obtain ⟨-,hor,hik⟩ := h
    obtain ⟨rfl,hclosing⟩ := Bool.or_eq_false_iff.mp hor
    rcases Nat.lt_succ_iff_lt_or_eq.mp hik with hlt | rfl
    · exact .inl ⟨rfl,rfl,hlt⟩
    · exact .inr ⟨rfl,hclosing⟩
  | attached => exact absurd h.2.2 (Nat.not_lt_zero i)
  | published k hk => exact .inl ⟨rfl,rfl,by omega⟩
  | check => exact .inl rfl
  | install => exact .inl rfl
  | installed => exact .inl rfl
  | _ => exact absurd h id

/-- A reader is covered by the step that installs its callback. -/
theorem AddMove.installs (hmove : AddMove endpoints s r p p') (hi : i < s.size endpoints r)
    (h : p'.Installs r i) : p.Installs r i ∨ p = .installing r i := by
  cases hmove with
  | check => exact absurd h.2 (Nat.not_lt_zero i)
  | install k =>
    rcases Nat.lt_succ_iff_lt_or_eq.mp h.2 with hlt | rfl
    · exact .inl ⟨rfl,hlt⟩
    · exact .inr rfl
  | installed k hk => exact .inl ⟨rfl,by omega⟩
  | _ => exact absurd h id

/-- A reader is decided about by the step that reads its flag. -/
theorem AddMove.decides (hmove : AddMove endpoints s r p p') (hi : i < s.size endpoints r)
    (h : p'.Exposes r i ∨ p'.Installs r i) :
    (p.Exposes r i ∨ p.Installs r i) ∨ p = .attaching r i := by
  cases hmove with
  | claimed =>
    rcases h with h | h
    · exact absurd h.2 (Nat.not_lt_zero i)
    · exact absurd h id
  | skip k =>
    rcases h with h | h
    · rcases Nat.lt_succ_iff_lt_or_eq.mp h.2 with hlt | rfl
      · exact .inl (.inl ⟨rfl,hlt⟩)
      · exact .inr rfl
    · exact absurd h id
  | bind k =>
    rcases h with h | h
    · rcases Nat.lt_or_eq_of_le h.2 with hlt | rfl
      · exact .inl (.inl ⟨rfl,hlt⟩)
      · exact .inr rfl
    · exact absurd h id
  | attach k =>
    rcases h with h | h
    · exact .inl (.inl ⟨rfl,Nat.lt_succ_iff.mp h.2⟩)
    · exact absurd h id
  | attached k hk => exact .inl (.inl ⟨rfl,by omega⟩)
  | publish => exact .inl (.inl rfl)
  | published => exact .inl (.inl rfl)
  | check => exact .inl (.inl rfl)
  | install k =>
    rcases Nat.lt_or_ge i k with hlt | hge
    · exact .inl (.inr ⟨rfl,hlt⟩)
    · exact .inl (.inl ⟨rfl,hge⟩)
  | installed k hk => exact .inl (.inr ⟨rfl,by omega⟩)

end Begins

end Moves

section Announcing

variable (endpoints : EndpointId → Endpoint)

/-- What holds of the readers that a registration has announced. -/
structure Announcing (s : System) : Prop where
  /-- They are registered under it while it is attached. -/
  registered : ∀ r i, s.Announced r i → i < s.size endpoints r →
    (s.registrations r).phase = .attached →
    (s.readers (s.reader r i)).registration = some r
  /-- Their topology callbacks stay while no reader closes. -/
  covered : ∀ r i, s.Installed r i → i < s.size endpoints r →
    (s.registrations r).phase = .attached → ¬ s.ClosingAny (s.registrations r).endpoint →
    (s.readers (s.reader r i)).topologyCallback = some r
  /-- When one closes, a call is about to detach the registration. -/
  doomed : ∀ r i, s.Announced r i → i < s.size endpoints r →
    (s.registrations r).phase = .attached → (s.readers (s.reader r i)).closing = true →
    ∃ t, s.pc t = .waiting (s.reader r i) ∨ ∃ caller, s.pc t = .detaching r caller

end Announcing

section Announced

variable {endpoints : EndpointId → Endpoint} {s s' : System} {t : CallId} {r : RegistrationId}
variable {i : ℕ} {x : ReaderId} {u : ReaderWaitState}

/-- A registration that is attached keeps its registered readers. -/
theorem ReaderChange.registration_kept (h : ReaderChange s t x u)
    (hclaimed : ∀ t', (s.readers x).claim = some t' → (s.readers x).registration = none)
    (hphase : (s.registrations r).phase = .attached)
    (hregistered : (s.readers x).registration = some r) : u.registration = some r := by
  cases h with
  | publish _ hclaim =>
    exact absurd (hregistered.symm.trans (hclaimed t hclaim)) (Option.some_ne_none r)
  | clear q hregistration hdetached =>
    obtain rfl := Option.some.inj (hregistered.symm.trans hregistration)
    exact absurd hphase hdetached
  | _ => exact hregistered

/-- What a call adds is known or being claimed by it. -/
theorem adds_stage (hinv : Structured endpoints s) (h : (s.pc t).Adds r) :
    (s.registrations r).stage = .claimed t ∨ (s.registrations r).stage = .published t := by
  have hsound := hinv.calls t
  cases hpc : s.pc t <;> rw [hpc] at h hsound
  case attaching q k =>
    obtain rfl := h
    exact .inl hsound.1
  case attachingNative q k =>
    obtain rfl := h
    exact .inl hsound.1
  case publishing q k closed =>
    obtain rfl := h
    exact .inr hsound.1
  case checking q =>
    obtain rfl := h
    exact .inr hsound
  case installing q k =>
    obtain rfl := h
    exact .inr hsound
  case listing q =>
    obtain rfl := h
    exact .inr hsound
  all_goals exact absurd h id

/-- What a call announces it publishes. -/
theorem announces_stage (hinv : Structured endpoints s) (h : (s.pc t).Announces r i) :
    (s.registrations r).stage = .published t := by
  have hsound := hinv.calls t
  cases hpc : s.pc t <;> rw [hpc] at h hsound
  case publishing q k closed =>
    obtain ⟨rfl,-⟩ := h
    exact hsound.1
  case checking q =>
    obtain rfl := h
    exact hsound
  case installing q k =>
    obtain rfl := h
    exact hsound
  case listing q =>
    obtain rfl := h
    exact hsound
  all_goals exact absurd h id

/-- What is announced is known. -/
theorem System.Announced.known (hinv : Structured endpoints s) (h : s.Announced r i) :
    s.Known r := by
  rcases h with hlisted | ⟨t,ht⟩
  · exact known_of_settled (hinv.listed r hlisted)
  · exact known_of_published (announces_stage hinv ht)

/-- What has its callback is announced. -/
theorem System.Installed.announced (h : s.Installed r i) : s.Announced r i :=
  h.imp_right fun ⟨t,ht⟩ => ⟨t,ht.announces⟩

/-- A registration is stored by its own add. -/
theorem RegistrationChange.listed_begins {n : RegistrationId} {g : Registration}
    (h : RegistrationChange s t n r g) (hlisted : g.listed = true) :
    (s.registrations r).listed = true ∨ s.pc t = .listing r := by
  cases h with
  | create => exact Bool.noConfusion hlisted
  | list hpc => exact .inr hpc
  | erase => exact Bool.noConfusion hlisted
  | _ => exact .inl hlisted

/-- A registration is stored by its own add. -/
theorem Effect.listed_begins (h : Effect s t s') (hlisted : (s'.registrations r).listed = true) :
    (s.registrations r).listed = true ∨ s.pc t = .listing r :=
  (h.registration r).elim (fun heq => .inl (heq ▸ hlisted)) fun hchange =>
    hchange.listed_begins hlisted

/-- The registration of an add is issued. -/
theorem AddMove.issued {p p' : Pc} (hmove : AddMove endpoints s r p p')
    (hsound : s.Sound endpoints t p) : (s.registrations r).stage ≠ .unissued := by
  have hclaimed (hstage : (s.registrations r).stage = .claimed t) :
      (s.registrations r).stage ≠ .unissued := fun hnew =>
    Stage.noConfusion (hstage.symm.trans hnew)
  cases hmove with
  | claimed => exact hclaimed hsound.1
  | skip => exact hclaimed hsound.1
  | bind => exact hclaimed hsound.1
  | attach => exact hclaimed hsound.1
  | attached => exact hclaimed hsound.1
  | publish => exact (known_of_published hsound.1).issued
  | published => exact (known_of_published hsound.1).issued
  | check => exact (known_of_published hsound).issued
  | install => exact (known_of_published hsound).issued
  | installed => exact (known_of_published hsound).issued

/-- A reader is announced by the step that publishes it. -/
theorem announced_begins {e : Event} (hinv : Structured endpoints s)
    (henabled : Enabled endpoints s e) (h : (next endpoints s e).Announced r i)
    (hi : i < (next endpoints s e).size endpoints r) :
    i < s.size endpoints r ∧ (s.Announced r i ∨ s.pc e.caller = .publishing r i false ∧
      (s.readers (s.reader r i)).closing = false) := by
  obtain ⟨heffect,-⟩ := next_proceeds hinv henabled
  have hsame (hissued : (s.registrations r).stage ≠ .unissued) : i < s.size endpoints r := by
    rw [← heffect.size_kept hissued]
    exact hi
  have hold (h : s.Announced r i) : i < s.size endpoints r ∧ (s.Announced r i ∨
      s.pc e.caller = .publishing r i false ∧ (s.readers (s.reader r i)).closing = false) :=
    ⟨hsame (h.known hinv).issued,.inl h⟩
  rcases h with hlisted | ⟨t,ht⟩
  · rcases heffect.listed_begins hlisted with hlisted | hpc
    · exact hold (.inl hlisted)
    · exact hold (.inr ⟨e.caller,by rw [hpc]; rfl⟩)
  · by_cases hne : t = e.caller
    · subst hne
      have hmove := next_adds henabled ht.adds
      have hi := hsame (hmove.issued (hinv.calls e.caller))
      exact ⟨hi,(hmove.announces hi ht).imp_left fun h => .inr ⟨_,h⟩⟩
    · rw [heffect.others t hne] at ht
      exact hold (.inr ⟨t,ht⟩)

/-- A reader is covered by the step that installs its callback. -/
theorem installed_begins {e : Event} (hinv : Structured endpoints s)
    (henabled : Enabled endpoints s e) (h : (next endpoints s e).Installed r i)
    (hi : i < s.size endpoints r) :
    s.Installed r i ∨ s.pc e.caller = .installing r i := by
  obtain ⟨heffect,-⟩ := next_proceeds hinv henabled
  rcases h with hlisted | ⟨t,ht⟩
  · rcases heffect.listed_begins hlisted with hlisted | hpc
    · exact .inl (.inl hlisted)
    · exact .inl (.inr ⟨e.caller,by rw [hpc]; rfl⟩)
  · by_cases hne : t = e.caller
    · subst hne
      exact ((next_adds henabled ht.adds).installs hi ht).imp_left fun h => .inr ⟨_,h⟩
    · rw [heffect.others t hne] at ht
      exact .inl (.inr ⟨t,ht⟩)

/-- What a call publishes is in its hands. -/
theorem publishing_stage {closed : Bool} (hinv : Structured endpoints s)
    (hpc : s.pc t = .publishing r i closed) : (s.registrations r).stage = .published t := by
  have hsound := hinv.calls t
  rw [hpc] at hsound
  exact hsound.1

/-- A call in progress takes a step. -/
theorem event_of_busy {e : Event} (henabled : Enabled endpoints s e)
    (hbusy : s.pc e.caller ≠ .idle) : ∃ t, e = .step t := by
  cases e with
  | step t => exact ⟨t,rfl⟩
  | add => exact absurd henabled.1 hbusy
  | remove => exact absurd henabled.1 hbusy
  | close => exact absurd henabled.1 hbusy
  | setBlockingEnabled => exact absurd henabled.1 hbusy
  | setInterest => exact absurd henabled.1 hbusy

/-- Announced readers stay registered. -/
theorem registered_kept {e : Event} (hinv : Structured endpoints s) (hann : Announcing endpoints s)
    (henabled : Enabled endpoints s e) (h : (next endpoints s e).Announced r i)
    (hi : i < (next endpoints s e).size endpoints r)
    (hphase : ((next endpoints s e).registrations r).phase = .attached) :
    ((next endpoints s e).readers ((next endpoints s e).reader r i)).registration = some r := by
  obtain ⟨heffect,-⟩ := next_proceeds hinv henabled
  obtain ⟨hsize,hannounced | ⟨hpc,-⟩⟩ := announced_begins hinv henabled h hi
  · have hissued := (hannounced.known hinv).issued
    have hattached : (s.registrations r).phase = .attached := by
      by_contra hdetached
      exact heffect.phase_kept hissued hdetached hphase
    have hregistered := hann.registered r i hannounced hsize hattached
    rw [heffect.reader_kept hissued]
    rcases heffect.reader (s.reader r i) with heq | hchange
    · rw [heq]
      exact hregistered
    · exact hchange.registration_kept (hinv.claimed _) hattached hregistered
  · obtain ⟨t,rfl⟩ := event_of_busy henabled (by rw [hpc]; exact Pc.noConfusion)
    have hstep : next endpoints s (.step t) = s.publish endpoints t r i false := by
      simp only [next,System.step,show s.pc t = _ from hpc]
    rw [hstep, System.publish, if_pos hsize]
    change (Function.update s.readers (s.reader r i) _ (s.reader r i)).registration = some r
    rw [Function.update_self]

/-- Topology callbacks of attached registrations stay while no reader closes. -/
theorem ReaderChange.topologyCallback_kept (h : ReaderChange s t x u)
    (hregistered : (s.readers x).registration = some r)
    (hphase : (s.registrations r).phase = .attached)
    (hinstall : ∀ q, s.pc t = .installing q x.index → (s.registrations q).stage = .published t →
      (s.registrations q).endpoint = x.endpoint → q = r)
    (hcallback : (s.readers x).topologyCallback = some r) : u.topologyCallback = some r := by
  cases h with
  | install q hpc hstage hendpoint => exact congrArg some (hinstall q hpc hstage hendpoint)
  | clear q hregistration hdetached =>
    obtain rfl := Option.some.inj (hregistered.symm.trans hregistration)
    exact absurd hphase hdetached
  | _ => exact hcallback

/-- Installed topology callbacks stay. -/
theorem covered_kept {e : Event} (hinv : Structured endpoints s) (hann : Announcing endpoints s)
    (henabled : Enabled endpoints s e) (h : (next endpoints s e).Installed r i)
    (hi : i < (next endpoints s e).size endpoints r)
    (hphase : ((next endpoints s e).registrations r).phase = .attached)
    (hopen : ¬ (next endpoints s e).ClosingAny ((next endpoints s e).registrations r).endpoint) :
    ((next endpoints s e).readers ((next endpoints s e).reader r i)).topologyCallback = some r := by
  obtain ⟨heffect,-⟩ := next_proceeds hinv henabled
  obtain ⟨hsize,-⟩ := announced_begins hinv henabled h.announced hi
  rcases installed_begins hinv henabled h hsize with hinstalled | hpc
  · have hknown := hinstalled.announced.known hinv
    have hattached : (s.registrations r).phase = .attached := by
      by_contra hdetached
      exact heffect.phase_kept hknown.issued hdetached hphase
    rw [heffect.endpoint_kept hknown.issued] at hopen
    have hstill : ¬ s.ClosingAny (s.registrations r).endpoint := fun hclosing =>
      hopen (heffect.closingAny_kept hclosing)
    have hregistered := hann.registered r i hinstalled.announced hsize hattached
    have hcallback := hann.covered r i hinstalled hsize hattached hstill
    rw [heffect.reader_kept hknown.issued]
    rcases heffect.reader (s.reader r i) with heq | hchange
    · rw [heq]
      exact hcallback
    · refine hchange.topologyCallback_kept hregistered hattached (fun q hpc hstage hendpoint => ?_)
        hcallback
      -- An add that installs here has registered the reader as well.
      have hendpoint : (s.registrations q).endpoint = (s.registrations r).endpoint := hendpoint
      have hreader : s.reader q i = s.reader r i := by
        rw [System.reader, System.reader, hendpoint]
      have hother := hann.registered q i (.inr ⟨_,by rw [hpc]; rfl⟩)
        (by rw [System.size, hendpoint]; exact hsize) (by
          by_contra hdetached
          exact hstill (hendpoint ▸ hinv.departing q
            (fun hsettled => Stage.noConfusion (hstage.symm.trans hsettled)) hdetached))
      rw [hreader] at hother
      exact Option.some.inj (hother.symm.trans hregistered)
  · obtain ⟨t,rfl⟩ := event_of_busy henabled (by rw [hpc]; exact Pc.noConfusion)
    have hstep : next endpoints s (.step t) = s.install endpoints t r i := by
      simp only [next,System.step,show s.pc t = _ from hpc]
    rw [hstep, System.install, if_pos hsize]
    change (Function.update s.readers (s.reader r i) _ (s.reader r i)).topologyCallback = some r
    rw [Function.update_self]

/-- A reader begins to close where a call closes it. -/
theorem closing_begins {e : Event} (hinv : Structured endpoints s)
    (henabled : Enabled endpoints s e)
    (hclosing : ((next endpoints s e).readers x).closing = true) :
    (s.readers x).closing = true ∨ ∃ t, e = .close t x := by
  obtain ⟨heffect,-⟩ := next_proceeds hinv henabled
  rcases heffect.reader x with heq | hchange
  · exact .inl (heq ▸ hclosing)
  · generalize hu : (next endpoints s e).readers x = u at hchange hclosing
    cases hchange with
    | close hidle =>
      have hsame (h : (next endpoints s e).readers = s.readers) : (s.readers x).closing = true := by
        rw [← congrFun h x, hu]
      cases e with
      | step t =>
        have hready : s.Ready endpoints t := henabled
        rw [System.Ready, show s.pc t = _ from hidle] at hready
        exact absurd hready id
      | close t y =>
        by_cases hy : x = y
        · subst hy
          exact .inr ⟨t,rfl⟩
        · have hother : (next endpoints s (.close t y)).readers x = s.readers x :=
            Function.update_of_ne hy _ _
          exact .inl (by rw [← hother, hu])
      | add t w q =>
        refine .inl (hsame ?_)
        simp only [next,System.add]
        split_ifs <;> rfl
      | remove t q =>
        refine .inl (hsame ?_)
        simp only [next,System.remove]
        split_ifs <;> rfl
      | setInterest t q mask =>
        refine .inl (hsame ?_)
        simp only [next,System.setInterest]
        split_ifs <;> rfl
      | setBlockingEnabled t y enabled =>
        refine .inl ?_
        have hclosing : ((next endpoints s (.setBlockingEnabled t y enabled)).readers x).closing =
            (s.readers x).closing := by
          simp only [next,System.setBlockingEnabled]
          split_ifs
          · rfl
          · simp only [System.goto_readers,System.setReader_readers,Function.update_apply]
            split_ifs with hy
            · rw [hy]
            · rfl
        rw [← hclosing, hu]
    | _ => exact .inl hclosing

/-- Only readers of endpoints close. -/
theorem closing_inside {ok : System → Event → Prop} {es : List Event}
    (hrun : (machine endpoints).RunWhen ok .initial es s) (hclosing : (s.readers x).closing = true) :
    x.index < (endpoints x.endpoint).size := by
  revert hclosing
  refine hrun.invariant_using
    (fun s => (s.readers x).closing = true → x.index < (endpoints x.endpoint).size)
    (fun hrun => structured hrun) (fun hclosing => Bool.noConfusion hclosing)
    fun s e hinv hinside henabled _ hclosing => ?_
  rcases closing_begins hinv henabled hclosing with hbefore | ⟨t,rfl⟩
  · exact hinside hbefore
  · exact henabled.2.1

/-- A registration with a closing reader is about to be detached. -/
theorem doomed_kept {e : Event} (hinv : Structured endpoints s) (hann : Announcing endpoints s)
    (henabled : Enabled endpoints s e) (h : (next endpoints s e).Announced r i)
    (hi : i < (next endpoints s e).size endpoints r)
    (hphase : ((next endpoints s e).registrations r).phase = .attached)
    (hclosing : ((next endpoints s e).readers ((next endpoints s e).reader r i)).closing = true) :
    ∃ t, (next endpoints s e).pc t = .waiting ((next endpoints s e).reader r i) ∨
      ∃ caller, (next endpoints s e).pc t = .detaching r caller := by
  obtain ⟨heffect,-⟩ := next_proceeds hinv henabled
  obtain ⟨hsize,hannounced⟩ := announced_begins hinv henabled h hi
  have hissued : (s.registrations r).stage ≠ .unissued := by
    rcases hannounced with hannounced | ⟨hpc,-⟩
    · exact (hannounced.known hinv).issued
    · exact (known_of_published (publishing_stage hinv hpc)).issued
  rw [heffect.reader_kept hissued] at hclosing ⊢
  rcases closing_begins hinv henabled hclosing with hclosing | ⟨t,rfl⟩
  · rcases hannounced with hannounced | ⟨-,hopen⟩
    · have hattached : (s.registrations r).phase = .attached := by
        by_contra hdetached
        exact heffect.phase_kept hissued hdetached hphase
      obtain ⟨t,ht⟩ := hann.doomed r i hannounced hsize hattached hclosing
      by_cases hne : t = e.caller
      · subst hne
        obtain ⟨t,rfl⟩ := event_of_busy henabled (by
          rcases ht with ht | ⟨_,ht⟩ <;> rw [ht] <;> exact Pc.noConfusion)
        rcases ht with ht | ⟨caller,ht⟩
        · have hcallback : (s.readers (s.reader r i)).detachCallback = some r := by
            rw [hinv.detachCallback]
            exact hann.registered r i hannounced hsize hattached
          have hstep : next endpoints s (.step t) = s.goto t (.detaching r .close) := by
            simp only [next,System.step,show s.pc t = _ from ht,System.callDetach,hcallback]
          refine ⟨t,.inr ⟨.close,?_⟩⟩
          rw [hstep, System.goto_pc, Function.update_self]
        · have hstep : next endpoints s (.step t) =
              (s.setRegistration r fun reg => {reg with phase := .detaching}).goto t
                (.locking r caller) := by
            simp only [next,System.step,show s.pc t = _ from ht,System.detach,if_pos hattached]
          rw [hstep, System.goto_registrations, setRegistration_self] at hphase
          exact RegistrationPhase.noConfusion hphase
      · refine ⟨t,?_⟩
        rw [heffect.others t hne]
        exact ht
    · exact absurd hclosing (by rw [hopen]; exact Bool.false_ne_true)
  · exact ⟨t,.inl (Function.update_self ..)⟩

/-- Announced readers stay registered and covered, or their registration is doomed. -/
theorem announcing {ok : System → Event → Prop} {es : List Event}
    (hrun : (machine endpoints).RunWhen ok .initial es s) : Announcing endpoints s := by
  refine hrun.invariant_using (Announcing endpoints) (fun hrun => structured hrun) ?_
    fun s e hinv hann henabled _ =>
      ⟨fun _ _ => registered_kept hinv hann henabled,fun _ _ => covered_kept hinv hann henabled,
        fun _ _ => doomed_kept hinv hann henabled⟩
  have hnothing {r : RegistrationId} {i : ℕ} (h : System.initial.Announced r i) : False := by
    rcases h with hlisted | ⟨_,ht⟩
    · exact Bool.noConfusion hlisted
    · exact ht
  exact ⟨fun _ _ h => (hnothing h).elim,fun _ _ h => (hnothing h.announced).elim,
    fun _ _ h => (hnothing h).elim⟩

end Announced

end Dmw.ReaderConditions
