import Dmw.ReaderEffects

/-!
# The steps of a call

Every step of a call is one of the changes that other calls expect of it, and
leaves the call knowing what its next step needs. What holds of all readers,
registrations and calls follows from the changes.
-/

namespace Dmw.ReaderConditions

open GuardedRuns
open WaitSetAdd (RegistrationPhase)

section Effects

variable {s s' : System} {t : CallId}

/-- A call that stays where it is changes nothing. -/
theorem effect_refl (s : System) (t : CallId) : Effect s t s where
  reader := fun _ => .inl rfl
  registration := fun _ => .inl rfl
  nextRegistration := Nat.le_refl _
  others := fun _ _ => rfl

/-- A call moves. -/
theorem Effect.goto {p : Pc} (h : Effect s t s') : Effect s t (s'.goto t p) where
  reader := h.reader
  registration := h.registration
  nextRegistration := h.nextRegistration
  others := by
    intro t' hne
    rw [System.goto_pc, Function.update_of_ne hne]
    exact h.others t' hne

/-- A call locks or unlocks a `mutex_`. -/
theorem Effect.setMutex {w : WaitSetId} {owner : Option CallId} (h : Effect s t s') :
    Effect s t (s'.setMutex w owner) where
  reader := h.reader
  registration := h.registration
  nextRegistration := h.nextRegistration
  others := h.others

/-- A call changes a reader. -/
theorem Effect.setReader {x : ReaderId} {f : ReaderWaitState → ReaderWaitState}
    (h : Effect s t s') (hchange : ReaderChange s t x (f (s'.readers x))) :
    Effect s t (s'.setReader x f) where
  reader := by
    intro y
    rw [System.setReader_readers]
    by_cases hy : y = x
    · subst hy
      rw [Function.update_self]
      exact .inr hchange
    · rw [Function.update_of_ne hy]
      exact h.reader y
  registration := h.registration
  nextRegistration := h.nextRegistration
  others := h.others

/-- A call changes a registration. -/
theorem Effect.setRegistration {r : RegistrationId} {f : Registration → Registration}
    (h : Effect s t s')
    (hchange : RegistrationChange s t s'.nextRegistration r (f (s'.registrations r))) :
    Effect s t (s'.setRegistration r f) where
  reader := h.reader
  registration := by
    intro q
    rw [System.setRegistration_registrations]
    by_cases hq : q = r
    · subst hq
      rw [Function.update_self]
      exact .inr hchange
    · rw [Function.update_of_ne hq]
      exact h.registration q
  nextRegistration := h.nextRegistration
  others := h.others

end Effects

section Calls

variable (endpoints : EndpointId → Endpoint)

/-- A call does one of its changes and knows what its next step needs. -/
def Proceeds (s : System) (t : CallId) (s' : System) : Prop :=
  Effect s t s' ∧ s'.Sound endpoints t (s'.pc t)

variable {endpoints} {s s' : System} {t : CallId} {r : RegistrationId} {k : ℕ}

/-- What a call knows does not depend on where calls are. -/
theorem sound_goto {p q : Pc} (h : s.Sound endpoints t p) : (s.goto t q).Sound endpoints t p := by
  cases p <;> exact h

/-- A call moves to a step whose needs it knows. -/
theorem Proceeds.of_goto {p : Pc} (h : Effect s t s') (hsound : s'.Sound endpoints t p) :
    Proceeds endpoints s t (s'.goto t p) := by
  refine ⟨h.goto,?_⟩
  rw [System.goto_pc, Function.update_self]
  exact sound_goto hsound

/-- What the next step needs may follow from the change itself. -/
theorem Proceeds.of_effect {p : Pc} (h : Effect s t s')
    (hsound : Effect s t s' → s'.Sound endpoints t p) : Proceeds endpoints s t (s'.goto t p) :=
  .of_goto h (hsound h)

/-- The readers of a registration are different. -/
theorem reader_ne {i : ℕ} (hne : i ≠ k) : s.reader r i ≠ s.reader r k :=
  fun heq => hne (ReaderId.mk.inj heq).2

/-- Markers that one more reader gets. -/
theorem claims_succ (hclaims : s.Claims t r 0 k) :
    (s.setReader (s.reader r k) fun reader => {reader with claim := some t}).Claims t r 0 (k+1) := by
  intro i _ hi
  change (Function.update s.readers (s.reader r k) _ (s.reader r i)).claim = some t
  by_cases hik : i = k
  · subst hik
    rw [Function.update_self]
  · rw [Function.update_of_ne (reader_ne hik)]
    exact hclaims i (Nat.zero_le i) (by omega)

/-- Markers from one reader on, when the reader before them changes. -/
theorem claims_after {n j : ℕ} (hclaims : s.Claims t r k n) (f : ReaderWaitState → ReaderWaitState)
    (hkj : k ≤ j) : (s.setReader (s.reader r j) f).Claims t r (j+1) n := by
  intro i hj hi
  change (Function.update s.readers (s.reader r j) _ (s.reader r i)).claim = some t
  rw [Function.update_of_ne (reader_ne (by omega))]
  exact hclaims i (by omega) hi

/-- `claim` proceeds at every reader. -/
theorem claim_proceeds (hsound : s.Sound endpoints t (.claiming r k))
    (hready : k < s.size endpoints r → s.Free (s.reader r k)) :
    Proceeds endpoints s t (s.claim endpoints t r k) := by
  obtain ⟨hstage,hclaims,hunattached⟩ := hsound
  have hreject (hk : k < s.size endpoints r) : Proceeds endpoints s t (s.rejectClaim t r k) := by
    refine Proceeds.of_goto ((effect_refl s t).setReader (.block (hready hk))) ?_
    refine ⟨hstage,?_,Nat.zero_le k,fun i _ hi => ?_⟩
    · change (Function.update s.readers (s.reader r k) _ (s.reader r k)).callbackMutex = some t
      rw [Function.update_self]
    · change (Function.update s.readers (s.reader r k) _ (s.reader r i)).claim = some t
      rw [Function.update_of_ne (reader_ne (by omega))]
      exact hclaims i (Nat.zero_le i) hi
  unfold System.claim
  dsimp only
  split_ifs with hk hclosing hregistered
  · exact hreject hk
  · exact hreject hk
  · obtain ⟨hregistration,hclaim⟩ := not_or.mp hregistered
    exact Proceeds.of_goto ((effect_refl s t).setReader
      (.claim (not_not.mp hregistration) (not_not.mp hclaim)))
      ⟨hstage,claims_succ hclaims,hunattached⟩
  · exact Proceeds.of_goto (effect_refl s t)
      ⟨hstage,fun i hi hsize => hclaims i hi (by omega),hunattached⟩

/-- `clear_reader_claims` proceeds up to the reader that is locked. -/
theorem reject_proceeds {j : ℕ} (hsound : s.Sound endpoints t (.rejecting r k j))
    (hready : s.Free (s.reader r j)) : Proceeds endpoints s t (s.reject t r k j) := by
  obtain ⟨hstage,howner,hle,hclaims⟩ := hsound
  have hj : j < k := by
    refine Nat.lt_of_le_of_ne hle fun heq => ?_
    subst heq
    exact Option.some_ne_none t (howner.symm.trans hready)
  refine Proceeds.of_goto ((effect_refl s t).setReader (.drop (hclaims j (Nat.le_refl j) hj))) ?_
  refine ⟨hstage,?_,hj,claims_after hclaims _ (Nat.le_refl j)⟩
  change (Function.update s.readers (s.reader r j) _ (s.reader r k)).callbackMutex = some t
  rw [Function.update_of_ne (reader_ne (by omega))]
  exact howner

/-- The add of a registration that another call cannot find any more fails. -/
theorem failAdd_proceeds (hstage : (s.registrations r).stage = .claimed t ∨
    (s.registrations r).stage = .published t) : Proceeds endpoints s t (s.failAdd t r) :=
  Proceeds.of_goto (((effect_refl s t).setMutex).setRegistration (.settle hstage)) trivial

/-- `clear_reader_claims` proceeds. -/
theorem clearClaim_proceeds (hsound : s.Sound endpoints t (.clearing r k)) :
    Proceeds endpoints s t (s.clearClaim endpoints t r k) := by
  obtain ⟨hstage,hclaims⟩ := hsound
  unfold System.clearClaim
  split_ifs with hk
  · exact Proceeds.of_goto ((effect_refl s t).setReader (.drop (hclaims k (Nat.le_refl k) hk)))
      ⟨hstage,claims_after hclaims _ (Nat.le_refl k)⟩
  · exact failAdd_proceeds (.inl hstage)
/-- Markers are read from the readers of an endpoint only. -/
theorem System.Claims.same {n : ℕ} (hclaims : s.Claims t r k n) (hreaders : s'.readers = s.readers)
    (hendpoint : (s'.registrations r).endpoint = (s.registrations r).endpoint) :
    s'.Claims t r k n := by
  intro i hk hi
  have hreader : s'.reader r i = s.reader r i := by rw [System.reader, System.reader, hendpoint]
  rw [hreaders, hreader]
  exact hclaims i hk hi

/-- The registration that changes. -/
theorem setRegistration_self (f : Registration → Registration) (s : System) :
    (s.setRegistration r f).registrations r = f (s.registrations r) := Function.update_self ..

/-- `attach_reader_conditions` proceeds at every reader. -/
theorem attach_proceeds (hsound : s.Sound endpoints t (.attaching r k)) :
    Proceeds endpoints s t (s.attach endpoints t r k) := by
  obtain ⟨hstage,hclaims,hunattached⟩ := hsound
  unfold System.attach
  split_ifs with hk hwanted
  · exact Proceeds.of_goto (effect_refl s t)
      ⟨hstage,hclaims,fun i hi => hunattached i (by omega)⟩
  · exact Proceeds.of_goto (effect_refl s t) ⟨hstage,hclaims,hunattached⟩
  · refine Proceeds.of_effect ((effect_refl s t).setRegistration (.publish hstage))
      fun heffect => ⟨?_,?_,fun hclosed => Bool.noConfusion hclosed⟩
    · rw [setRegistration_self]
    · rw [heffect.size_kept fun hnew => Stage.noConfusion (hstage.symm.trans hnew)]
      exact hclaims.same rfl (by rw [setRegistration_self])

/-- The section that attaches a condition proceeds. -/
theorem attachNative_proceeds (hsound : s.Sound endpoints t (.attachingNative r k)) :
    Proceeds endpoints s t (s.attachNative t r k) := by
  obtain ⟨hstage,hclaims,hunattached⟩ := hsound
  unfold System.attachNative
  split_ifs with hclosing
  · exact Proceeds.of_goto (effect_refl s t) ⟨hstage,hclaims⟩
  · refine Proceeds.of_effect
      ((effect_refl s t).setRegistration (.condition k true (.inl hstage)))
      fun heffect => ⟨?_,?_,fun i hi => ?_⟩
    · rw [System.setCondition, setRegistration_self]
      exact hstage
    · rw [heffect.size_kept fun hnew => Stage.noConfusion (hstage.symm.trans hnew)]
      exact hclaims.same rfl (by rw [System.setCondition, setRegistration_self])
    · rw [System.setCondition, setRegistration_self]
      exact (Function.update_of_ne (by omega) _ _).trans (hunattached i (by omega))

/-- `detach_attached_reader_conditions` proceeds. -/
theorem unattach_proceeds (hsound : s.Sound endpoints t (.unattaching r)) :
    Proceeds endpoints s t (s.unattach t r) := by
  obtain ⟨hstage,hclaims⟩ := hsound
  refine Proceeds.of_effect ((effect_refl s t).setRegistration (.unattach hstage))
    fun heffect => ⟨?_,?_⟩
  · rw [setRegistration_self]
    exact hstage
  · rw [heffect.size_kept fun hnew => Stage.noConfusion (hstage.symm.trans hnew)]
    exact hclaims.same rfl (by rw [setRegistration_self])

/-- The second loop of `claim` proceeds at every reader. -/
theorem publish_proceeds {closed : Bool} (hsound : s.Sound endpoints t (.publishing r k closed)) :
    Proceeds endpoints s t (s.publish endpoints t r k closed) := by
  obtain ⟨hstage,hclaims,hclosed⟩ := hsound
  unfold System.publish
  dsimp only
  split_ifs with hk hc
  · refine Proceeds.of_effect ((effect_refl s t).setReader
      (.publish r (hclaims k (Nat.le_refl k) hk) hstage rfl))
      fun heffect => ⟨hstage,claims_after hclaims _ (Nat.le_refl k),fun hor => ?_⟩
    rcases Bool.or_eq_true_iff.mp hor with hclosed' | hclosing
    · exact heffect.closingAny_kept (hclosed hclosed')
    · exact ⟨k,heffect.closing_kept hclosing⟩
  · exact Proceeds.of_goto (effect_refl s t) ⟨⟨hstage,hclosed hc⟩,Caller.noConfusion⟩
  · exact Proceeds.of_goto (effect_refl s t) hstage

/-- `add` proceeds after it looked at the phase. -/
theorem check_proceeds (hsound : s.Sound endpoints t (.checking r)) :
    Proceeds endpoints s t (s.check t r) := by
  unfold System.check
  split_ifs with hphase
  · exact Proceeds.of_goto (effect_refl s t) hsound
  · exact Proceeds.of_goto (effect_refl s t) ⟨hsound,hphase,fun hcaller => absurd rfl hcaller⟩

/-- The topology callbacks are installed one by one. -/
theorem install_proceeds (hpc : s.pc t = .installing r k)
    (hsound : s.Sound endpoints t (.installing r k)) :
    Proceeds endpoints s t (s.install endpoints t r k) := by
  unfold System.install
  split_ifs with hk
  · exact Proceeds.of_goto ((effect_refl s t).setReader (.install r hpc hsound rfl)) hsound
  · exact Proceeds.of_goto (effect_refl s t) hsound

/-- `add` returns. -/
theorem list_proceeds (hpc : s.pc t = .listing r) (hsound : s.Sound endpoints t (.listing r)) :
    Proceeds endpoints s t (s.list t r) :=
  Proceeds.of_goto (((effect_refl s t).setMutex).setRegistration (.list hpc hsound)) trivial

/-- The reason to detach a registration stays while its stage does. -/
theorem System.Entitled.own {caller : Caller} (h : Effect s t s')
    (hstage : (s'.registrations r).stage = (s.registrations r).stage)
    (hentitled : s.Entitled t r caller) : s'.Entitled t r caller := by
  have hendpoint := h.endpoint_kept hentitled.known.issued
  cases caller with
  | remove => exact hstage.trans hentitled
  | close => exact ⟨h.known_kept hentitled.1,hendpoint ▸ h.closingAny_kept hentitled.2⟩
  | rollback => exact ⟨hstage.trans hentitled.1,hendpoint ▸ h.closingAny_kept hentitled.2⟩
  | add => exact hstage.trans hentitled

/-- Why a registration may be detached that is attached. -/
theorem System.Entitled.closing {caller : Caller} (hentitled : s.Entitled t r caller)
    (hcaller : caller ≠ .add) : (s.registrations r).stage = .settled ∨
      s.ClosingAny (s.registrations r).endpoint := by
  cases caller with
  | remove => exact .inl hentitled
  | close => exact .inr hentitled.2
  | rollback => exact .inr hentitled.2
  | add => exact absurd rfl hcaller

/-- A detachment that failed returns to its caller. -/
theorem leaveDetach_proceeds {caller : Caller} (hentitled : s.Entitled t r caller) :
    Proceeds endpoints s t (s.leaveDetach t r caller) := by
  cases caller with
  | rollback => exact failAdd_proceeds (.inr hentitled.1)
  | remove => exact Proceeds.of_goto (effect_refl s t) trivial
  | close => exact Proceeds.of_goto (effect_refl s t) trivial
  | add => exact Proceeds.of_goto (effect_refl s t) trivial

/-- The exchange of the phase proceeds. -/
theorem detach_proceeds {caller : Caller} (hsound : s.Sound endpoints t (.detaching r caller)) :
    Proceeds endpoints s t (s.detach t r caller) := by
  obtain ⟨hentitled,hcaller⟩ := hsound
  unfold System.detach
  split_ifs with hphase
  · refine Proceeds.of_effect ((effect_refl s t).setRegistration
      (.detaching hentitled.known (hentitled.closing hcaller)))
      fun heffect => ⟨hentitled.own heffect (by rw [setRegistration_self]),?_⟩
    rw [setRegistration_self]
    exact RegistrationPhase.noConfusion
  · exact leaveDetach_proceeds hentitled

/-- `detach` locks the conditions. -/
theorem lock_proceeds {caller : Caller} (hsound : s.Sound endpoints t (.locking r caller))
    (hready : (s.registrations r).conditionsMutex = none) :
    Proceeds endpoints s t (s.lock t r caller) := by
  obtain ⟨hentitled,hphase⟩ := hsound
  refine Proceeds.of_effect ((effect_refl s t).setRegistration
    (.lock hentitled.known hready))
    fun heffect => ⟨hentitled.own heffect (by rw [setRegistration_self]),
      heffect.phase_kept hentitled.known.issued hphase,fun _ => ?_⟩
  rw [setRegistration_self]

/-- The first section of `release` proceeds at every reader. -/
theorem release_proceeds {caller : Caller} (hsound : s.Sound endpoints t (.releasing r k caller)) :
    Proceeds endpoints s t (s.release endpoints t r k caller) := by
  obtain ⟨hentitled,hphase,howner⟩ := hsound
  have herase (hcaller : caller ≠ .add) : Proceeds endpoints s t (s.goto t (.erasing r caller)) :=
    Proceeds.of_goto (effect_refl s t) ⟨hentitled,hphase,hentitled.known,howner hcaller⟩
  unfold System.release
  split_ifs with hk hregistered
  · exact Proceeds.of_goto (effect_refl s t) ⟨hentitled,hphase,howner⟩
  · exact Proceeds.of_goto (effect_refl s t) ⟨hentitled,hphase,howner⟩
  · cases caller with
    | add => exact failAdd_proceeds (.inr hentitled)
    | remove => exact herase Caller.noConfusion
    | close => exact herase Caller.noConfusion
    | rollback => exact herase Caller.noConfusion

/-- The second section of `release` proceeds. -/
theorem clearReader_proceeds {caller : Caller}
    (hsound : s.Sound endpoints t (.clearingReader r k caller)) :
    Proceeds endpoints s t (s.clearReader t r k caller) := by
  obtain ⟨hentitled,hphase,howner⟩ := hsound
  unfold System.clearReader
  split_ifs with hregistered
  · exact Proceeds.of_goto (effect_refl s t) ⟨hentitled,hphase,howner⟩
  · refine Proceeds.of_effect (((effect_refl s t).setReader
      (.clear r (not_not.mp hregistered) hphase)).setRegistration
        (.condition k false (.inr (.inr ⟨hentitled.known,rfl,hphase⟩)))) fun heffect =>
      ⟨hentitled.own heffect (by rw [System.setCondition, setRegistration_self]; rfl),
        heffect.phase_kept hentitled.known.issued hphase,fun hcaller => ?_⟩
    rw [System.setCondition, setRegistration_self]
    exact howner hcaller

/-- The registration is erased. -/
theorem erase_proceeds {caller : Caller} (hsound : s.Sound endpoints t (.erasing r caller)) :
    Proceeds endpoints s t (s.erase t r caller) := by
  obtain ⟨hentitled,hphase,hholds⟩ := hsound
  refine Proceeds.of_effect ((effect_refl s t).setRegistration (.erase hholds.1))
    fun heffect => ⟨hentitled.own heffect (by rw [setRegistration_self]),
      heffect.phase_kept hentitled.known.issued hphase,heffect.known_kept hholds.1,?_⟩
  rw [setRegistration_self]
  exact hholds.2

/-- A call copies the detach callback of a reader that is closing. -/
theorem callDetach_proceeds {x : ReaderId} (hinv : Structured endpoints s)
    (hsound : s.Sound endpoints t (.waiting x)) : Proceeds endpoints s t (s.callDetach t x) := by
  unfold System.callDetach
  cases hcallback : (s.readers x).detachCallback with
  | none => exact Proceeds.of_goto (effect_refl s t) trivial
  | some r =>
    rw [hinv.detachCallback] at hcallback
    obtain ⟨hknown,hendpoint⟩ := hinv.registered x r hcallback
    exact Proceeds.of_goto (effect_refl s t) ⟨⟨hknown,x.index,by rw [hendpoint]; exact hsound⟩,Caller.noConfusion⟩

/-- A call copies the topology callback. -/
theorem copyCallback_proceeds {x : ReaderId} (hinv : Structured endpoints s) :
    Proceeds endpoints s t (s.copyCallback t x) := by
  unfold System.copyCallback
  cases hcallback : (s.readers x).topologyCallback with
  | none => exact Proceeds.of_goto (effect_refl s t) trivial
  | some r => exact Proceeds.of_goto (effect_refl s t) (hinv.topologyCallback x r hcallback).1

/-- `set_reader_blocking` locks the conditions. -/
theorem setReaderBlocking_proceeds (hsound : s.Sound endpoints t (.calling r k))
    (hready : (s.registrations r).conditionsMutex = none) :
    Proceeds endpoints s t (s.setReaderBlocking endpoints t r k) := by
  unfold System.setReaderBlocking
  split_ifs with hcurrent
  · refine Proceeds.of_effect ((effect_refl s t).setRegistration (.lock hsound hready))
      fun heffect => ⟨heffect.known_kept hsound,?_⟩
    rw [setRegistration_self]
  · exact Proceeds.of_goto (effect_refl s t) trivial

/-- The next reader of a registration is reconciled, or the conditions are unlocked. -/
theorem leaveReader_proceeds {all : Bool} {conditions : ℕ → Bool} (h : Effect s t s')
    (hholds : s.Holds t r)
    (hsame : s'.registrations r = {s.registrations r with readerConditions := conditions}) :
    Proceeds endpoints s t (s'.leaveReader endpoints t r k all) := by
  unfold System.leaveReader
  split_ifs with hmore
  · refine Proceeds.of_goto h ⟨h.known_kept hholds.1,?_⟩
    rw [hsame]
    exact hholds.2
  · refine Proceeds.of_goto (h.setRegistration ?_) trivial
    rw [hsame]
    exact .unlock conditions hholds

/-- `reconcile_reader_condition` proceeds. -/
theorem decide_proceeds {all : Bool} (hsound : s.Sound endpoints t (.deciding r k all)) :
    Proceeds endpoints s t (s.decide endpoints t r k all) := by
  have hholds : s.Holds t r := hsound
  unfold System.decide
  dsimp only
  split_ifs with henabled hattached
  · exact leaveReader_proceeds (effect_refl s t) hholds rfl
  · exact Proceeds.of_goto (effect_refl s t) ⟨hholds,Bool.not_eq_true _ ▸ hattached⟩
  · exact leaveReader_proceeds ((effect_refl s t).setRegistration
      (.condition k false (.inr (.inl hholds)))) hholds (setRegistration_self _ s)

/-- `recheck` proceeds. -/
theorem recheck_proceeds {all : Bool} (hsound : s.Sound endpoints t (.rechecking r k all)) :
    Proceeds endpoints s t (s.recheck endpoints t r k all) := by
  obtain ⟨hholds,hunattached⟩ := hsound
  unfold System.recheck
  split_ifs with hwanted
  · exact leaveReader_proceeds (effect_refl s t) hholds rfl
  · exact Proceeds.of_goto (effect_refl s t) ⟨hholds,hunattached⟩

/-- The section that attaches a condition again proceeds. -/
theorem fix_proceeds {all : Bool} (hsound : s.Sound endpoints t (.fixing r k all)) :
    Proceeds endpoints s t (s.fix endpoints t r k all) := by
  obtain ⟨hholds,hunattached⟩ := hsound
  unfold System.fix
  split_ifs with hclosing
  · exact Proceeds.of_goto (effect_refl s t) hholds
  · exact leaveReader_proceeds ((effect_refl s t).setRegistration
      (.condition k true (.inr (.inl hholds)))) hholds (setRegistration_self _ s)

/-- The detachment is over. -/
theorem finish_proceeds {caller : Caller} (hsound : s.Sound endpoints t (.finishing r caller)) :
    Proceeds endpoints s t (s.finish t r caller) := by
  obtain ⟨hentitled,hphase,hholds⟩ := hsound
  have heffect : Effect s t (s.setRegistration r fun reg =>
      {reg with
        phase := .detached
        conditionsMutex := none}) :=
    (effect_refl s t).setRegistration (.finish (s.registrations r).stage hholds hphase (.inl rfl))
  cases caller with
  | rollback =>
    refine Proceeds.of_goto (heffect.setMutex.setRegistration ?_) trivial
    rw [System.setMutex_registrations, setRegistration_self]
    exact .finish .settled hholds hphase (.inr ⟨hentitled.1,rfl⟩)
  | remove => exact Proceeds.of_goto heffect trivial
  | close => exact Proceeds.of_goto heffect trivial
  | add => exact Proceeds.of_goto heffect trivial

/-- The WaitSet is poisoned. -/
theorem poison_proceeds (hsound : s.Sound endpoints t (.poisoning r)) :
    Proceeds endpoints s t (s.poison t r) := by
  have heffect : Effect s t ((s.unlock r).goto t .idle) :=
    ((effect_refl s t).setRegistration (.unlock _ hsound)).goto
  refine ⟨⟨heffect.reader,heffect.registration,heffect.nextRegistration,heffect.others⟩,?_⟩
  change System.Sound endpoints t _ (Function.update s.pc t .idle t)
  rw [Function.update_self]
  exact trivial

/-- `set_interest` stores the mask. -/
theorem storeInterest_proceeds {mask : Mask} (hsound : s.Sound endpoints t (.interesting r mask))
    (hready : (s.registrations r).conditionsMutex = none) :
    Proceeds endpoints s t (s.storeInterest endpoints t r mask) := by
  unfold System.storeInterest
  split_ifs with hinvalid
  · exact Proceeds.of_goto (effect_refl s t) trivial
  · refine Proceeds.of_effect ((effect_refl s t).setRegistration (.interest mask hsound hready))
      fun heffect => ⟨heffect.known_kept hsound,?_⟩
    rw [setRegistration_self]

/-- A call that is not in progress may stay so. -/
theorem idle_proceeds (hidle : s.pc t = .idle) : Proceeds endpoints s t s :=
  ⟨effect_refl s t,by rw [hidle]; exact trivial⟩

/-- `add` creates a registration. -/
theorem add_proceeds {w : WaitSetId} {e : EndpointId} (hinv : Structured endpoints s)
    (hidle : s.pc t = .idle) : Proceeds endpoints s t (s.add endpoints t w e) := by
  unfold System.add
  split_ifs with hrejected
  · exact idle_proceeds hidle
  · have hnew := hinv.unissued s.nextRegistration (Nat.le_refl _)
    refine ⟨⟨fun _ => .inl rfl,fun r => ?_,Nat.le_succ _,fun t' hne => Function.update_of_ne hne _ _⟩,?_⟩
    · by_cases hr : r = s.nextRegistration
      · subst hr
        refine .inr ?_
        change RegistrationChange s t _ _ (Function.update s.registrations _ _ _)
        rw [Function.update_self]
        exact .create w e hnew (Nat.lt_succ_self _)
      · exact .inl (Function.update_of_ne hr _ _)
    · change System.Sound endpoints t _ (Function.update s.pc t _ t)
      rw [Function.update_self]
      have hfresh : ((Function.update s.registrations s.nextRegistration
          (.fresh w e (.claimed t))) s.nextRegistration) = .fresh w e (.claimed t) :=
        Function.update_self ..
      refine ⟨congrArg Registration.stage hfresh,fun i _ hi => absurd hi (Nat.not_lt_zero i),
        fun i _ => ?_⟩
      exact congrFun (congrArg Registration.readerConditions hfresh) i

/-- `remove` begins to detach. -/
theorem remove_proceeds (hinv : Structured endpoints s) (hidle : s.pc t = .idle) :
    Proceeds endpoints s t (s.remove t r) := by
  unfold System.remove
  split_ifs with hlisted
  · exact Proceeds.of_goto (effect_refl s t) ⟨hinv.listed r hlisted,Caller.noConfusion⟩
  · exact idle_proceeds hidle

/-- `set_interest` finds the registration. -/
theorem setInterest_proceeds {mask : Mask} (hinv : Structured endpoints s) (hidle : s.pc t = .idle) :
    Proceeds endpoints s t (s.setInterest t r mask) := by
  unfold System.setInterest
  split_ifs with hlisted
  · exact Proceeds.of_goto (effect_refl s t) (known_of_settled (hinv.listed r hlisted))
  · exact idle_proceeds hidle

/-- `close` marks a reader. -/
theorem close_proceeds {x : ReaderId} (hidle : s.pc t = .idle) :
    Proceeds endpoints s t (s.close t x) := by
  refine Proceeds.of_goto ((effect_refl s t).setReader (.close hidle)) ?_
  change (Function.update s.readers x _ x).closing = true
  rw [Function.update_self]

/-- `set_blocking_enabled` exchanges the flag. -/
theorem setBlockingEnabled_proceeds {x : ReaderId} {enabled : Bool} (hidle : s.pc t = .idle) :
    Proceeds endpoints s t (s.setBlockingEnabled t x enabled) := by
  unfold System.setBlockingEnabled
  split_ifs with hsame
  · exact idle_proceeds hidle
  · exact Proceeds.of_goto ((effect_refl s t).setReader (.toggle enabled)) trivial

/-- Every step of a call proceeds. -/
theorem step_proceeds (hinv : Structured endpoints s) (hready : s.Ready endpoints t) :
    Proceeds endpoints s t (s.step endpoints t) := by
  have hsound := hinv.calls t
  unfold System.Ready at hready
  unfold System.step
  cases hpc : s.pc t <;> rw [hpc] at hsound hready <;> dsimp only at hready ⊢
  case claiming r k => exact claim_proceeds hsound hready
  case rejecting r k j => exact reject_proceeds hsound hready
  case clearing r k => exact clearClaim_proceeds hsound
  case attaching r k => exact attach_proceeds hsound
  case attachingNative r k => exact attachNative_proceeds hsound
  case unattaching r => exact unattach_proceeds hsound
  case publishing r k closed => exact publish_proceeds hsound
  case checking r => exact check_proceeds hsound
  case installing r k => exact install_proceeds hpc hsound
  case listing r => exact list_proceeds hpc hsound
  case detaching r caller => exact detach_proceeds hsound
  case locking r caller => exact lock_proceeds hsound hready
  case releasing r k caller => exact release_proceeds hsound
  case clearingReader r k caller => exact clearReader_proceeds hsound
  case erasing r caller => exact erase_proceeds hsound
  case finishing r caller => exact finish_proceeds hsound
  case waiting x => exact callDetach_proceeds hinv hsound
  case copying x => exact copyCallback_proceeds hinv
  case calling r k => exact setReaderBlocking_proceeds hsound hready
  case interesting r mask => exact storeInterest_proceeds hsound hready
  case deciding r k all => exact decide_proceeds hsound
  case rechecking r k all => exact recheck_proceeds hsound
  case fixing r k all => exact fix_proceeds hsound
  case poisoning r => exact poison_proceeds hsound

/-- What holds of readers, registrations and calls is kept where a call proceeds. -/
theorem Structured.kept (hinv : Structured endpoints s) (h : Proceeds endpoints s t s') :
    Structured endpoints s' := by
  obtain ⟨heffect,hsound⟩ := h
  have hfound {x : ReaderId} {r : RegistrationId}
      (h : s.Known r ∧ (s.registrations r).endpoint = x.endpoint) :
      s'.Known r ∧ (s'.registrations r).endpoint = x.endpoint :=
    ⟨heffect.known_kept h.1,(heffect.endpoint_kept h.1.issued).trans h.2⟩
  constructor
  case unissued =>
    intro r hr
    have hstage := hinv.unissued r (Nat.le_trans heffect.nextRegistration hr)
    rcases heffect.registration r with heq | hchange
    · rw [heq, hstage]
    · exact absurd (hchange.issued hstage) (Nat.not_lt.mpr hr)
  case listed =>
    intro r hlisted
    rcases heffect.registration r with heq | hchange
    · rw [heq] at hlisted ⊢
      exact hinv.listed r hlisted
    · exact hchange.listed_settled (hinv.listed r) hlisted
  case claimed =>
    intro x t' hclaim
    rcases heffect.reader x with heq | hchange
    · rw [heq] at hclaim ⊢
      exact hinv.claimed x t' hclaim
    · exact hchange.claimed (hinv.claimed x t') hclaim
  case detachCallback =>
    intro x
    rcases heffect.reader x with heq | hchange
    · rw [heq]
      exact hinv.detachCallback x
    · exact hchange.detachCallback (hinv.detachCallback x)
  case registered =>
    intro x r hregistered
    rcases heffect.reader x with heq | hchange
    · exact hfound (hinv.registered x r (heq ▸ hregistered))
    · rcases hchange.registered hregistered with hsame | ⟨hstage,hendpoint⟩
      · exact hfound (hinv.registered x r hsame)
      · exact hfound ⟨known_of_published hstage,hendpoint⟩
  case topologyCallback =>
    intro x r hcallback
    rcases heffect.reader x with heq | hchange
    · exact hfound (hinv.topologyCallback x r (heq ▸ hcallback))
    · rcases hchange.topologyCallback hcallback with hsame | ⟨hstage,hendpoint⟩
      · exact hfound (hinv.topologyCallback x r hsame)
      · exact hfound ⟨known_of_published hstage,hendpoint⟩
  case departing =>
    intro r hstage hphase
    rcases heffect.registration r with heq | hchange
    · rw [heq] at hstage hphase ⊢
      exact heffect.closingAny_kept (hinv.departing r hstage hphase)
    · exact heffect.closingAny_kept (hchange.departing (hinv.departing r) hstage hphase)
  case calls =>
    intro t'
    by_cases hne : t' = t
    · exact hne ▸ hsound
    · rw [heffect.others t' hne]
      exact (hinv.calls t').kept heffect hne

/-- The call of an event. -/
def Event.caller : Event → CallId
  | .add t _ _ | .remove t _ | .close t _ | .setBlockingEnabled t _ _ | .setInterest t _ _
  | .step t => t

/-- Every event lets its call proceed. -/
theorem next_proceeds {e : Event} (hinv : Structured endpoints s)
    (henabled : Enabled endpoints s e) :
    Proceeds endpoints s e.caller (next endpoints s e) := by
  cases e with
  | add t w e => exact add_proceeds hinv henabled.1
  | remove t r => exact remove_proceeds hinv henabled.1
  | close t x => exact close_proceeds henabled.1
  | setBlockingEnabled t x enabled => exact setBlockingEnabled_proceeds henabled.1
  | setInterest t r mask => exact setInterest_proceeds hinv henabled.1
  | step t => exact step_proceeds hinv henabled

/-- In every state, readers, registrations and calls agree. -/
theorem structured {ok : System → Event → Prop} {es : List Event}
    (hrun : (machine endpoints).RunWhen ok .initial es s) : Structured endpoints s := by
  refine hrun.invariant (Structured endpoints) ?_ fun s e hinv henabled _ =>
    hinv.kept (next_proceeds hinv henabled)
  constructor
  case unissued => exact fun _ _ => rfl
  case listed => exact fun _ hlisted => Bool.noConfusion hlisted
  case claimed => exact fun _ _ _ => rfl
  case detachCallback => exact fun _ => rfl
  case registered => exact fun _ r hregistered => absurd hregistered (Option.some_ne_none r).symm
  case topologyCallback => exact fun _ r hcallback => absurd hcallback (Option.some_ne_none r).symm
  case departing => exact fun _ _ hphase => absurd rfl hphase
  case calls => exact fun _ => trivial

end Calls

end Dmw.ReaderConditions
