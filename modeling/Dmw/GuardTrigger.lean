import Dmw.TriggerHandoff
import Dmw.WaitSets

/-!
# Triggers under a wait

`ready_mask` consumes a GuardCondition's trigger while the ready list is still
provisional, and the topology test that follows throws the list away when any
registration of the WaitSet changed meanwhile. Where no such list carries the
last trace of a trigger, and nobody consumes through an outdated registration,
the WaitSets follow the safe hand-off.
-/

namespace Dmw.GuardTrigger

open GuardedRuns TriggerHandoff WaitSets

/-- The ready list a detach of a wait iteration keeps for later. -/
def Resume.carried : Resume → List Token
  | .scan progress => progress.ready
  | _ => []

/-- The ready list a thread is assembling or about to return. -/
@[grind =] def carried : Pc → List Token
  | .scanning scan => scan.ready
  | .consuming scan .. => scan.ready
  | .exchanging scan .. => scan.ready
  | .detaching _ next => Resume.carried next
  | .releasing _ next => Resume.carried next
  | .poisoning _ next => Resume.carried next
  | .erasing _ next => Resume.carried next
  | .detachLeaving _ next => Resume.carried next
  | .delivering _ ready => ready
  | _ => []

/-- The hand-off state of all GuardConditions and waits. -/
def abstract (s : System) : State GuardId Token ThreadId where
  raised := fun g => (s.guards g).triggerGeneration
  taken := fun g => (s.guards g).consumedGeneration
  holder := fun g => (s.guards g).holder
  muted := fun g => (s.guards g).closing
  owed := s.owed
  batch := fun t => carried (s.pc t)

/-- The exchange consumes for a GuardCondition that carries this registration
or none, or leaves a newer trigger. -/
def ConsumesForItself (s : System) (g : GuardId) (token : Token) (triggered : ℕ) : Prop :=
  ∀ other, (s.guards g).holder = some other →
    other = token ∨ (s.guards g).closing = true ∨ (s.guards g).triggerGeneration ≠ triggered

/-- Every GuardCondition on the list is registered otherwise by now, closing,
or was triggered again. -/
def Dispensable (s : System) (ready : List Token) : Prop :=
  ∀ g token, (s.guards g).holder = some token → token ∈ ready →
    (s.guards g).closing = true ∨
      (s.guards g).triggerGeneration ≠ (s.guards g).consumedGeneration

/-- Nothing is consumed through an outdated registration, and an iteration
retries after a topology change only with a dispensable ready list. -/
def Preserving (s : System) : Event → Prop
  | .exchange _ _ g token consumed triggered spurious =>
    spurious = false → (s.guards g).consumedGeneration = consumed →
      ConsumesForItself s g token triggered
  | .decideReady _ scan _ =>
    (s.waitSets scan.waitSetId).topologyGeneration ≠ scan.observedTopology →
      Dispensable s scan.ready
  | _ => True

/-- A trigger generation once loaded is not ahead of the current one. -/
def Loaded (s : System) : Prop :=
  ∀ t scan g token consumed triggered, s.pc t = .exchanging scan g token consumed triggered →
    triggered ≤ (s.guards g).triggerGeneration

section

variable {s s' : System} {t : ThreadId} {next : Pc}

@[simp] theorem carried_resume (detached : Bool) (next : Resume) :
    carried (next.pc detached) = Resume.carried next := by
  cases next with
  | leave => rfl
  | closeSet w => cases detached <;> rfl
  | scan progress => rfl

/-- Moving one thread changes one batch. -/
theorem abstract_goto (s : System) (t : ThreadId) (next : Pc) :
    abstract (s.goto t next) =
      {abstract s with batch := Function.update (abstract s).batch t (carried next)} := by
  have hbatch : (abstract (s.goto t next)).batch =
      Function.update (abstract s).batch t (carried next) :=
    Function.comp_update carried s.pc t next
  rw [← hbatch]
  rfl

/-- Changing a GuardCondition changes what the hand-off sees of it. -/
theorem abstract_setGuard (s : System) (g : GuardId) (guard : GuardConditionState) :
    abstract (s.setGuard g guard) = {abstract s with
      raised := Function.update (abstract s).raised g guard.triggerGeneration
      taken := Function.update (abstract s).taken g guard.consumedGeneration
      holder := Function.update (abstract s).holder g guard.holder
      muted := Function.update (abstract s).muted g guard.closing} := by
  have hraised : (abstract (s.setGuard g guard)).raised =
      Function.update (abstract s).raised g guard.triggerGeneration :=
    Function.comp_update GuardConditionState.triggerGeneration s.guards g guard
  have htaken : (abstract (s.setGuard g guard)).taken =
      Function.update (abstract s).taken g guard.consumedGeneration :=
    Function.comp_update GuardConditionState.consumedGeneration s.guards g guard
  have hholder : (abstract (s.setGuard g guard)).holder =
      Function.update (abstract s).holder g guard.holder :=
    Function.comp_update GuardConditionState.holder s.guards g guard
  have hmuted : (abstract (s.setGuard g guard)).muted =
      Function.update (abstract s).muted g guard.closing :=
    Function.comp_update GuardConditionState.closing s.guards g guard
  rw [← hraised, ← htaken, ← hholder, ← hmuted]
  rfl

/-- The ghost is taken over. -/
theorem abstract_setOwed (s : System) (g : GuardId) (owed : Bool) :
    abstract (s.setOwed g owed) =
      {abstract s with owed := Function.update (abstract s).owed g owed} := rfl

/-- An unchanged trigger generation. -/
theorem raised_self (s : System) (g : GuardId) :
    Function.update (abstract s).raised g (s.guards g).triggerGeneration = (abstract s).raised :=
  Function.update_eq_self g _

/-- An unchanged consumed generation. -/
theorem taken_self (s : System) (g : GuardId) :
    Function.update (abstract s).taken g (s.guards g).consumedGeneration = (abstract s).taken :=
  Function.update_eq_self g _

/-- An unchanged registration. -/
theorem holder_self (s : System) (g : GuardId) :
    Function.update (abstract s).holder g (s.guards g).holder = (abstract s).holder :=
  Function.update_eq_self g _

/-- An unchanged closing flag. -/
theorem muted_self (s : System) (g : GuardId) :
    Function.update (abstract s).muted g (s.guards g).closing = (abstract s).muted :=
  Function.update_eq_self g _

/-- A thread that moves with its ready list is invisible. -/
theorem abstract_goto_same (hsame : carried next = carried (s.pc t)) :
    abstract (s.goto t next) = abstract s := by
  have hbatch : Function.update (abstract s).batch t (carried (s.pc t)) = (abstract s).batch :=
    Function.update_eq_self t _
  rw [abstract_goto, hsame, hbatch]

/-- An event after which the hand-off looks the same. -/
theorem stutter_of (hsame : abstract s' = abstract s) : Step (abstract s) (abstract s') :=
  hsame ▸ .stutter

/-- A new trigger generation. -/
theorem abstract_setTriggered (s : System) (g : GuardId) (n : ℕ) :
    abstract (s.setGuard g {s.guards g with triggerGeneration := n}) =
      {abstract s with raised := Function.update (abstract s).raised g n} := by
  have hholder : {s.guards g with triggerGeneration := n}.holder = (s.guards g).holder := rfl
  rw [abstract_setGuard, hholder, taken_self, holder_self, muted_self]

/-- A new consumed generation. -/
theorem abstract_setConsumed (s : System) (g : GuardId) (n : ℕ) :
    abstract (s.setGuard g {s.guards g with consumedGeneration := n}) =
      {abstract s with taken := Function.update (abstract s).taken g n} := by
  have hholder : {s.guards g with consumedGeneration := n}.holder = (s.guards g).holder := rfl
  rw [abstract_setGuard, hholder, raised_self, holder_self, muted_self]

/-- A closing GuardCondition. -/
theorem abstract_setClosing (s : System) (g : GuardId) :
    abstract (s.setGuard g {s.guards g with closing := true}) =
      {abstract s with muted := Function.update (abstract s).muted g true} := by
  have hholder : {s.guards g with closing := true}.holder = (s.guards g).holder := rfl
  rw [abstract_setGuard, hholder, raised_self, taken_self, holder_self]

/-- A new registration, or none. -/
theorem abstract_setRegistered (s : System) (g : GuardId) (token : Token) (ref : Option Ref) :
    abstract (s.setGuard g {s.guards g with registered := token, detachCallback := ref}) =
      {abstract s with
        holder := Function.update (abstract s).holder g {s.guards g with registered := token}.holder} := by
  rw [abstract_setGuard, raised_self, taken_self, muted_self]
  rfl

/-- A thread moves with its ready list after a step of its own. -/
theorem move_of {u : System} (hstep : Step (abstract s) (abstract u)) (hpc : u.pc = s.pc)
    (hsame : carried next = carried (s.pc t)) : Step (abstract s) (abstract (u.goto t next)) := by
  rw [abstract_goto_same (hsame.trans (by rw [hpc]))]
  exact hstep

/-- A trigger raises its generation, if there is one left. -/
theorem trigger_simulates (g : GuardId) : Step (abstract s) (abstract (trigger g s)) := by
  unfold trigger
  split
  · exact .stutter
  · next hleft =>
    have hguard : (s.guards g).trigger =
        {s.guards g with triggerGeneration := (s.guards g).triggerGeneration+1} := if_neg hleft
    rw [hguard, abstract_setOwed, abstract_setTriggered]
    exact .raise g

/-- A release drops the subscription of its own registration. -/
theorem release_simulates (ref : Ref) : Step (abstract s) (abstract (s.release ref)) := by
  unfold System.release
  cases hwaitable : (s.objects ref).waitable with
  | other => exact .stutter
  | guard g =>
    by_cases hown : (s.guards g).registered = (s.objects ref).token
    · have hguard : (s.guards g).release (s.objects ref).token =
          {s.guards g with registered := ⟨0,0⟩, detachCallback := none} := if_pos hown
      have heq := abstract_setRegistered s g ⟨0,0⟩ none
      rw [← hguard] at heq
      exact heq ▸ .unsubscribe g
    · have hguard : (s.guards g).release (s.objects ref).token = s.guards g := if_neg hown
      refine stutter_of ?_
      dsimp only
      rw [hguard, abstract_setGuard, raised_self, taken_self, holder_self, muted_self]

/-- A claim subscribes an unregistered GuardCondition. -/
theorem addClaim_simulates {w : WaitSetId} {ref : Ref} {claimed : Bool}
    (hpc : s.pc t = .claiming w ref) :
    Step (abstract s) (abstract (addClaim t w ref claimed s)) := by
  unfold addClaim
  cases hwaitable : (s.objects ref).waitable with
  | other => exact stutter_of (abstract_goto_same (by rw [hpc]; cases claimed <;> rfl))
  | guard g =>
    dsimp only
    split
    · exact stutter_of (abstract_goto_same (by rw [hpc]; rfl))
    · rw [abstract_goto, abstract_setOwed, GuardConditionState.claim, abstract_setRegistered]
      have hbatch : Function.update (abstract s).batch t (carried (.publishing w ref)) =
          (abstract s).batch := by
        have hnone : carried (.publishing w ref) = (abstract s).batch t := by
          simp [abstract, hpc, carried]
        rw [hnone, Function.update_eq_self]
      dsimp only
      rw [hbatch]
      exact .subscribe g _

/-- A successful exchange takes the triggers for the registration on its list. -/
theorem exchange_simulates {scan : Scan} {g : GuardId} {token : Token} {consumed triggered : ℕ}
    {spurious : Bool} (hpc : s.pc t = .exchanging scan g token consumed triggered)
    (hloaded : triggered ≤ (s.guards g).triggerGeneration)
    (hok : Preserving s (.exchange t scan g token consumed triggered spurious)) :
    Step (abstract s) (abstract (exchange t scan g token consumed triggered spurious s)) := by
  unfold exchange
  dsimp only
  split
  · next hsucceeds =>
    obtain ⟨hspurious, hsame⟩ : spurious = false ∧ (s.guards g).consumedGeneration = consumed := by
      simpa using hsucceeds
    have hbatch : (abstract s).batch t = scan.ready := by simp [abstract, hpc, carried]
    have hstep := Step.take (s := abstract s) t g token triggered hloaded
      (hok hspurious hsame)
    rw [hbatch] at hstep
    rw [abstract_goto, abstract_setConsumed]
    exact hstep
  · exact stutter_of (abstract_goto_same (by rw [hpc]; rfl))

/-- The topology test keeps the ready list or throws it away. -/
theorem decideReady_simulates {scan : Scan} {rest : Rest} (hpc : s.pc t = .scanning scan)
    (hok : Preserving s (.decideReady t scan rest)) :
    Step (abstract s) (abstract (decideReady t scan rest s)) := by
  have hbatch : (abstract s).batch t = scan.ready := by simp [abstract, hpc, carried]
  unfold decideReady
  split
  · next hchanged =>
    rw [abstract_goto]
    refine .discard t fun g token hholder hmem => ?_
    rw [hbatch] at hmem
    exact hok hchanged g token hholder hmem
  · split
    · exact stutter_of (abstract_goto_same (by rw [hpc]; rfl))
    · next hempty =>
      have hready : scan.ready = [] := not_not.mp hempty
      refine stutter_of (abstract_goto_same ?_)
      rw [hpc]
      split <;> simp [carried, hready]

/-- A returned ready list is delivered. -/
theorem deliver_simulates {w : WaitSetId} {ready : List Token} (hpc : s.pc t = .delivering w ready) :
    Step (abstract s) (abstract (deliver t w ready s)) := by
  have hbatch : (abstract s).batch t = ready := by simp [abstract, hpc, carried]
  have hstep := Step.deliver (s := abstract s) t
  have hsettle : TriggerHandoff.settle (abstract s) t = WaitSets.settle ready s := by
    unfold TriggerHandoff.settle
    rw [hbatch]
    rfl
  rw [hsettle] at hstep
  have hmoved := abstract_goto (s.setWaitSet w {s.waitSets w with waiting := false}) t .idle
  have heq : abstract (deliver t w ready s) =
      {abstract s with
        owed := WaitSets.settle ready s
        batch := Function.update (abstract s).batch t []} :=
    congrArg (fun a => {a with owed := WaitSets.settle ready s}) hmoved
  exact heq ▸ hstep

/-- The visit of a registration extends the list by other waitables only. -/
theorem visit_simulates {scan : Scan} {ref : Ref} {closing ready : Bool}
    (hpc : s.pc t = .scanning {scan with todo := ref :: scan.todo}) :
    Step (abstract s) (abstract (visit t scan ref closing ready s)) := by
  have hbatch : (abstract s).batch t = scan.ready := by simp [abstract, hpc, carried]
  unfold visit
  cases hwaitable : (s.objects ref).waitable with
  | guard g =>
    dsimp only
    split <;> exact stutter_of (abstract_goto_same (by rw [hpc]; rfl))
  | other =>
    cases closing with
    | true => exact stutter_of (abstract_goto_same (by rw [hpc]; rfl))
    | false =>
      cases ready with
      | false => exact stutter_of (abstract_goto_same (by rw [hpc]; rfl))
      | true =>
        have hstep := Step.extend (s := abstract s) t (s.objects ref).token
        rw [hbatch] at hstep
        simp only [Bool.false_eq_true, if_false, if_true]
        rw [abstract_goto]
        exact hstep

/-- Every preserving event is a safe step of the hand-off. -/
theorem next_simulates {e : Event} (hloaded : Loaded s) (hen : machine.enabled s e)
    (hok : Preserving s e) : Step (abstract s) (abstract (machine.next s e)) := by
  cases e with
  | trigger g => exact trigger_simulates g
  | addBegin t w waitable =>
    have hpc : s.pc t = .idle := hen.1
    simp only [machine, WaitSets.next, addBegin]
    split
    · exact .stutter
    · have hmoved : Step (abstract s) (abstract ((s.setWaitSet w
          {s.waitSets w with mutex := some t}).goto t (.claiming w s.allocated))) :=
        move_of .stutter rfl (by rw [hpc]; rfl)
      exact hmoved
  | addClaim t w ref claimed => exact addClaim_simulates hen
  | addPublish t w ref threw =>
    have hpc : s.pc t = .publishing w ref := hen
    simp only [machine, WaitSets.next, addPublish]
    split <;> exact move_of .stutter rfl (by rw [hpc]; rfl)
  | addWithdraw t w ref =>
    have hpc : s.pc t = .withdrawing w ref := hen
    exact move_of (release_simulates ref) (release_pc s ref) (by rw [hpc]; rfl)
  | addLeave t w =>
    have hpc : s.pc t = .addLeaving w := hen
    exact move_of .stutter rfl (by rw [hpc]; rfl)
  | removeBegin t w id =>
    have hpc : s.pc t = .idle := hen.1
    simp only [machine, WaitSets.next, removeBegin]
    split
    · exact .stutter
    · exact move_of .stutter rfl (by rw [hpc]; rfl)
  | detachBegin t ref next =>
    have hpc : s.pc t = .detaching ref next := hen
    simp only [machine, WaitSets.next, detachBegin]
    split
    · exact move_of .stutter rfl (by rw [hpc]; rfl)
    · exact move_of .stutter rfl (by rw [hpc, carried_resume]; rfl)
  | detachRelease t ref next failed =>
    have hpc : s.pc t = .releasing ref next := hen
    simp only [machine, WaitSets.next, detachRelease]
    split
    · exact move_of .stutter rfl (by rw [hpc]; rfl)
    · exact move_of (release_simulates ref) (release_pc s ref) (by rw [hpc]; rfl)
  | detachPoison t ref next =>
    have hpc : s.pc t = .poisoning ref next := hen.1
    exact move_of .stutter rfl (by rw [hpc, carried_resume]; rfl)
  | detachErase t ref next =>
    have hpc : s.pc t = .erasing ref next := hen.1
    exact move_of .stutter rfl (by rw [hpc]; rfl)
  | detachLeave t ref next =>
    have hpc : s.pc t = .detachLeaving ref next := hen
    exact move_of .stutter rfl (by rw [hpc, carried_resume]; rfl)
  | closeGuard t g =>
    have hpc : s.pc t = .idle := hen
    refine move_of ?_ rfl (by rw [hpc]; rfl)
    rw [abstract_setClosing]
    exact .mute g
  | detachCallback t g =>
    have hpc : s.pc t = .closingGuard g := hen
    simp only [machine, WaitSets.next, detachCallback]
    split <;> exact move_of .stutter rfl (by rw [hpc]; rfl)
  | closeSet t w =>
    have hpc : s.pc t = .idle := hen.1
    simp only [machine, WaitSets.next, closeSet]
    split
    · exact .stutter
    · exact move_of .stutter rfl (by rw [hpc]; rfl)
  | closeTurn t w =>
    have hpc : s.pc t = .closingSet w := hen.1
    simp only [machine, WaitSets.next, closeTurn]
    split <;> exact move_of .stutter rfl (by rw [hpc]; rfl)
  | waitBegin t w =>
    have hpc : s.pc t = .idle := hen.1
    simp only [machine, WaitSets.next, waitBegin]
    split
    · exact .stutter
    · exact move_of .stutter rfl (by rw [hpc]; rfl)
  | waitCheck t w refused =>
    have hpc : s.pc t = .waiting w := hen.1
    refine move_of .stutter rfl ?_
    rw [hpc]
    split <;> rfl
  | observe t w =>
    have hpc : s.pc t = .checked w := hen
    exact move_of .stutter rfl (by rw [hpc]; rfl)
  | snapshot t w topology order =>
    have hpc : s.pc t = .observed w topology := hen.1
    exact move_of .stutter rfl (by rw [hpc]; rfl)
  | visit t scan ref closing ready => exact visit_simulates hen
  | compare t scan g token consumed =>
    have hpc : s.pc t = .consuming scan g token consumed := hen
    simp only [machine, WaitSets.next, WaitSets.compare]
    split <;> exact move_of .stutter rfl (by rw [hpc]; rfl)
  | exchange t scan g token consumed triggered spurious =>
    exact exchange_simulates hen (hloaded t scan g token consumed triggered hen) hok
  | decideReady t scan rest => exact decideReady_simulates hen.1 hok
  | deliver t w ready => exact deliver_simulates hen.1
  | waitLeave t w =>
    have hpc : s.pc t = .waitLeaving w := hen.1
    exact move_of .stutter rfl (by rw [hpc]; rfl)
  | mutate w failed => exact .stutter

/-- A thread may move anywhere but ahead of a trigger. -/
theorem Loaded.goto (h : Loaded s)
    (hnext : ∀ scan g token consumed triggered,
      next = .exchanging scan g token consumed triggered →
        triggered ≤ (s.guards g).triggerGeneration) : Loaded (s.goto t next) := by
  intro u scan g token consumed triggered hpc
  by_cases hu : u = t
  · subst hu
    exact hnext scan g token consumed triggered (by simpa [System.goto] using hpc)
  · exact h u scan g token consumed triggered (by simpa [System.goto, Function.update_of_ne hu] using hpc)

/-- A trigger generation only grows. -/
theorem Loaded.setGuard (h : Loaded s) {g : GuardId} {guard : GuardConditionState}
    (hgrows : (s.guards g).triggerGeneration ≤ guard.triggerGeneration) :
    Loaded (s.setGuard g guard) := by
  intro u scan g' token consumed triggered hpc
  have hold := h u scan g' token consumed triggered hpc
  by_cases hg : g' = g
  · subst hg
    simpa [System.setGuard] using Nat.le_trans hold hgrows
  · simpa [System.setGuard, Function.update_of_ne hg] using hold

/-- A release changes no generation. -/
theorem Loaded.release (h : Loaded s) (ref : Ref) : Loaded (s.release ref) := by
  unfold System.release
  split
  · next g _ =>
    refine h.setGuard ?_
    unfold GuardConditionState.release
    split <;> exact Nat.le_refl _
  · exact h

/-- Every event keeps the loaded generations behind the current ones. -/
theorem loaded_next {e : Event} (h : Loaded s) : Loaded (machine.next s e) := by
  have hresume : ∀ (detached : Bool) (next : Resume) (scan : Scan) (g : GuardId) (token : Token)
      (consumed triggered : ℕ),
      next.pc detached ≠ .exchanging scan g token consumed triggered := by
    intro detached next scan g token consumed triggered
    cases next with
    | leave => simp [Resume.pc]
    | closeSet w => cases detached <;> simp [Resume.pc]
    | scan progress => simp [Resume.pc]
  cases e with
  | trigger g =>
    simp only [machine, WaitSets.next, trigger]
    split
    · exact h
    · next hleft =>
      refine Loaded.setGuard h ?_
      simp [GuardConditionState.trigger, hleft]
  | addBegin t w waitable =>
    simp only [machine, WaitSets.next, addBegin]
    split
    · exact h
    · exact h.goto (by simp)
  | addClaim t w ref claimed =>
    simp only [machine, WaitSets.next, addClaim]
    split
    · split
      · exact h.goto (by simp)
      · exact Loaded.goto (Loaded.setGuard h (Nat.le_refl _)) (by simp)
    · exact h.goto (by cases claimed <;> simp)
  | addPublish t w ref threw =>
    simp only [machine, WaitSets.next, addPublish]
    split
    · exact h.goto (by simp)
    · exact Loaded.goto h (by simp)
  | addWithdraw t w ref => exact (h.release ref).goto (by simp)
  | addLeave t w => exact Loaded.goto h (by simp)
  | removeBegin t w id =>
    simp only [machine, WaitSets.next, removeBegin]
    split
    · exact h
    · exact h.goto (by simp)
  | detachBegin t ref next =>
    simp only [machine, WaitSets.next, detachBegin]
    split
    · exact Loaded.goto h (by simp)
    · exact h.goto fun scan g token consumed triggered heq => (hresume _ _ _ _ _ _ _ heq).elim
  | detachRelease t ref next failed =>
    simp only [machine, WaitSets.next, detachRelease]
    split
    · exact Loaded.goto h (by simp)
    · exact (h.release ref).goto (by simp)
  | detachPoison t ref next =>
    exact Loaded.goto h fun scan g token consumed triggered heq => (hresume _ _ _ _ _ _ _ heq).elim
  | detachErase t ref next => exact Loaded.goto h (by simp)
  | detachLeave t ref next =>
    exact Loaded.goto h fun scan g token consumed triggered heq => (hresume _ _ _ _ _ _ _ heq).elim
  | closeGuard t g =>
    refine Loaded.goto (Loaded.setGuard h ?_) (by simp)
    exact Nat.le_refl _
  | detachCallback t g =>
    simp only [machine, WaitSets.next, detachCallback]
    split <;> exact h.goto (by simp)
  | closeSet t w =>
    simp only [machine, WaitSets.next, closeSet]
    split
    · exact h
    · exact Loaded.goto h (by simp)
  | closeTurn t w =>
    simp only [machine, WaitSets.next, closeTurn]
    split <;> exact h.goto (by simp)
  | waitBegin t w =>
    simp only [machine, WaitSets.next, waitBegin]
    split
    · exact h
    · exact Loaded.goto h (by simp)
  | waitCheck t w refused =>
    simp only [machine, WaitSets.next, waitCheck]
    split <;> exact h.goto (by simp)
  | observe t w => exact h.goto (by simp)
  | snapshot t w topology order => exact h.goto (by simp)
  | visit t scan ref closing ready =>
    simp only [machine, WaitSets.next, visit]
    split
    · split <;> exact h.goto (by simp)
    · split
      · exact h.goto (by simp)
      · split <;> exact h.goto (by simp)
  | compare t scan g token consumed =>
    simp only [machine, WaitSets.next, WaitSets.compare]
    split
    · exact h.goto (by simp)
    · refine h.goto fun scan' g' token' consumed' triggered' heq => ?_
      cases heq
      exact Nat.le_refl _
  | exchange t scan g token consumed triggered spurious =>
    simp only [machine, WaitSets.next, exchange]
    split
    · refine Loaded.goto (Loaded.setGuard h ?_) (by simp)
      exact Nat.le_refl _
    · exact h.goto (by simp)
  | decideReady t scan rest =>
    simp only [machine, WaitSets.next, decideReady]
    split
    · exact h.goto (by simp)
    · split
      · exact h.goto (by simp)
      · split <;> exact h.goto (by simp)
  | deliver t w ready => exact Loaded.goto h (by simp)
  | waitLeave t w => exact Loaded.goto h (by simp)
  | mutate w failed => exact h

end

/-- A trigger that is owed to a registered GuardCondition still shows in its
generations, or a wait is about to report it. -/
def TriggerKept (s : System) : Prop :=
  ∀ g token, (s.guards g).holder = some token → (s.guards g).closing = false → s.owed g = true →
    (s.guards g).triggerGeneration ≠ (s.guards g).consumedGeneration ∨
      ∃ t, token ∈ carried (s.pc t)

/-- In every preserving run no trigger is lost. -/
theorem trigger_kept_throughout (es : List Event) (s : System)
    (hrun : machine.RunWhen Preserving System.initial es s) :
    machine.Always TriggerKept System.initial es := by
  refine hrun.always fun h => ?_
  have hinitial : Loaded System.initial ∧ Inv (abstract System.initial) := by
    refine ⟨fun t scan g token consumed triggered hpc => ?_, fun _ => Nat.le_refl _, nofun⟩
    cases hpc
  have hinv := h.invariant (fun s => Loaded s ∧ Inv (abstract s)) hinitial ?_
  · exact hinv.2.traced
  · rintro s e ⟨hloaded, hinv⟩ hen hok
    exact ⟨loaded_next hloaded, hinv.step (next_simulates hloaded hen hok)⟩

/-- Thread 0 registers GuardCondition 7 in WaitSet 1, thread 1 begins to wait,
the GuardCondition is triggered and its trigger consumed. -/
def consumed : List Event :=
  let scan : Scan := ⟨1,3,[],[]⟩
  [.addBegin 0 1 (.guard 7),.addClaim 0 1 0 true,.addPublish 0 1 0 false,.addLeave 0 1,
    .waitBegin 1 1,.waitCheck 1 1 false,.observe 1 1,.snapshot 1 1 3 [0],
    .trigger 7,.visit 1 scan 0 false false,.compare 1 scan 7 ⟨1,1⟩ 0,
    .exchange 1 scan 7 ⟨1,1⟩ 0 1 false]

/-- The ready list is returned. -/
def reported : List Event :=
  consumed ++ [.decideReady 1 ⟨1,3,[],[⟨1,1⟩]⟩ .timeout,.deliver 1 1 [⟨1,1⟩]]

/-- Consumption through the current registration, topology unchanged. -/
def undisturbed (s : System) : Event → Bool
  | .exchange _ _ g token .. => (s.guards g).holder = some token
  | .decideReady _ scan _ => (s.waitSets scan.waitSetId).topologyGeneration = scan.observedTopology
  | _ => true

/-- An undisturbed event loses nothing. -/
theorem preserving_of_undisturbed (s : System) (e : Event) (h : undisturbed s e = true) :
    Preserving s e := by
  unfold Preserving
  split
  · intro _ _ other hother
    have hown := of_decide_eq_true h
    rw [hown] at hother
    exact Or.inl (Option.some.inj hother).symm
  · intro hchanged
    exact absurd (of_decide_eq_true h) hchanged
  · trivial

/-- The law where the trigger is reported. -/
theorem trigger_kept_throughout_reported :
    ∃ s, machine.exec System.initial reported = some s ∧
      machine.Always TriggerKept System.initial reported := by
  have hsome : (machine.exec System.initial reported).isSome := by decide
  obtain ⟨s, hexec⟩ := Option.isSome_iff_exists.mp hsome
  refine ⟨s, hexec, trigger_kept_throughout reported s ?_⟩
  exact Machine.runWhen_of_exec undisturbed preserving_of_undisturbed hexec (by decide)

/-- Before the topology test thread 2 registers GuardCondition 8, so the wait
throws its ready list away. -/
def retried : List Event :=
  consumed ++
    [.addBegin 2 1 (.guard 8),.addClaim 2 1 1 true,.addPublish 2 1 1 false,.addLeave 2 1,
      .decideReady 1 ⟨1,3,[],[⟨1,1⟩]⟩ .timeout]

/-- The consumed trigger is neither reported nor pending any more. -/
theorem retried_loses : ¬ ∀ es, machine.Always TriggerKept System.initial es := by
  intro hclaim
  have hend : (machine.exec System.initial retried).map (fun s =>
      decide ((s.guards 7).holder = some ⟨1,1⟩ ∧ (s.guards 7).closing = false ∧ s.owed 7 = true ∧
        (s.guards 7).triggerGeneration = (s.guards 7).consumedGeneration ∧
          ∀ t : ℕ, t < 3 → carried (s.pc t) = [])) = some true := by decide
  obtain ⟨s, hexec, hfinal⟩ := Option.map_eq_some_iff.mp hend
  obtain ⟨hholder, hopen, howed, hconsumed, hempty⟩ := of_decide_eq_true hfinal
  rcases hclaim retried retried s List.prefix_rfl hexec 7 ⟨1,1⟩ hholder hopen howed with
    hdiffer | ⟨t, hcarried⟩
  · exact hdiffer hconsumed
  · have hthreads : ∀ e ∈ retried, ∀ u ∈ e.thread, u < 3 := by decide
    by_cases ht : t < 3
    · rw [hempty t ht] at hcarried
      cases hcarried
    · have hidle : s.pc t = .idle := exec_pc_ne hexec fun e he heq =>
        ht (hthreads e he t heq.symm)
      rw [hidle] at hcarried
      cases hcarried

end Dmw.GuardTrigger
