import Dmw.ExpiryDeadlines
import Dmw.ReaderConditions

/-!
# Waits that end at an expiry deadline

The loop of a wait reads what every registration has ready, folds the deadlines
of timers and action servers into its own, and blocks until that time or a
notification. Each read of one registration and each read of the topology is a
step of its own, between which the clock, the registrations and the goal
registries change. A new generation of the topology starts the loop anew.
-/

namespace Dmw.DeadlineWaits

open GuardedRuns (Machine)
open GoalRegistry
open ReaderConditions (Mask WaitableKind readerDetailBit kWaitableReadyBit kActionGoalExpiredBit)

/-- Registrations are numbered. -/
abbrev RegistrationId := ℕ

/-- `WaitTimeout`. -/
inductive WaitTimeout
  | poll
  | finite (duration : ℕ)
  | infinite
  deriving DecidableEq

/-- `steady_deadline`. -/
def WaitTimeout.deadline (now : ℤ) : WaitTimeout → ℤ
  | .infinite => steadyMax
  | .poll => now
  | .finite duration => saturatingSteadyAdd now duration

/-- What one registration waits for. -/
inductive Waitable
  /-- A GuardCondition; that of an event is not consumed. -/
  | guard (event : Bool) (pending : Bool)
  /-- `logically_ready` and `steady_deadline` of a timer. -/
  | timer (ready : Bool) (deadline : Option ℤ)
  /-- `logically_ready` of a graph event. -/
  | graphEvent (ready : Bool)
  /-- `interest` and `is_ready` of each reader, and of an action server the
  registry, as long as it exists. -/
  | readers (kind : WaitableKind) (interest : Mask) (ready : List Bool) (goals : Option Registry)

namespace Waitable

/-- The sub-channels of the readers that are ready and of interest. -/
def readerMask (kind : WaitableKind) (interest : Mask) (ready : List Bool) : Mask :=
  ready.zipIdx.foldl
    (fun mask reader =>
      if interest &&& readerDetailBit kind reader.2 = 0 || !reader.1 then mask
      else mask ||| readerDetailBit kind reader.2) 0

/-- `logical_detail` of an action server. -/
def logicalDetail (now : ℤ) : Option Registry → Mask
  | none => 0
  | some goals => if goals.expiryReady now then kActionGoalExpiredBit else 0

/-- `ready_mask`. -/
def readyMask (now : ℤ) : Waitable → Mask
  | .guard _ pending => if pending then kWaitableReadyBit else 0
  | .timer ready _ => if ready then kWaitableReadyBit else 0
  | .graphEvent ready => if ready then kWaitableReadyBit else 0
  | .readers kind interest ready goals =>
    (readerMask kind interest ready ||| logicalDetail now goals) &&& interest

/-- What `ready_mask` leaves behind: the trigger of a GuardCondition is consumed. -/
def read : Waitable → Waitable
  | .guard false _ => .guard false false
  | waitable => waitable

/-- The deadline that a registration offers to the fold. -/
def deadline : Waitable → Option ℤ
  | .timer _ deadline => deadline
  | .readers kind interest _ (some goals) =>
    if kind ≠ .actionServer ∨ interest &&& kActionGoalExpiredBit ≠ 0 then goals.earliestExpiry
    else none
  | _ => none

/-- The earlier one of the deadline so far and that of a registration. -/
def foldDeadline (nativeDeadline : ℤ) (waitable : Waitable) : ℤ :=
  match waitable.deadline with
  | none => nativeDeadline
  | some d => if d < nativeDeadline then d else nativeDeadline

/-- The registry of an action server that exists. -/
def operate (now : ℤ) (op : Op) : Waitable → Waitable
  | .readers kind interest ready (some goals) =>
    .readers kind interest ready (some (goals.apply now op).2)
  | waitable => waitable

/-- A registry that is gone. -/
def dropGoals : Waitable → Waitable
  | .readers kind interest ready _ => .readers kind interest ready none
  | waitable => waitable

/-- Another interest. -/
def setInterest (mask : Mask) : Waitable → Waitable
  | .readers kind _ ready goals => .readers kind mask ready goals
  | waitable => waitable

/-- Another readiness of the readers. -/
def setReady (ready : List Bool) : Waitable → Waitable
  | .readers kind interest _ goals => .readers kind interest ready goals
  | waitable => waitable

/-- Another state of a waitable without readers. -/
def setLogical (next : Waitable) : Waitable → Waitable
  | .readers kind interest ready goals => .readers kind interest ready goals
  | _ => next

end Waitable

/-- `Registration`. -/
structure Registration where
  /-- What it waits for. -/
  waitable : Waitable
  /-- `is_closing`. -/
  closing : Bool

/-- `WaitResult`, or an error. -/
inductive Returned
  | ready (registrations : List (RegistrationId × Mask))
  | timeout
  | failed

/-- Where the waiting thread is. -/
inductive Phase
  /-- No wait is active. -/
  | idle (result : Option Returned)
  /-- The head of the loop. -/
  | observing
  /-- Reading what is ready. -/
  | scanning (topology : ℕ) (snapshot rest : List RegistrationId)
      (registrations : List (RegistrationId × Mask))
  /-- Nothing is ready; comparing the clock with the timeout. -/
  | limiting (topology : ℕ) (snapshot : List RegistrationId)
  /-- Folding the deadlines. -/
  | folding (topology : ℕ) (rest : List RegistrationId) (nativeDeadline : ℤ)
  /-- Computing the time that remains. -/
  | measuring (nativeDeadline : ℤ)
  /-- In `wait_for_notification`. -/
  | blocked (nativeDeadline : ℤ)

/-- No wait is active. -/
def Phase.isIdle : Phase → Bool
  | .idle _ => true
  | _ => false

/-- The thread is blocked. -/
def Phase.isBlocked : Phase → Bool
  | .blocked _ => true
  | _ => false

/-- A WaitSet, the clock and its waiting thread. -/
structure System where
  /-- The steady clock. -/
  clock : ℤ
  /-- Every registration, attached or not. -/
  registrations : RegistrationId → Registration
  /-- The registrations of the WaitSet, in order. -/
  attached : List RegistrationId
  /-- `topology_generation_`. -/
  topology : ℕ
  /-- The Context is shut down or the WaitSet is closing. -/
  stopped : Bool
  /-- `timeout`. -/
  timeout : WaitTimeout
  /-- `deadline`. -/
  deadline : ℤ
  /-- The waiting thread. -/
  phase : Phase

/-- What can happen. -/
inductive Event
  /-- A wait begins. -/
  | wait (timeout : WaitTimeout)
  /-- The waiting thread goes on. -/
  | go
  /-- `wait_for_notification` returns. -/
  | wake
  /-- The wait ends with an error. -/
  | fail
  /-- The clock moves. -/
  | tick (time : ℤ)
  /-- An operation on the registry of an action server. -/
  | operate (q : RegistrationId) (op : Op)
  /-- The registry of an action server is destroyed. -/
  | dropGoals (q : RegistrationId)
  /-- `set_interest`. -/
  | interest (q : RegistrationId) (mask : Mask)
  /-- The readers of a registration have other data. -/
  | readers (q : RegistrationId) (ready : List Bool)
  /-- A guard condition, timer or graph event changes. -/
  | logical (q : RegistrationId) (next : Waitable)
  /-- A waitable starts to close. -/
  | closing (q : RegistrationId)
  /-- `add`. -/
  | attach (q : RegistrationId) (waitable : Waitable)
  /-- `remove`. -/
  | detach (q : RegistrationId)
  /-- The Context is shut down or the WaitSet closes. -/
  | stop

namespace System

/-- Change what one registration waits for. -/
def alter (q : RegistrationId) (f : Waitable → Waitable) (s : System) : System :=
  {s with registrations :=
    Function.update s.registrations q {s.registrations q with waitable := f (s.registrations q).waitable}}

/-- `detach`. -/
def detach (q : RegistrationId) (s : System) : System :=
  {s with attached := s.attached.erase q, topology := s.topology+1}

/-- Read one registration of the snapshot. -/
def scan (topology : ℕ) (snapshot : List RegistrationId) (q : RegistrationId)
    (rest : List RegistrationId) (registrations : List (RegistrationId × Mask)) (s : System) :
    System :=
  if (s.registrations q).closing then
    {s.detach q with phase := .scanning topology snapshot rest registrations}
  else
    let detail := (s.registrations q).waitable.readyMask s.clock
    {s.alter q Waitable.read with
      phase := .scanning topology snapshot rest
        (if detail = 0 then registrations else registrations ++ [(q,detail)])}

/-- The phase after everything of the snapshot was read. -/
def scanned (topology : ℕ) (snapshot : List RegistrationId)
    (registrations : List (RegistrationId × Mask)) (s : System) : Phase :=
  if s.topology ≠ topology then .observing
  else if registrations ≠ [] then .idle (some (.ready registrations))
  else if s.timeout = .poll then .idle (some .timeout)
  else .limiting topology snapshot

/-- A finite timeout ends the wait; otherwise the fold begins. -/
def limit (topology : ℕ) (snapshot : List RegistrationId) (s : System) : Phase :=
  match s.timeout with
  | .finite _ =>
    if s.clock ≥ s.deadline then .idle (some .timeout) else .folding topology snapshot s.deadline
  | _ => .folding topology snapshot s.deadline

/-- A deadline that has passed starts the loop anew; otherwise the thread blocks. -/
def measure (nativeDeadline : ℤ) (s : System) : Phase :=
  if nativeDeadline ≠ steadyMax ∧ nativeDeadline-s.clock ≤ 0 then .observing
  else .blocked nativeDeadline

/-- The next step of the waiting thread. -/
def go (s : System) : System :=
  match s.phase with
  | .observing =>
    if s.stopped then {s with phase := .idle (some .failed)}
    else {s with phase := .scanning s.topology s.attached s.attached []}
  | .scanning topology snapshot (q::rest) registrations =>
    s.scan topology snapshot q rest registrations
  | .scanning topology snapshot [] registrations =>
    {s with phase := s.scanned topology snapshot registrations}
  | .limiting topology snapshot => {s with phase := s.limit topology snapshot}
  | .folding topology (q::rest) nativeDeadline =>
    {s with phase :=
      .folding topology rest (Waitable.foldDeadline nativeDeadline (s.registrations q).waitable)}
  | .folding topology [] nativeDeadline =>
    {s with phase := if s.topology ≠ topology then .observing else .measuring nativeDeadline}
  | .measuring nativeDeadline => {s with phase := s.measure nativeDeadline}
  | _ => s

/-- The effect of an event. -/
def step (s : System) : Event → System
  | .wait timeout =>
    {s with timeout := timeout, deadline := timeout.deadline s.clock, phase := .observing}
  | .go => s.go
  | .wake => {s with phase := .observing}
  | .fail => {s with phase := .idle (some .failed)}
  | .tick time => {s with clock := time}
  | .operate q op => s.alter q (Waitable.operate s.clock op)
  | .dropGoals q => s.alter q Waitable.dropGoals
  | .interest q mask => {s.alter q (Waitable.setInterest mask) with topology := s.topology+1}
  | .readers q ready => s.alter q (Waitable.setReady ready)
  | .logical q next => s.alter q (Waitable.setLogical next)
  | .closing q =>
    {s with registrations :=
      Function.update s.registrations q {s.registrations q with closing := true}}
  | .attach q waitable =>
    {s with
      registrations := Function.update s.registrations q ⟨waitable,false⟩
      attached := s.attached ++ [q]
      topology := s.topology+1}
  | .detach q => s.detach q
  | .stop => {s with stopped := true}

/-- When an event can happen. -/
def enabled (s : System) : Event → Prop
  | .wait _ => s.phase.isIdle = true
  | .go => s.phase.isIdle = false ∧ s.phase.isBlocked = false
  | .wake => s.phase.isBlocked = true
  | .fail => s.phase.isIdle = false
  | .tick time => s.clock ≤ time
  | .attach q _ => q ∉ s.attached
  | _ => True

instance (s : System) (e : Event) : Decidable (s.enabled e) := by
  cases e <;> unfold enabled <;> infer_instance

end System

/-- The WaitSet in its environment. -/
def machine : Machine System Event := ⟨System.enabled,System.step,fun _ _ => inferInstance⟩

/-- An event that neither drains the expired goals of an action server nor ends
its registration or its interest in them. -/
def Spares (q : RegistrationId) (_ : System) : Event → Prop
  | .operate p op => p = q → op ≠ .takeExpiredGoals
  | .interest p mask => p = q → mask &&& kActionGoalExpiredBit ≠ 0
  | .dropGoals p | .closing p | .detach p => p ≠ q
  | _ => True

instance (q : RegistrationId) (s : System) (e : Event) : Decidable (Spares q s e) := by
  cases e <;> unfold Spares <;> infer_instance

/-- A registered action server, interested in expired goals, whose registry has
a property. -/
structure Watches (P : Registry → Prop) (q : RegistrationId) (s : System) : Prop where
  /-- The WaitSet has it. -/
  attached : q ∈ s.attached
  /-- It does not close. -/
  running : (s.registrations q).closing = false
  /-- Its interest and its registry. -/
  watched : ∃ interest ready goals,
    (s.registrations q).waitable = .readers .actionServer interest ready (some goals) ∧
      interest &&& kActionGoalExpiredBit ≠ 0 ∧ P goals

/-- The waiting thread has read the expired goals of the action server in the
current iteration or is yet to read them. -/
def Sighted (q : RegistrationId) : Phase → Prop
  | .observing => True
  | .scanning _ _ rest registrations =>
    q ∈ rest ∨ ∃ detail, (q,detail) ∈ registrations ∧ detail &&& kActionGoalExpiredBit ≠ 0
  | .idle (some (.ready registrations)) =>
    ∃ detail, (q,detail) ∈ registrations ∧ detail &&& kActionGoalExpiredBit ≠ 0
  | .idle (some .failed) => True
  | _ => False

/-- The next step folds the deadline of an action server that is registered and
interested in expired goals. -/
structure Folds (q : RegistrationId) (d : ℤ) (s : System) : Prop where
  /-- It is next. -/
  next : ∃ topology rest nativeDeadline, s.phase = .folding topology (q::rest) nativeDeadline
  /-- The deadline is that of its registry. -/
  offered : Watches (fun goals => goals.earliestExpiry = some d) q s

/-- The action server is ready with expired goals, and the waiting thread
returns it without folding another deadline. -/
structure Finds (q : RegistrationId) (s : System) : Prop where
  /-- It is ready. -/
  ready : (s.registrations q).waitable.readyMask s.clock &&& kActionGoalExpiredBit ≠ 0
  /-- It is or will be reported. -/
  sighted : Sighted q s.phase

section

variable {P Q : Registry → Prop} {q : RegistrationId} {s s' : System} {e : Event}
  {waitable : Waitable} {now : ℤ}

/-- The bit of expired goals passes the mask of interest. -/
theorem expiredBit_kept (mask interest : Mask) :
    (mask ||| kActionGoalExpiredBit) &&& interest &&& kActionGoalExpiredBit =
      interest &&& kActionGoalExpiredBit := by
  ext i
  simp only [BitVec.getElem_and,BitVec.getElem_or]
  cases mask[i] <;> cases interest[i] <;> cases kActionGoalExpiredBit[i] <;> rfl

/-- An action server with expired goals and interest in them is ready. -/
theorem readyMask_expired {kind : WaitableKind} {interest : Mask} {ready : List Bool}
    {goals : Registry} (hinterest : interest &&& kActionGoalExpiredBit ≠ 0)
    (hready : goals.expiryReady now = true) :
    (Waitable.readers kind interest ready (some goals)).readyMask now &&& kActionGoalExpiredBit ≠
      0 := by
  rw [Waitable.readyMask,Waitable.logicalDetail,if_pos hready,expiredBit_kept]
  exact hinterest

/-- A property of the registry may be weakened. -/
theorem Watches.imp (h : Watches P q s) (hPQ : ∀ goals, P goals → Q goals) : Watches Q q s := by
  obtain ⟨interest,ready,goals,hwaitable,hinterest,hgoals⟩ := h.watched
  exact ⟨h.attached,h.running,interest,ready,goals,hwaitable,hinterest,hPQ goals hgoals⟩

/-- Nothing but its registration and the attached ones matters. -/
theorem Watches.congr (h : Watches P q s) (hattached : q ∈ s'.attached)
    (hregistration : s'.registrations q = s.registrations q) : Watches P q s' := by
  refine ⟨hattached,?_,?_⟩
  · rw [hregistration]
    exact h.running
  · rw [hregistration]
    exact h.watched

/-- An action server that was altered is still watched if its new state says so. -/
theorem Watches.alter (h : Watches P q s) {p : RegistrationId} {f : Waitable → Waitable}
    (hself : p = q → ∀ interest ready goals, interest &&& kActionGoalExpiredBit ≠ 0 → P goals →
      ∃ interest' ready' goals',
        f (.readers .actionServer interest ready (some goals)) =
          .readers .actionServer interest' ready' (some goals') ∧
        interest' &&& kActionGoalExpiredBit ≠ 0 ∧ P goals') :
    Watches P q (s.alter p f) := by
  by_cases hp : p = q
  · subst hp
    obtain ⟨interest,ready,goals,hwaitable,hinterest,hgoals⟩ := h.watched
    have hnext := hself rfl interest ready goals hinterest hgoals
    refine ⟨h.attached,?_,?_⟩
    · simp only [System.alter,Function.update_self]
      exact h.running
    · simp only [System.alter,Function.update_self,hwaitable]
      exact hnext
  · exact h.congr h.attached (Function.update_of_ne (Ne.symm hp) _ _)

/-- The detachment of another registration is of no concern. -/
theorem Watches.detach (h : Watches P q s) {p : RegistrationId} (hp : p ≠ q) :
    Watches P q (s.detach p) :=
  h.congr ((List.mem_erase_of_ne (Ne.symm hp)).mpr h.attached) rfl

/-- A step of the waiting thread leaves a watched action server alone. -/
theorem Watches.go (h : Watches P q s) : Watches P q s.go := by
  unfold System.go
  split
  · split <;> exact h.congr h.attached rfl
  · next topology snapshot p rest registrations hphase =>
    unfold System.scan
    split
    · next hclosing =>
      have hp : p ≠ q := by
        intro hp
        simp [hp,h.running] at hclosing
      exact (h.detach hp).congr (h.detach hp).attached rfl
    · have halter : Watches P q (s.alter p Waitable.read) :=
        h.alter fun _ interest ready goals hinterest hgoals =>
          ⟨interest,ready,goals,rfl,hinterest,hgoals⟩
      exact halter.congr halter.attached rfl
  all_goals exact h.congr h.attached rfl

/-- A property that registry operations other than a drain keep is kept by
every event that spares the action server. -/
theorem Watches.step (h : Watches P q s) (hen : s.enabled e) (hspares : Spares q s e)
    (hP : ∀ now op goals, op ≠ .takeExpiredGoals → P goals → P (goals.apply now op).2) :
    Watches P q (s.step e) := by
  cases e with
  | go => exact h.go
  | operate p op =>
    refine h.alter fun hp interest ready goals hinterest hgoals => ?_
    exact ⟨interest,ready,_,rfl,hinterest,hP s.clock op goals (hspares hp) hgoals⟩
  | dropGoals p => exact h.alter fun hp => absurd hp hspares
  | interest p mask =>
    have halter : Watches P q (s.alter p (Waitable.setInterest mask)) :=
      h.alter fun hp interest ready goals _ hgoals => ⟨mask,ready,goals,rfl,hspares hp,hgoals⟩
    exact halter.congr halter.attached rfl
  | readers p ready =>
    exact h.alter fun _ interest _ goals hinterest hgoals =>
      ⟨interest,ready,goals,rfl,hinterest,hgoals⟩
  | logical p next =>
    exact h.alter fun _ interest ready goals hinterest hgoals =>
      ⟨interest,ready,goals,rfl,hinterest,hgoals⟩
  | closing p => exact h.congr h.attached (Function.update_of_ne (Ne.symm hspares) _ _)
  | attach p waitable =>
    have hp : q ≠ p := fun hp => hen (hp ▸ h.attached)
    exact h.congr (List.mem_append_left _ h.attached) (Function.update_of_ne hp _ _)
  | detach p => exact h.detach hspares
  | wait timeout => exact h.congr h.attached rfl
  | wake => exact h.congr h.attached rfl
  | fail => exact h.congr h.attached rfl
  | tick time => exact h.congr h.attached rfl
  | stop => exact h.congr h.attached rfl

/-- What registry operations other than a drain keep holds along every run that
spares the action server. -/
theorem Watches.run {es : List Event} (h : Watches P q s)
    (hP : ∀ now op goals, op ≠ .takeExpiredGoals → P goals → P (goals.apply now op).2)
    (hrun : machine.RunWhen (Spares q) s es s') : Watches P q s' :=
  hrun.invariant (Watches P q) h fun _ _ hprev hen hspares => hprev.step hen hspares hP

/-- The clock never goes back. -/
theorem clock_mono {es : List Event} (hrun : machine.RunWhen (Spares q) s es s') :
    s.clock ≤ s'.clock := by
  refine hrun.invariant (fun s' => s.clock ≤ s'.clock) (Int.le_refl _) fun s' e hle hen _ => ?_
  have hstep : s'.clock ≤ (s'.step e).clock := by
    cases e with
    | tick time => exact hen
    | go =>
      simp only [System.step,System.go]
      split
      · split <;> exact Int.le_refl _
      · unfold System.scan
        split <;> exact Int.le_refl _
      all_goals exact Int.le_refl _
    | _ => exact Int.le_refl _
  exact Int.le_trans hle hstep

/-- The mask of a watched action server that is ready. -/
theorem Watches.readyMask (h : Watches (fun goals => goals.expiryReady now = true) q s)
    (hnow : now ≤ s.clock) :
    (s.registrations q).waitable.readyMask s.clock &&& kActionGoalExpiredBit ≠ 0 := by
  obtain ⟨interest,ready,goals,hwaitable,hinterest,hready⟩ := h.watched
  rw [hwaitable]
  exact readyMask_expired hinterest (Registry.expiryReady_mono hready hnow)

/-- The scan reports an action server with expired goals. -/
theorem Sighted.scan (hwatches : Watches P q s)
    (hready : (s.registrations q).waitable.readyMask s.clock &&& kActionGoalExpiredBit ≠ 0)
    {topology : ℕ} {snapshot rest : List RegistrationId} {p : RegistrationId}
    {registrations : List (RegistrationId × Mask)}
    (h : Sighted q (.scanning topology snapshot (p::rest) registrations)) :
    Sighted q (s.scan topology snapshot p rest registrations).phase := by
  unfold System.scan
  split
  · next hclosing =>
    refine h.imp_left fun hmem => ?_
    have hp : q ≠ p := by
      intro hp
      simp [← hp,hwatches.running] at hclosing
    exact (List.mem_cons.mp hmem).resolve_left hp
  · dsimp only [Sighted]
    split
    · next hzero =>
      refine h.imp_left fun hmem => ?_
      have hp : q ≠ p := by
        intro hp
        subst hp
        simp [hzero] at hready
      exact (List.mem_cons.mp hmem).resolve_left hp
    · cases h with
      | inl hmem =>
        cases List.mem_cons.mp hmem with
        | inl hp =>
          subst hp
          exact .inr ⟨_,List.mem_append_right _ List.mem_cons_self,hready⟩
        | inr hrest => exact .inl hrest
      | inr hreported =>
        obtain ⟨detail,hdetail,hbit⟩ := hreported
        exact .inr ⟨detail,List.mem_append_left _ hdetail,hbit⟩

/-- A scan that is complete returns the action server that it reports. -/
theorem Sighted.scanned {topology : ℕ} {snapshot : List RegistrationId}
    {registrations : List (RegistrationId × Mask)}
    (h : Sighted q (.scanning topology snapshot [] registrations)) :
    Sighted q (s.scanned topology snapshot registrations) := by
  have hreported := h.resolve_left List.not_mem_nil
  unfold System.scanned
  split
  · trivial
  · rw [if_pos]
    · exact hreported
    · intro hnil
      simp [hnil] at hreported

/-- The waiting thread keeps an action server sighted that is ready. -/
theorem Sighted.go (hwatches : Watches P q s)
    (hready : (s.registrations q).waitable.readyMask s.clock &&& kActionGoalExpiredBit ≠ 0)
    (h : Sighted q s.phase) : Sighted q s.go.phase := by
  unfold System.go
  split
  · split
    · trivial
    · exact .inl hwatches.attached
  · next topology snapshot p rest registrations hphase =>
    exact Sighted.scan hwatches hready (hphase ▸ h)
  · next topology snapshot registrations hphase => exact Sighted.scanned (hphase ▸ h)
  · next topology snapshot hphase => exact (hphase ▸ h : Sighted q (.limiting _ _)).elim
  · next topology p rest nativeDeadline hphase =>
    exact (hphase ▸ h : Sighted q (.folding _ _ _)).elim
  · next topology nativeDeadline hphase => exact (hphase ▸ h : Sighted q (.folding _ _ _)).elim
  · next nativeDeadline hphase => exact (hphase ▸ h : Sighted q (.measuring _)).elim
  · exact h

/-- While it is ready the action server stays sighted. -/
theorem Sighted.step (hwatches : Watches P q s)
    (hready : (s.registrations q).waitable.readyMask s.clock &&& kActionGoalExpiredBit ≠ 0)
    (h : Sighted q s.phase) : Sighted q (s.step e).phase := by
  cases e with
  | go => exact h.go hwatches hready
  | wait timeout => trivial
  | wake => trivial
  | fail => trivial
  | _ => exact h

/-- From a wake at or after a deadline that the registry owes on, the action server is
found ready until somebody drains it. -/
theorem finds_of_owed {d : ℤ} {es : List Event} (howed : Watches (Registry.Owes d) q s)
    (hphase : s.phase = .observing) (hpassed : d ≤ s.clock) (hclock : s.clock < steadyMax)
    (hrun : machine.RunWhen (Spares q) s es s') : Finds q s' := by
  have hkeeps : ∀ now op goals, op ≠ .takeExpiredGoals →
      Registry.expiryReady s.clock goals = true →
        (Registry.apply now op goals).2.expiryReady s.clock = true :=
    fun _ _ _ hop hready => Registry.expiryReady_apply hready hop
  have hready : Watches (fun goals => goals.expiryReady s.clock = true) q s :=
    howed.imp fun _ howes => howes.ready hpassed hclock
  have hsighted : Sighted q s'.phase := by
    have hknown : ∀ {es s'}, machine.RunWhen (Spares q) s es s' →
        Watches (fun goals => goals.expiryReady s.clock = true) q s' ∧ s.clock ≤ s'.clock :=
      fun hbefore => ⟨hready.run hkeeps hbefore,clock_mono hbefore⟩
    refine hrun.invariant_using (fun s' => Sighted q s'.phase) hknown ?_ ?_
    · rw [hphase]
      trivial
    · intro s' e hknown hprev _ _
      exact hprev.step hknown.1 (hknown.1.readyMask hknown.2)
  exact ⟨(hready.run hkeeps hrun).readyMask (clock_mono hrun),hsighted⟩

end

/-- Below the end of the clock: without queued notifications expiry is ready
exactly when the earliest expiry is present and has passed; pruning erases the
committed goals that ended and whose deadline has passed, and only those; and a
wait that starts its loop anew after the deadline which it folded finds the
action server ready and returns it, whatever else happens, until somebody drains
the goals or ends the registration. -/
theorem expiry_exact {now : ℤ} (hnow : now < steadyMax) :
    (∀ r : Registry, r.expiredNotifications = [] →
      (r.expiryReady now = true ↔ ∃ d, r.earliestExpiry = some d ∧ d ≤ now)) ∧
    (∀ (r : Registry) (goalId : GoalId),
      (r.pruneExpiredLocked now).goals.lookup goalId =
        (r.goals.lookup goalId).filter fun record =>
          !(record.committed && isTerminalGoalState record.state &&
            decide (saturatingSteadyAdd record.terminalTime r.resultTimeout ≤ now))) ∧
    ∀ (q : RegistrationId) (d : ℤ) (s s₁ s₂ : System) (es₁ es₂ : List Event), Folds q d s →
      machine.RunWhen (Spares q) s es₁ s₁ → s₁.phase = .observing → s₁.clock = now → d ≤ now →
      machine.RunWhen (Spares q) s₁ es₂ s₂ → Finds q s₂ := by
  refine ⟨?_,?_,?_⟩
  · intro r hdrained
    exact Registry.expiryReady_iff_earliestExpiry hdrained hnow
  · intro r goalId
    exact Registry.lookup_prune_overdue hnow r goalId
  · intro q d s s₁ s₂ es₁ es₂ hfolds hrun₁ hphase hclock hpassed hrun₂
    have howed : Watches (Registry.Owes d) q s₁ :=
      (hfolds.offered.imp fun _ => Registry.owes_earliestExpiry).run
        (fun _ _ _ hop howes => howes.apply hop) hrun₁
    exact finds_of_owed howed hphase (by omega) (by omega) hrun₂

/-- The goals of an action server with one goal that ended at 5. -/
def endedGoals : Registry :=
  let goalId : GoalId := ⟨Vector.replicate 16 1⟩
  (((Registry.new 10).reserve goalId).2.commit ⟨goalId,1⟩ .execute).2.updateState 5 goalId
    .succeed |>.2

/-- A wait about to fold the deadline of the action server. -/
def folding : System where
  clock := 7
  registrations := fun _ =>
    ⟨.readers .actionServer 15 [false,false,false] (some endedGoals),false⟩
  attached := [0]
  topology := 1
  stopped := false
  timeout := .infinite
  deadline := steadyMax
  phase := .folding 1 [0] steadyMax

/-- The wait wakes at the deadline. -/
def woken : System := (machine.exec folding [.go,.go,.go,.tick 15,.wake]).getD folding

/-- The wait returns. -/
def reported : System := (machine.exec woken [.go,.go,.go]).getD folding

/-- A wait that blocks until 15 returns the action server whose goal ended at 5. -/
theorem expiry_exact_wake :
    ((Registry.new 10).expiryReady 15 = true ↔
      ∃ d, (Registry.new 10).earliestExpiry = some d ∧ d ≤ 15) ∧
    Finds 0 reported := by
  have hbound : (15 : ℤ) < steadyMax := by decide
  have hall := expiry_exact hbound
  have hoffered : endedGoals.earliestExpiry = some 15 := by decide +kernel
  have hfolds : Folds 0 15 folding :=
    ⟨⟨1,[],steadyMax,rfl⟩,List.mem_cons_self,rfl,_,_,_,rfl,by decide,hoffered⟩
  have hspares : ∀ s e, decide (Spares 0 s e) = true → Spares 0 s e := fun _ _ => of_decide_eq_true
  have hwoken : machine.RunWhen (Spares 0) folding [.go,.go,.go,.tick 15,.wake] woken :=
    Machine.runWhen_of_exec (fun s e => decide (Spares 0 s e)) hspares rfl (by decide +kernel)
  have hreported : machine.RunWhen (Spares 0) woken [.go,.go,.go] reported :=
    Machine.runWhen_of_exec (fun s e => decide (Spares 0 s e)) hspares rfl (by decide +kernel)
  exact ⟨hall.1 (Registry.new 10) rfl,
    hall.2.2 0 15 folding woken reported _ _ hfolds hwoken rfl rfl (Int.le_refl 15) hreported⟩

end Dmw.DeadlineWaits
