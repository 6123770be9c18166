import Dmw.ActionProtocol
import Dmw.CancelSelection

/-!
# Cancel transactions

One cancel request from its receipt to its response or its discard: the
candidates and what the application decides about each, the transitions, the
publication of the status and the response. Every native call may raise, which
is an input; the scripts are those of the protocol lane with one input for each
place of a call, and user code decides without using the server meanwhile.
-/

namespace Dmw.CancelTransactions

open Identity KeyedTable GoalRegistry Scripts CancelSelection
open ActionProtocol (Ticket Exception noGoalId errorNone errorRejected errorUnknownGoalId
  errorGoalTerminated)

/-- What the cancel callback does about a goal. It is assumed to decide without
using the server: it ends no goal and closes nothing before it returns. -/
inductive Decision
  | accept
  | reject
  | raise
  deriving DecidableEq, Repr

/-- What the calls of one transaction do. -/
structure Calls where
  /-- The steady clock at the update of a goal. -/
  updateNow : GoalId → ℤ
  /-- The steady clock at the status snapshot. -/
  snapshotNow : ℤ
  /-- `_cancel_callback`, which leaves the server as it is. -/
  cancelCallback : GoalId → Decision
  /-- `goal_state` raises. -/
  stateRaises : Bool
  /-- `select_cancel_goals` raises. -/
  selectRaises : Bool
  /-- `update_goal_state` raises. -/
  updateRaises : GoalId → Bool
  /-- Entering a goal into the response raises. -/
  entryRaises : GoalId → Bool
  /-- The status snapshot or its message raises. -/
  snapshotRaises : Bool
  /-- The submission of the status raises. -/
  publishRaises : Bool
  /-- `respond` raises. -/
  respondRaises : Bool

/-- `CancelGoal_Response`. -/
structure Response where
  /-- `return_code`. -/
  returnCode : ℤ
  /-- The goals that were entered. -/
  goalsCanceling : List GoalInfo
  deriving DecidableEq

/-- `ActionServer` and the work of the request. -/
structure Server where
  /-- The native goals. -/
  registry : Registry
  /-- `_goals`, with the status of each handle. -/
  goals : Table GoalId GoalState
  /-- The executor owns the server and has a record of it. -/
  attached : Bool
  /-- `_closing`. -/
  closing : Bool
  /-- `_status_revision`. -/
  statusRevision : ℕ
  /-- `_status_inflight_ticket`. -/
  statusInflightTicket : Option Ticket
  /-- `_status_inflight_revision`. -/
  statusInflightRevision : ℕ
  /-- The next ticket of the dispatcher. -/
  nextTicket : Ticket
  /-- What the work submitted. -/
  responses : List Response
  /-- The work discarded its request. -/
  discarded : Bool

/-- A step of the owner. -/
abbrev Act (α : Type) := Script Server Exception α

/-- A native call that may raise. -/
def native {α : Type} (raises : Bool) (call : Registry → Result α × Registry) : Act α := fun s =>
  if raises then (.error .raised,s)
  else ((call s.registry).1.mapError .failure,{s with registry := (call s.registry).2})

/-- A call that changes nothing else and may raise. -/
def mayRaise (raises : Bool) : Act Unit := if raises then Script.raise .raised else pure ()

/-- `_assert_owner_thread`, on the owner's thread. -/
def assertOwnerThread : Act Unit := do
  let s ← Script.get
  if s.attached then pure ()
  else Script.raise (.invalidState "Action goal mutation must run on its owner Executor")

section

variable (calls : Calls)

/-- `respond` of the work. -/
def respond (response : Response) : Act Unit := do
  mayRaise calls.respondRaises
  Script.modify fun s => {s with responses := s.responses ++ [response]}

/-- `_publish`. -/
def publish : Act Ticket := do
  assertOwnerThread
  mayRaise calls.publishRaises
  let s ← Script.get
  Script.modify fun s => {s with nextTicket := s.nextTicket + 1}
  pure s.nextTicket

/-- `_start_status_publication`. -/
def startStatusPublication : Act Unit := do
  assertOwnerThread
  let s ← Script.get
  if s.closing || s.statusInflightTicket.isSome then pure ()
  else do
    let _ ← native calls.snapshotRaises fun r => ((r.statusSnapshot calls.snapshotNow).map .ok id)
    Script.modify fun s => {s with statusInflightRevision := s.statusRevision}
    let ticket ← publish calls
    Script.modify fun s => {s with statusInflightTicket := some ticket}

/-- `_publish_status`. -/
def publishStatus : Act Unit := do
  assertOwnerThread
  Script.modify fun s => {s with statusRevision := s.statusRevision + 1}
  let s ← Script.get
  if s.statusInflightTicket.isSome then pure () else startStatusPublication calls

/-- One candidate that has a handle is up to the callback. User code only decides
here: what it might do to the server before it returns is left out. -/
def considerCandidate (accepted : List GoalInfo) (info : GoalInfo) : Act (List GoalInfo) := do
  let s ← Script.get
  if info.goalId ∈ s.goals then
    match calls.cancelCallback info.goalId with
    | .accept => pure (accepted ++ [info])
    | .reject => pure accepted
    | .raise => Script.raise .raised
  else pure accepted

/-- One accepted candidate is moved to `Canceling` and entered into the response. -/
def commitCancel (committed : List GoalInfo) (info : GoalInfo) : Act (List GoalInfo) := do
  let outcome ← Script.attempt
    (native (calls.updateRaises info.goalId) fun r =>
      r.updateState (calls.updateNow info.goalId) info.goalId .cancelGoal)
  match outcome with
  | .error _ => pure committed
  | .ok transition => do
    Script.modify fun s =>
      {s with goals := Table.modify info.goalId (fun _ => transition.current) s.goals}
    mayRaise (calls.entryRaises info.goalId)
    pure (committed ++ [info])

/-- The status is published if a goal was committed. -/
def announce (committed : List GoalInfo) : Act Unit :=
  if committed.isEmpty then pure () else publishStatus calls

/-- The transitions, the status and the response. -/
def commitCancels (accepted : List GoalInfo) : Act Unit := do
  let committed ← Script.fold (commitCancel calls) [] accepted
  announce calls committed
  respond calls ⟨if committed.isEmpty then errorRejected else errorNone,committed⟩

/-- `_take_cancel` from the selection of the candidates on; a callback that raises
clears the list. -/
def selectCandidates (identifier : Option GoalId) (stamp : ℤ) : Act Unit := do
  let candidates ← native calls.selectRaises fun r =>
    (r.selectCancelGoals ⟨identifier.getD noGoalId,stamp⟩,r)
  let asked ← Script.attempt (Script.fold (considerCandidate calls) [] candidates)
  match asked with
  | .ok accepted => commitCancels calls accepted
  | .error _ => commitCancels calls []

/-- `_take_cancel`. -/
def takeCancel (identifier : Option GoalId) (stamp : ℤ) : Act Unit := do
  match identifier.filter fun goalId => !isZeroGoalId goalId && decide (stamp = 0) with
  | none => selectCandidates calls identifier stamp
  | some goalId => do
    let outcome ← Script.attempt (native calls.stateRaises fun r => (r.state goalId,r))
    match outcome with
    | .error _ => respond calls ⟨errorUnknownGoalId,[]⟩
    | .ok state =>
      if isCancelableGoalState state then selectCandidates calls identifier stamp
      else respond calls ⟨errorGoalTerminated,[]⟩

/-- `release` of the work: what was not answered is discarded. -/
def release : Act Unit := Script.modify fun s =>
  if s.responses.isEmpty then {s with discarded := true} else s

/-- A cancel request that was taken; whatever the transaction raises, its work is
released. -/
def transact (identifier : Option GoalId) (stamp : ℤ) : Act Unit :=
  Script.ensuring (takeCancel calls identifier stamp) release

/-! ## What a transaction is for -/

/-- An exact request that is answered before any candidate is selected. -/
def answeredEarly (identifier : Option GoalId) (stamp : ℤ) (s : Server) : Bool :=
  match identifier.filter fun goalId => !isZeroGoalId goalId && decide (stamp = 0) with
  | none => false
  | some goalId =>
    calls.stateRaises ||
      match s.registry.state goalId with
      | .error _ => true
      | .ok state => !isCancelableGoalState state

/-- The candidates: the goals that the request selects. -/
def candidates (identifier : Option GoalId) (stamp : ℤ) (s : Server) : List GoalInfo :=
  if answeredEarly calls identifier stamp s || calls.selectRaises then []
  else
    match s.registry.selectCancelGoals ⟨identifier.getD noGoalId,stamp⟩ with
    | .error _ => []
    | .ok selection => selection.filter fun info => decide (info.goalId ∈ s.goals)

/-- Some callback raises. -/
def someRaises (identifier : Option GoalId) (stamp : ℤ) (s : Server) : Bool :=
  (candidates calls identifier stamp s).any fun info => calls.cancelCallback info.goalId = .raise

/-- The candidates that the application gives up and whose native update succeeds. -/
def granted (identifier : Option GoalId) (stamp : ℤ) (s : Server) : List GoalInfo :=
  if someRaises calls identifier stamp s then []
  else (candidates calls identifier stamp s).filter fun info =>
    decide (calls.cancelCallback info.goalId = .accept) && !calls.updateRaises info.goalId

end

/-- A goal that came to be canceling. -/
def Moved (s s' : Server) (goalId : GoalId) : Prop :=
  s.registry.state goalId ≠ .ok .canceling ∧ s'.registry.state goalId = .ok .canceling

/-- What a transaction promises. -/
structure Lawful (calls : Calls) (identifier : Option GoalId) (stamp : ℤ) (s s' : Server) :
    Prop where
  /-- If a callback raises no goal changes. -/
  unchanged : someRaises calls identifier stamp s = true → s'.registry = s.registry
  /-- Otherwise the goals that move are those that the application gives up and whose
  update succeeds. -/
  moved : someRaises calls identifier stamp s = false → ∀ goalId,
    Moved s s' goalId ↔ ∃ info ∈ candidates calls identifier stamp s, info.goalId = goalId ∧
      calls.cancelCallback goalId = .accept ∧ calls.updateRaises goalId = false
  /-- There is one response, with `ERROR_NONE` exactly if a goal moved. -/
  answered : ∃ response, s'.responses = [response] ∧ s'.discarded = false ∧
    (response.returnCode = errorNone ↔ ∃ goalId, Moved s s' goalId)

/-- The publication of the status does not raise; one is started unless the server
closes or one is in flight. -/
def Publishes (calls : Calls) (s : Server) : Prop :=
  s.attached = true ∧ (s.closing = true ∨ s.statusInflightTicket.isSome = true ∨
    calls.snapshotRaises = false ∧ calls.publishRaises = false)

/-- Nothing raises after the transitions: neither the entries of the goals nor the
publication of the status, which there is if a goal moved, nor the response. -/
def Concludes (calls : Calls) (goals : List GoalInfo) (s : Server) : Prop :=
  calls.respondRaises = false ∧
    (goals ≠ [] → (∀ info ∈ goals, calls.entryRaises info.goalId = false) ∧ Publishes calls s)

/-- The request is answered early or its goals are selected, and what follows the
transitions does not raise. -/
def Undisturbed (calls : Calls) (identifier : Option GoalId) (stamp : ℤ) (s : Server) : Prop :=
  (answeredEarly calls identifier stamp s = true ∨ calls.selectRaises = false ∧ 0 ≤ stamp) ∧
    Concludes calls (granted calls identifier stamp s) s

instance (calls : Calls) (identifier : Option GoalId) (stamp : ℤ) (s : Server) :
    Decidable (Undisturbed calls identifier stamp s) := by
  unfold Undisturbed Concludes Publishes
  infer_instance

/-! ## The goals that move -/

section

variable {calls : Calls} {identifier : Option GoalId} {stamp now : ℤ} {s s' : Server}
  {r r' : Registry} {goalId : GoalId} {info : GoalInfo} {goals : List GoalInfo}

/-- The state of a goal is that of its record. -/
theorem state_congr (h : r'.goals.lookup goalId = r.goals.lookup goalId) :
    r'.state goalId = r.state goalId := by
  unfold Registry.state Registry.findCommitted
  rw [h]

/-- Pruning leaves a canceling goal alone and makes none. -/
theorem state_prune_canceling :
    (r.pruneExpiredLocked now).state goalId = .ok .canceling ↔ r.state goalId = .ok .canceling := by
  unfold Registry.state Registry.findCommitted
  rw [Registry.lookup_prune]
  cases r.goals.lookup goalId with
  | none => exact Iff.rfl
  | some record =>
    by_cases hprunable : r.prunable now record = true
    · obtain ⟨hcommitted,hterminal,-⟩ := Registry.terminal_of_prunable hprunable
      have hactive : record.state ≠ .canceling := by
        intro hstate
        rw [hstate] at hterminal
        cases hterminal
      rw [Option.filter_some,if_neg (by simp [hprunable]),Option.filter_some,if_pos hcommitted]
      simp [hactive]
    · rw [Option.filter_some,if_pos (by simp [hprunable])]

/-- Goals to cancel, each at the clock reading of its update. -/
def cancellations (calls : Calls) (goals : List GoalInfo) : List (ℤ × GoalId) :=
  goals.map fun info => (calls.updateNow info.goalId,info.goalId)

/-- The identities stay. -/
theorem cancellations_ids (calls : Calls) (goals : List GoalInfo) :
    (cancellations calls goals).map (·.2) = goals.map (·.goalId) := by
  rw [cancellations,List.map_map]
  rfl

/-- The goals that are left can still be canceled after the first one was. -/
theorem cancelable_rest (now : ℤ) (hcancelable : ∀ other ∈ info :: goals, Cancelable r other)
    (hnodup : ((info :: goals).map (·.goalId)).Nodup) :
    ∀ other ∈ goals, Cancelable (r.updateState now info.goalId .cancelGoal).2 other := by
  intro other hother
  obtain ⟨record,hfound,hrecord⟩ := hcancelable other (List.mem_cons_of_mem _ hother)
  rw [List.map_cons,List.nodup_cons] at hnodup
  have hne : other.goalId ≠ info.goalId := by
    intro heq
    exact hnodup.1 (heq ▸ List.mem_map_of_mem hother)
  exact ⟨record,(lookup_cancel_ne hne).trans hfound,hrecord⟩

/-- Each of several goals is canceling after all of them were canceled. -/
theorem state_cancelEach (hcancelable : ∀ info ∈ goals, Cancelable r info)
    (hnodup : (goals.map (·.goalId)).Nodup) (hinfo : info ∈ goals) :
    (Registry.cancelEach (cancellations calls goals) r).state info.goalId = .ok .canceling := by
  induction goals generalizing r with
  | nil => cases hinfo
  | cons first rest ih =>
    have hrest := cancelable_rest (calls.updateNow first.goalId) hcancelable hnodup
    rw [List.map_cons,List.nodup_cons] at hnodup
    obtain ⟨previous,-,hcanceling⟩ :=
      (hcancelable first List.mem_cons_self).update (calls.updateNow first.goalId)
    change (Registry.cancelEach (cancellations calls rest)
      (r.updateState (calls.updateNow first.goalId) first.goalId .cancelGoal).2).state
        info.goalId = _
    cases List.mem_cons.mp hinfo with
    | inl heq =>
      subst heq
      rw [← hcanceling]
      refine state_congr (lookup_cancelEach ?_)
      rw [cancellations_ids]
      exact hnodup.1
    | inr hmem => exact ih hrest hnodup.2 hmem

/-- The registry after the goals were canceled, and after a snapshot perhaps if there
were any. -/
def Canceled (calls : Calls) (goals : List GoalInfo) (r r' : Registry) : Prop :=
  r' = Registry.cancelEach (cancellations calls goals) r ∨
    goals ≠ [] ∧ r' = (Registry.cancelEach (cancellations calls goals) r).pruneExpiredLocked
      calls.snapshotNow

/-- The goals that were canceled moved, and no other one. -/
theorem moved_iff (goalId : GoalId) (hcancelable : ∀ info ∈ goals, Cancelable s.registry info)
    (hnodup : (goals.map (·.goalId)).Nodup)
    (hcanceled : Canceled calls goals s.registry s'.registry) :
    Moved s s' goalId ↔ ∃ info ∈ goals, info.goalId = goalId := by
  have hafter : s'.registry.state goalId = .ok .canceling ↔
      (Registry.cancelEach (cancellations calls goals) s.registry).state goalId = .ok .canceling := by
    cases hcanceled with
    | inl heq => rw [heq]
    | inr heq =>
      rw [heq.2]
      exact state_prune_canceling
  unfold Moved
  rw [hafter]
  constructor
  · intro hmoved
    by_contra hnone
    have habsent : goalId ∉ (cancellations calls goals).map (·.2) := by
      rw [cancellations_ids]
      intro hmem
      obtain ⟨info,hinfo,heq⟩ := List.mem_map.mp hmem
      exact hnone ⟨info,hinfo,heq⟩
    rw [state_congr (lookup_cancelEach habsent)] at hmoved
    exact hmoved.1 hmoved.2
  · intro hmem
    obtain ⟨info,hinfo,rfl⟩ := hmem
    refine ⟨?_,state_cancelEach hcancelable hnodup hinfo⟩
    obtain ⟨record,hfound,hcommitted,-,hstate⟩ := hcancelable info hinfo
    unfold Registry.state Registry.findCommitted
    rw [hfound,Option.filter_some,if_pos hcommitted]
    rcases hstate with hstate | hstate <;> simp [hstate]

/-- The candidates can be canceled, and none is there twice. -/
theorem candidates_cancelable (calls : Calls) (identifier : Option GoalId) (stamp : ℤ)
    (hkeyed : Keyed s.registry) :
    (∀ info ∈ candidates calls identifier stamp s, Cancelable s.registry info) ∧
      ((candidates calls identifier stamp s).map (·.goalId)).Nodup := by
  unfold candidates
  split
  · simp
  · by_cases hstamp : 0 ≤ stamp
    · obtain ⟨selection,hselect,hexact⟩ :=
        hkeyed.select ⟨identifier.getD noGoalId,stamp⟩ hstamp
      rw [hselect]
      refine ⟨fun info hinfo => ?_,?_⟩
      · exact ((hexact.mem info).mp (List.mem_filter.mp hinfo).1).1
      · exact hexact.nodup.sublist (List.filter_sublist.map _)
    · have hselect : s.registry.selectCancelGoals ⟨identifier.getD noGoalId,stamp⟩ =
          .error ⟨.invalidArgument,"Cancel stamp must not be negative"⟩ :=
        if_pos (Int.not_le.mp hstamp)
      rw [hselect]
      simp

/-- So can the granted ones. -/
theorem granted_cancelable (calls : Calls) (identifier : Option GoalId) (stamp : ℤ)
    (hkeyed : Keyed s.registry) :
    (∀ info ∈ granted calls identifier stamp s, Cancelable s.registry info) ∧
      ((granted calls identifier stamp s).map (·.goalId)).Nodup := by
  have h := candidates_cancelable calls identifier stamp hkeyed
  unfold granted
  split
  · simp
  · exact ⟨fun info hinfo => h.1 info (List.mem_filter.mp hinfo).1,
      h.2.sublist (List.filter_sublist.map _)⟩

end

/-! ## The scripts -/

section

variable {calls : Calls} {identifier : Option GoalId} {stamp : ℤ} {s s' : Server}
  {info : GoalInfo} {goals acc : List GoalInfo}

/-- A candidate without a handle is passed over, the others are up to the callback. -/
theorem considerCandidate_eq (calls : Calls) (acc : List GoalInfo) (info : GoalInfo) (s : Server) :
    considerCandidate calls acc info s =
      (if info.goalId ∈ s.goals then
        match calls.cancelCallback info.goalId with
        | .accept => .ok (acc ++ [info])
        | .reject => .ok acc
        | .raise => .error .raised
      else .ok acc,s) := by
  change (if info.goalId ∈ s.goals then _ else _ : Act (List GoalInfo)) s = _
  split
  · cases calls.cancelCallback info.goalId <;> rfl
  · rfl

/-- The callbacks are asked one after the other, up to one that raises; the server
stays as it is. -/
theorem fold_considerCandidate (calls : Calls) (acc goals : List GoalInfo) (s : Server) :
    Script.fold (considerCandidate calls) acc goals s =
      (if (goals.filter fun info => decide (info.goalId ∈ s.goals)).any fun info =>
          calls.cancelCallback info.goalId = .raise then .error .raised
        else .ok (acc ++ (goals.filter fun info => decide (info.goalId ∈ s.goals)).filter fun info =>
          decide (calls.cancelCallback info.goalId = .accept)),s) := by
  induction goals generalizing acc with
  | nil => simp [Script.fold,pure]
  | cons info rest ih =>
    have hround := considerCandidate_eq calls acc info s
    by_cases hhandle : info.goalId ∈ s.goals
    · rw [if_pos hhandle] at hround
      rw [List.filter_cons_of_pos (by simp [hhandle])]
      cases hdecision : calls.cancelCallback info.goalId with
      | accept =>
        rw [hdecision] at hround
        rw [Script.fold_ok hround,ih]
        simp [hdecision]
      | reject =>
        rw [hdecision] at hround
        rw [Script.fold_ok hround,ih]
        simp [hdecision]
      | raise =>
        rw [hdecision] at hround
        rw [Script.fold_error hround]
        simp [hdecision]
    · rw [if_neg hhandle] at hround
      rw [Script.fold_ok hround,ih,List.filter_cons_of_neg (by simp [hhandle])]

/-- What the transitions leave alone. -/
structure Frame (s s' : Server) : Prop where
  /-- The owner. -/
  attached : s'.attached = s.attached
  /-- The close. -/
  closing : s'.closing = s.closing
  /-- The status in flight. -/
  slot : s'.statusInflightTicket = s.statusInflightTicket
  /-- The responses. -/
  responses : s'.responses = s.responses
  /-- The request. -/
  discarded : s'.discarded = s.discarded

theorem Frame.refl : Frame s s := ⟨rfl,rfl,rfl,rfl,rfl⟩

theorem Frame.trans {s'' : Server} (h : Frame s s') (h' : Frame s' s'') : Frame s s'' :=
  ⟨h'.attached.trans h.attached,h'.closing.trans h.closing,h'.slot.trans h.slot,
    h'.responses.trans h.responses,h'.discarded.trans h.discarded⟩

/-- What a native call that does not raise does. -/
theorem native_eq {α : Type} {raises : Bool} (hraises : raises = false)
    (call : Registry → Result α × Registry) :
    native raises call s =
      ((call s.registry).1.mapError .failure,{s with registry := (call s.registry).2}) := by
  rw [hraises]
  rfl

/-- A goal whose update raises is passed over, any other one is canceled, and then its
entry may raise. -/
theorem commitCancel_round (hcancelable : Cancelable s.registry info) :
    ∃ s', Frame s s' ∧
      if calls.updateRaises info.goalId then
        commitCancel calls acc info s = (.ok acc,s') ∧ s'.registry = s.registry
      else
        commitCancel calls acc info s =
            (if calls.entryRaises info.goalId then .error .raised else .ok (acc ++ [info]),s') ∧
          s'.registry = (s.registry.updateState (calls.updateNow info.goalId) info.goalId
            .cancelGoal).2 := by
  by_cases hraises : calls.updateRaises info.goalId = true
  · refine ⟨s,Frame.refl,?_⟩
    rw [if_pos hraises]
    refine ⟨?_,rfl⟩
    change (Script.attempt (native (calls.updateRaises info.goalId) _) >>= _) s = _
    rw [hraises]
    rfl
  · obtain ⟨previous,hupdate,-⟩ := hcancelable.update (calls.updateNow info.goalId)
    let s' : Server := {s with
      registry := (s.registry.updateState (calls.updateNow info.goalId) info.goalId .cancelGoal).2
      goals := Table.modify info.goalId (fun _ => .canceling) s.goals}
    refine ⟨s',⟨rfl,rfl,rfl,rfl,rfl⟩,?_⟩
    rw [if_neg hraises]
    refine ⟨?_,rfl⟩
    have hfalse : calls.updateRaises info.goalId = false := Bool.not_eq_true _ ▸ hraises
    have hcall := native_eq (s := s) hfalse fun r =>
      r.updateState (calls.updateNow info.goalId) info.goalId .cancelGoal
    rw [hupdate] at hcall
    change (Script.attempt (native (calls.updateRaises info.goalId) fun r =>
      r.updateState (calls.updateNow info.goalId) info.goalId .cancelGoal) >>= _) s = _
    rw [Script.bind_attempt hcall]
    cases calls.entryRaises info.goalId <;> rfl

/-- The goals whose update succeeds. -/
def updated (calls : Calls) (goals : List GoalInfo) : List GoalInfo :=
  goals.filter fun info => !calls.updateRaises info.goalId

/-- The goals whose update succeeds are canceled, up to one whose entry raises. -/
theorem fold_commitCancel (hcancelable : ∀ info ∈ goals, Cancelable s.registry info)
    (hnodup : (goals.map (·.goalId)).Nodup) :
    ∃ outcome s', Script.fold (commitCancel calls) acc goals s = (outcome,s') ∧ Frame s s' ∧
      if (updated calls goals).any fun info => calls.entryRaises info.goalId then
        outcome = .error .raised
      else outcome = .ok (acc ++ updated calls goals) ∧
        s'.registry = Registry.cancelEach (cancellations calls (updated calls goals)) s.registry := by
  induction goals generalizing acc s with
  | nil => exact ⟨.ok acc,s,rfl,Frame.refl,by simp [updated,cancellations,Registry.cancelEach]⟩
  | cons info rest ih =>
    obtain ⟨s',hframe,hround⟩ :=
      commitCancel_round (hcancelable info List.mem_cons_self)
    have hrest := cancelable_rest (calls.updateNow info.goalId) hcancelable hnodup
    have hrestNodup := (List.nodup_cons.mp hnodup).2
    by_cases hraises : calls.updateRaises info.goalId = true
    · rw [if_pos hraises] at hround
      obtain ⟨hcommit,hregistry⟩ := hround
      have hskip : updated calls (info :: rest) = updated calls rest :=
        List.filter_cons_of_neg (by simp [hraises])
      obtain ⟨outcome,s'',hfold,hframe',hresult⟩ := ih (s := s')
        (by rw [hregistry]; exact fun other hother => hcancelable other (List.mem_cons_of_mem _ hother))
        hrestNodup
      refine ⟨outcome,s'',?_,hframe.trans hframe',?_⟩
      · rw [Script.fold_ok hcommit,hfold]
      · rw [hskip,← hregistry]
        exact hresult
    · rw [if_neg hraises] at hround
      obtain ⟨hcommit,hregistry⟩ := hround
      have hkeep : updated calls (info :: rest) = info :: updated calls rest :=
        List.filter_cons_of_pos (by simp [hraises])
      rw [hkeep]
      by_cases hentry : calls.entryRaises info.goalId = true
      · rw [if_pos hentry] at hcommit
        exact ⟨_,s',Script.fold_error hcommit,hframe,by simp [hentry]⟩
      · rw [if_neg hentry] at hcommit
        obtain ⟨outcome,s'',hfold,hframe',hresult⟩ := ih (s := s')
          (by rw [hregistry]; exact hrest) hrestNodup
        refine ⟨outcome,s'',?_,hframe.trans hframe',?_⟩
        · rw [Script.fold_ok hcommit,hfold]
        · rw [hregistry] at hresult
          simpa [hentry,cancellations,Registry.cancelEach] using hresult

/-- The status is published or its publication raises; at most ended goals go. -/
theorem publishStatus_result :
    ∃ outcome s', publishStatus calls s = (outcome,s') ∧ s'.responses = s.responses ∧
      s'.discarded = s.discarded ∧
      (s'.registry = s.registry ∨
        s'.registry = s.registry.pruneExpiredLocked calls.snapshotNow) ∧
      (outcome = .ok () ↔ Publishes calls s) := by
  rcases s with ⟨registry,goals,attached,closing,revision,slot,inflight,next,responses,discarded⟩
  cases attached with
  | false => exact ⟨_,_,rfl,rfl,rfl,.inl rfl,by simp [Publishes]⟩
  | true =>
    cases slot with
    | some ticket => exact ⟨_,_,rfl,rfl,rfl,.inl rfl,by simp [Publishes]⟩
    | none =>
      cases closing with
      | true => exact ⟨_,_,rfl,rfl,rfl,.inl rfl,by simp [Publishes]⟩
      | false =>
        rcases calls with ⟨updateNow,snapshotNow,callback,stateRaises,selectRaises,updateRaises,
          entryRaises,snapshotRaises,publishRaises,respondRaises⟩
        cases snapshotRaises with
        | true => exact ⟨_,_,rfl,rfl,rfl,.inl rfl,by simp [Publishes]⟩
        | false => cases publishRaises <;> exact ⟨_,_,rfl,rfl,rfl,.inr rfl,by simp [Publishes]⟩

/-- Without a goal that moved nothing is published. -/
theorem announce_result :
    ∃ outcome s', announce calls goals s = (outcome,s') ∧ s'.responses = s.responses ∧
      s'.discarded = s.discarded ∧
      (s'.registry = s.registry ∨
        goals ≠ [] ∧ s'.registry = s.registry.pruneExpiredLocked calls.snapshotNow) ∧
      (outcome = .ok () ↔ (goals ≠ [] → Publishes calls s)) := by
  cases goals with
  | nil => exact ⟨_,_,rfl,rfl,rfl,.inl rfl,by simp⟩
  | cons info rest =>
    obtain ⟨outcome,s',hpublish,hresponses,hdiscarded,hregistry,houtcome⟩ :=
      publishStatus_result (s := s)
    exact ⟨outcome,s',hpublish,hresponses,hdiscarded,
      hregistry.imp_right fun heq => ⟨List.cons_ne_nil _ _,heq⟩,by simp [houtcome]⟩

/-- The response is submitted unless that raises. -/
theorem respond_eq (response : Response) :
    respond calls response s =
      if calls.respondRaises then (.error .raised,s)
      else (.ok (),{s with responses := s.responses ++ [response]}) := by
  change (mayRaise calls.respondRaises >>= _) s = _
  cases calls.respondRaises <;> rfl

/-- If nothing raises after the transitions there is a response that enters what was
canceled; otherwise there is none. -/
theorem commitCancels_result (hcancelable : ∀ info ∈ goals, Cancelable s.registry info)
    (hnodup : (goals.map (·.goalId)).Nodup) :
    ∃ s', (commitCancels calls goals s).2 = s' ∧ s'.discarded = s.discarded ∧
      (Concludes calls (updated calls goals) s →
        s'.responses = s.responses ++ [⟨if (updated calls goals).isEmpty then errorRejected
          else errorNone,updated calls goals⟩] ∧
        Canceled calls (updated calls goals) s.registry s'.registry) ∧
      (¬ Concludes calls (updated calls goals) s → s'.responses = s.responses) := by
  obtain ⟨outcome,s₁,hfold,hframe,hresult⟩ :=
    fold_commitCancel hcancelable hnodup
  have hcommit : commitCancels calls goals s =
      (Script.fold (commitCancel calls) [] goals >>= fun committed => do
        announce calls committed
        respond calls ⟨if committed.isEmpty then errorRejected else errorNone,committed⟩) s := rfl
  rw [hcommit]
  by_cases hentry : ((updated calls goals).any fun info => calls.entryRaises info.goalId) = true
  · rw [if_pos hentry] at hresult
    rw [Script.bind_error (e := .raised) (by rw [hfold,hresult]),hfold]
    refine ⟨s₁,rfl,hframe.discarded,fun hconcludes => ?_,fun _ => hframe.responses⟩
    obtain ⟨info,hinfo,hraises⟩ := List.any_eq_true.mp hentry
    have hclear := (hconcludes.2 (List.ne_nil_of_mem hinfo)).1 info hinfo
    rw [hraises] at hclear
    cases hclear
  · rw [if_neg hentry,List.nil_append] at hresult
    obtain ⟨houtcome,hregistry⟩ := hresult
    have hclear : ∀ info ∈ updated calls goals, calls.entryRaises info.goalId = false := by
      simpa using hentry
    have hpublishes : Publishes calls s₁ ↔ Publishes calls s := by
      unfold Publishes
      rw [hframe.attached,hframe.closing,hframe.slot]
    rw [Script.bind_ok (a := updated calls goals) (by rw [hfold,houtcome]),hfold]
    obtain ⟨announced,s₂,hannounce,hresponses,hdiscarded,hpruned,hannounced⟩ :=
      announce_result (s := s₁)
    rw [hpublishes] at hannounced
    cases announced with
    | error e =>
      rw [Script.bind_error (e := e) (by rw [hannounce]),hannounce]
      refine ⟨s₂,rfl,hdiscarded.trans hframe.discarded,fun hconcludes => ?_,
        fun _ => hresponses.trans hframe.responses⟩
      cases hannounced.mpr fun hsome => (hconcludes.2 hsome).2
    | ok _ =>
      rw [Script.bind_ok (a := ()) (by rw [hannounce]),hannounce,respond_eq]
      cases hrespond : calls.respondRaises with
      | true =>
        refine ⟨s₂,rfl,hdiscarded.trans hframe.discarded,fun hconcludes => ?_,
          fun _ => hresponses.trans hframe.responses⟩
        rw [hconcludes.1] at hrespond
        cases hrespond
      | false =>
        have hconcludes : Concludes calls (updated calls goals) s :=
          ⟨hrespond,fun hsome => ⟨hclear,hannounced.mp rfl hsome⟩⟩
        refine ⟨_,rfl,hdiscarded.trans hframe.discarded,fun _ => ⟨?_,?_⟩,
          fun hnot => (hnot hconcludes).elim⟩
        · exact congrArg (· ++ _) (hresponses.trans hframe.responses)
        · rw [hregistry] at hpruned
          exact hpruned

/-- An exact request about no goal that can be canceled is answered with an error. -/
theorem takeCancel_early (hearly : answeredEarly calls identifier stamp s = true) :
    ∃ code, code ≠ errorNone ∧
      takeCancel calls identifier stamp s = respond calls ⟨code,[]⟩ s := by
  unfold answeredEarly at hearly
  unfold takeCancel
  split at hearly
  · cases hearly
  · rename_i goalId hexact
    rw [hexact]
    change ∃ code, code ≠ errorNone ∧ (Script.attempt _ >>= _) s = _
    cases hraises : calls.stateRaises with
    | true => exact ⟨errorUnknownGoalId,by decide,rfl⟩
    | false =>
      rw [hraises] at hearly
      have hcall := native_eq (s := s) rfl fun r => (r.state goalId,r)
      rw [Script.bind_attempt hcall]
      cases hstate : s.registry.state goalId with
      | error failure => exact ⟨errorUnknownGoalId,by decide,rfl⟩
      | ok state =>
        rw [hstate] at hearly
        have hended : isCancelableGoalState state = false := by simpa using hearly
        refine ⟨errorGoalTerminated,by decide,?_⟩
        change (if isCancelableGoalState state then _ else _ : Act Unit) s = _
        rw [hended]
        rfl

/-- Any other request selects its goals. -/
theorem takeCancel_late (hlate : answeredEarly calls identifier stamp s = false) :
    takeCancel calls identifier stamp s = selectCandidates calls identifier stamp s := by
  unfold answeredEarly at hlate
  unfold takeCancel
  split at hlate
  · rename_i hnone
    rw [hnone]
  · rename_i goalId hexact
    rw [hexact]
    obtain ⟨hraises,hmatch⟩ := Bool.or_eq_false_iff.mp hlate
    have hcall := native_eq (s := s) hraises fun r => (r.state goalId,r)
    change (Script.attempt _ >>= _) s = _
    rw [Script.bind_attempt hcall]
    cases hstate : s.registry.state goalId with
    | error failure =>
      rw [hstate] at hmatch
      cases hmatch
    | ok state =>
      rw [hstate] at hmatch
      have hactive : isCancelableGoalState state = true := by simpa using hmatch
      change (if isCancelableGoalState state then _ else _ : Act Unit) s = _
      rw [hactive]
      rfl

/-- Early answered requests have no candidates. -/
theorem granted_early (hearly : answeredEarly calls identifier stamp s = true) :
    granted calls identifier stamp s = [] := by
  have hnone : candidates calls identifier stamp s = [] := by
    unfold candidates
    rw [hearly]
    rfl
  unfold granted
  rw [hnone]
  simp

/-- A selection that raises leaves everything as it is. -/
theorem selectCandidates_error (h : ¬ (calls.selectRaises = false ∧ 0 ≤ stamp)) :
    (selectCandidates calls identifier stamp s).2 = s := by
  unfold selectCandidates
  cases hraises : calls.selectRaises with
  | true => rfl
  | false =>
    have hstamp : stamp < 0 := Int.not_le.mp fun hle => h ⟨hraises,hle⟩
    have hselection : s.registry.selectCancelGoals ⟨identifier.getD noGoalId,stamp⟩ =
        .error ⟨.invalidArgument,"Cancel stamp must not be negative"⟩ := if_pos hstamp
    have hselect := native_eq (s := s) rfl fun r =>
      (r.selectCancelGoals ⟨identifier.getD noGoalId,stamp⟩,r)
    rw [hselection] at hselect
    rw [Script.bind_error (by rw [hselect]; rfl),hselect]

/-- A selection that returns leads to the transitions of the granted goals. -/
theorem selectCandidates_ok (hkeyed : Keyed s.registry) (hraises : calls.selectRaises = false)
    (hstamp : 0 ≤ stamp) (hlate : answeredEarly calls identifier stamp s = false) :
    ∃ accepted, updated calls accepted = granted calls identifier stamp s ∧
      (∀ info ∈ accepted, Cancelable s.registry info) ∧ (accepted.map (·.goalId)).Nodup ∧
      selectCandidates calls identifier stamp s = commitCancels calls accepted s := by
  obtain ⟨selection,hselection,-⟩ := hkeyed.select ⟨identifier.getD noGoalId,stamp⟩ hstamp
  have hcandidates : candidates calls identifier stamp s =
      selection.filter fun info => decide (info.goalId ∈ s.goals) := by
    unfold candidates
    rw [hlate,hraises,hselection]
    rfl
  have hselect := native_eq (s := s) hraises fun r =>
    (r.selectCancelGoals ⟨identifier.getD noGoalId,stamp⟩,r)
  rw [hselection] at hselect
  have hasked := fold_considerCandidate calls [] selection s
  rw [← hcandidates] at hasked
  have hscript : selectCandidates calls identifier stamp s =
      (Script.attempt (Script.fold (considerCandidate calls) [] selection) >>= fun asked =>
        match asked with
        | .ok accepted => commitCancels calls accepted
        | .error _ => commitCancels calls []) s := by
    unfold selectCandidates
    rw [Script.bind_ok (a := selection) (by rw [hselect]; rfl),hselect]
  have hable := candidates_cancelable calls identifier stamp hkeyed
  rw [hscript]
  by_cases hsome : someRaises calls identifier stamp s = true
  · refine ⟨[],?_,by simp,by simp,?_⟩
    · rw [granted,if_pos hsome]
      rfl
    · unfold someRaises at hsome
      rw [if_pos hsome] at hasked
      rw [Script.bind_attempt hasked]
  · refine ⟨(candidates calls identifier stamp s).filter fun info =>
      decide (calls.cancelCallback info.goalId = .accept),?_,?_,?_,?_⟩
    · rw [granted,if_neg hsome,updated,List.filter_filter]
      refine List.filter_congr fun info _ => Bool.and_comm _ _
    · exact fun info hinfo => hable.1 info (List.mem_filter.mp hinfo).1
    · exact hable.2.sublist (List.filter_sublist.map _)
    · unfold someRaises at hsome
      rw [if_neg hsome] at hasked
      rw [Script.bind_attempt hasked,List.nil_append]

/-- What the step before the release does: without a disturbance there is a response
that enters the granted goals, which moved; with one there is none. -/
theorem takeCancel_result (hkeyed : Keyed s.registry) :
    ∃ s', (takeCancel calls identifier stamp s).2 = s' ∧ s'.discarded = s.discarded ∧
      (Undisturbed calls identifier stamp s →
        (∃ code, s'.responses = s.responses ++ [⟨code,granted calls identifier stamp s⟩] ∧
          (code = errorNone ↔ granted calls identifier stamp s ≠ [])) ∧
        Canceled calls (granted calls identifier stamp s) s.registry s'.registry) ∧
      (¬ Undisturbed calls identifier stamp s → s'.responses = s.responses) := by
  cases hearly : answeredEarly calls identifier stamp s with
  | true =>
    obtain ⟨code,hcode,htake⟩ := takeCancel_early hearly
    have hgranted := granted_early hearly
    have hundisturbed : Undisturbed calls identifier stamp s ↔ calls.respondRaises = false := by
      unfold Undisturbed Concludes
      rw [hearly,hgranted]
      simp
    rw [htake,respond_eq,hgranted,hundisturbed]
    cases calls.respondRaises with
    | true => exact ⟨s,rfl,rfl,fun h => (Bool.false_ne_true h.symm).elim,fun _ => rfl⟩
    | false =>
      refine ⟨_,rfl,rfl,fun _ => ⟨⟨code,rfl,by simp [hcode]⟩,.inl rfl⟩,fun h => (h rfl).elim⟩
  | false =>
    rw [takeCancel_late hearly]
    by_cases hselects : calls.selectRaises = false ∧ 0 ≤ stamp
    · obtain ⟨accepted,hupdated,hcancelable,hnodup,hselect⟩ :=
        selectCandidates_ok hkeyed hselects.1 hselects.2 hearly
      obtain ⟨s',hcommit,hdiscarded,hconcludes,hnot⟩ :=
        commitCancels_result hcancelable hnodup
      rw [hupdated] at hconcludes hnot
      have hundisturbed : Undisturbed calls identifier stamp s ↔
          Concludes calls (granted calls identifier stamp s) s :=
        and_iff_right (.inr hselects)
      rw [hselect,hundisturbed]
      refine ⟨s',hcommit,hdiscarded,fun h => ⟨⟨_,(hconcludes h).1,?_⟩,(hconcludes h).2⟩,hnot⟩
      cases granted calls identifier stamp s with
      | nil => simp [errorRejected,errorNone]
      | cons info rest => simp
    · have hdisturbed : ¬ Undisturbed calls identifier stamp s := by
        unfold Undisturbed
        rw [hearly]
        simp [hselects]
      exact ⟨s,selectCandidates_error hselects,rfl,fun h => (hdisturbed h).elim,fun _ => rfl⟩

/-- What the transaction leaves behind. -/
theorem transact_eq :
    (transact calls identifier stamp s).2 =
      if (takeCancel calls identifier stamp s).2.responses.isEmpty then
        {(takeCancel calls identifier stamp s).2 with discarded := true}
      else (takeCancel calls identifier stamp s).2 := rfl

/-- Without a disturbance the transaction keeps its promise. -/
theorem lawful_of_undisturbed (hkeyed : Keyed s.registry) (hfresh : s.responses = [])
    (hkept : s.discarded = false) (h : Undisturbed calls identifier stamp s) :
    Lawful calls identifier stamp s (transact calls identifier stamp s).2 := by
  obtain ⟨s',htake,hdiscarded,hresult,-⟩ :=
    takeCancel_result hkeyed
  obtain ⟨⟨code,hresponses,hcode⟩,hcanceled⟩ := hresult h
  rw [hfresh,List.nil_append] at hresponses
  have hafter : (transact calls identifier stamp s).2 = s' := by
    rw [transact_eq,htake,hresponses]
    rfl
  have hable := granted_cancelable calls identifier stamp hkeyed
  have hmoved := fun goalId => moved_iff goalId hable.1 hable.2 hcanceled
  rw [hafter]
  refine ⟨fun hsome => ?_,fun hnone goalId => ?_,⟨_,hresponses,hdiscarded.trans hkept,?_⟩⟩
  · have hgranted : granted calls identifier stamp s = [] := if_pos hsome
    rw [hgranted] at hcanceled
    cases hcanceled with
    | inl heq => exact heq
    | inr heq => exact (heq.1 rfl).elim
  · rw [hmoved goalId,granted,if_neg (by rw [hnone]; decide)]
    constructor
    · intro hgranted
      obtain ⟨info,hinfo,rfl⟩ := hgranted
      obtain ⟨hcandidate,hgives⟩ := List.mem_filter.mp hinfo
      exact ⟨info,hcandidate,rfl,by simpa using hgives⟩
    · intro hgiven
      obtain ⟨info,hcandidate,rfl,hgives⟩ := hgiven
      exact ⟨info,List.mem_filter.mpr ⟨hcandidate,by simpa using hgives⟩,rfl⟩
  · rw [hcode]
    constructor
    · intro hsome
      obtain ⟨info,hinfo⟩ := List.exists_mem_of_ne_nil _ hsome
      exact ⟨info.goalId,(hmoved info.goalId).mpr ⟨info,hinfo,rfl⟩⟩
    · intro hmoves
      obtain ⟨goalId,hmoves⟩ := hmoves
      obtain ⟨info,hinfo,-⟩ := (hmoved goalId).mp hmoves
      exact List.ne_nil_of_mem hinfo

/-- With one there is no response, and the request is discarded. -/
theorem not_lawful_of_disturbed (hkeyed : Keyed s.registry) (hfresh : s.responses = [])
    (h : ¬ Undisturbed calls identifier stamp s) :
    ¬ Lawful calls identifier stamp s (transact calls identifier stamp s).2 := by
  obtain ⟨s',htake,-,-,hnone⟩ :=
    takeCancel_result hkeyed
  have hresponses : s'.responses = [] := (hnone h).trans hfresh
  have hafter : (transact calls identifier stamp s).2 = {s' with discarded := true} := by
    rw [transact_eq,htake]
    exact if_pos (by rw [hresponses]; rfl)
  intro hlawful
  obtain ⟨response,hone,-⟩ := hlawful.answered
  rw [hafter,hresponses] at hone
  cases hone

end

/-- For a server whose goals any operations led to, and whatever the callbacks and the
native calls do, a cancel request that was just taken keeps its promise exactly if it
is answered early or its goals are selected, and nothing raises after that. -/
theorem transaction_iff (calls : Calls) (identifier : Option GoalId) (stamp : ℤ) (s : Server)
    (hgoals : ∃ resultTimeout es, s.registry = Registry.run es (Registry.new resultTimeout))
    (hfresh : s.responses = []) (hkept : s.discarded = false) :
    Lawful calls identifier stamp s (transact calls identifier stamp s).2 ↔
      Undisturbed calls identifier stamp s := by
  obtain ⟨resultTimeout,es,heq⟩ := hgoals
  have hkeyed : Keyed s.registry := by
    rw [heq]
    exact (Keyed.new resultTimeout).run es
  constructor
  · intro hlawful
    by_contra hdisturbed
    exact not_lawful_of_disturbed hkeyed hfresh hdisturbed hlawful
  · exact lawful_of_undisturbed hkeyed hfresh hkept

/-- One goal executes. -/
def serving : Server where
  registry := Registry.run goalAndReservation (Registry.new 0)
  goals := AList.singleton ⟨Vector.replicate 16 1⟩ .executing
  attached := true
  closing := false
  statusRevision := 0
  statusInflightTicket := none
  statusInflightRevision := 0
  nextTicket := 0
  responses := []
  discarded := false

/-- The application gives every goal up, and nothing raises. -/
def calm : Calls where
  updateNow := fun _ => 0
  snapshotNow := 0
  cancelCallback := fun _ => .accept
  stateRaises := false
  selectRaises := false
  updateRaises := fun _ => false
  entryRaises := fun _ => false
  snapshotRaises := false
  publishRaises := false
  respondRaises := false

/-- The goal is canceled and the request is answered. -/
theorem transaction_iff_calm : Lawful calm none 0 serving (transact calm none 0 serving).2 :=
  (transaction_iff calm none 0 serving ⟨0,goalAndReservation,rfl⟩ rfl rfl).mpr
    (by decide +kernel)

/-- The dispatcher takes no further submission. -/
def exhausted : Calls := {calm with publishRaises := true}

/-- The submission of the status raises: the goal moved, but there is no response and
the request is discarded. -/
theorem moved_goal_unanswered :
    let s' := (transact exhausted none 0 serving).2
    Moved serving s' ⟨Vector.replicate 16 1⟩ ∧ s'.responses = [] ∧ s'.discarded = true ∧
      ¬ Lawful exhausted none 0 serving s' := by
  intro s'
  have hkeyed : Keyed serving.registry := (Keyed.new 0).run goalAndReservation
  refine ⟨⟨?_,?_⟩,?_,?_,?_⟩
  · decide +kernel
  · decide +kernel
  · decide +kernel
  · decide +kernel
  · exact not_lawful_of_disturbed hkeyed rfl (by decide +kernel)

end Dmw.CancelTransactions
