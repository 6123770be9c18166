import Dmw.GoalRegistry
import Dmw.GuardedRuns
import Dmw.Scripts

/-!
# The protocol lane of an ActionServer

`ActionServer` on its owner's thread, over the goal registry and the native
works and jobs. A call may raise, take time or see the server closed meanwhile;
what it meets is an input of the step. User code runs between steps: a callback
suspends the step that asked it, and may use the server until it answers. The
contents of the messages are those of `ActionMessages`.
-/

namespace Dmw.ActionProtocol

open Identity KeyedTable GoalRegistry GuardedRuns Scripts

/-- Native tickets are numbered. -/
abbrev Ticket := ℕ

/-- Handles are numbered. -/
abbrev HandleId := ℕ

/-- Result messages are numbered; `none` is the default one. -/
abbrev ResultMessage := Option ℕ

/-- `ActionResultPayload`. -/
structure Payload where
  /-- `status`. -/
  status : ℤ
  /-- `result`. -/
  result : ResultMessage
  deriving DecidableEq

/-- `GetResult` for a goal that is not known. -/
def unknownResult : Payload := ⟨0,none⟩

/-- The events of `_terminal`. -/
inductive Ending
  | succeed
  | abort
  | canceled
  deriving DecidableEq, Repr

/-- The event of the goal state machine. -/
def Ending.event : Ending → GoalEvent
  | .succeed => .succeed
  | .abort => .abort
  | .canceled => .canceled

/-- The status of the response. -/
def Ending.status : Ending → ℤ
  | .succeed => 4
  | .abort => 6
  | .canceled => 5

/-- What a call raises. -/
inductive Exception
  | invalidState (message : String)
  /-- A native call failed. -/
  | failure (error : Error)
  /-- Anything else. -/
  | raised
  deriving DecidableEq

/-- `ServerGoalHandle`. -/
structure Handle where
  /-- `goal_id`. -/
  goalId : GoalId
  /-- `status`. -/
  status : GoalState

/-- `is_active`. -/
def Handle.isActive (handle : Handle) : Bool :=
  handle.status = .accepted || handle.status = .executing || handle.status = .canceling

/-- `ActionServerRequestKind`. -/
inductive Kind
  | goal
  | cancel
  | result
  deriving DecidableEq, Repr

/-- A value of `_protocol`. -/
inductive Operation
  | accept (handle : HandleId)
  | reject
  | cancel
  | result
  | resultDelivery
  deriving DecidableEq, Repr

/-- Operations that have the lane. -/
def Operation.isLane : Operation → Bool
  | .resultDelivery => false
  | _ => true

/-- `ActionServerRequestWork`. -/
structure Work where
  /-- `kind_`. -/
  kind : Kind
  /-- The request, once it is taken. -/
  requestId : Option RequestId
  /-- `submitted_`. -/
  submitted : Bool
  /-- It still has its job. -/
  held : Bool

/-- What a job does. -/
inductive Delivery
  | rejected
  | accepted (info : GoalInfo)
  | canceled (returnCode : ℤ) (goals : List GoalInfo)
  | result (payload : Payload)
  | discard
  | status
  | feedback
  deriving DecidableEq

/-- A job of the dispatcher, from its submission to its acknowledgement. -/
structure Job where
  /-- The request it is about. -/
  request : Option (Kind × RequestId)
  /-- What it does. -/
  delivery : Delivery
  /-- The worker is done with it, with this outcome. -/
  completed : Option Bool

/-- What happens while a step is at one of its calls. -/
structure Circumstance where
  /-- Time passes. -/
  elapsed : ℕ
  /-- Another thread closes the server. -/
  closes : Bool
  /-- The call raises. -/
  raises : Bool

/-- Where in a step a call is. -/
inductive Phase
  /-- `_begin_lane`. -/
  | beginning
  /-- From there until a request is taken. -/
  | taking
  /-- From there until its owner is recorded. -/
  | answering
  /-- Calls whose exceptions are handled. -/
  | caught
  /-- `_finish_lane` after a result request is retained. -/
  | restoring
  /-- `_finish_lane` elsewhere, and completions. -/
  | settling
  /-- `_terminal` up to the transition. -/
  | transition
  /-- The publication of the status in `_terminal`. -/
  | publishing
  /-- `_terminal` from there on. -/
  | handing
  deriving DecidableEq, Repr

/-- User code that a step waits for. -/
inductive Stage
  | idle
  /-- `_goal_callback`. -/
  | askingGoal (work : Ticket) (goalId : GoalId)
  /-- `_cancel_callback`, with the candidates left and those accepted. -/
  | askingCancel (work : Ticket) (info : GoalInfo) (handle : HandleId) (rest : List GoalInfo)
      (accepted : List (GoalInfo × HandleId))
  /-- `_execute_callback`, for the completion of a job. -/
  | executing (ticket : Ticket) (handle : HandleId)
  deriving DecidableEq

/-- A retained result request. -/
structure Retained where
  /-- The request. -/
  request : RequestId
  /-- The goal it waits for. -/
  goal : GoalId
  /-- The ticket of its work. -/
  work : Ticket

/-- A successful terminal transition. -/
structure Transition where
  /-- The goal. -/
  goal : GoalId
  /-- The frozen payload. -/
  payload : Payload
  /-- The result requests that waited for it. -/
  waiting : List RequestId

/-- `ActionServer`, its executor and its native side. -/
structure Server where
  /-- `_lane_busy`. -/
  laneBusy : Bool
  /-- `_protocol`. -/
  protocol : Table Ticket Operation
  /-- `_goals`. -/
  goals : Table GoalId HandleId
  /-- The handles. -/
  handles : HandleId → Handle
  /-- Handles made so far. -/
  nextHandle : HandleId
  /-- `_results`. -/
  results : Table GoalId Payload
  /-- `_pending_results`. -/
  pendingResults : Table RequestId Ticket
  /-- `_status_revision`. -/
  statusRevision : ℕ
  /-- `_status_inflight_ticket`. -/
  statusInflightTicket : Option Ticket
  /-- `_status_inflight_revision`. -/
  statusInflightRevision : ℕ
  /-- `_closing`. -/
  closing : Bool
  /-- The executor has a record of the server. -/
  attached : Bool
  /-- The record has a registration. -/
  registered : Bool
  /-- The executor and the Context run. -/
  running : Bool
  /-- The goals of the native server. -/
  registry : Registry
  /-- The works. -/
  works : Ticket → Work
  /-- The jobs of the dispatcher. -/
  jobs : Table Ticket Job
  /-- The next ticket. -/
  nextTicket : Ticket
  /-- The steady clock. -/
  clock : ℤ
  /-- User code that a step waits for. -/
  stage : Stage
  /-- What the calls of the step meet, by phase. -/
  circumstances : Phase → List Circumstance
  /-- Requests taken; history only. -/
  taken : List RequestId
  /-- Result requests retained; history only. -/
  retained : List Retained
  /-- Terminal transitions; history only. -/
  transitions : List Transition
  /-- Result payloads submitted; history only. -/
  answers : List (RequestId × Payload)

/-- A step of the owner. -/
abbrev Act (α : Type) := Script Server Exception α

/-- A call meets what it meets. -/
@[grind =] def circumstance (phase : Phase) : Act Unit := fun s =>
  match s.circumstances phase with
  | [] => (.ok (),s)
  | met :: rest =>
    (if met.raises then .error .raised else .ok (),
      {s with
        circumstances := Function.update s.circumstances phase rest
        clock := s.clock + met.elapsed
        closing := s.closing || met.closes})

/-- A call of the goal registry. -/
def native {α : Type} (phase : Phase) (call : ℤ → Registry → Result α × Registry) : Act α := do
  circumstance phase
  fun s =>
    ((call s.clock s.registry).1.mapError .failure,
      {s with registry := (call s.clock s.registry).2})

/-- `_suspend_registration`. -/
def suspendRegistration : Act Unit := do
  let s ← Script.get
  if s.registered then do
    circumstance .beginning
    Script.modify fun s => {s with registered := false}
  else pure ()

/-- `_restore_registration`. -/
def restoreRegistration (phase : Phase) : Act Unit := do
  let s ← Script.get
  if !s.running || s.closing || !s.attached || s.registered then pure ()
  else do
    circumstance phase
    Script.modify fun s => {s with registered := true}

/-- `_begin_lane`. -/
def beginLane : Act Unit := do
  let s ← Script.get
  if s.laneBusy then Script.raise (.invalidState "ActionServer ProtocolLane is already busy")
  else do
    Script.modify fun s => {s with laneBusy := true}
    suspendRegistration

/-- `_finish_lane`. -/
def finishLane (phase : Phase) : Act Unit := do
  Script.modify fun s => {s with laneBusy := false}
  restoreRegistration phase

/-- `_assert_owner_thread`, on the owner's thread. -/
def assertOwnerThread : Act Unit := do
  let s ← Script.get
  if s.attached then pure ()
  else Script.raise (.invalidState "Action goal mutation must run on its owner Executor")

/-- `_publish`. -/
def publish (phase : Phase) (delivery : Delivery) : Act Ticket := do
  assertOwnerThread
  circumstance phase
  let s ← Script.get
  Script.modify fun s =>
    {s with
      jobs := s.jobs.insert s.nextTicket ⟨none,delivery,none⟩
      nextTicket := s.nextTicket + 1}
  pure s.nextTicket

/-- `_start_status_publication`. -/
def startStatusPublication (phase : Phase) : Act Unit := do
  assertOwnerThread
  let s ← Script.get
  if s.closing || s.statusInflightTicket.isSome then pure ()
  else do
    let _ ← native phase fun now r => ((r.statusSnapshot now).map .ok id)
    Script.modify fun s => {s with statusInflightRevision := s.statusRevision}
    let ticket ← publish phase .status
    Script.modify fun s => {s with statusInflightTicket := some ticket}

/-- `_publish_status`. -/
def publishStatus (phase : Phase) : Act Unit := do
  assertOwnerThread
  Script.modify fun s => {s with statusRevision := s.statusRevision + 1}
  let s ← Script.get
  if s.statusInflightTicket.isSome then pure ()
  else startStatusPublication phase

/-- `_status_completion`. -/
def statusCompletion (ticket : Ticket) (succeeded : Bool) : Act Unit := do
  assertOwnerThread
  let s ← Script.get
  if s.statusInflightTicket ≠ some ticket then
    Script.raise (.invalidState "ActionServer Status completion has no in-flight snapshot")
  else do
    Script.modify fun s => {s with statusInflightTicket := none}
    -- A failed delivery is logged, and the revision stays dirty.
    if succeeded && decide (s.statusInflightRevision < s.statusRevision) then
      startStatusPublication .settling
    else pure ()

/-- `_new_work`. -/
def newWork (kind : Kind) : Act Ticket := do
  circumstance .taking
  let s ← Script.get
  Script.modify fun s =>
    {s with
      works := Function.update s.works s.nextTicket ⟨kind,none,false,true⟩
      nextTicket := s.nextTicket + 1}
  pure s.nextTicket

/-- `ActionServerRequestWork::receive`. -/
def receive {α : Type} (work : Ticket) (incoming : Option (RequestId × α)) :
    Act (Option (RequestId × α)) := do
  circumstance .taking
  match incoming with
  | none => pure none
  | some (requestId,request) => do
    Script.modify fun s =>
      {s with
        works := Function.update s.works work
          {s.works work with requestId := some requestId}
        taken := requestId :: s.taken}
    pure (some (requestId,request))

/-- The job of a work goes to the dispatcher. -/
def Server.enqueue (work : Ticket) (delivery : Delivery) (s : Server) : Server :=
  {s with
    works := Function.update s.works work {s.works work with submitted := true}
    jobs := s.jobs.insert work
      ⟨(s.works work).requestId.map fun requestId => ((s.works work).kind,requestId),delivery,none⟩}

/-- Payloads in the order of their submission. -/
def Server.note (requestId : RequestId) (delivery : Delivery) (s : Server) : Server :=
  match delivery with
  | .result payload => {s with answers := s.answers ++ [(requestId,payload)]}
  | _ => s

/-- `respond`, `respond_payload` and `accept` of a work. -/
def submit (phase : Phase) (work : Ticket) (delivery : Delivery) : Act Unit := do
  circumstance phase
  let s ← Script.get
  match (s.works work).requestId, (s.works work).submitted with
  | some requestId, false =>
    Script.modify fun s => (s.enqueue work delivery).note requestId delivery
  | _, _ => Script.raise (.failure ⟨.invalidState,"Action request is not awaiting a response"⟩)

/-- `finish_task` of a work: what was taken and not answered is discarded. -/
def release (work : Ticket) : Act Unit := Script.modify fun s =>
  if (s.works work).held then
    let s := if (s.works work).requestId.isSome && !(s.works work).submitted then
      s.enqueue work .discard else s
    {s with works := Function.update s.works work {s.works work with held := false}}
  else s

/-- The owner of a ticket is recorded. -/
def own (ticket : Ticket) (operation : Operation) : Act Unit :=
  Script.modify fun s => {s with protocol := s.protocol.insert ticket operation}

/-- How far a request is. -/
inductive Progress
  /-- There was none. -/
  | declined
  /-- A callback decides. -/
  | asking
  /-- It waits for its goal. -/
  | retained
  | answered
  deriving DecidableEq, Repr

/-- A goal request is answered with no. -/
def refuseGoal (work : Ticket) : Act Progress := do
  submit .answering work .rejected
  own work .reject
  pure .answered

/-- A goal request is answered with yes, at a reading of the wall clock. -/
def acceptGoal (work : Ticket) (goalId : GoalId) (now : ℤ) : Act Progress := do
  circumstance .answering
  let s ← Script.get
  Script.modify fun s =>
    {s with
      handles := Function.update s.handles s.nextHandle ⟨goalId,.accepted⟩
      nextHandle := s.nextHandle + 1}
  submit .answering work (.accepted ⟨goalId,now⟩)
  own work (.accept s.nextHandle)
  pure .answered

/-- `_take_goal` up to the callback. -/
def takeGoal (work : Ticket) (identifier : Option GoalId) : Act Progress := do
  let s ← Script.get
  match identifier with
  | none => refuseGoal work
  | some goalId =>
    if goalId ∈ s.goals then refuseGoal work
    else do
      Script.modify fun s => {s with stage := .askingGoal work goalId}
      pure .asking

/-- `ERROR_NONE`. -/
def errorNone : ℤ := 0

/-- `ERROR_REJECTED`. -/
def errorRejected : ℤ := 1

/-- `ERROR_UNKNOWN_GOAL_ID`. -/
def errorUnknownGoalId : ℤ := 2

/-- `ERROR_GOAL_TERMINATED`. -/
def errorGoalTerminated : ℤ := 3

/-- A cancel request is answered. -/
def answerCancel (work : Ticket) (returnCode : ℤ) (goals : List GoalInfo) : Act Progress := do
  submit .answering work (.canceled returnCode goals)
  own work .cancel
  pure .answered

/-- One accepted candidate is moved to `Canceling`. -/
def commitCancel (committed : List GoalInfo) (accepted : GoalInfo × HandleId) :
    Act (List GoalInfo) := do
  let outcome ← Script.attempt
    (native .caught fun now r => r.updateState now accepted.1.goalId .cancelGoal)
  match outcome with
  | .error _ => pure committed
  | .ok transition => do
    Script.modify fun s =>
      {s with
        handles := Function.update s.handles accepted.2
          {s.handles accepted.2 with status := transition.current}}
    circumstance .answering
    pure (committed ++ [accepted.1])

/-- The status is published if a goal was committed. -/
def announce (committed : List GoalInfo) : Act Unit :=
  if committed.isEmpty then pure () else publishStatus .answering

/-- `_take_cancel` after the callbacks. -/
def commitCancels (work : Ticket) (accepted : List (GoalInfo × HandleId)) : Act Progress := do
  let committed ← Script.fold commitCancel [] accepted
  announce committed
  answerCancel work (if committed.isEmpty then errorRejected else errorNone) committed

/-- The next candidate that has a handle is up to the callback. -/
def considerCandidates (work : Ticket) :
    List GoalInfo → List (GoalInfo × HandleId) → Act Progress
  | [], accepted => commitCancels work accepted
  | info :: rest, accepted => do
    let s ← Script.get
    match s.goals.lookup info.goalId with
    | none => considerCandidates work rest accepted
    | some handle => do
      Script.modify fun s => {s with stage := .askingCancel work info handle rest accepted}
      pure .asking

/-- The zero identity of a message that carries none. -/
def noGoalId : GoalId := ⟨Vector.replicate 16 0⟩

/-- `_take_cancel` from the selection of the candidates on. -/
def selectCandidates (work : Ticket) (identifier : Option GoalId) (stamp : ℤ) : Act Progress := do
  let candidates ← native .answering fun _ r =>
    (r.selectCancelGoals ⟨identifier.getD noGoalId,stamp⟩,r)
  considerCandidates work candidates []

/-- `_take_cancel` up to the callbacks. -/
def takeCancel (work : Ticket) (identifier : Option GoalId) (stamp : ℤ) : Act Progress := do
  circumstance .answering
  match identifier.filter fun goalId => !isZeroGoalId goalId && decide (stamp = 0) with
  | none => selectCandidates work identifier stamp
  | some goalId => do
    let outcome ← Script.attempt (native .caught fun _ r => (r.state goalId,r))
    match outcome with
    | .error _ => answerCancel work errorUnknownGoalId []
    | .ok state =>
      if isCancelableGoalState state then selectCandidates work identifier stamp
      else answerCancel work errorGoalTerminated []

/-- A result request is answered. -/
def answerResult (work : Ticket) (payload : Payload) : Act Progress := do
  submit .answering work (.result payload)
  own work .result
  pure .answered

/-- `_take_result`. -/
def takeResult (work : Ticket) (requestId : RequestId) (identifier : Option GoalId) :
    Act Progress := do
  match identifier with
  | none => do
    circumstance .answering
    answerResult work unknownResult
  | some goalId => do
    let disposition ← native .answering fun now r => r.registerResultRequest now goalId requestId
    let s ← Script.get
    match disposition, s.results.lookup goalId with
    | .pending, _ => do
      Script.modify fun s =>
        {s with
          pendingResults := s.pendingResults.insert requestId work
          retained := s.retained ++ [⟨requestId,goalId,work⟩]}
      finishLane .restoring
      pure .retained
    | .terminal, some payload => answerResult work payload
    | _, _ => do
      circumstance .answering
      answerResult work unknownResult

/-- What a request asks for. -/
inductive Request
  | goal (identifier : Option GoalId)
  | cancel (identifier : Option GoalId) (stamp : ℤ)
  | result (identifier : Option GoalId)

/-- A request is handled according to its kind. -/
def handle (work : Ticket) (requestId : RequestId) : Request → Act Progress
  | .goal identifier => takeGoal work identifier
  | .cancel identifier stamp => takeCancel work identifier stamp
  | .result identifier => takeResult work requestId identifier

/-- The `finally` around a request; tells whether there was one. -/
def carry (work : Ticket) (x : Act Progress) : Act Bool := do
  let outcome ← Script.attempt x
  match outcome with
  | .ok .asking => pure true
  | .ok .retained => pure true
  | .ok .answered => do
    release work
    pure true
  | .ok .declined => do
    release work
    pure false
  | .error e => do
    release work
    Script.raise e

/-- The `except` of `_take_ready`. -/
def guardLane (x : Act Unit) : Act Unit := do
  let outcome ← Script.attempt x
  match outcome with
  | .ok () => pure ()
  | .error e => do
    finishLane .settling
    Script.raise e

/-- What the readers of the three services have. -/
structure Incoming where
  /-- A goal request. -/
  goal : Option (RequestId × Option GoalId)
  /-- A cancel request and its stamp. -/
  cancel : Option (RequestId × Option GoalId × ℤ)
  /-- A result request. -/
  result : Option (RequestId × Option GoalId)

/-- The request of a kind. -/
def Incoming.request (incoming : Incoming) : Kind → Option (RequestId × Request)
  | .goal => incoming.goal.map fun (requestId,identifier) => (requestId,.goal identifier)
  | .cancel => incoming.cancel.map fun (requestId,identifier,stamp) =>
      (requestId,.cancel identifier stamp)
  | .result => incoming.result.map fun (requestId,identifier) => (requestId,.result identifier)

/-- A request of one kind is taken, if there is one. -/
def takeKind (incoming : Incoming) (kind : Kind) : Act Bool := do
  let work ← newWork kind
  carry work do
    let received ← receive work (incoming.request kind)
    match received with
    | none => pure .declined
    | some (requestId,request) => handle work requestId request

/-- The first request of these kinds is taken; with none the lane is free again. -/
def takeFirst (incoming : Incoming) : List Kind → Act Unit
  | [] => finishLane .settling
  | kind :: rest => do
    let found ← takeKind incoming kind
    if found then pure () else takeFirst incoming rest

/-- Expired goals are forgotten. -/
def forgetExpired : Act Unit := do
  let expired ← native .taking fun now r => ((r.takeExpiredGoals now).map .ok id)
  if expired.isEmpty then pure ()
  else do
    Script.modify fun s =>
      {s with
        goals := expired.foldl (fun goals goalId => goals.erase goalId) s.goals
        results := expired.foldl (fun results goalId => results.erase goalId) s.results}
    publishStatus .taking

/-- `_take_ready`. -/
def takeReady (incoming : Incoming) : Act Unit := do
  let s ← Script.get
  if s.laneBusy then pure ()
  else do
    beginLane
    guardLane do
      forgetExpired
      takeFirst incoming [.goal,.cancel,.result]

/-- A suspended `_take_ready` goes on. -/
def resume (work : Ticket) (x : Act Progress) : Act Unit := do
  Script.modify fun s => {s with stage := .idle}
  guardLane do
    let _ ← carry work x
    pure ()

/-- The goal callback answers yes or no, or raises. -/
def goalDecided (answer : Option Bool) (now : ℤ) : Act Unit := do
  let s ← Script.get
  match s.stage with
  | .askingGoal work goalId =>
    resume work (if answer = some true then acceptGoal work goalId now else refuseGoal work)
  | _ => pure ()

/-- The cancel callback answers yes or no, or raises, which clears the list. -/
def cancelDecided (answer : Option Bool) : Act Unit := do
  let s ← Script.get
  match s.stage with
  | .askingCancel work info handle rest accepted =>
    resume work (match answer with
      | none => commitCancels work []
      | some true => considerCandidates work rest (accepted ++ [(info,handle)])
      | some false => considerCandidates work rest accepted)
  | _ => pure ()

/-- A retained work gets its result. -/
def deliverResult (payload : Payload) (requestId : RequestId) : Act Unit := do
  let s ← Script.get
  match s.pendingResults.lookup requestId with
  | none => pure ()
  | some work => do
    Script.modify fun s => {s with pendingResults := s.pendingResults.erase requestId}
    own work .resultDelivery
    -- After an exception the work goes with the last reference to it.
    Script.ensuring (submit .handing work (.result payload)) (release work)

/-- The result requests that wait for a goal. -/
def Server.waiting (goalId : GoalId) (s : Server) : List RequestId :=
  match s.registry.goals.lookup goalId with
  | none => []
  | some record => record.pendingResultRequests

/-- `_terminal` up to the transition. -/
def transit (handle : HandleId) (ending : Ending) (result : ResultMessage) :
    Act (GoalId × Payload) := do
  assertOwnerThread
  let s ← Script.get
  if s.goals.lookup (s.handles handle).goalId ≠ some handle || !(s.handles handle).isActive then
    Script.raise (.invalidState "Goal is not active on this ActionServer")
  else do
    let goalId := (s.handles handle).goalId
    let payload : Payload := ⟨ending.status,result⟩
    circumstance .transition
    let transition ← native .transition fun now r => r.updateState now goalId ending.event
    Script.modify fun s =>
      {s with
        handles := Function.update s.handles handle
          {s.handles handle with status := transition.current}
        results := s.results.insert goalId payload
        transitions := s.transitions ++ [⟨goalId,payload,s.waiting goalId⟩]}
    pure (goalId,payload)

/-- `_terminal` after the transition. -/
def handOver (goalId : GoalId) (payload : Payload) : Act Unit := do
  publishStatus .publishing
  let requests ← native .handing fun _ r => r.takePendingResultRequests goalId
  Script.each (deliverResult payload) requests

/-- `_terminal`. -/
def terminal (handle : HandleId) (ending : Ending) (result : ResultMessage) : Act Unit := do
  let (goalId,payload) ← transit handle ending result
  handOver goalId payload

/-- `_publish_feedback`. -/
def publishFeedback (handle : HandleId) : Act Unit := do
  assertOwnerThread
  let s ← Script.get
  if s.goals.lookup (s.handles handle).goalId ≠ some handle || !(s.handles handle).isActive then
    Script.raise (.invalidState "Goal is not active on this ActionServer")
  else do
    let _ ← publish .settling .feedback
    pure ()

/-- `_run_execute` up to the callback; tells whether there is one to wait for. -/
def runExecute (ticket : Ticket) (handle : HandleId) : Act Bool := do
  assertOwnerThread
  let s ← Script.get
  if !(s.handles handle).isActive then pure false
  else do
    let _ ← native .settling fun now r => r.updateState now (s.handles handle).goalId .execute
    Script.modify fun s =>
      {s with
        handles := Function.update s.handles handle {s.handles handle with status := .executing}
        stage := .executing ticket handle}
    pure true

/-- What the execute callback does. -/
inductive Returned
  | result (result : ResultMessage)
  | raised
  /-- Its coroutine is scheduled. -/
  | scheduled

/-- `abort_goal` of a goal that is still active. -/
def abortActive (handle : HandleId) (result : ResultMessage) : Act Unit := do
  let s ← Script.get
  if (s.handles handle).isActive then terminal handle .abort result else pure ()

/-- `_run_execute` after the callback. -/
def concludeExecute (handle : HandleId) : Returned → Act Unit
  | .result result => abortActive handle result
  | .raised => abortActive handle none
  | .scheduled => pure ()

/-- `_finish_execute`. -/
def finishExecute (handle : HandleId) (result : ResultMessage) : Act Unit := do
  assertOwnerThread
  abortActive handle result

/-- The `try` of `_protocol_completion`; tells whether a callback is waited for. -/
def conclude (ticket : Ticket) (operation : Operation) (succeeded : Bool) : Act Bool := do
  if succeeded then
    match operation with
    | .accept handle => do
      Script.modify fun s =>
        {s with goals := s.goals.insert (s.handles handle).goalId handle}
      publishStatus .settling
      runExecute ticket handle
    | _ => pure false
  else Script.raise .raised

/-- The `finally` of `_protocol_completion`. -/
def settle (operation : Operation) : Act Unit :=
  if operation.isLane then finishLane .settling else pure ()

/-- `_protocol_completion`; tells whether a callback is waited for. -/
def protocolCompletion (ticket : Ticket) (succeeded : Bool) : Act Bool := do
  let s ← Script.get
  match s.protocol.lookup ticket with
  | none => Script.raise (.invalidState "ActionServer completion has no protocol owner")
  | some operation => do
    Script.modify fun s => {s with protocol := s.protocol.erase ticket}
    let outcome ← Script.attempt (conclude ticket operation succeeded)
    match outcome with
    | .ok true => pure true
    | .ok false => do
      settle operation
      pure false
    | .error e => do
      settle operation
      Script.raise e

/-- `acknowledge`. -/
def acknowledge (ticket : Ticket) : Act Unit :=
  Script.modify fun s => {s with jobs := s.jobs.erase ticket}

/-- One completion of `_drain_completions`. -/
def drain (ticket : Ticket) : Act Unit := do
  let s ← Script.get
  match s.jobs.lookup ticket with
  | none => pure ()
  | some job => do
    let succeeded := job.completed.getD false
    let outcome ← Script.attempt (match job.delivery with
      | .status => do
        statusCompletion ticket succeeded
        pure false
      | .feedback => if succeeded then pure false else Script.raise .raised
      | _ => protocolCompletion ticket succeeded)
    match outcome with
    | .ok true => pure ()
    | .ok false => acknowledge ticket
    | .error e => do
      acknowledge ticket
      Script.raise e

/-- The execute callback returns. -/
def executeReturned (returned : Returned) : Act Unit := do
  let s ← Script.get
  match s.stage with
  | .executing ticket handle => do
    Script.modify fun s => {s with stage := .idle}
    Script.ensuring
      (Script.ensuring (concludeExecute handle returned) (settle (.accept handle)))
      (acknowledge ticket)
  | _ => pure ()

/-- Accepting a goal: the reservation, the response and the commit. -/
def acceptGoalJob (info : GoalInfo) (r : Registry) : Bool × Registry :=
  match r.reserve info.goalId with
  | (false,r) => (false,r)
  | (true,r) => r.commit info .defer

/-- The worker is done with a job. A result response or its discard may have
dropped the request from the registry. -/
def Server.deliver (ticket : Ticket) (succeeds drops : Bool) (s : Server) : Server :=
  match s.jobs.lookup ticket with
  | none => s
  | some job =>
    match job.request, job.delivery with
    | _, .accepted info =>
      let accepted := if succeeds then acceptGoalJob info s.registry else (false,s.registry)
      {s with
        registry := accepted.2
        jobs := s.jobs.insert ticket {job with completed := some accepted.1}}
    | some (.result,requestId), _ =>
      {s with
        registry := if drops then s.registry.removeResultRequest requestId else s.registry
        jobs := s.jobs.insert ticket {job with completed := some succeeds}}
    | _, _ => {s with jobs := s.jobs.insert ticket {job with completed := some succeeds}}

/-- `_retire_bindings`, and the executor lets go of the server. -/
def Server.retire (s : Server) : Server :=
  {s with
    pendingResults := ∅
    results := ∅
    goals := ∅
    protocol := ∅
    statusInflightTicket := none
    registered := false
    attached := false}

/-- No work and no job has a lease of the native server. -/
def Server.unleased (s : Server) : Bool :=
  decide (s.jobs.entries = []) && s.pendingResults.entries.all fun e => !(s.works e.2).held

/-- What the calls of a step meet. -/
abbrev Circumstances := Phase → List Circumstance

/-- A step of the owner, the worker or another thread. -/
inductive Event
  | takeReady (incoming : Incoming) (met : Circumstances)
  | goalDecided (answer : Option Bool) (now : ℤ) (met : Circumstances)
  | cancelDecided (answer : Option Bool) (met : Circumstances)
  | drain (ticket : Ticket) (met : Circumstances)
  | executeReturned (returned : Returned) (met : Circumstances)
  | finishExecute (handle : HandleId) (result : ResultMessage) (met : Circumstances)
  | terminal (handle : HandleId) (ending : Ending) (result : ResultMessage) (met : Circumstances)
  | publishFeedback (handle : HandleId) (met : Circumstances)
  | deliver (ticket : Ticket) (succeeds drops : Bool)
  | close
  | stop
  | retire

/-- The step of the owner an event is. -/
def Event.act : Event → Option (Act Unit × Circumstances)
  | .takeReady incoming met => some (ActionProtocol.takeReady incoming,met)
  | .goalDecided answer now met => some (ActionProtocol.goalDecided answer now,met)
  | .cancelDecided answer met => some (ActionProtocol.cancelDecided answer,met)
  | .drain ticket met => some (ActionProtocol.drain ticket,met)
  | .executeReturned returned met => some (ActionProtocol.executeReturned returned,met)
  | .finishExecute handle result met => some (ActionProtocol.finishExecute handle result,met)
  | .terminal handle ending result met => some (ActionProtocol.terminal handle ending result,met)
  | .publishFeedback handle met => some (ActionProtocol.publishFeedback handle,met)
  | _ => none

/-- A request identity that no taken request has. -/
def Server.fresh (s : Server) (incoming : Incoming) : Bool :=
  [Kind.goal,.cancel,.result].all fun kind =>
    (incoming.request kind).all fun request => decide (request.1 ∉ s.taken)

/-- When an event can happen. -/
def Enabled (s : Server) : Event → Prop
  | .takeReady incoming _ =>
    s.stage = .idle ∧ s.registered = true ∧ s.running = true ∧ s.closing = false ∧
      s.attached = true ∧ s.fresh incoming = true
  | .goalDecided _ _ _ => (match s.stage with
    | .askingGoal _ _ => true
    | _ => false) = true
  | .cancelDecided _ _ => (match s.stage with
    | .askingCancel _ _ _ _ _ => true
    | _ => false) = true
  | .drain ticket _ =>
    s.stage = .idle ∧ ((s.jobs.lookup ticket).bind (·.completed)).isSome = true
  | .executeReturned _ _ => (match s.stage with
    | .executing _ _ => true
    | _ => false) = true
  | .finishExecute handle _ _ => handle < s.nextHandle
  | .terminal handle _ _ _ => handle < s.nextHandle
  | .publishFeedback handle _ => handle < s.nextHandle
  | .deliver ticket _ _ => (s.jobs.lookup ticket).map (·.completed) = some none
  | .close => True
  | .stop => True
  | .retire => s.stage = .idle ∧ s.closing = true ∧ s.attached = true ∧ s.unleased = true

instance (s : Server) (e : Event) : Decidable (Enabled s e) := by
  cases e <;> unfold Enabled <;> infer_instance

/-- Effect of an event; what a step raises ends it. -/
def next (s : Server) (e : Event) : Server :=
  match e.act with
  | some (x,met) => (x {s with circumstances := met}).2
  | none =>
    match e with
    | .deliver ticket succeeds drops => s.deliver ticket succeeds drops
    | .close => {s with closing := true}
    | .stop => {s with running := false}
    | .retire => s.retire
    | _ => s

/-- An ActionServer with its owner, its worker and its user. -/
def machine : Machine Server Event where
  enabled := Enabled
  next := next
  decidableEnabled := inferInstance

/-- A new ActionServer that is attached to a running executor. -/
def Server.initial (resultTimeout : ℕ) (clock : ℤ) : Server where
  laneBusy := false
  protocol := ∅
  goals := ∅
  handles := fun _ => ⟨noGoalId,.unknown⟩
  nextHandle := 0
  results := ∅
  pendingResults := ∅
  statusRevision := 0
  statusInflightTicket := none
  statusInflightRevision := 0
  closing := false
  attached := true
  registered := true
  running := true
  registry := Registry.new resultTimeout
  works := fun _ => ⟨.goal,none,false,false⟩
  jobs := ∅
  nextTicket := 0
  clock := clock
  stage := .idle
  circumstances := fun _ => []
  taken := []
  retained := []
  transitions := []
  answers := []

end Dmw.ActionProtocol
