import Dmw.ActionProtocol
import Dmw.NativeIo
import Dmw.TaskCapacity

/-!
# Draining the mailbox of an executor

`_drain_completions` hands every completion to its family: services, the lane
and the publications of ActionServers, and the operations of publishers and
clients. Deliveries may fail in any mix; what else a handler meets is an input
of its completion, as is what the callback of an accepted goal and other threads
do to the executor. The requests of a client are reconciled elsewhere.
-/

namespace Dmw.CompletionDrain

open Identity (RequestId)
open KeyedTable GoalRegistry NativeIo Scripts TaskCapacity
open ActionProtocol (Handle HandleId)

/-- What a completion raises. -/
inductive Exception
  /-- It violates its captured owner identity. -/
  | identity (message : String)
  | invalidState (message : String)
  /-- `completion.check()`. -/
  | delivery
  /-- A call of the handler. -/
  | raised
  deriving DecidableEq

/-- The captured owner identity is wrong. -/
def Exception.isIdentity : Exception → Bool
  | .identity _ => true
  | _ => false

/-- `_EntityRecord` of an entity. -/
structure Record where
  /-- `generation`. -/
  generation : ℕ
  /-- `_dispatch_kind`. -/
  kind : DispatchKind
  /-- There is a `registration`. -/
  registered : Bool

/-- `_OutboundOperation`. -/
structure Outbound where
  /-- `entity`. -/
  entity : EntityId
  /-- `generation`. -/
  generation : ℕ
  /-- `ticket`. -/
  ticket : Option ℕ
  /-- The kind is `request` or `action_request`. -/
  isRequest : Bool
  /-- `future`; none while it is pending. -/
  future : Option (Except Exception Unit)
  /-- `send_reconciled`. -/
  sendReconciled : Bool

/-- What a completion touches of an ActionServer. -/
structure Server where
  /-- `_lane_busy`. -/
  laneBusy : Bool
  /-- `_protocol`. -/
  protocol : Table ℕ ActionProtocol.Operation
  /-- `_goals`. -/
  goals : Table GoalId HandleId
  /-- The handles. -/
  handles : HandleId → Handle
  /-- `_pending_results`, with the tickets of the works. -/
  pendingResults : Table RequestId ℕ
  /-- `_status_revision`. -/
  statusRevision : ℕ
  /-- `_status_inflight_ticket`. -/
  statusInflightTicket : Option ℕ
  /-- `_status_inflight_revision`. -/
  statusInflightRevision : ℕ

/-- An executor. -/
structure Owner where
  /-- `_port.executor_id`. -/
  executorId : ℕ
  /-- `_state` is `RUNNING`. -/
  running : Bool
  /-- `context.ok()`. -/
  contextOpen : Bool
  /-- `_records`, by the identities of their entities. -/
  records : Table EntityId Record
  /-- `_closing`. -/
  closing : EntityId → Bool
  /-- The ActionServers. -/
  servers : EntityId → Server
  /-- `_operations`. -/
  operations : Table ℕ Outbound
  /-- Tickets acknowledged so far; history only. -/
  acknowledged : List ℕ

/-- What the publication of a status meets. -/
structure Publication where
  /-- `status_snapshot` raises. -/
  snapshot : Bool
  /-- The ticket of `publish_action`; none if it raises. -/
  ticket : Option ℕ

/-- What the terminal transition of a goal meets. -/
structure Termination where
  /-- The result payload cannot be made. -/
  payload : Bool
  /-- The state `update_goal_state` reports; none if it raises. -/
  transition : Option GoalState
  /-- The publication of the status. -/
  status : Publication
  /-- `take_pending_result_requests`, each with whether its response raises;
  none if it raises itself. -/
  waiting : Option (List (RequestId × Bool))

/-- What the callback of a goal or another thread may do to the executor. -/
inductive Deed
  /-- It ends a goal of some ActionServer. -/
  | terminal (entity : EntityId) (handle : HandleId) (calls : Termination)
  /-- It submits a message or a request. -/
  | submit (id : ℕ) (operation : Outbound)
  /-- It finishes or cancels a Future. -/
  | finish (id : ℕ) (outcome : Except Exception Unit)
  /-- It adds an entity to a node of the executor, or a node. -/
  | attach (entity : EntityId) (record : Record)
  /-- It removes a node. -/
  | detach (entity : EntityId)
  /-- It closes an entity. -/
  | close (entity : EntityId)
  /-- It waits until a closed ActionServer is gone. -/
  | retire (entity : EntityId)
  /-- It requests the shutdown of the executor. -/
  | stop
  /-- It requests the shutdown of the Context. -/
  | shutdownContext

/-- What the execution of an accepted goal meets. -/
structure Execution where
  /-- The transition to `EXECUTING` raises. -/
  refused : Bool
  /-- What the callback does, and the scheduler if it returns an awaitable. -/
  deeds : List Deed
  /-- The callback returned an awaitable, which is scheduled. -/
  scheduled : Bool
  /-- What aborting the goal meets. -/
  abort : Termination

/-- What the calls of a handler meet. -/
structure Calls where
  /-- The publication of the status. -/
  status : Publication
  /-- The execution of an accepted goal. -/
  execution : Execution
  /-- The registration of a free lane raises. -/
  registration : Bool
  /-- `_send_committed` keeps the operation. -/
  keeps : Bool
  /-- `_send_committed` raises: an early response came before its Future was marked. -/
  reconciliation : Bool

/-- A completion of the mailbox. -/
structure Entry where
  /-- Its ticket. -/
  ticket : ℕ
  /-- Its record. -/
  completion : CompletionRecord
  /-- What other threads do before it is found. -/
  meanwhile : List Deed
  /-- What the calls of its handler meet. -/
  calls : Calls

/-- A step of the drain. -/
abbrev Act (α : Type) := Script Owner Exception α

/-- One ActionServer changes. -/
def Owner.setServer (entity : EntityId) (server : Server) (s : Owner) : Owner :=
  {s with servers := Function.update s.servers entity server}

/-- `_assert_owner_thread`, on the owner's thread. -/
def assertOwnerThread (entity : EntityId) : Act Unit := do
  let s ← Script.get
  if s.records.lookup entity = none then
    Script.raise (.invalidState "Action goal mutation must run on its owner Executor")
  else pure ()

/-- `_publish`. -/
def publish (entity : EntityId) (ticket : Option ℕ) : Act ℕ := do
  assertOwnerThread entity
  match ticket with
  | none => Script.raise .raised
  | some ticket => pure ticket

/-- `_start_status_publication`. -/
def startStatusPublication (entity : EntityId) (calls : Publication) : Act Unit := do
  assertOwnerThread entity
  let s ← Script.get
  if s.closing entity || (s.servers entity).statusInflightTicket.isSome then pure ()
  else if calls.snapshot then Script.raise .raised
  else do
    Script.modify fun s => s.setServer entity
      {s.servers entity with statusInflightRevision := (s.servers entity).statusRevision}
    let ticket ← publish entity calls.ticket
    Script.modify fun s => s.setServer entity
      {s.servers entity with statusInflightTicket := some ticket}

/-- `_publish_status`. -/
def publishStatus (entity : EntityId) (calls : Publication) : Act Unit := do
  assertOwnerThread entity
  Script.modify fun s => s.setServer entity
    {s.servers entity with statusRevision := (s.servers entity).statusRevision + 1}
  let s ← Script.get
  if (s.servers entity).statusInflightTicket.isSome then pure ()
  else startStatusPublication entity calls

/-- A handle has a new status. -/
def setStatus (entity : EntityId) (handle : HandleId) (state : GoalState) : Act Unit :=
  Script.modify fun s => s.setServer entity {s.servers entity with
    handles := Function.update (s.servers entity).handles handle
      {(s.servers entity).handles handle with status := state}}

/-- The handle is the one of its goal, and active. -/
def Owner.holdsActive (entity : EntityId) (handle : HandleId) (s : Owner) : Bool :=
  decide ((s.servers entity).goals.lookup ((s.servers entity).handles handle).goalId =
    some handle) && ((s.servers entity).handles handle).isActive

/-- A retained result request gets its response. -/
def deliverResult (entity : EntityId) (waiting : RequestId × Bool) : Act Unit := do
  let s ← Script.get
  match (s.servers entity).pendingResults.lookup waiting.1 with
  | none => pure ()
  | some ticket => do
    Script.modify fun s => s.setServer entity
      {s.servers entity with
        pendingResults := (s.servers entity).pendingResults.erase waiting.1
        protocol := (s.servers entity).protocol.insert ticket .resultDelivery}
    if waiting.2 then Script.raise .raised else pure ()

/-- The retained result requests of a goal get their responses. -/
def deliverResults (entity : EntityId) (waiting : Option (List (RequestId × Bool))) : Act Unit :=
  match waiting with
  | none => Script.raise .raised
  | some waiting => Script.each (deliverResult entity) waiting

/-- `_terminal`. -/
def terminal (entity : EntityId) (handle : HandleId) (calls : Termination) : Act Unit := do
  assertOwnerThread entity
  let s ← Script.get
  if !s.holdsActive entity handle then
    Script.raise (.invalidState "Goal is not active on this ActionServer")
  else if calls.payload then Script.raise .raised
  else match calls.transition with
    | none => Script.raise .raised
    | some state => do
      setStatus entity handle state
      publishStatus entity calls.status
      deliverResults entity calls.waiting

/-- A Future is completed once. -/
def Outbound.complete (outcome : Except Exception Unit) (operation : Outbound) : Outbound :=
  {operation with future := operation.future <|> some outcome}

/-- The Future of an operation is finished. -/
def Owner.finish (id : ℕ) (outcome : Except Exception Unit) (s : Owner) : Owner :=
  match s.operations.lookup id with
  | none => s
  | some operation =>
    {s with operations := s.operations.insert id (operation.complete outcome)}

/-- `_retire_bindings` of an ActionServer. -/
def Owner.retire (entity : EntityId) (s : Owner) : Owner :=
  s.setServer entity
    {s.servers entity with
      protocol := ∅
      goals := ∅
      pendingResults := ∅
      statusInflightTicket := none}

/-- What a deed does. -/
def Deed.act : Deed → Act Unit
  | .terminal entity handle calls => CompletionDrain.terminal entity handle calls
  | .submit id operation => Script.modify fun s =>
    {s with operations := s.operations.insert id operation}
  | .finish id outcome => Script.modify (Owner.finish id outcome)
  | .attach entity record => Script.modify fun s =>
    {s with records := s.records.insert entity record}
  | .detach entity => Script.modify fun s => {s with records := s.records.erase entity}
  | .close entity => Script.modify fun s =>
    {s with closing := Function.update s.closing entity true}
  | .retire entity => Script.modify (Owner.retire entity)
  | .stop => Script.modify fun s => {s with running := false}
  | .shutdownContext => Script.modify fun s => {s with contextOpen := false}

/-- A deed that raises ends nothing but itself: whoever does it handles what it
raises, or is a callback that is left and everything it raises is caught. -/
def perform (deed : Deed) : Act Unit := do
  let _ ← Script.attempt deed.act
  pure ()

/-- `_execute_callback`, on a goal that is executing. -/
def executeCallback (entity : EntityId) (handle : HandleId) (deeds : List Deed) : Act Unit := do
  setStatus entity handle .executing
  Script.each perform deeds

/-- The handle is active. -/
def Owner.isActive (entity : EntityId) (handle : HandleId) (s : Owner) : Bool :=
  ((s.servers entity).handles handle).isActive

/-- `_run_execute`. -/
def runExecute (entity : EntityId) (handle : HandleId) (execution : Execution) : Act Unit := do
  assertOwnerThread entity
  let s ← Script.get
  if !s.isActive entity handle then pure ()
  else if execution.refused then Script.raise .raised
  else do
    executeCallback entity handle execution.deeds
    let s ← Script.get
    if execution.scheduled || !s.isActive entity handle then pure ()
    else terminal entity handle execution.abort

/-- `_finish_lane`. -/
def finishLane (entity : EntityId) (calls : Calls) : Act Unit := do
  Script.modify fun s => s.setServer entity {s.servers entity with laneBusy := false}
  let s ← Script.get
  match s.records.lookup entity with
  | none => pure ()
  | some record =>
    if !s.running || !s.contextOpen || s.closing entity || record.registered then pure ()
    else if calls.registration then Script.raise .raised
    else Script.modify fun s =>
      {s with records := s.records.insert entity {record with registered := true}}

/-- An accepted goal is recorded, and the status published. -/
def acceptGoal (entity : EntityId) (handle : HandleId) (calls : Publication) : Act Unit := do
  Script.modify fun s => s.setServer entity
    {s.servers entity with
      goals := (s.servers entity).goals.insert ((s.servers entity).handles handle).goalId handle}
  publishStatus entity calls

/-- The `try` of `_protocol_completion`. -/
def conclude (entity : EntityId) (operation : ActionProtocol.Operation) (entry : Entry) :
    Act Unit :=
  if entry.completion.failed then Script.raise .delivery
  else match operation with
    | .accept handle => do
      acceptGoal entity handle entry.calls.status
      runExecute entity handle entry.calls.execution
    | _ => pure ()

/-- The `finally` of `_protocol_completion`. -/
def settle (entity : EntityId) (operation : ActionProtocol.Operation) (calls : Calls) : Act Unit :=
  if operation.isLane then finishLane entity calls else pure ()

/-- A response has come to its end. -/
def Owner.popOperation (entity : EntityId) (ticket : ℕ) (s : Owner) : Owner :=
  s.setServer entity
    {s.servers entity with protocol := (s.servers entity).protocol.erase ticket}

/-- `_protocol_completion`. -/
def protocolCompletion (entity : EntityId) (entry : Entry) : Act Unit := do
  let s ← Script.get
  match (s.servers entity).protocol.lookup entry.ticket with
  | none => Script.raise (.invalidState "ActionServer completion has no protocol owner")
  | some operation => do
    Script.modify (Owner.popOperation entity entry.ticket)
    Script.ensuring (conclude entity operation entry) (settle entity operation entry.calls)

/-- `_status_completion`. -/
def statusCompletion (entity : EntityId) (entry : Entry) : Act Unit := do
  assertOwnerThread entity
  let s ← Script.get
  let server := s.servers entity
  if server.statusInflightTicket ≠ some entry.ticket then
    Script.raise (.invalidState "ActionServer Status completion has no in-flight snapshot")
  else do
    Script.modify fun s => s.setServer entity {server with statusInflightTicket := none}
    -- A failed delivery is logged.
    if !entry.completion.failed && decide (server.statusInflightRevision < server.statusRevision)
    then startStatusPublication entity entry.calls.status
    else pure ()

/-- The record of the entity has the generation and the kind of the completion. -/
def Owner.owns (entry : Entry) (kind : DispatchKind) (s : Owner) : Bool :=
  (s.records.lookup entry.completion.entityId).any fun record =>
    decide (record.generation = entry.completion.attachmentGeneration ∧ record.kind = kind)

/-- A service response or discard: a failure closes the service. -/
def serviceCompletion (entry : Entry) : Act Bool := do
  Script.modify fun s =>
    if entry.completion.failed || entry.completion.cleanupFailed then
      {s with closing := Function.update s.closing entry.completion.entityId true}
    else s
  pure false

/-- A request was sent: `_send_committed` reconciles it. -/
def Entry.reconciles (operation : Outbound) (entry : Entry) : Bool :=
  operation.isRequest && !entry.completion.failed && !entry.completion.skipped &&
    entry.completion.requestId.isSome

/-- The completion of an operation: its failure goes to its Future. -/
def outboundCompletion (entry : Entry) (operation : Outbound) : Act Bool :=
  let failed := entry.completion.failed
  let reached := if operation.isRequest && !failed then operation
    else operation.complete (if failed then .error .delivery else .ok ())
  let settled := if operation.isRequest then {reached with sendReconciled := true, ticket := none}
    else reached
  if entry.reconciles operation && entry.calls.reconciliation then Script.raise .raised
  else do
    Script.modify fun s =>
      {s with operations := s.operations.insert entry.completion.operationId settled}
    pure (entry.reconciles operation && entry.calls.keeps)

/-- The operation a completion was made for. -/
def Owner.captures (entry : Entry) (operation : Outbound) (s : Owner) : Bool :=
  decide (operation.ticket = some entry.ticket ∧ entry.completion.executorId = s.executorId ∧
    entry.completion.entityId = operation.entity ∧
      entry.completion.attachmentGeneration = operation.generation)

/-- What a completion is. -/
inductive Family
  | service
  /-- The responses of an ActionServer. -/
  | lane
  | status
  | feedback
  /-- Publishers and clients. -/
  | outbound
  deriving DecidableEq

/-- The family of a job. -/
def family : NativeJobKind → Family
  | .serviceResponse | .discardRequest => .service
  | .goalResponse | .cancelResponse | .resultResponse => .lane
  | .status => .status
  | .feedback => .feedback
  | _ => .outbound

/-- The body of the loop of `_drain_completions`; tells whether the operation is kept. -/
def handle (entry : Entry) : Act Bool := do
  let s ← Script.get
  let entity := entry.completion.entityId
  match family entry.completion.kind with
  | .service =>
    if s.owns entry .service then serviceCompletion entry
    else Script.raise (.identity "Service completion violates its captured owner identity")
  | .lane =>
    if s.owns entry .actionServer then do
      protocolCompletion entity entry
      pure false
    else Script.raise (.identity "ActionServer completion violates its captured owner identity")
  | .status =>
    if s.owns entry .actionServer then do
      statusCompletion entity entry
      pure false
    else Script.raise (.identity "Action publication completion violates its owner identity")
  | .feedback =>
    if s.owns entry .actionServer then
      if entry.completion.failed then Script.raise .delivery else pure false
    else Script.raise (.identity "Action publication completion violates its owner identity")
  | .outbound =>
    match s.operations.lookup entry.completion.operationId with
    | none => Script.raise (.identity "Native completion violates its captured owner identity")
    | some operation =>
      if s.captures entry operation then outboundCompletion entry operation
      else Script.raise (.identity "Native completion violates its captured owner identity")

/-- The ticket is acknowledged, and the operation goes unless it is kept. -/
def acknowledge (entry : Entry) (keep : Bool) : Act Unit := Script.modify fun s =>
  {s with
    acknowledged := s.acknowledged ++ [entry.ticket]
    operations := if keep then s.operations
      else s.operations.erase entry.completion.operationId}

/-- What one round of `_drain_completions` does with the completion it found, with
its `finally`. -/
def process (entry : Entry) : Act Unit := do
  let outcome ← Script.attempt (handle entry)
  match outcome with
  | .ok keep => acknowledge entry keep
  | .error e => do
    acknowledge entry false
    Script.raise e

/-- One round of `_drain_completions`. -/
def drainOne (entry : Entry) : Act Unit := do
  Script.each perform entry.meanwhile
  process entry

/-- `_drain_completions`, on the completions it finds. -/
def drainCompletions : List Entry → Act Unit
  | [] => pure ()
  | entry :: rest => do
    drainOne entry
    drainCompletions rest

/-! ## Completions that raise nothing -/

/-- The captured owner identity is right. -/
def Identified (s : Owner) (entry : Entry) : Prop :=
  match family entry.completion.kind with
  | .service => s.owns entry .service = true
  | .lane | .status | .feedback => s.owns entry .actionServer = true
  | .outbound => ∃ operation, s.operations.lookup entry.completion.operationId = some operation ∧
      s.captures entry operation = true

/-- A status is published and one of its calls raises. -/
def PublicationRaises (s : Owner) (entity : EntityId) (calls : Publication) : Prop :=
  s.records.lookup entity = none ∨ s.closing entity = false ∧
    (s.servers entity).statusInflightTicket = none ∧ (calls.snapshot = true ∨ calls.ticket = none)

/-- A response raises, of those that are retained. -/
def DeliveryRaises : Table RequestId ℕ → List (RequestId × Bool) → Prop
  | _, [] => False
  | pending, (request,raises) :: rest =>
    if (pending.lookup request).isSome then raises = true ∨ DeliveryRaises (pending.erase request) rest
    else DeliveryRaises pending rest

/-- The terminal transition of a goal raises. -/
def TerminalRaises (s : Owner) (entity : EntityId) (handle : HandleId) (calls : Termination) :
    Prop :=
  s.records.lookup entity = none ∨ s.holdsActive entity handle = false ∨ calls.payload = true ∨
    calls.transition = none ∨ PublicationRaises s entity calls.status ∨
      calls.waiting.elim True (DeliveryRaises (s.servers entity).pendingResults)

/-- The execution of an accepted goal raises: its transition is refused, or the
callback leaves it active and aborting it raises. -/
def ExecutionRaises (s : Owner) (entity : EntityId) (handle : HandleId) (execution : Execution) :
    Prop :=
  s.records.lookup entity = none ∨ s.isActive entity handle = true ∧
    (execution.refused = true ∨ execution.scheduled = false ∧
      (executeCallback entity handle execution.deeds s).2.isActive entity handle = true ∧
        TerminalRaises (executeCallback entity handle execution.deeds s).2 entity handle
          execution.abort)

/-- A free lane is registered again and that raises. -/
def RegistrationRaises (s : Owner) (entity : EntityId) (calls : Calls) : Prop :=
  s.running = true ∧ s.contextOpen = true ∧ s.closing entity = false ∧
    (∃ record, s.records.lookup entity = some record ∧ record.registered = false) ∧
      calls.registration = true

/-- The body of a response raises. -/
def ConclusionRaises (s : Owner) (entity : EntityId) (operation : ActionProtocol.Operation)
    (entry : Entry) : Prop :=
  entry.completion.failed = true ∨ ∃ handle, operation = .accept handle ∧
    (PublicationRaises s entity entry.calls.status ∨
      ExecutionRaises (acceptGoal entity handle entry.calls.status s).2 entity handle
        entry.calls.execution)

/-- A response of an ActionServer raises. -/
def LaneRaises (s : Owner) (entity : EntityId) (operation : ActionProtocol.Operation)
    (entry : Entry) : Prop :=
  ConclusionRaises s entity operation entry ∨
    operation.isLane = true ∧
      RegistrationRaises (conclude entity operation entry s).2 entity entry.calls

/-- A response has an operation and raises nothing. -/
def ResponseQuiet (s : Owner) (entity : EntityId) (entry : Entry) : Prop :=
  ∃ operation, (s.servers entity).protocol.lookup entry.ticket = some operation ∧
    ¬ LaneRaises (s.popOperation entity entry.ticket) entity operation entry

/-- A status is the one in flight, and the publication after it raises nothing. -/
def StatusQuiet (s : Owner) (entity : EntityId) (entry : Entry) : Prop :=
  (s.servers entity).statusInflightTicket = some entry.ticket ∧
    ¬ (entry.completion.failed = false ∧
      (s.servers entity).statusInflightRevision < (s.servers entity).statusRevision ∧
        s.closing entity = false ∧
          (entry.calls.status.snapshot = true ∨ entry.calls.status.ticket = none))

/-- The completion raises nothing. -/
def Benign (s : Owner) (entry : Entry) : Prop :=
  let entity := entry.completion.entityId
  match family entry.completion.kind with
  | .service => True
  | .outbound => ∀ operation, s.operations.lookup entry.completion.operationId = some operation →
      entry.reconciles operation = true → entry.calls.reconciliation = false
  | .lane => ResponseQuiet s entity entry
  | .status => StatusQuiet s entity entry
  | .feedback => entry.completion.failed = false

/-- The executor as the round that finds the completion sees it. -/
def Owner.found (entry : Entry) (s : Owner) : Owner := (Script.each perform entry.meanwhile s).2

/-- Every completion up to a wrong identity raises nothing. -/
def Harmless : Owner → List Entry → Prop
  | _, [] => True
  | s, entry :: rest =>
    Identified (s.found entry) entry →
      Benign (s.found entry) entry ∧ Harmless (drainOne entry s).2 rest

/-- A failed delivery of an ActionServer. -/
def Entry.failsAction (entry : Entry) : Prop :=
  entry.completion.failed = true ∧
    (family entry.completion.kind = .lane ∨ family entry.completion.kind = .status ∨
      family entry.completion.kind = .feedback)

/-- A failed delivery touches nothing but its own request. -/
structure Confined (entry : Entry) (s s' : Owner) : Prop where
  /-- The other records. -/
  records : ∀ other, other ≠ entry.completion.entityId →
    s'.records.lookup other = s.records.lookup other
  /-- The other entities. -/
  servers : ∀ other, other ≠ entry.completion.entityId → s'.servers other = s.servers other
  /-- Nothing is closed. -/
  closing : s'.closing = s.closing
  /-- The other operations. -/
  operations : ∀ id, id ≠ entry.completion.operationId →
    s'.operations.lookup id = s.operations.lookup id
  /-- The other requests of the same ActionServer. -/
  protocol : ∀ ticket, ticket ≠ entry.ticket →
    (s'.servers entry.completion.entityId).protocol.lookup ticket =
      (s.servers entry.completion.entityId).protocol.lookup ticket
  /-- Its lane goes free. -/
  lane : ∀ operation, family entry.completion.kind = .lane →
    (s.servers entry.completion.entityId).protocol.lookup entry.ticket = some operation →
      operation.isLane = true → (s'.servers entry.completion.entityId).laneBusy = false
  /-- Its status slot goes free. -/
  status : family entry.completion.kind = .status →
    (s'.servers entry.completion.entityId).statusInflightTicket ≠ some entry.ticket

/-- One failed delivery does not take the executor down. -/
structure Isolated (s : Owner) (l : List Entry) : Prop where
  /-- Only a wrong identity is raised. -/
  returns : ∀ e, (drainCompletions l s).1 = .error e → e.isIdentity = true
  /-- Every completion is acknowledged once and in order, up to a wrong identity. -/
  acknowledged : ∃ rest : List Entry, (drainCompletions l s).2.acknowledged ++ rest.map (·.ticket) =
    s.acknowledged ++ l.map (·.ticket) ∧ ((drainCompletions l s).1 = .ok () → rest = [])
  /-- A failed delivery of an ActionServer stays with its request. -/
  confined : ∀ before entry after, l = before ++ entry :: after →
    (drainCompletions before s).1 = .ok () →
      Identified ((drainCompletions before s).2.found entry) entry → entry.failsAction →
        Confined entry ((drainCompletions before s).2.found entry)
          (drainOne entry (drainCompletions before s).2).2

/-! ## What raises -/

/-- A script raises under a condition on its state and only then, no wrong
identity, and acknowledges nothing. -/
structure RaisesIff (s : Owner) (x : Act Unit) (p : Prop) : Prop where
  kept : (x s).2.acknowledged = s.acknowledged
  returns : (x s).1 = .ok () → ¬ p
  raises : ∀ e, (x s).1 = .error e → e.isIdentity = false ∧ p

variable {entity : EntityId} {s s' s'' : Owner} {entry : Entry} {calls : Calls}
  {x y : Act Unit} {p q : Prop}

theorem assertOwnerThread_eq (entity : EntityId) (s : Owner) :
    assertOwnerThread entity s = (if s.records.lookup entity = none then
      Script.raise (.invalidState "Action goal mutation must run on its owner Executor")
      else pure () : Act Unit) s := rfl

theorem assertOwnerThread_attached (h : s.records.lookup entity ≠ none) :
    assertOwnerThread entity s = (.ok (),s) := by
  rw [assertOwnerThread_eq,if_neg h]
  rfl

namespace RaisesIff

theorem congr (h : RaisesIff s x p) (hiff : p ↔ q) : RaisesIff s x q :=
  ⟨h.kept,fun hx hq => h.returns hx (hiff.mpr hq),fun e he =>
    ⟨(h.raises e he).1,hiff.mp (h.raises e he).2⟩⟩

/-- A script that does what another one does from a later state. -/
theorem of_eq (y : Act Unit) (s' : Owner) (hx : x s = y s') (hkept : s'.acknowledged = s.acknowledged)
    (hy : RaisesIff s' y p) : RaisesIff s x p := by
  constructor
  · rw [hx]
    exact hy.kept.trans hkept
  · rw [hx]
    exact hy.returns
  · rw [hx]
    exact hy.raises

/-- A script that changes at most something else. -/
theorem quiet (hx : (x s).1 = .ok ()) (hkept : (x s).2.acknowledged = s.acknowledged) (h : ¬ p) :
    RaisesIff s x p := by
  refine ⟨hkept,fun _ => h,fun e he => ?_⟩
  rw [hx] at he
  cases he

/-- A script that raises and changes nothing. -/
theorem raise {e : Exception} (he : e.isIdentity = false) (h : p) :
    RaisesIff s (Script.raise e) p := by
  refine ⟨rfl,nofun,?_⟩
  rintro _ ⟨⟩
  exact ⟨he,h⟩

/-- What is read is the current state. -/
theorem inspect {f : Owner → Act Unit} (h : RaisesIff s (f s) p) :
    RaisesIff s (Script.get >>= f) p := of_eq (f s) s rfl rfl h

/-- After a change that acknowledges nothing. -/
theorem after {f : Owner → Owner} (hf : (f s).acknowledged = s.acknowledged)
    (hy : RaisesIff (f s) y p) : RaisesIff s (Script.modify f >>= fun _ => y) p :=
  of_eq y (f s) rfl hf hy

/-- One script after the other. -/
theorem bind (hx : RaisesIff s x p) (hy : (x s).1 = .ok () → RaisesIff (x s).2 y q) :
    RaisesIff s (x >>= fun _ => y) (p ∨ q) := by
  cases hresult : (x s).1 with
  | error e =>
    have hbind : (x >>= fun _ => y) s = (.error e,(x s).2) := Script.bind_error hresult
    constructor
    · rw [hbind]
      exact hx.kept
    · rw [hbind]
      rintro ⟨⟩
    · rw [hbind]
      rintro _ ⟨⟩
      obtain ⟨he,hp⟩ := hx.raises e hresult
      exact ⟨he,.inl hp⟩
  | ok value =>
    have hrest := hy hresult
    have hbind : (x >>= fun _ => y) s = y (x s).2 := Script.bind_ok hresult
    constructor
    · rw [hbind]
      exact hrest.kept.trans hx.kept
    · rw [hbind]
      exact fun h => not_or.mpr ⟨hx.returns hresult,hrest.returns h⟩
    · rw [hbind]
      intro e he
      obtain ⟨hidentity,hq⟩ := hrest.raises e he
      exact ⟨hidentity,.inr hq⟩

/-- A script and its cleanup. -/
theorem ensuring (hx : RaisesIff s x p) (hy : RaisesIff (x s).2 y q) :
    RaisesIff s (Script.ensuring x y) (p ∨ q) := by
  have hattempt : Script.ensuring x y s = (y >>= fun _ => Script.lift (x s).1) (x s).2 := rfl
  cases hcleanup : (y (x s).2).1 with
  | error e =>
    have hbind : Script.ensuring x y s = (.error e,(y (x s).2).2) :=
      hattempt.trans (Script.bind_error hcleanup)
    constructor
    · rw [hbind]
      exact hy.kept.trans hx.kept
    · rw [hbind]
      rintro ⟨⟩
    · rw [hbind]
      rintro _ ⟨⟩
      obtain ⟨he,hq⟩ := hy.raises e hcleanup
      exact ⟨he,.inr hq⟩
  | ok value =>
    have hbind : Script.ensuring x y s = ((x s).1,(y (x s).2).2) :=
      hattempt.trans (Script.bind_ok hcleanup)
    constructor
    · rw [hbind]
      exact hy.kept.trans hx.kept
    · rw [hbind]
      exact fun h => not_or.mpr ⟨hx.returns h,hy.returns hcleanup⟩
    · rw [hbind]
      intro e he
      obtain ⟨hidentity,hp⟩ := hx.raises e he
      exact ⟨hidentity,.inl hp⟩

/-- The owner is there, or the script raises. -/
theorem asserted (hnone : s.records.lookup entity = none → p)
    (hy : s.records.lookup entity ≠ none → RaisesIff s y p) :
    RaisesIff s (assertOwnerThread entity >>= fun _ => y) p := by
  by_cases hrecord : s.records.lookup entity = none
  · have hassert : assertOwnerThread entity s = (.error (.invalidState
        "Action goal mutation must run on its owner Executor"),s) := by
      rw [assertOwnerThread_eq,if_pos hrecord]
      rfl
    refine of_eq (Script.raise (.invalidState
      "Action goal mutation must run on its owner Executor")) s ?_ rfl (raise rfl (hnone hrecord))
    refine (Script.bind_error (congrArg Prod.fst hassert)).trans ?_
    rw [hassert]
    rfl
  · have hassert := assertOwnerThread_attached hrecord
    refine of_eq y s ?_ rfl (hy hrecord)
    refine (Script.bind_ok (congrArg Prod.fst hassert)).trans ?_
    rw [hassert]

/-- A publication that gets a ticket goes on with it. -/
theorem published {f : ℕ → Owner → Owner} {ticket : Option ℕ}
    (hrecord : s.records.lookup entity ≠ none)
    (hf : ∀ n, (f n s).acknowledged = s.acknowledged) :
    RaisesIff s (publish entity ticket >>= fun n => Script.modify (f n)) (ticket = none) := by
  have hassert := assertOwnerThread_attached hrecord
  have hpublish : publish entity ticket s = (match ticket with
      | none => Script.raise .raised
      | some ticket => pure ticket : Act ℕ) s := by
    refine (Script.bind_ok (congrArg Prod.fst hassert)).trans ?_
    rw [hassert]
  cases ticket with
  | none =>
    refine of_eq (Script.raise .raised) s ?_ rfl (raise rfl rfl)
    refine (Script.bind_error (congrArg Prod.fst hpublish)).trans ?_
    rw [hpublish]
    rfl
  | some n =>
    refine of_eq (Script.modify (f n)) s ?_ rfl (quiet rfl (hf n) nofun)
    refine (Script.bind_ok (congrArg Prod.fst hpublish)).trans ?_
    rw [hpublish]
    rfl

end RaisesIff

theorem setServer_self (entity : EntityId) (server : Server) (s : Owner) :
    (s.setServer entity server).servers entity = server := Function.update_self ..

theorem startStatusPublication_raises (entity : EntityId) (calls : Publication) (s : Owner) :
    RaisesIff s (startStatusPublication entity calls) (PublicationRaises s entity calls) := by
  refine .asserted .inl fun hrecord => .inspect ?_
  by_cases hskip : (s.closing entity || (s.servers entity).statusInflightTicket.isSome) = true
  · rw [if_pos hskip]
    refine .quiet rfl rfl ?_
    rintro (hnone | ⟨hopen,hslot,-⟩)
    · exact hrecord hnone
    · simp [hopen,hslot] at hskip
  rw [if_neg hskip]
  have hfree : s.closing entity = false ∧ (s.servers entity).statusInflightTicket = none := by
    simpa using hskip
  by_cases hsnapshot : calls.snapshot = true
  · rw [if_pos hsnapshot]
    exact .raise rfl (.inr ⟨hfree.1,hfree.2,.inl hsnapshot⟩)
  · rw [if_neg hsnapshot]
    refine .after rfl (.congr (.published hrecord fun _ => rfl) ⟨fun hnone => ?_,?_⟩)
    · exact .inr ⟨hfree.1,hfree.2,.inr hnone⟩
    · rintro (hnone | ⟨-,-,hraises⟩)
      · exact absurd hnone hrecord
      · exact hraises.resolve_left hsnapshot

/-- Publications read nothing that a change of the server leaves as it is. -/
theorem publicationRaises_congr {server : Server} {calls : Publication}
    (h : server.statusInflightTicket = (s.servers entity).statusInflightTicket) :
    PublicationRaises (s.setServer entity server) entity calls ↔
      PublicationRaises s entity calls := by
  unfold PublicationRaises
  rw [setServer_self,h]
  exact Iff.rfl

theorem publishStatus_raises (entity : EntityId) (calls : Publication) (s : Owner) :
    RaisesIff s (publishStatus entity calls) (PublicationRaises s entity calls) := by
  refine .asserted .inl fun hrecord => .after rfl (.inspect ?_)
  rw [setServer_self]
  by_cases hslot : (s.servers entity).statusInflightTicket.isSome = true
  · rw [if_pos hslot]
    refine .quiet rfl rfl ?_
    rintro (hnone | ⟨-,hfree,-⟩)
    · exact hrecord hnone
    · rw [hfree] at hslot
      cases hslot
  · rw [if_neg hslot]
    exact (startStatusPublication_raises entity calls _).congr (publicationRaises_congr rfl)

/-- A script leaves the retained result requests of an ActionServer alone. -/
abbrev KeepsPending {α : Type} (entity : EntityId) (z : Act α) : Prop :=
  ∀ p : Table RequestId ℕ, Script.Keeps (fun u : Owner => (u.servers entity).pendingResults = p) z

theorem KeepsPending.assertOwnerThread (entity : EntityId) :
    KeepsPending entity (assertOwnerThread entity) := by
  refine fun p => .observe fun u => ?_
  split
  · exact .raise fun _ h => h
  · exact .pure fun _ h => h

theorem KeepsPending.setServer {f : Owner → Server}
    (hf : ∀ u, (f u).pendingResults = (u.servers entity).pendingResults) :
    KeepsPending entity (Script.modify fun u => u.setServer entity (f u)) := by
  refine fun p => .modify fun u hu => ?_
  rw [setServer_self,hf]
  exact hu

theorem KeepsPending.startStatusPublication (entity : EntityId) (calls : Publication) :
    KeepsPending entity (startStatusPublication entity calls) := by
  refine fun p => (KeepsPending.assertOwnerThread entity p).bind fun _ => .observe fun u => ?_
  split
  · exact .pure fun _ h => h
  · split
    · exact .raise fun _ h => h
    · have hpublish : KeepsPending entity (publish entity calls.ticket) := by
        refine fun p => (KeepsPending.assertOwnerThread entity p).bind fun _ => ?_
        split
        · exact .raise fun _ h => h
        · exact .pure fun _ h => h
      refine .bind (KeepsPending.setServer ?_ p) fun _ => (hpublish p).bind fun _ =>
        KeepsPending.setServer ?_ p
      · exact fun _ => rfl
      · exact fun _ => rfl

/-- So does a publication. -/
theorem publishStatus_pending (entity : EntityId) (calls : Publication) (s : Owner) :
    ((publishStatus entity calls s).2.servers entity).pendingResults =
      (s.servers entity).pendingResults := by
  have hpublish : KeepsPending entity (publishStatus entity calls) := by
    refine fun p => (KeepsPending.assertOwnerThread entity p).bind fun _ =>
      .bind (KeepsPending.setServer ?_ p) fun _ => .observe fun u => ?_
    · exact fun _ => rfl
    · split
      · exact .pure fun _ h => h
      · exact KeepsPending.startStatusPublication entity calls p
  exact (hpublish _).state rfl

theorem deliverResult_raises (entity : EntityId) (waiting : RequestId × Bool) (s : Owner) :
    RaisesIff s (deliverResult entity waiting)
      (((s.servers entity).pendingResults.lookup waiting.1).isSome = true ∧ waiting.2 = true) := by
  refine .inspect ?_
  cases hlookup : (s.servers entity).pendingResults.lookup waiting.1 with
  | none => exact .quiet rfl rfl nofun
  | some ticket =>
    refine .after rfl ?_
    by_cases hraises : waiting.2 = true
    · rw [if_pos hraises]
      exact .raise rfl ⟨rfl,hraises⟩
    · rw [if_neg hraises]
      exact .quiet rfl rfl fun h => hraises h.2

/-- The request is retained no longer. -/
theorem deliverResult_pending (entity : EntityId) (waiting : RequestId × Bool) (s : Owner) :
    ((deliverResult entity waiting s).2.servers entity).pendingResults =
      if ((s.servers entity).pendingResults.lookup waiting.1).isSome then
        (s.servers entity).pendingResults.erase waiting.1 else (s.servers entity).pendingResults := by
  have hdeliver : Script.Ensures (· = s) (deliverResult entity waiting)
      (fun _ u => (u.servers entity).pendingResults =
        if ((s.servers entity).pendingResults.lookup waiting.1).isSome then
          (s.servers entity).pendingResults.erase waiting.1 else (s.servers entity).pendingResults)
      (fun _ u => (u.servers entity).pendingResults =
        if ((s.servers entity).pendingResults.lookup waiting.1).isSome then
          (s.servers entity).pendingResults.erase waiting.1
        else (s.servers entity).pendingResults) := by
    refine .inspect fun t ht => ?_
    subst ht
    cases hlookup : (t.servers entity).pendingResults.lookup waiting.1 with
    | none =>
      refine .pure ?_
      rintro _ rfl
      rfl
    | some ticket =>
      refine .bind (m := fun _ (u : Owner) => (u.servers entity).pendingResults =
        (t.servers entity).pendingResults.erase waiting.1) ?_ fun _ => ?_
      · refine .modify ?_
        rintro _ rfl
        rw [setServer_self]
      · split
        · exact .raise fun _ h => h
        · exact .pure fun _ h => h
  exact hdeliver.state rfl

theorem deliverResults_raises (entity : EntityId) (waiting : Option (List (RequestId × Bool)))
    (s : Owner) : RaisesIff s (deliverResults entity waiting)
      (waiting.elim True (DeliveryRaises (s.servers entity).pendingResults)) := by
  cases waiting with
  | none => exact .raise rfl trivial
  | some waiting =>
    change RaisesIff s (Script.each (deliverResult entity) waiting)
      (DeliveryRaises (s.servers entity).pendingResults waiting)
    induction waiting generalizing s with
    | nil => exact .quiet rfl rfl id
    | cons first rest ih =>
      refine (RaisesIff.bind (deliverResult_raises entity first s) fun _ => ih _).congr ?_
      rw [deliverResult_pending,DeliveryRaises]
      split
      · next h => simp only [h,true_and]
      · next h => simp only [h,Bool.false_eq_true,false_and,false_or]

theorem terminal_raises (entity : EntityId) (handle : HandleId) (calls : Termination) (s : Owner) :
    RaisesIff s (terminal entity handle calls) (TerminalRaises s entity handle calls) := by
  refine .asserted .inl fun hrecord => .inspect ?_
  cases hactive : s.holdsActive entity handle with
  | false => exact .raise rfl (.inr (.inl hactive))
  | true =>
    by_cases hpayload : calls.payload = true
    · simp only [Bool.not_true,Bool.false_eq_true,if_false,if_pos hpayload]
      exact .raise rfl (.inr (.inr (.inl hpayload)))
    simp only [Bool.not_true,Bool.false_eq_true,if_false,if_neg hpayload]
    cases htransition : calls.transition with
    | none => exact .raise rfl (.inr (.inr (.inr (.inl htransition))))
    | some state =>
      refine .after rfl (.congr (.bind (publishStatus_raises entity calls.status _) fun _ =>
        deliverResults_raises entity calls.waiting _) ?_)
      rw [publishStatus_pending,setServer_self,publicationRaises_congr]
      · unfold TerminalRaises
        rw [hactive,htransition]
        simp [hrecord,hpayload]
      · rfl

/-- A callback acknowledges nothing and leaves nothing raised. -/
theorem perform_quiet (deed : Deed) (s : Owner) : RaisesIff s (perform deed) False := by
  refine .quiet rfl ?_ id
  change (deed.act s).2.acknowledged = s.acknowledged
  cases deed with
  | terminal entity handle calls => exact (terminal_raises entity handle calls s).kept
  | finish id outcome =>
    change (s.finish id outcome).acknowledged = s.acknowledged
    unfold Owner.finish
    split <;> rfl
  | _ => rfl

theorem performs_quiet (deeds : List Deed) (s : Owner) :
    RaisesIff s (Script.each perform deeds) False := by
  induction deeds generalizing s with
  | nil => exact .quiet rfl rfl id
  | cons deed rest ih =>
    exact (RaisesIff.bind (perform_quiet deed s) fun _ => ih _).congr (or_self_iff)

theorem executeCallback_quiet (entity : EntityId) (handle : HandleId) (deeds : List Deed)
    (s : Owner) : RaisesIff s (executeCallback entity handle deeds) False :=
  .after rfl (performs_quiet deeds _)

theorem runExecute_raises (entity : EntityId) (handle : HandleId) (execution : Execution)
    (s : Owner) :
    RaisesIff s (runExecute entity handle execution) (ExecutionRaises s entity handle execution) := by
  refine .asserted .inl fun hrecord => .inspect ?_
  cases hactive : s.isActive entity handle with
  | false =>
    refine .quiet rfl rfl ?_
    rintro (hnone | ⟨hother,-⟩)
    · exact hrecord hnone
    · rw [hactive] at hother
      cases hother
  | true =>
    by_cases hrefused : execution.refused = true
    · simp only [Bool.not_true,Bool.false_eq_true,if_false,if_pos hrefused]
      exact .raise rfl (.inr ⟨hactive,.inl hrefused⟩)
    simp only [Bool.not_true,Bool.false_eq_true,if_false,if_neg hrefused]
    -- The callback may have ended the goal.
    have habort : RaisesIff (executeCallback entity handle execution.deeds s).2
        (Script.get >>= fun s => if execution.scheduled || !s.isActive entity handle then pure ()
          else terminal entity handle execution.abort)
        (execution.scheduled = false ∧
          (executeCallback entity handle execution.deeds s).2.isActive entity handle = true ∧
            TerminalRaises (executeCallback entity handle execution.deeds s).2 entity handle
              execution.abort) := by
      refine .inspect ?_
      split
      · next hdone =>
        refine .quiet rfl rfl ?_
        rintro ⟨hscheduled,hstill,-⟩
        simp [hscheduled,hstill] at hdone
      · next hleft =>
        have hopen : execution.scheduled = false ∧
            (executeCallback entity handle execution.deeds s).2.isActive entity handle = true := by
          simpa using hleft
        refine (terminal_raises entity handle execution.abort _).congr ?_
        exact ⟨fun h => ⟨hopen.1,hopen.2,h⟩,fun h => h.2.2⟩
    refine (RaisesIff.bind (executeCallback_quiet entity handle execution.deeds s)
      fun _ => habort).congr ?_
    unfold ExecutionRaises
    simp only [hrecord,hactive,hrefused,false_or,true_and,Bool.false_eq_true]

theorem acceptGoal_raises (entity : EntityId) (handle : HandleId) (calls : Publication) (s : Owner) :
    RaisesIff s (acceptGoal entity handle calls) (PublicationRaises s entity calls) := by
  refine .after rfl ((publishStatus_raises entity calls _).congr (publicationRaises_congr ?_))
  rfl

theorem conclude_raises (entity : EntityId) (operation : ActionProtocol.Operation) (entry : Entry)
    (s : Owner) :
    RaisesIff s (conclude entity operation entry) (ConclusionRaises s entity operation entry) := by
  unfold conclude
  by_cases hfailed : entry.completion.failed = true
  · rw [if_pos hfailed]
    exact .raise rfl (.inl hfailed)
  rw [if_neg hfailed]
  have hquiet : (∀ handle, operation ≠ .accept handle) →
      RaisesIff s (pure ()) (ConclusionRaises s entity operation entry) := by
    intro hother
    refine .quiet rfl rfl ?_
    rintro (h | ⟨handle,h,-⟩)
    · exact hfailed h
    · exact hother handle h
  cases operation with
  | accept handle =>
    refine (RaisesIff.bind (acceptGoal_raises entity handle entry.calls.status s) fun _ =>
      runExecute_raises entity handle entry.calls.execution _).congr ⟨fun h => ?_,?_⟩
    · exact .inr ⟨handle,rfl,h⟩
    · rintro (h | ⟨_,⟨⟩,h⟩)
      · exact absurd h hfailed
      · exact h
  | reject => exact hquiet fun _ h => by cases h
  | cancel => exact hquiet fun _ h => by cases h
  | result => exact hquiet fun _ h => by cases h
  | resultDelivery => exact hquiet fun _ h => by cases h

/-! ## What a failed delivery changes -/

/-- What the responses of an ActionServer may change: nothing outside it. -/
structure Touches (entity : EntityId) (s s' : Owner) : Prop where
  running : s'.running = s.running
  contextOpen : s'.contextOpen = s.contextOpen
  closing : s'.closing = s.closing
  operations : s'.operations = s.operations
  acknowledged : s'.acknowledged = s.acknowledged
  records : ∀ other, other ≠ entity → s'.records.lookup other = s.records.lookup other
  servers : ∀ other, other ≠ entity → s'.servers other = s.servers other

/-- What the end of a request may change: the lane goes free. -/
structure Frees (entity : EntityId) (s s' : Owner) : Prop extends Touches entity s s' where
  lane : (s'.servers entity).laneBusy = false
  protocol : (s'.servers entity).protocol = (s.servers entity).protocol

theorem Touches.refl (entity : EntityId) (s : Owner) : Touches entity s s :=
  ⟨rfl,rfl,rfl,rfl,rfl,fun _ _ => rfl,fun _ _ => rfl⟩

theorem Touches.trans (h : Touches entity s s') (h' : Touches entity s' s'') :
    Touches entity s s'' where
  running := h'.running.trans h.running
  contextOpen := h'.contextOpen.trans h.contextOpen
  closing := h'.closing.trans h.closing
  operations := h'.operations.trans h.operations
  acknowledged := h'.acknowledged.trans h.acknowledged
  records other hne := (h'.records other hne).trans (h.records other hne)
  servers other hne := (h'.servers other hne).trans (h.servers other hne)

theorem Touches.setServer (entity : EntityId) (server : Server) (s : Owner) :
    Touches entity s (s.setServer entity server) where
  running := rfl
  contextOpen := rfl
  closing := rfl
  operations := rfl
  acknowledged := rfl
  records _ _ := rfl
  servers _ hne := Function.update_of_ne hne _ _

/-- The lane goes free whether or not the registration raises. -/
theorem finishLane_spec (entity : EntityId) (calls : Calls) (s : Owner) :
    Script.Ensures (· = s) (finishLane entity calls)
      (fun _ s' => ¬ RegistrationRaises s entity calls ∧ Frees entity s s')
      (fun e s' => e = .raised ∧ RegistrationRaises s entity calls ∧ Frees entity s s') := by
  let freed := s.setServer entity {s.servers entity with laneBusy := false}
  have hfreed : Touches entity s freed := Touches.setServer entity _ s
  have hlane : (freed.servers entity).laneBusy = false :=
    congrArg Server.laneBusy (setServer_self entity _ s)
  have hprotocol : (freed.servers entity).protocol = (s.servers entity).protocol := by
    simp only [freed,setServer_self]
  refine Script.Ensures.bind (m := fun _ u => u = freed) ?_ fun _ => ?_
  · refine Script.Ensures.modify ?_
    rintro _ rfl
    rfl
  refine Script.Ensures.inspect fun t ht => ?_
  subst ht
  have hkept : ¬ RegistrationRaises s entity calls → Script.Ensures (· = freed)
      (pure () : Act Unit) (fun _ s' => ¬ RegistrationRaises s entity calls ∧ Frees entity s s')
      (fun e s' => e = .raised ∧ RegistrationRaises s entity calls ∧ Frees entity s s') := by
    intro hquiet
    refine Script.Ensures.pure ?_
    rintro _ rfl
    exact ⟨hquiet,hfreed,hlane,hprotocol⟩
  cases hrecord : freed.records.lookup entity with
  | none =>
    refine hkept ?_
    rintro ⟨-,-,-,⟨record,hlookup,-⟩,-⟩
    have hnone : s.records.lookup entity = none := hrecord
    rw [hnone] at hlookup
    cases hlookup
  | some record =>
    have hlookup : s.records.lookup entity = some record := hrecord
    by_cases hskip : (!freed.running || !freed.contextOpen || freed.closing entity ||
      record.registered) = true
    · simp only [if_pos hskip]
      refine hkept ?_
      rintro ⟨hrunning,hopen,hclosing,⟨found,hfound,hunregistered⟩,-⟩
      rw [hlookup] at hfound
      cases hfound
      have hrunning : freed.running = true := hrunning
      have hopen : freed.contextOpen = true := hopen
      have hclosing : freed.closing entity = false := hclosing
      simp [hrunning,hopen,hclosing,hunregistered] at hskip
    simp only [if_neg hskip]
    have hfree : ((freed.running = true ∧ freed.contextOpen = true) ∧
        freed.closing entity = false) ∧ record.registered = false := by
      simpa using hskip
    by_cases hregistration : calls.registration = true
    · simp only [if_pos hregistration]
      refine Script.Ensures.raise ?_
      rintro _ rfl
      exact ⟨rfl,⟨hfree.1.1.1,hfree.1.1.2,hfree.1.2,⟨record,hlookup,hfree.2⟩,hregistration⟩,
        hfreed,hlane,hprotocol⟩
    · simp only [if_neg hregistration]
      refine Script.Ensures.modify ?_
      rintro _ rfl
      refine ⟨fun h => hregistration h.2.2.2.2,⟨rfl,rfl,rfl,rfl,rfl,fun other hne => ?_,
        hfreed.servers⟩,hlane,hprotocol⟩
      exact AList.lookup_insert_ne hne

/-- The lane goes free if the operation had it. -/
theorem settle_raises (entity : EntityId) (operation : ActionProtocol.Operation) (calls : Calls)
    (s : Owner) : RaisesIff s (settle entity operation calls)
      (operation.isLane = true ∧ RegistrationRaises s entity calls) := by
  unfold settle
  by_cases hlane : operation.isLane = true
  · rw [if_pos hlane]
    have hspec := finishLane_spec entity calls s
    refine ⟨?_,fun h hraises => (hspec.ok rfl h).1 hraises.2,fun e he => ?_⟩
    · exact ((hspec.weaken (fun _ h => h) (fun _ _ h => h.2) fun _ _ h => h.2.2).state rfl).acknowledged
    · obtain ⟨rfl,hraises,-⟩ := hspec.error rfl he
      exact ⟨rfl,hlane,hraises⟩
  · rw [if_neg hlane]
    exact .quiet rfl rfl fun h => hlane h.1

theorem protocolCompletion_raises (entity : EntityId) (entry : Entry) (s : Owner) :
    RaisesIff s (protocolCompletion entity entry) (¬ ResponseQuiet s entity entry) := by
  refine .inspect ?_
  cases hlookup : (s.servers entity).protocol.lookup entry.ticket with
  | none =>
    refine .raise rfl ?_
    rintro ⟨found,hfound,-⟩
    rw [hlookup] at hfound
    cases hfound
  | some operation =>
    refine .after rfl ((RaisesIff.ensuring (conclude_raises entity operation entry _)
      (settle_raises entity operation entry.calls _)).congr ⟨fun hraises => ?_,fun hloud => ?_⟩)
    · rintro ⟨found,hfound,hquiet⟩
      rw [hlookup] at hfound
      cases hfound
      exact hquiet hraises
    · by_contra hquiet
      exact hloud ⟨operation,hlookup,hquiet⟩

/-- What a response of an ActionServer may change that was not delivered. -/
structure Responds (entity : EntityId) (ticket : ℕ) (s s' : Owner) : Prop
    extends Touches entity s s' where
  /-- The other requests. -/
  others : ∀ other, other ≠ ticket → (s'.servers entity).protocol.lookup other =
    (s.servers entity).protocol.lookup other
  /-- The lane goes free. -/
  lane : ∀ operation, (s.servers entity).protocol.lookup ticket = some operation →
    operation.isLane = true → (s'.servers entity).laneBusy = false

theorem protocolCompletion_failed (entity : EntityId) (entry : Entry) (s : Owner)
    (hfailed : entry.completion.failed = true) :
    Script.Ensures (· = s) (protocolCompletion entity entry)
      (fun _ => Responds entity entry.ticket s) fun _ => Responds entity entry.ticket s := by
  refine .inspect fun t ht => ?_
  subst ht
  cases hlookup : (t.servers entity).protocol.lookup entry.ticket with
  | none =>
    refine .raise ?_
    rintro _ rfl
    refine ⟨Touches.refl entity _,fun _ _ => rfl,fun found hfound => ?_⟩
    rw [hlookup] at hfound
    cases hfound
  | some operation =>
    have hpopped : Touches entity t (t.popOperation entity entry.ticket) :=
      Touches.setServer entity _ t
    have hothers : ∀ other, other ≠ entry.ticket →
        ((t.popOperation entity entry.ticket).servers entity).protocol.lookup other =
          (t.servers entity).protocol.lookup other := by
      intro other hne
      rw [Owner.popOperation,setServer_self]
      exact AList.lookup_erase_ne hne
    have hsettled : Script.Ensures (· = t.popOperation entity entry.ticket)
        (settle entity operation entry.calls) (fun _ => Responds entity entry.ticket t)
        (fun _ => Responds entity entry.ticket t) := by
      unfold settle
      split
      · have hresponds : ∀ u, Frees entity (t.popOperation entity entry.ticket) u →
            Responds entity entry.ticket t u := by
          intro u hu
          refine ⟨hpopped.trans hu.toTouches,fun other hne => ?_,fun _ _ _ => hu.lane⟩
          rw [hu.protocol]
          exact hothers other hne
        exact (finishLane_spec entity entry.calls _).weaken (fun _ h => h)
          (fun _ u h => hresponds u h.2) fun _ u h => hresponds u h.2.2
      · next hlane =>
        refine .pure ?_
        rintro _ rfl
        refine ⟨hpopped,hothers,fun found hfound hbusy => ?_⟩
        rw [hlookup] at hfound
        cases hfound
        exact absurd hbusy hlane
    refine .bind (m := fun _ u => u = t.popOperation entity entry.ticket) ?_ fun _ => ?_
    · refine .modify ?_
      rintro _ rfl
      rfl
    · have hraises : conclude entity operation entry = Script.raise .delivery := if_pos hfailed
      rw [hraises]
      exact .ensuring (m := fun _ u => u = t.popOperation entity entry.ticket)
        (.raise fun _ h => h) (fun _ => hsettled) fun _ => hsettled

theorem statusCompletion_raises (entity : EntityId) (entry : Entry) (s : Owner)
    (hrecord : s.records.lookup entity ≠ none) :
    RaisesIff s (statusCompletion entity entry) (¬ StatusQuiet s entity entry) := by
  refine .asserted (fun hnone => absurd hnone hrecord) fun _ => .inspect ?_
  by_cases hslot : (s.servers entity).statusInflightTicket ≠ some entry.ticket
  · simp only [if_pos hslot]
    exact .raise rfl fun h => hslot h.1
  simp only [if_neg hslot]
  have hinflight : (s.servers entity).statusInflightTicket = some entry.ticket := not_not.mp hslot
  refine .after rfl ?_
  by_cases hnext : (!entry.completion.failed && decide ((s.servers entity).statusInflightRevision <
      (s.servers entity).statusRevision)) = true
  · simp only [if_pos hnext]
    have hdelivered : entry.completion.failed = false ∧
        (s.servers entity).statusInflightRevision < (s.servers entity).statusRevision := by
      simpa using hnext
    refine (startStatusPublication_raises entity entry.calls.status _).congr ⟨fun h hquiet => ?_,
      fun hloud => ?_⟩
    · rcases h with hnone | ⟨hopen,-,hraises⟩
      · exact hrecord hnone
      · exact hquiet.2 ⟨hdelivered.1,hdelivered.2,hopen,hraises⟩
    · by_contra hquiet
      refine hloud ⟨hinflight,fun h => hquiet (.inr ⟨h.2.2.1,?_,h.2.2.2⟩)⟩
      rw [setServer_self]
  · simp only [if_neg hnext]
    refine .quiet rfl rfl fun hloud => hloud ⟨hinflight,fun h => hnext ?_⟩
    simp [h.1,h.2.1]

/-- What the end of a status may change that was not delivered. -/
structure Reports (entity : EntityId) (ticket : ℕ) (s s' : Owner) : Prop
    extends Touches entity s s' where
  protocol : (s'.servers entity).protocol = (s.servers entity).protocol
  /-- The slot goes free. -/
  slot : (s'.servers entity).statusInflightTicket ≠ some ticket

theorem statusCompletion_failed (entity : EntityId) (entry : Entry) (s : Owner)
    (hfailed : entry.completion.failed = true) (hrecord : s.records.lookup entity ≠ none) :
    Script.Ensures (· = s) (statusCompletion entity entry)
      (fun _ => Reports entity entry.ticket s) fun _ => Reports entity entry.ticket s := by
  refine .bind (m := fun _ u => u = s) ?_ fun _ => .inspect fun t ht => ?_
  · rintro _ rfl
    rw [assertOwnerThread_attached hrecord]
  subst ht
  by_cases hslot : (t.servers entity).statusInflightTicket ≠ some entry.ticket
  · simp only [if_pos hslot]
    refine .raise ?_
    rintro _ rfl
    exact ⟨Touches.refl entity _,rfl,hslot⟩
  · simp only [if_neg hslot,hfailed,Bool.not_true,Bool.false_and,Bool.false_eq_true,if_false]
    refine .bind (m := fun _ => Reports entity entry.ticket t) ?_ fun _ => .pure fun _ h => h
    refine .modify ?_
    rintro _ rfl
    refine ⟨Touches.setServer entity _ _,?_,?_⟩
    · rw [setServer_self]
    · rw [setServer_self]
      exact nofun

/-! ## One completion -/

/-- The outcome of a handler tells what was wrong, if anything was. -/
def Explains (s : Owner) (entry : Entry) (s' : Owner) : Except Exception Bool → Prop
  | .ok _ => Identified s entry ∧ Benign s entry ∧ s'.acknowledged = s.acknowledged
  | .error e => s'.acknowledged = s.acknowledged ∧
      (e.isIdentity = true ∧ ¬ Identified s entry ∨
        e.isIdentity = false ∧ Identified s entry ∧ ¬ Benign s entry)

/-- A handler explains how it ends. -/
abbrev Explained (s : Owner) (entry : Entry) (act : Act Bool) : Prop :=
  Script.Ensures (· = s) act (fun keep s' => Explains s entry s' (.ok keep))
    fun e s' => Explains s entry s' (.error e)

theorem explained_foreign (message : String) (h : ¬ Identified s entry) :
    Explained s entry (Script.raise (.identity message)) := by
  refine Script.Ensures.raise ?_
  rintro _ rfl
  exact ⟨rfl,.inl ⟨rfl,h⟩⟩

/-- The owner is checked before the handler runs. -/
theorem explained_owned {kind : DispatchKind} {act : Act Bool} {message : String}
    (hright : Identified s entry ↔ s.owns entry kind = true)
    (hact : Identified s entry → Explained s entry act) :
    Explained s entry
      (if s.owns entry kind then act else Script.raise (.identity message)) := by
  by_cases howner : s.owns entry kind = true
  · rw [if_pos howner]
    exact hact (hright.mpr howner)
  · rw [if_neg howner]
    exact explained_foreign message fun h => howner (hright.mp h)

theorem attached_of_owns {kind : DispatchKind} (h : s.owns entry kind = true) :
    s.records.lookup entry.completion.entityId ≠ none := by
  intro hnone
  unfold Owner.owns at h
  rw [hnone] at h
  cases h

/-- A handler without a value of its own. -/
theorem explained_act {act : Act Unit} {quiet : Prop} (hright : Identified s entry)
    (hbenign : Benign s entry ↔ quiet) (hact : RaisesIff s act (¬ quiet)) :
    Explained s entry (act >>= fun _ => pure false) := by
  have hspec : Script.Ensures (· = s) act
      (fun _ u => quiet ∧ u.acknowledged = s.acknowledged) (fun e u =>
        e.isIdentity = false ∧ ¬ quiet ∧ u.acknowledged = s.acknowledged) := by
    intro t ht
    subst ht
    obtain ⟨hkept,hreturns,hraises⟩ := hact
    rcases hresult : act t with ⟨_ | _,u⟩ <;> rw [hresult] at hkept hreturns hraises
    · exact ⟨(hraises _ rfl).1,(hraises _ rfl).2,hkept⟩
    · exact ⟨not_not.mp (hreturns rfl),hkept⟩
  refine Script.Ensures.bind (m := fun _ (u : Owner) => quiet ∧
    u.acknowledged = s.acknowledged) ?_ fun _ => ?_
  · refine hspec.weaken (fun _ h => h) (fun _ _ h => h) ?_
    rintro e u ⟨he,hloud,hu⟩
    exact ⟨hu,.inr ⟨he,hright,fun h => hloud (hbenign.mp h)⟩⟩
  · exact Script.Ensures.pure fun u hu => ⟨hright,hbenign.mpr hu.1,hu.2⟩

/-- Nothing a service does raises. -/
theorem serviceCompletion_spec (hright : Identified s entry) (hbenign : Benign s entry) :
    Explained s entry (serviceCompletion entry) := by
  refine explained_act hright (iff_true_intro hbenign) (.quiet rfl ?_ (not_not_intro trivial))
  change (if entry.completion.failed || entry.completion.cleanupFailed then
    {s with closing := Function.update s.closing entry.completion.entityId true}
    else s).acknowledged = s.acknowledged
  split <;> rfl

theorem outboundCompletion_spec {operation : Outbound} (hright : Identified s entry)
    (hbenign : Benign s entry ↔
      (entry.reconciles operation = true → entry.calls.reconciliation = false)) :
    Explained s entry (outboundCompletion entry operation) := by
  unfold outboundCompletion
  by_cases hraises : (entry.reconciles operation && entry.calls.reconciliation) = true
  · simp only [if_pos hraises]
    refine Script.Ensures.raise ?_
    rintro _ rfl
    refine ⟨rfl,.inr ⟨rfl,hright,fun h => ?_⟩⟩
    have hboth : entry.reconciles operation = true ∧ entry.calls.reconciliation = true := by
      simpa using hraises
    rw [hbenign.mp h hboth.1] at hboth
    cases hboth.2
  · simp only [if_neg hraises]
    have hquiet : Benign s entry := by
      refine hbenign.mpr fun hreconciles => ?_
      rw [hreconciles] at hraises
      exact Bool.eq_false_iff.mpr hraises
    refine Script.Ensures.bind (m := fun _ (u : Owner) => u.acknowledged = s.acknowledged) ?_
      fun _ => Script.Ensures.pure fun u hu => ⟨hright,hquiet,hu⟩
    refine Script.Ensures.modify ?_
    rintro _ rfl
    rfl

theorem identified_action (h : family entry.completion.kind = .lane ∨
    family entry.completion.kind = .status ∨ family entry.completion.kind = .feedback) :
    Identified s entry ↔ s.owns entry .actionServer = true := by
  unfold Identified
  rcases h with h | h | h <;> rw [h]

theorem handle_spec (entry : Entry) (s : Owner) : Explained s entry (handle entry) := by
  refine Script.Ensures.inspect fun t ht => ?_
  subst ht
  cases hfamily : family entry.completion.kind with
  | service =>
    have hright : Identified t entry ↔ t.owns entry .service = true := by
      unfold Identified; rw [hfamily]
    have hbenign : Benign t entry := by unfold Benign; rw [hfamily]; trivial
    exact explained_owned hright fun h => serviceCompletion_spec h hbenign
  | lane =>
    have hright : Identified t entry ↔ t.owns entry .actionServer = true :=
      identified_action (.inl hfamily)
    have hbenign : Benign t entry ↔ ResponseQuiet t entry.completion.entityId entry := by
      unfold Benign; rw [hfamily]
    exact explained_owned hright fun h => explained_act h hbenign
      (protocolCompletion_raises entry.completion.entityId entry t)
  | status =>
    have hright : Identified t entry ↔ t.owns entry .actionServer = true :=
      identified_action (.inr (.inl hfamily))
    have hbenign : Benign t entry ↔ StatusQuiet t entry.completion.entityId entry := by
      unfold Benign; rw [hfamily]
    exact explained_owned hright fun h => explained_act h hbenign
      (statusCompletion_raises entry.completion.entityId entry t (attached_of_owns (hright.mp h)))
  | feedback =>
    have hright : Identified t entry ↔ t.owns entry .actionServer = true :=
      identified_action (.inr (.inr hfamily))
    have hbenign : Benign t entry ↔ entry.completion.failed = false := by
      unfold Benign; rw [hfamily]
    refine explained_owned hright fun h => ?_
    cases hfailed : entry.completion.failed with
    | true =>
      refine Script.Ensures.raise ?_
      rintro _ rfl
      refine ⟨rfl,.inr ⟨rfl,h,fun hquiet => ?_⟩⟩
      rw [hbenign.mp hquiet] at hfailed
      cases hfailed
    | false =>
      refine Script.Ensures.pure ?_
      rintro _ rfl
      exact ⟨h,hbenign.mpr hfailed,rfl⟩
  | outbound =>
    have hright : Identified t entry ↔ ∃ operation,
        t.operations.lookup entry.completion.operationId = some operation ∧
          t.captures entry operation = true := by
      unfold Identified; rw [hfamily]
    have hbenign : Benign t entry ↔ ∀ operation,
        t.operations.lookup entry.completion.operationId = some operation →
          entry.reconciles operation = true → entry.calls.reconciliation = false := by
      unfold Benign; rw [hfamily]
    cases hlookup : t.operations.lookup entry.completion.operationId with
    | none =>
      refine explained_foreign _ fun h => ?_
      obtain ⟨found,hfound,-⟩ := hright.mp h
      rw [hlookup] at hfound
      cases hfound
    | some operation =>
      have hone : ∀ found, t.operations.lookup entry.completion.operationId = some found →
          found = operation := fun found h => Option.some.inj (h.symm.trans hlookup)
      by_cases hcaptures : t.captures entry operation = true
      · simp only [if_pos hcaptures]
        refine outboundCompletion_spec (hright.mpr ⟨operation,hlookup,hcaptures⟩) ?_
        refine hbenign.trans ⟨fun h => h operation hlookup,fun h found hfound => ?_⟩
        rw [hone found hfound]
        exact h
      · simp only [if_neg hcaptures]
        refine explained_foreign _ fun h => ?_
        obtain ⟨found,hfound,hfits⟩ := hright.mp h
        rw [hone found hfound] at hfits
        exact hcaptures hfits

theorem process_spec (entry : Entry) (s : Owner) :
    Script.Ensures (· = s) (process entry)
      (fun _ s' => Identified s entry ∧ Benign s entry ∧
        s'.acknowledged = s.acknowledged ++ [entry.ticket])
      (fun e s' => s'.acknowledged = s.acknowledged ++ [entry.ticket] ∧
        (e.isIdentity = true ∧ ¬ Identified s entry ∨
          e.isIdentity = false ∧ Identified s entry ∧ ¬ Benign s entry)) := by
  refine (Script.Ensures.attempt (q := fun outcome u => Explains s entry u outcome)
    (handle_spec entry s)).bind fun outcome => ?_
  cases outcome with
  | ok keep =>
    refine Script.Ensures.modify fun u hu => ⟨hu.1,hu.2.1,?_⟩
    exact congrArg (· ++ [entry.ticket]) hu.2.2
  | error e =>
    refine Script.Ensures.bind (m := fun _ (u : Owner) =>
      u.acknowledged = s.acknowledged ++ [entry.ticket] ∧
        (e.isIdentity = true ∧ ¬ Identified s entry ∨
          e.isIdentity = false ∧ Identified s entry ∧ ¬ Benign s entry)) ?_ fun _ =>
      Script.Ensures.raise fun _ h => h
    refine Script.Ensures.modify fun u hu => ⟨?_,hu.2⟩
    exact congrArg (· ++ [entry.ticket]) hu.1

/-- What other threads did comes first. -/
theorem drainOne_eq (entry : Entry) (s : Owner) :
    drainOne entry s = process entry (s.found entry) := by
  cases hresult : (Script.each perform entry.meanwhile s).1 with
  | ok value => exact Script.bind_ok hresult
  | error e => exact absurd ((performs_quiet entry.meanwhile s).raises e hresult).2 id

/-- How one round of the drain ends. -/
theorem drainOne_spec (entry : Entry) (s : Owner) :
    Script.Ensures (· = s) (drainOne entry)
      (fun _ s' => Identified (s.found entry) entry ∧ Benign (s.found entry) entry ∧
        s'.acknowledged = s.acknowledged ++ [entry.ticket])
      (fun e s' => s'.acknowledged = s.acknowledged ++ [entry.ticket] ∧
        (e.isIdentity = true ∧ ¬ Identified (s.found entry) entry ∨
          e.isIdentity = false ∧ Identified (s.found entry) entry ∧
            ¬ Benign (s.found entry) entry)) := by
  have hkept : (s.found entry).acknowledged = s.acknowledged :=
    (performs_quiet entry.meanwhile s).kept
  have hspec := process_spec entry (s.found entry)
  rw [hkept] at hspec
  rintro _ rfl
  rw [drainOne_eq]
  exact hspec _ rfl

/-- The acknowledgement touches the operation of the completion only. -/
theorem Confined.acknowledge (keep : Bool) (h : Confined entry s s') :
    Confined entry s {s' with
      acknowledged := s'.acknowledged ++ [entry.ticket]
      operations := if keep then s'.operations
        else s'.operations.erase entry.completion.operationId} where
  records := h.records
  servers := h.servers
  closing := h.closing
  operations id hne := by
    cases keep with
    | true => exact h.operations id hne
    | false => exact (AList.lookup_erase_ne hne).trans (h.operations id hne)
  protocol := h.protocol
  lane := h.lane
  status := h.status

theorem Responds.confined (hfamily : family entry.completion.kind = .lane)
    (h : Responds entry.completion.entityId entry.ticket s s') : Confined entry s s' where
  records := h.records
  servers := h.servers
  closing := h.closing
  operations id _ := congrArg (AList.lookup id) h.operations
  protocol := h.others
  lane operation _ := h.lane operation
  status hstatus := by rw [hfamily] at hstatus; cases hstatus

theorem Reports.confined (hfamily : family entry.completion.kind = .status)
    (h : Reports entry.completion.entityId entry.ticket s s') : Confined entry s s' where
  records := h.records
  servers := h.servers
  closing := h.closing
  operations id _ := congrArg (AList.lookup id) h.operations
  protocol _ _ := by rw [h.protocol]
  lane _ hlane := by rw [hfamily] at hlane; cases hlane
  status _ := h.slot

/-- A handler that changes nothing. -/
theorem Confined.refl (hfamily : family entry.completion.kind = .feedback) :
    Confined entry s s where
  records _ _ := rfl
  servers _ _ := rfl
  closing := rfl
  operations _ _ := rfl
  protocol _ _ := rfl
  lane _ hlane := by rw [hfamily] at hlane; cases hlane
  status hstatus := by rw [hfamily] at hstatus; cases hstatus

theorem handle_confined (hright : Identified s entry) (hfails : entry.failsAction) :
    Script.Ensures (· = s) (handle entry) (fun _ => Confined entry s)
      (fun _ => Confined entry s) := by
  refine Script.Ensures.inspect fun t ht => ?_
  subst ht
  obtain ⟨hfailed,hfamily⟩ := hfails
  have howner : t.owns entry .actionServer = true := (identified_action hfamily).mp hright
  rcases hfamily with hfamily | hfamily | hfamily
  · rw [hfamily]
    simp only [if_pos howner]
    refine Script.Ensures.bind (m := fun _ => Confined entry t) ?_ fun _ =>
      Script.Ensures.pure fun _ h => h
    exact (protocolCompletion_failed entry.completion.entityId entry t hfailed).weaken
      (fun _ h => h) (fun _ _ h => h.confined hfamily) fun _ _ h => h.confined hfamily
  · rw [hfamily]
    simp only [if_pos howner]
    refine Script.Ensures.bind (m := fun _ => Confined entry t) ?_ fun _ =>
      Script.Ensures.pure fun _ h => h
    exact (statusCompletion_failed entry.completion.entityId entry t hfailed
      (attached_of_owns howner)).weaken (fun _ h => h) (fun _ _ h => h.confined hfamily)
      fun _ _ h => h.confined hfamily
  · rw [hfamily]
    simp only [if_pos howner,if_pos hfailed]
    refine Script.Ensures.raise ?_
    rintro _ rfl
    exact Confined.refl hfamily

/-- A failed delivery stays with its request through the acknowledgement. -/
theorem drainOne_confined (hright : Identified (s.found entry) entry)
    (hfails : entry.failsAction) : Confined entry (s.found entry) (drainOne entry s).2 := by
  rw [drainOne_eq]
  generalize s.found entry = s at hright ⊢
  have hdrain : Script.Ensures (· = s) (process entry) (fun _ => Confined entry s)
      (fun _ => Confined entry s) := by
    refine (Script.Ensures.attempt (q := fun _ => Confined entry s)
      (handle_confined hright hfails)).bind fun outcome => ?_
    cases outcome with
    | ok keep => exact Script.Ensures.modify fun u hu => hu.acknowledge keep
    | error e =>
      refine Script.Ensures.bind (m := fun _ => Confined entry s) ?_ fun _ =>
        Script.Ensures.raise fun _ h => h
      exact Script.Ensures.modify fun u hu => hu.acknowledge false
  exact hdrain.state rfl

/-! ## The whole mailbox -/

/-- The tickets that are left after a drain. -/
theorem drainCompletions_acknowledged (s : Owner) (l : List Entry) :
    ∃ rest : List Entry, (drainCompletions l s).2.acknowledged ++ rest.map (·.ticket) =
      s.acknowledged ++ l.map (·.ticket) ∧ ((drainCompletions l s).1 = .ok () → rest = []) := by
  induction l generalizing s with
  | nil => exact ⟨[],rfl,fun _ => rfl⟩
  | cons entry rest ih =>
    cases houtcome : (drainOne entry s).1 with
    | ok value =>
      have hround := ((drainOne_spec entry s).ok rfl houtcome).2.2
      have hdrain : drainCompletions (entry :: rest) s =
          drainCompletions rest (drainOne entry s).2 := Script.bind_ok houtcome
      obtain ⟨left,hleft,hdone⟩ := ih (drainOne entry s).2
      rw [hdrain]
      refine ⟨left,?_,hdone⟩
      rw [hleft,hround]
      simp
    | error e =>
      have hround := ((drainOne_spec entry s).error rfl houtcome).1
      have hdrain : drainCompletions (entry :: rest) s = (.error e,(drainOne entry s).2) :=
        Script.bind_error houtcome
      rw [hdrain]
      refine ⟨rest,?_,fun h => by cases h⟩
      change (drainOne entry s).2.acknowledged ++ _ = _
      rw [hround]
      simp

/-- Only a wrong identity is raised exactly if everything up to it is harmless. -/
theorem raises_identity_iff (s : Owner) (l : List Entry) :
    (∀ e, (drainCompletions l s).1 = .error e → e.isIdentity = true) ↔ Harmless s l := by
  induction l generalizing s with
  | nil => exact iff_of_true (fun e h => by cases h) trivial
  | cons entry rest ih =>
    cases houtcome : (drainOne entry s).1 with
    | ok value =>
      obtain ⟨hright,hquiet,-⟩ := (drainOne_spec entry s).ok rfl houtcome
      have hdrain : drainCompletions (entry :: rest) s =
          drainCompletions rest (drainOne entry s).2 := Script.bind_ok houtcome
      rw [hdrain,ih]
      exact ⟨fun h _ => ⟨hquiet,h⟩,fun h => (h hright).2⟩
    | error e =>
      obtain ⟨-,hcause⟩ := (drainOne_spec entry s).error rfl houtcome
      have hdrain : drainCompletions (entry :: rest) s = (.error e,(drainOne entry s).2) :=
        Script.bind_error houtcome
      rw [hdrain]
      rcases hcause with ⟨hidentity,hwrong⟩ | ⟨hother,hright,hloud⟩
      · refine iff_of_true ?_ fun h => absurd h hwrong
        rintro _ ⟨⟩
        exact hidentity
      · refine iff_of_false (fun h => ?_) fun h => hloud (h hright).1
        have hidentity := h e rfl
        rw [hother] at hidentity
        cases hidentity

/-- A drain takes the executor down with nothing but a wrong identity exactly if
every completion up to the first one of those is harmless: the responses of an
ActionServer have their operation and were delivered, as was its feedback, each
status is the one in flight, and no call of a handler raises, nor the abort of a
goal that its callback left active. -/
theorem isolated_iff (s : Owner) (l : List Entry) : Isolated s l ↔ Harmless s l := by
  refine ⟨fun h => (raises_identity_iff s l).mp h.returns,fun h => ?_⟩
  refine ⟨(raises_identity_iff s l).mpr h,drainCompletions_acknowledged s l,?_⟩
  rintro before entry after - - hright hfails
  exact drainOne_confined hright hfails

/-- An executor with an ActionServer and a publisher: the response of a result
and a message are under way. -/
def delivering : Owner where
  executorId := 1
  running := true
  contextOpen := true
  records := AList.insert 3 ⟨5,.actionServer,true⟩ (AList.insert 4 ⟨6,.publisher,true⟩ ∅)
  closing _ := false
  servers _ :=
    { laneBusy := true
      protocol := AList.insert 7 .result ∅
      goals := ∅
      handles := fun _ => ⟨ActionProtocol.noGoalId,.accepted⟩
      pendingResults := ∅
      statusRevision := 0
      statusInflightTicket := none
      statusInflightRevision := 0 }
  operations := AList.insert 2 ⟨4,6,some 8,false,none,false⟩ ∅
  acknowledged := []

/-- Calls that meet nothing: a callback does nothing, and its goal is aborted. -/
def Calls.plain (ticket : ℕ) : Calls where
  status := ⟨false,some ticket⟩
  execution := ⟨false,[],false,⟨false,some .aborted,⟨false,none⟩,some []⟩⟩
  registration := false
  keeps := false
  reconciliation := false

/-- The reader of the result is gone; the message behind it was written. -/
def undelivered : List Entry :=
  [⟨7,⟨1,5,0,3,.resultResponse,true,false,false,.ddsError,"",none⟩,[],.plain 9⟩,
    ⟨8,⟨1,6,2,4,.publish,false,false,false,.ddsError,"",none⟩,[],.plain 9⟩]

/-- The failed response ends the drain: the message is neither acknowledged nor
its Future completed. -/
theorem failed_result_raised :
    ((drainCompletions undelivered delivering).1 = .error .delivery ∧
      (drainCompletions undelivered delivering).2.acknowledged = [7]) ∧
        ¬ ∀ s l, Isolated s l := by
  have hraised : (drainCompletions undelivered delivering).1 = .error .delivery := rfl
  refine ⟨⟨hraised,rfl⟩,fun h => ?_⟩
  have hidentity := (h delivering undelivered).returns .delivery hraised
  cases hidentity

/-- The callback of an accepted goal leaves it active, so it is aborted while its
first status is in flight: a second status follows, and the drain ends well. -/
example : (drainCompletions
    [⟨7,⟨1,5,0,3,.goalResponse,false,false,false,.ddsError,"",none⟩,[],.plain 9⟩,
      ⟨9,⟨1,5,0,3,.status,false,false,false,.ddsError,"",none⟩,[],.plain 10⟩,
      ⟨10,⟨1,5,0,3,.status,false,false,false,.ddsError,"",none⟩,[],.plain 11⟩]
    (delivering.setServer 3
      {delivering.servers 3 with protocol := AList.insert 7 (.accept 0) ∅})).1 = .ok () := rfl

end Dmw.CompletionDrain
