import Dmw.GuardedRuns
import Dmw.ReplyStaging

/-!
# Outbound requests of an executor

`SingleThreadedExecutor` with the requests that one client sends through it.
A request is an operation of the executor with a Future, a native work and a
job of the native dispatcher. The worker sends, other threads cancel Futures,
close and stop, and the owner handles completions and done callbacks. What the
owner calls on the client is a parameter, so that `Client` and `ActionClient`
share everything else.
-/

namespace Dmw.OutboundRequests

open KeyedTable KeyedTable.Table ReplyStaging

/-- What ends a close or a stop. -/
inductive Cause
  /-- `EntityClosedError`. -/
  | entityClosed
  /-- `ExecutorStoppedError`. -/
  | executorStopped
  /-- `ContextShutdownError`. -/
  | contextShutdown
  /-- `ResourceExhaustedError`. -/
  | resourceExhausted (message : String)
  deriving DecidableEq

/-- Exceptions that a Future ends with. -/
inductive Raised
  /-- Admission failed, or `completion.check()` raised. -/
  | native (code : ℕ)
  /-- The client closed or the executor stopped. -/
  | ended (cause : Cause)
  /-- `InvalidStateError`. -/
  | invalidState (message : String)
  deriving DecidableEq

/-- The state of a `Future`. -/
inductive FutureState (ρ : Type)
  /-- `PENDING`. -/
  | pending
  /-- `FINISHED` with a result. -/
  | result (value : ρ)
  /-- `FINISHED` with an exception. -/
  | exception (error : Raised)
  /-- `CANCELED`. -/
  | canceled
  deriving DecidableEq

/-- `done`. -/
def FutureState.done {ρ : Type} : FutureState ρ → Bool
  | .pending => false
  | _ => true

/-- The job kinds of requests. -/
inductive RequestKind
  /-- `SERVICE_REQUEST`. -/
  | service
  /-- `GOAL_REQUEST`. -/
  | goal
  /-- `CANCEL_REQUEST`. -/
  | cancel
  /-- `RESULT_REQUEST`. -/
  | result
  deriving DecidableEq

/-- `CompletionRecord`, as far as requests are concerned. -/
structure Completion (κ : Type) where
  /-- `kind`. -/
  kind : RequestKind
  /-- What `check()` raises. -/
  error : Option ℕ := none
  /-- `skipped`. -/
  skipped : Bool := false
  /-- `request_id`. -/
  requestId : Option κ := none

/-- `ClientRequestWork` and `ActionRequestWork`. -/
structure Work where
  /-- `kind_`. -/
  kind : RequestKind := .service
  /-- `send_started_`. -/
  sendStarted : Bool := false
  /-- `cancel_requested_`. -/
  cancelRequested : Bool := false

/-- The slot of a request in the native dispatcher. -/
inductive Job (κ : Type)
  /-- No ticket was reserved. -/
  | absent
  /-- In a ready queue. -/
  | queued
  /-- Its write is under way. -/
  | sending
  /-- Its completion is in the mailbox. -/
  | completed (completion : Completion κ)
  /-- The completion was acknowledged. -/
  | acknowledged

/-- The completion is still to come, or to be acknowledged. -/
def Job.outstanding {κ : Type} : Job κ → Bool
  | .queued | .sending | .completed _ => true
  | _ => false

/-- `cancel_queued`. -/
def Job.cancelQueued {κ : Type} (kind : RequestKind) : Job κ → Job κ
  | .queued => .completed { kind := kind, skipped := true }
  | job => job

/-- The job is in a ready queue. -/
def Job.isQueued {κ : Type} : Job κ → Bool
  | .queued => true
  | _ => false

/-- The write of the job is under way. -/
def Job.isSending {κ : Type} : Job κ → Bool
  | .sending => true
  | _ => false

/-- The completion that waits in the mailbox. -/
def Job.completion {κ : Type} : Job κ → Option (Completion κ)
  | .completed completion => some completion
  | _ => none

/-- `_OutboundOperation`; its Future and its native work are found under its
number. -/
structure Operation (κ : Type) where
  /-- `request_id`. -/
  requestId : Option κ := none
  /-- `send_reconciled`. -/
  sendReconciled : Bool := false

/-- The part of an executor that its requests are in. -/
structure Outbound (κ ρ : Type) where
  /-- `_operations`. -/
  operations : Table ℕ (Operation κ)
  /-- `_next_operation`. -/
  nextOperation : ℕ
  /-- The Futures. -/
  futures : ℕ → FutureState ρ
  /-- The native works. -/
  works : ℕ → Work
  /-- The native jobs. -/
  jobs : ℕ → Job κ
  /-- `_notifications`: the operations whose done callback is queued. -/
  notifications : List ℕ
  /-- `_state` is `STOPPING`. -/
  stopping : Bool
  /-- `_cause`. -/
  cause : Option Cause
  /-- The operation whose send returned a RequestId. -/
  sentBy : κ → Option ℕ

/-- Nothing was sent. -/
def Outbound.initial (κ ρ : Type) : Outbound κ ρ :=
  ⟨∅,1,fun _ => .pending,fun _ => {},fun _ => .absent,[],false,none,fun _ => none⟩

namespace Outbound

variable {κ ρ : Type} [DecidableEq κ]

/-- `Future._finish`. The done callbacks are queued with the terminal state. -/
def finish (operation : ℕ) (outcome : FutureState ρ) (s : Outbound κ ρ) : Outbound κ ρ :=
  if (s.futures operation).done then s
  else { s with
    futures := Function.update s.futures operation outcome
    notifications := s.notifications ++ [operation] }

/-- `cancel` of a native work: a job that is still queued completes at once. -/
def cancelWork (operation : ℕ) (s : Outbound κ ρ) : Outbound κ ρ :=
  { s with
    works := Function.update s.works operation
      { s.works operation with cancelRequested := true }
    jobs := Function.update s.jobs operation
      ((s.jobs operation).cancelQueued (s.works operation).kind) }

/-- `Future.cancel` with the cancel hook of a request. -/
def cancel (operation : ℕ) (s : Outbound κ ρ) : Outbound κ ρ :=
  if (s.futures operation).done then s else (s.cancelWork operation).finish operation .canceled

/-- The worker takes the job: it is sent, or skipped if that was requested. -/
def start (operation : ℕ) (s : Outbound κ ρ) : Outbound κ ρ :=
  if (s.works operation).cancelRequested then
    { s with
      jobs := Function.update s.jobs operation
        (.completed { kind := (s.works operation).kind, skipped := true }) }
  else { s with
    works := Function.update s.works operation { s.works operation with sendStarted := true }
    jobs := Function.update s.jobs operation .sending }

/-- The write returned. -/
def sent (operation : ℕ) (outcome : Except ℕ κ) (s : Outbound κ ρ) : Outbound κ ρ :=
  match outcome with
  | .ok requestId => { s with
      jobs := Function.update s.jobs operation
        (.completed { kind := (s.works operation).kind, requestId := some requestId })
      sentBy := Function.update s.sentBy requestId (some operation) }
  | .error code => { s with
      jobs := Function.update s.jobs operation
        (.completed { kind := (s.works operation).kind, error := some code }) }

/-- A new operation with its Future. -/
def register (kind : RequestKind) (s : Outbound κ ρ) : Outbound κ ρ :=
  { s with
    operations := s.operations.insert s.nextOperation {}
    nextOperation := s.nextOperation + 1
    works := Function.update s.works s.nextOperation { kind := kind } }

/-- The dispatcher took the job. -/
def enqueue (operation : ℕ) (s : Outbound κ ρ) : Outbound κ ρ :=
  { s with jobs := Function.update s.jobs operation .queued }

/-- `_operations.pop`. -/
def drop (operation : ℕ) (s : Outbound κ ρ) : Outbound κ ρ :=
  { s with operations := s.operations.erase operation }

/-- The completion is acknowledged. -/
def acknowledge (operation : ℕ) (s : Outbound κ ρ) : Outbound κ ρ :=
  { s with jobs := Function.update s.jobs operation .acknowledged }

/-- The RequestId of an operation becomes known. -/
def identify (operation : ℕ) (requestId : κ) (s : Outbound κ ρ) : Outbound κ ρ :=
  { s with
    operations := modify operation (fun record => { record with requestId := some requestId })
      s.operations }

/-- `_request_shutdown`. -/
def requestShutdown (cause : Option Cause) (s : Outbound κ ρ) : Outbound κ ρ :=
  { s with
    stopping := true
    cause := if cause = some .contextShutdown ∨ s.cause = none then
      some (cause.getD .executorStopped) else s.cause }

end Outbound

/-- An executor with one of its clients. -/
structure Requests (κ ρ τ : Type) where
  /-- The executor. -/
  out : Outbound κ ρ
  /-- `_closing` of the client, with `_cause`. -/
  closing : Option Cause
  /-- The tables of the client. -/
  tables : τ

/-- Exceptions of an owner step. -/
inductive StepError
  /-- `KeyError`. -/
  | keyError
  /-- `AttributeError`. -/
  | attributeError
  /-- `InvalidStateError` of a completion without its operation. -/
  | identity
  deriving DecidableEq

/-- What a step returns or raises, and what it leaves behind. -/
abbrev Step (κ ρ τ α : Type) := Requests κ ρ τ → Except StepError α × Requests κ ρ τ

/-- What an executor calls on a client. -/
structure Callee (κ ρ τ : Type) where
  /-- `_unreconciled.add`. -/
  addCandidate : ℕ → τ → τ
  /-- `_retire_candidate`. -/
  retireCandidate : ℕ → τ → τ
  /-- `_cancel_operation`, except for the cancellation of the native work. -/
  forget : ℕ → ℕ → Operation κ → τ → τ
  /-- `_send_committed`. -/
  sendCommitted : ℕ → ℕ → Completion κ → Step κ ρ τ Bool
  /-- `_retire_bindings`. -/
  retireBindings : τ → τ

/-- How an admission ends. -/
inductive Admission
  /-- The job is enqueued. -/
  | enqueued
  /-- The work, its hooks or its ticket were refused; the done callback may
  have been added before. -/
  | failed (callbackAdded : Bool) (code : ℕ)

section Steps

variable {κ ρ τ : Type} [DecidableEq κ] (callee : Callee κ ρ τ)

/-- The executor's part changes. -/
def Requests.withOut (f : Outbound κ ρ → Outbound κ ρ) (s : Requests κ ρ τ) : Requests κ ρ τ :=
  { s with out := f s.out }

/-- `_submit_request` and `_submit_action_request`. -/
def submit (kind : RequestKind) (admission : Admission) (s : Requests κ ρ τ) : Requests κ ρ τ :=
  let operation := s.out.nextOperation
  let tables := callee.addCandidate operation s.tables
  match admission with
  | .enqueued => { s with out := (s.out.register kind).enqueue operation, tables := tables }
  | .failed callbackAdded code =>
    let out := (s.out.register kind).drop operation
    { s with
      out := { out with
        futures := Function.update out.futures operation (.exception (.native code))
        notifications := if callbackAdded then out.notifications ++ [operation]
          else out.notifications }
      tables := callee.retireCandidate operation tables }

/-- `_cancel_operation`. -/
def cancelOperation (now operation : ℕ) (record : Operation κ) (s : Requests κ ρ τ) :
    Requests κ ρ τ :=
  { s with
    out := s.out.cancelWork operation
    tables := callee.forget now operation record s.tables }

/-- `_operation_terminal`. -/
def operationTerminal (now operation : ℕ) (s : Requests κ ρ τ) : Requests κ ρ τ :=
  match s.out.operations.lookup operation with
  | none => s
  | some record =>
    let s := cancelOperation callee now operation record s
    if record.sendReconciled then s.withOut (·.drop operation) else s

/-- One round of `_cancel_entity_operations`. -/
def cancelOne (now : ℕ) (cause : Cause) (operation : ℕ) (record : Operation κ)
    (s : Requests κ ρ τ) : Requests κ ρ τ :=
  let s := cancelOperation callee now operation record s
  let s := if record.sendReconciled then s.withOut (·.drop operation) else s
  s.withOut (·.finish operation (.exception (.ended cause)))

/-- `_cancel_entity_operations`. -/
def cancelEntityOperations (now : ℕ) (cause : Cause) (s : Requests κ ρ τ) : Requests κ ρ τ :=
  s.out.operations.entries.foldl
    (fun s entry => cancelOne callee now cause entry.1 entry.2 s) s

/-- The rest of `_drain_completions` after `_send_committed`. -/
def settle (operation : ℕ) (outcome : Except StepError Bool) (s : Requests κ ρ τ) :
    Except StepError Unit × Requests κ ρ τ :=
  match outcome with
  | .ok true => (.ok (),s.withOut fun out =>
      { out.acknowledge operation with
        operations := modify operation (fun record => { record with sendReconciled := true })
          out.operations })
  | .ok false => (.ok (),s.withOut fun out => (out.acknowledge operation).drop operation)
  | .error error => (.error error,s.withOut fun out => (out.acknowledge operation).drop operation)

/-- One completion in `_drain_completions`. -/
def drainCompletion (now operation : ℕ) (completion : Completion κ) : Step κ ρ τ Unit := fun s =>
  match s.out.operations.lookup operation with
  | none => (.error .identity,s.withOut (·.acknowledge operation))
  | some _ =>
    settle operation (callee.sendCommitted now operation completion s).1
      (callee.sendCommitted now operation completion s).2

/-- The steps that every client takes part in. -/
inductive ExecutorEvent (κ : Type)
  /-- A request is submitted. -/
  | submit (kind : RequestKind) (admission : Admission)
  /-- The worker takes a job. -/
  | start (operation : ℕ)
  /-- A write returns. -/
  | sent (operation : ℕ) (outcome : Except ℕ κ)
  /-- The user cancels a Future. -/
  | cancel (operation : ℕ)
  /-- The owner handles a completion. -/
  | drain (now operation : ℕ)
  /-- The owner runs the oldest queued done callback. -/
  | notify (now : ℕ)
  /-- The owner cancels the operations of a client that closes or is stopped. -/
  | cancelAll (now : ℕ)
  /-- `_request_close` with a cause. -/
  | close (cause : Cause)
  /-- `_request_shutdown`. -/
  | shutdown (cause : Option Cause)
  /-- The drain ends a Future. -/
  | expire (operation : ℕ)
  /-- `_retire_bindings` of a client whose backing is closed. -/
  | retire
  /-- Other clients of the executor submit operations. -/
  | elsewhere (count : ℕ)

/-- The cause that the control path cancels with. -/
def Requests.endCause (s : Requests κ ρ τ) : Option Cause :=
  if s.out.stopping then s.out.cause else s.closing

/-- When a step is taken. A backing is closed once every lease on it is gone;
works and unacknowledged jobs hold one. -/
def ExecutorEvent.Enabled (s : Requests κ ρ τ) : ExecutorEvent κ → Prop
  | .submit _ _ => s.out.stopping = false
  | .start operation => (s.out.jobs operation).isQueued = true
  | .sent operation (.ok requestId) =>
      (s.out.jobs operation).isSending = true ∧ s.out.sentBy requestId = none
  | .sent operation (.error _) => (s.out.jobs operation).isSending = true
  | .cancel operation => operation < s.out.nextOperation
  | .drain _ operation => (s.out.jobs operation).completion.isSome = true
  | .notify _ => s.out.notifications ≠ []
  | .cancelAll _ => s.endCause ≠ none
  | .close _ => True
  | .shutdown _ => True
  | .expire operation => s.out.stopping = true ∧ operation < s.out.nextOperation
  | .retire => s.closing ≠ none ∧ size s.out.operations = 0 ∧
      ∀ operation < s.out.nextOperation, (s.out.jobs operation).outstanding = false
  | .elsewhere _ => True

end Steps

section Runs

variable {κ ρ τ : Type} [DecidableEq κ] (callee : Callee κ ρ τ)

instance (s : Requests κ ρ τ) (event : ExecutorEvent κ) : Decidable (event.Enabled s) := by
  cases event with
  | sent operation outcome =>
    cases outcome <;> unfold ExecutorEvent.Enabled <;> infer_instance
  | _ => unfold ExecutorEvent.Enabled; infer_instance

/-- A step of the executor. -/
def executorStep (event : ExecutorEvent κ) : Step κ ρ τ Unit := fun s =>
  match event with
  | .submit kind admission => (.ok (),submit callee kind admission s)
  | .start operation => (.ok (),s.withOut (·.start operation))
  | .sent operation outcome => (.ok (),s.withOut (·.sent operation outcome))
  | .cancel operation => (.ok (),s.withOut (·.cancel operation))
  | .drain now operation =>
    match (s.out.jobs operation).completion with
    | some completion => drainCompletion callee now operation completion s
    | none => (.ok (),s)
  | .notify now =>
    match s.out.notifications with
    | [] => (.ok (),s)
    | operation :: rest =>
      (.ok (),operationTerminal callee now operation
        (s.withOut fun out => { out with notifications := rest }))
  | .cancelAll now =>
    match s.endCause with
    | none => (.ok (),s)
    | some cause => (.ok (),cancelEntityOperations callee now cause s)
  | .close cause => (.ok (),{ s with closing := some (s.closing.getD cause) })
  | .shutdown cause => (.ok (),s.withOut (·.requestShutdown cause))
  | .expire operation => (.ok (),s.withOut fun out =>
      out.finish operation (.exception (.ended (out.cause.getD .executorStopped))))
  | .retire => (.ok (),{ s with tables := callee.retireBindings s.tables })
  | .elsewhere count =>
    (.ok (),s.withOut fun out => { out with nextOperation := out.nextOperation + count })

end Runs

end Dmw.OutboundRequests
