import Dmw.GuardedRuns

/-!
# Steps of an executor's owner as programs

The owner of an executor dispatches batch entries, drains completions, restores
registrations and finishes goals. What matters of a step is when it looks at
the state, when it calls a backing that refuses a closing entity, and when it
starts user code: a step is a program of these three, built from what it reads.
A close, the stop of the executor and the shutdown of the Context may fall
between any two of them. `SingleThreadedExecutor` and `AsyncIOExecutor` run the
same machine.
-/

namespace Dmw.OwnerPrograms

open GuardedRuns

/-- Entities are numbered. -/
abbrev EntityId := ℕ

/-- `ExecutorState`. -/
inductive ExecutorState
  | created
  | running
  | stopping
  | stopped
  deriving DecidableEq, Repr

/-- User code that a step may start. -/
inductive Callback
  /-- `callback` of a subscription, a timer or a graph event. -/
  | message
  | service
  | goal
  | cancel
  | execute
  | feedback
  deriving DecidableEq, Repr

/-- Why a call raises. -/
inductive Cause
  /-- The backing is closing. -/
  | closed
  | other
  deriving DecidableEq, Repr

/-- What the owner looks at before it goes on. -/
inductive Check
  /-- `state is RUNNING and context.ok() and not entity._closing`. -/
  | admitted
  /-- `context.ok() and not entity._closing`. -/
  | alive
  /-- `not entity._closing`. -/
  | unclosed
  /-- `state is RUNNING and context.ok()`. -/
  | running
  deriving DecidableEq, Repr

/-- The check looks at `_closing`. -/
def Check.readsClosing : Check → Bool
  | .running => false
  | _ => true

/-- What a step still has to do. -/
inductive Program
  | done
  /-- An exception leaves the step. -/
  | raised (cause : Cause)
  /-- `_record_fault`. -/
  | fault (cause : Cause) (next : Program)
  | check (test : Check) (entity : EntityId) (yes no : Program)
  /-- A call that acquires a lease or a registration of the backing. -/
  | native (entity : EntityId) (next : Program) (failed : Cause → Program)
  | callback (entity : EntityId) (kind : Callback) (next : Program)

/-- The step is over. -/
def Program.isDone : Program → Bool
  | .done => true
  | _ => false

/-! ## The source -/

/-- `_restore_registration`; `missing` if there is a record without registration. -/
def restoreRegistration (entity : EntityId) (missing : Bool) (ok : Program)
    (err : Cause → Program) : Program :=
  .check .admitted entity (if missing then .native entity ok err else ok) ok

/-- `_publish_status`: a snapshot and a job, unless a status is in flight. -/
def publishStatus (entity : EntityId) (inflight : Bool) (ok : Program) (err : Cause → Program) :
    Program :=
  if inflight then ok else .check .unclosed entity (.native entity (.native entity ok err) err) ok

/-- `_terminal` of an active goal: the transition, the status and the requests
that wait for the result. -/
def terminal (entity : EntityId) (inflight : Bool) (ok : Program) (err : Cause → Program) :
    Program :=
  .native entity (publishStatus entity inflight (.native entity ok err) err) err

/-- `abort_goal` of a goal if it is active. -/
def abortActive (entity : EntityId) (active inflight : Bool) (ok : Program)
    (err : Cause → Program) : Program :=
  if active then terminal entity inflight ok err else ok

/-- What the execute callback does. -/
inductive Executed
  /-- It returns a result or raises. -/
  | returned
  /-- It returns a coroutine. -/
  | coroutine (capacity : Bool)
  deriving DecidableEq

/-- What `_run_execute` reads. -/
structure Execution where
  /-- The goal is active. -/
  active : Bool
  /-- What the callback does. -/
  executed : Executed
  /-- The goal is active after it. -/
  activeAfter : Bool
  /-- It is still active after `_finish_execute` raised. -/
  activeAgain : Bool
  /-- A status is in flight then. -/
  inflight : Bool

/-- `_run_execute`; only an AsyncIOExecutor has a scheduler, and what it raises
ends the goal. -/
def runExecute (asynchronous : Bool) (entity : EntityId) (execution : Execution) (ok : Program)
    (err : Cause → Program) : Program :=
  let abort := abortActive entity execution.activeAfter execution.inflight ok
  if execution.active then
    .native entity (.callback entity .execute (match execution.executed with
      | .returned => abort err
      | .coroutine capacity =>
        if !asynchronous then abort err
        else if capacity then .native entity ok fun _ => abort err
        else abort fun _ => abortActive entity execution.activeAgain execution.inflight ok err)) err
  else ok

/-- A completion of the ActionServer's mailbox. -/
inductive Completion
  /-- An accepted goal. -/
  | accept (inflight : Bool) (execution : Execution)
  /-- `reject`, `cancel` and `result`. -/
  | lane
  | resultDelivery
  /-- A status; `dirty` if another revision waits. -/
  | status (dirty : Bool)
  | feedback

/-- `_protocol_completion`, with its `finally`. -/
def protocolCompletion (entity : EntityId) (missing : Bool) (body : Program → (Cause → Program) →
    Program) : Program :=
  body (restoreRegistration entity missing .done .raised)
    fun cause => restoreRegistration entity missing (.raised cause) .raised

/-- What `_drain_completions` does with a completion of an ActionServer. -/
def drainCompletion (asynchronous : Bool) (entity : EntityId) (succeeded missing : Bool) :
    Completion → Program
  | .accept inflight execution =>
    protocolCompletion entity missing fun ok err =>
      if succeeded then
        publishStatus entity inflight (runExecute asynchronous entity execution ok err) err
      else err .other
  | .lane => protocolCompletion entity missing fun ok err => if succeeded then ok else err .other
  | .resultDelivery => if succeeded then .done else .raised .other
  | .status dirty =>
    if succeeded && dirty then publishStatus entity false .done .raised else .done
  | .feedback => if succeeded then .done else .raised .other

/-- A request of an ActionServer and what its handler reads. -/
inductive Request
  /-- A goal; `asks` if the goal callback decides. -/
  | goal (asks : Bool)
  /-- A cancel request; `exact` for one goal, which may not be `cancellable`. -/
  | cancel (exact cancellable : Bool) (candidates accepted : ℕ) (committed inflight : Bool)
  /-- A result request; without `identifier` the goal is unknown. -/
  | result (identifier pending : Bool)

/-- `_take_goal`. -/
def takeGoal (entity : EntityId) (asks : Bool) (ok : Program) : Program :=
  if asks then .callback entity .goal ok else ok

/-- The cancel callback is asked for every candidate. -/
def askCancels (entity : EntityId) (ok : Program) : ℕ → Program
  | 0 => ok
  | n+1 => .callback entity .cancel (askCancels entity ok n)

/-- The accepted goals change their state; what that raises is skipped. -/
def commitCancels (entity : EntityId) (ok : Program) : ℕ → Program
  | 0 => ok
  | n+1 => .native entity (commitCancels entity ok n) fun _ => commitCancels entity ok n

/-- `_take_cancel`. -/
def takeCancel (entity : EntityId) (exact cancellable : Bool) (candidates accepted : ℕ)
    (committed inflight : Bool) (ok : Program) (err : Cause → Program) : Program :=
  let select := Program.native entity
    (askCancels entity (commitCancels entity
      (if committed then publishStatus entity inflight ok err else ok) accepted) candidates) err
  if exact then .native entity (if cancellable then select else ok) fun _ => ok else select

/-- `_take_result`; a pending request frees the lane. -/
def takeResult (entity : EntityId) (identifier pending : Bool) (ok : Program)
    (err : Cause → Program) : Program :=
  if identifier then
    .native entity (if pending then restoreRegistration entity true ok err else ok) err
  else ok

/-- The works of the three kinds are made in turn until there is a request. -/
def takeRequest (entity : EntityId) (request : Option Request) (err : Cause → Program) : Program :=
  let free := restoreRegistration entity true .done err
  match request with
  | some (.goal asks) => .native entity (takeGoal entity asks .done) err
  | some (.cancel exact cancellable candidates accepted committed inflight) =>
    .native entity (.native entity
      (takeCancel entity exact cancellable candidates accepted committed inflight .done err)
      err) err
  | some (.result identifier pending) =>
    .native entity (.native entity (.native entity
      (takeResult entity identifier pending .done err) err) err) err
  | none => .native entity (.native entity (.native entity free err) err) err

/-- `_take_ready` of an ActionServer; what it raises frees the lane first. -/
def takeReady (entity : EntityId) (laneBusy expired inflight : Bool) (request : Option Request) :
    Program :=
  let err cause := restoreRegistration entity true (.raised cause) .raised
  if laneBusy then .done
  else .native entity (if expired then publishStatus entity inflight
    (takeRequest entity request err) err else takeRequest entity request err) err

/-- Feedback of an ActionClient. -/
inductive Feedback
  /-- There is none, or nobody wants it. -/
  | none
  | handled
  | coroutine (capacity : Bool)
  deriving DecidableEq

/-- A batch entry, by the kind of its entity. -/
inductive Entry
  | client
  | actionClient (feedback : Feedback)
  | actionServer (laneBusy expired inflight : Bool) (request : Option Request)
  /-- `capacity` is that of an AsyncIOExecutor; the callback may raise. -/
  | service (capacity request raises : Bool)
  | message (capacity taken raises : Bool)

/-- What a batch entry does after its check. -/
def dispatch (asynchronous : Bool) (entity : EntityId) : Entry → Program
  | .client => .done
  | .actionClient .none => .done
  | .actionClient .handled => .callback entity .feedback .done
  | .actionClient (.coroutine capacity) =>
    .callback entity .feedback
      (if !asynchronous then .raised .other
        else if capacity then .native entity .done .raised else .done)
  | .actionServer laneBusy expired inflight request =>
    takeReady entity laneBusy expired inflight request
  | .service capacity request raises =>
    if asynchronous then if capacity then .native entity .done .raised else .done
    else .native entity (if request then .callback entity .service
      (if raises then .raised .other else .done) else .done) .raised
  | .message capacity taken raises =>
    if asynchronous then if capacity then .native entity .done .raised else .done
    else if taken then .check .alive entity (.callback entity .message
      (if raises then .raised .other else .done)) .done
    else .done

/-- The loop of `_restore_registrations` over the records that need it. -/
def restoreEach : List EntityId → Program
  | [] => .done
  | entity :: rest =>
    .check .unclosed entity (.native entity (restoreEach rest) .raised) (restoreEach rest)

/-- A step of the owner, with what it reads. -/
inductive Step
  /-- An entry of a batch. -/
  | entry (entity : EntityId) (ready : Entry)
  /-- A completion of an ActionServer. -/
  | completion (entity : EntityId) (succeeded missing : Bool) (delivered : Completion)
  /-- The first step of a callback task. -/
  | invoke (entity : EntityId) (service : Bool)
  /-- The end of an execute task. -/
  | finishExecute (entity : EntityId) (active inflight : Bool)
  /-- `_restore_registrations`. -/
  | restore (entities : List EntityId)
  /-- A completion of another entity, a done callback, or the rest of `_control`. -/
  | control

/-- The program of a step. -/
def Step.program (asynchronous : Bool) : Step → Program
  | .entry entity ready => .check .admitted entity (dispatch asynchronous entity ready) .done
  | .completion entity succeeded missing delivered =>
    drainCompletion asynchronous entity succeeded missing delivered
  | .invoke entity service =>
    .check .admitted entity (.callback entity (if service then .service else .message) .done) .done
  | .finishExecute entity active inflight =>
    abortActive entity active inflight .done fun cause => .fault cause .done
  | .restore entities => .check .running 0 (restoreEach entities) .done
  | .control => .done

/-! ## Properties of programs -/

/-- A property that the calls and checks of an entity pass on, if calls fail for
such causes only. -/
structure Inherited (entity : EntityId) (allowed : Cause → Prop) (p : Program → Prop) : Prop where
  /-- Calls fail not only because of a close. -/
  other : allowed .other
  done : p .done
  raised : ∀ cause, allowed cause → p (.raised cause)
  check : ∀ {test yes no}, p yes → p no → p (.check test entity yes no)
  native : ∀ {ok err}, p ok → (∀ cause, allowed cause → p (err cause)) → p (.native entity ok err)

/-- The callbacks of an entity pass a property on. -/
def Calls (entity : EntityId) (p : Program → Prop) : Prop :=
  ∀ kind ok, p ok → p (.callback entity kind ok)

section

variable {entity : EntityId} {allowed : Cause → Prop} {p : Program → Prop} {ok : Program}
  {err : Cause → Program}

/-- A restored registration passes it on. -/
theorem Inherited.restores (h : Inherited entity allowed p) (missing : Bool) (hok : p ok)
    (herr : ∀ cause, allowed cause → p (err cause)) :
    p (restoreRegistration entity missing ok err) := by
  refine h.check ?_ hok
  cases missing with
  | true => exact h.native hok herr
  | false => exact hok

/-- So does one after an exception. -/
theorem Inherited.reraises (h : Inherited entity allowed p) (missing : Bool) (cause : Cause)
    (hcause : allowed cause) : p (restoreRegistration entity missing (.raised cause) .raised) :=
  h.restores missing (h.raised cause hcause) h.raised

/-- So does a published status. -/
theorem Inherited.publishes (h : Inherited entity allowed p) (inflight : Bool) (hok : p ok)
    (herr : ∀ cause, allowed cause → p (err cause)) : p (publishStatus entity inflight ok err) := by
  cases inflight with
  | true => exact hok
  | false => exact h.check (h.native (h.native hok herr) herr) hok

/-- So does the end of a goal. -/
theorem Inherited.aborts (h : Inherited entity allowed p) (active inflight : Bool) (hok : p ok)
    (herr : ∀ cause, allowed cause → p (err cause)) :
    p (abortActive entity active inflight ok err) := by
  cases active with
  | true => exact h.native (h.publishes inflight (h.native hok herr) herr) herr
  | false => exact hok

/-- So does its execution, where its callback does. -/
theorem Inherited.executes (h : Inherited entity allowed p) (asynchronous : Bool)
    (execution : Execution) (hcalls : execution.active = true → Calls entity p) (hok : p ok)
    (herr : ∀ cause, allowed cause → p (err cause)) :
    p (runExecute asynchronous entity execution ok err) := by
  have habort : ∀ active, p (abortActive entity active execution.inflight ok err) :=
    fun active => h.aborts active execution.inflight hok herr
  obtain ⟨active, executed, activeAfter, activeAgain, inflight⟩ := execution
  cases active with
  | false => exact hok
  | true =>
    refine h.native (hcalls rfl _ _ ?_) herr
    cases executed with
    | returned => exact habort activeAfter
    | coroutine capacity =>
      cases asynchronous with
      | false => exact habort activeAfter
      | true =>
        cases capacity with
        | true => exact h.native hok fun _ _ => habort activeAfter
        | false => exact h.aborts activeAfter inflight hok fun _ _ => habort activeAgain

/-- So do the cancel callbacks. -/
theorem Calls.asks (hcalls : Calls entity p) (hok : p ok) (n : ℕ) : p (askCancels entity ok n) := by
  induction n with
  | zero => exact hok
  | succ n ih => exact hcalls _ _ ih

/-- So do changes of goal states. -/
theorem Inherited.commits (h : Inherited entity allowed p) (hok : p ok) (n : ℕ) :
    p (commitCancels entity ok n) := by
  induction n with
  | zero => exact hok
  | succ n ih => exact h.native ih fun _ _ => ih

/-- So does a cancel request. -/
theorem Inherited.cancels (h : Inherited entity allowed p) (hcalls : Calls entity p)
    (exact cancellable : Bool) (candidates accepted : ℕ) (committed inflight : Bool) (hok : p ok)
    (herr : ∀ cause, allowed cause → p (err cause)) :
    p (takeCancel entity exact cancellable candidates accepted committed inflight ok err) := by
  have hstatus : p (if committed then publishStatus entity inflight ok err else ok) := by
    split
    · exact h.publishes inflight hok herr
    · exact hok
  have hselect := h.native (hcalls.asks (h.commits hstatus accepted) candidates) herr
  unfold takeCancel
  cases exact with
  | false => exact hselect
  | true =>
    refine h.native ?_ fun _ _ => hok
    split
    · exact hselect
    · exact hok

/-- So does a request. -/
theorem Inherited.requests (h : Inherited entity allowed p) (hcalls : Calls entity p)
    (request : Option Request) (herr : ∀ cause, allowed cause → p (err cause)) :
    p (takeRequest entity request err) := by
  have hfree : p (restoreRegistration entity true .done err) := h.restores true h.done herr
  cases request with
  | none => exact h.native (h.native (h.native hfree herr) herr) herr
  | some request =>
    cases request with
    | goal asks =>
      cases asks with
      | true => exact h.native (hcalls _ _ h.done) herr
      | false => exact h.native h.done herr
    | cancel exact cancellable candidates accepted committed inflight =>
      have hcancel := h.cancels hcalls exact cancellable candidates accepted committed inflight
        h.done herr
      exact h.native (h.native hcancel herr) herr
    | result identifier pending =>
      have hresult : p (takeResult entity identifier pending .done err) := by
        unfold takeResult
        split
        · refine h.native ?_ herr
          split
          · exact hfree
          · exact h.done
        · exact h.done
      exact h.native (h.native (h.native hresult herr) herr) herr

/-- So does a ready ActionServer. -/
theorem Inherited.readies (h : Inherited entity allowed p) (hcalls : Calls entity p)
    (laneBusy expired inflight : Bool) (request : Option Request) :
    p (takeReady entity laneBusy expired inflight request) := by
  have herr := h.reraises true
  have hrequest := h.requests hcalls request herr
  unfold takeReady
  cases laneBusy with
  | true => exact h.done
  | false =>
    refine h.native ?_ herr
    split
    · exact h.publishes inflight hrequest herr
    · exact hrequest

/-- So does a batch entry. -/
theorem Inherited.dispatches (h : Inherited entity allowed p) (hcalls : Calls entity p)
    (asynchronous : Bool) (ready : Entry) : p (dispatch asynchronous entity ready) := by
  have hraised : p (.raised .other) := h.raised .other h.other
  have hwork : p (.native entity .done .raised) := h.native h.done h.raised
  cases ready with
  | client => exact h.done
  | actionClient feedback =>
    cases feedback with
    | none => exact h.done
    | handled => exact hcalls _ _ h.done
    | coroutine capacity =>
      refine hcalls _ _ ?_
      cases asynchronous with
      | false => exact hraised
      | true =>
        cases capacity with
        | true => exact hwork
        | false => exact h.done
  | actionServer laneBusy expired inflight request =>
    exact h.readies hcalls laneBusy expired inflight request
  | service capacity request raises =>
    cases asynchronous with
    | true =>
      cases capacity with
      | true => exact hwork
      | false => exact h.done
    | false =>
      refine h.native ?_ h.raised
      cases request with
      | false => exact h.done
      | true =>
        cases raises with
        | true => exact hcalls _ _ hraised
        | false => exact hcalls _ _ h.done
  | message capacity taken raises =>
    cases asynchronous with
    | true =>
      cases capacity with
      | true => exact hwork
      | false => exact h.done
    | false =>
      cases taken with
      | false => exact h.done
      | true =>
        refine h.check (hcalls _ _ ?_) h.done
        cases raises with
        | true => exact hraised
        | false => exact h.done

/-- So does a completion; only that of an accepted goal starts user code. -/
theorem Inherited.completes (h : Inherited entity allowed p)
    (asynchronous succeeded missing : Bool) (delivered : Completion)
    (haccept : ∀ inflight execution, succeeded = true → delivered = .accept inflight execution →
      execution.active = true → Calls entity p) :
    p (drainCompletion asynchronous entity succeeded missing delivered) := by
  have hraised : p (.raised .other) := h.raised .other h.other
  have hfree : p (restoreRegistration entity missing .done .raised) :=
    h.restores missing h.done h.raised
  have hraise := h.reraises missing
  cases delivered with
  | accept inflight execution =>
    cases succeeded with
    | false => exact hraise .other h.other
    | true =>
      have hrun := h.executes asynchronous execution (haccept inflight execution rfl rfl) hfree
        hraise
      exact h.publishes inflight hrun hraise
  | lane =>
    cases succeeded with
    | false => exact hraise .other h.other
    | true => exact hfree
  | resultDelivery =>
    cases succeeded with
    | false => exact hraised
    | true => exact h.done
  | status dirty =>
    cases succeeded with
    | false => exact h.done
    | true =>
      cases dirty with
      | true => exact h.publishes false h.done h.raised
      | false => exact h.done
  | feedback =>
    cases succeeded with
    | false => exact hraised
    | true => exact h.done

end

/-! ## The machine -/

/-- User code that was started. -/
structure Invocation where
  /-- Whose callback it is. -/
  entity : EntityId
  /-- Which one. -/
  kind : Callback
  /-- The step that started it began while its entity was admitted. -/
  admitted : Bool

/-- An executor and its owner. -/
structure Owner where
  /-- It is an `AsyncIOExecutor`. -/
  asynchronous : Bool
  /-- `_state`. -/
  state : ExecutorState
  /-- `context.ok()`. -/
  contextOpen : Bool
  /-- `_closing`. -/
  closing : EntityId → Bool
  /-- The backing does not accept leases. -/
  closed : EntityId → Bool
  /-- What the running step still has to do. -/
  current : Program
  /-- The steps of the same turn that follow. -/
  rest : List Step
  /-- The entities that were admitted when the running step began. -/
  admitted : EntityId → Bool
  /-- The steps that began; history only. -/
  begun : List Step
  /-- The steps of all turns; history only. -/
  scheduled : List Step
  /-- User code that was started; history only. -/
  invoked : List Invocation
  /-- What left a step; history only. -/
  raised : List Cause

namespace Owner

/-- The executor has not left `RUNNING`. -/
def unstopped (s : Owner) : Bool := s.state = .created || s.state = .running

/-- Neither the executor, the Context nor the entity ends. -/
def admits (s : Owner) (entity : EntityId) : Bool :=
  s.unstopped && s.contextOpen && !s.closing entity

/-- A check of the owner. -/
def holds (s : Owner) (entity : EntityId) : Check → Bool
  | .admitted => s.state = .running && s.contextOpen && !s.closing entity
  | .alive => s.contextOpen && !s.closing entity
  | .unclosed => !s.closing entity
  | .running => s.state = .running && s.contextOpen

/-- What `EntityBacking::acquire` throws, if anything. -/
def refusal (s : Owner) (entity : EntityId) : Option Cause :=
  if !s.contextOpen then some .other else if s.closed entity then some .closed else none

/-- A step begins. -/
def begin (step : Step) (rest : List Step) (s : Owner) : Owner :=
  {s with
    current := step.program s.asynchronous
    rest := rest
    admitted := s.admits
    begun := s.begun ++ [step]}

/-- `_record_fault`, and the exceptions that `spin_once` raises. -/
def recordFault (cause : Cause) (s : Owner) : Owner :=
  {s with
    raised := cause :: s.raised
    state := if s.asynchronous && s.unstopped then .stopping else s.state}

/-- The next thing the step does. -/
def advance (s : Owner) : Owner :=
  match s.current with
  | .done => s
  -- What follows in the turn is dropped.
  | .raised cause => {s.recordFault cause with current := .done, rest := []}
  | .fault cause next => {s.recordFault cause with current := next}
  | .check test entity yes no => {s with current := if s.holds entity test then yes else no}
  | .native entity next failed =>
    match s.refusal entity with
    | none => {s with current := next}
    | some cause => {s with current := failed cause}
  | .callback entity kind next =>
    {s with current := next, invoked := ⟨entity,kind,s.admitted entity⟩ :: s.invoked}

end Owner

/-- A step of the owner, of another thread or of user code. -/
inductive Event
  /-- `spin_once` or a callback of the loop, with the steps it is made of. -/
  | turn (steps : List Step)
  | begin
  | advance
  | start
  /-- `close` sets `_closing`. -/
  | startClosing (entity : EntityId)
  /-- `close` closes the backing. -/
  | closeNative (entity : EntityId)
  | requestShutdown
  | shutdownContext

/-- When an event can happen. -/
def Enabled (s : Owner) : Event → Prop
  | .turn _ => s.current.isDone = true ∧ s.rest.isEmpty = true
  | .begin => s.current.isDone = true ∧ s.rest.isEmpty = false
  | .advance => s.current.isDone = false
  | .start => s.state = .created
  | .startClosing _ => True
  | .closeNative entity => s.closing entity = true
  | .requestShutdown => s.state ≠ .stopped
  | .shutdownContext => True

instance (s : Owner) (e : Event) : Decidable (Enabled s e) := by
  cases e <;> unfold Enabled <;> infer_instance

/-- Effect of an event. -/
def next (s : Owner) : Event → Owner
  | .turn steps => {s with rest := steps, scheduled := s.scheduled ++ steps}
  | .begin => match s.rest with
    | [] => s
    | step :: rest => s.begin step rest
  | .advance => s.advance
  | .start => {s with state := .running}
  | .startClosing entity => {s with closing := Function.update s.closing entity true}
  | .closeNative entity => {s with closed := Function.update s.closed entity true}
  | .requestShutdown => {s with state := .stopping}
  | .shutdownContext => {s with contextOpen := false}

/-- Without a step left nothing begins. -/
theorem next_begin_nil {s : Owner} (h : s.rest = []) : next s .begin = s := by
  unfold next
  dsimp only
  rw [h]

/-- The next step begins. -/
theorem next_begin_cons {s : Owner} {step : Step} {rest : List Step} (h : s.rest = step :: rest) :
    next s .begin = s.begin step rest := by
  unfold next
  dsimp only
  rw [h]

/-- The owner, its users and the threads that close. -/
def machine : Machine Owner Event where
  enabled := Enabled
  next := next
  decidableEnabled := inferInstance

/-- A new executor. -/
def Owner.initial (asynchronous : Bool) : Owner where
  asynchronous := asynchronous
  state := .created
  contextOpen := true
  closing := fun _ => false
  closed := fun _ => false
  current := .done
  rest := []
  admitted := fun _ => false
  begun := []
  scheduled := []
  invoked := []
  raised := []

end Dmw.OwnerPrograms
