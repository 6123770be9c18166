import Dmw.Counting
import Dmw.GuardedRuns
import Dmw.Whereabouts

/-!
# Futures and the executor that notifies for them

`Future` of one `SingleThreadedExecutor`: attempts to end it, done callbacks and
awaits from any number of threads, and the owner that runs the queued callbacks,
cancels the Futures once the executor is stopping, and stops. A step is a
section under the lock of a Future or of the executor. A producer reservation
spans an ending Future and the queueing of its callbacks.
-/

namespace Dmw.Futures

open Counting GuardedRuns Whereabouts

/-- What a Future ends with. -/
inductive Outcome (α : Type)
  /-- `FINISHED`, with a result or an exception. -/
  | finished (value : α)
  /-- `CANCELED`. -/
  | canceled

/-- A call of a Future. -/
inductive Call (α : Type)
  /-- `_finish`: `cancel`, `set_result`, `set_exception` and their kin. -/
  | finish (future : ℕ) (outcome : Outcome α)
  /-- `add_done_callback`. -/
  | add (future callback : ℕ)
  /-- `_wait_async`. -/
  | wait (future : ℕ)

/-- The Future that is called. -/
def Call.future {α : Type} : Call α → ℕ
  | .finish future _ | .add future _ | .wait future => future

/-- What a call comes to. -/
inductive Returned
  /-- `_finish` returns true. -/
  | won
  /-- `_finish` returns false. -/
  | lost
  /-- The cancel hook raises. -/
  | hookRaised
  /-- `ExecutorStoppedError`. -/
  | stopped
  /-- `add_done_callback` returns. -/
  | added
  /-- The await ends. -/
  | awaited
  deriving DecidableEq

/-- Where a call is. -/
inductive Pc
  /-- It was not made. -/
  | idle
  /-- `_finish` saw a pending Future. -/
  | finishing
  /-- `_finish` has its reservation. -/
  | reserved
  /-- `_finish` ended the Future; callbacks and bridges are still to be handed over. -/
  | publishing (callbacks bridges : List ℕ)
  /-- `add_done_callback` has its reservation. -/
  | adding
  /-- `add_done_callback` found an ended Future. -/
  | scheduling
  /-- `_wait_async` found an ended Future. -/
  | completing
  /-- The await waits for its bridge. -/
  | bridged
  /-- The reservation is to be given back. -/
  | ending (result : Returned)
  /-- The call is over. -/
  | returned (result : Returned)

/-- The call has a reservation. -/
def Pc.reserves : Pc → Bool
  | .reserved | .publishing _ _ | .adding | .scheduling | .ending _ => true
  | _ => false

/-- The call has left its callback or its bridge somewhere. -/
def Pc.lodged : Pc → Bool
  | .scheduling | .completing | .bridged => true
  | .ending result | .returned result => result = .added ∨ result = .awaited
  | _ => false

/-- The call ended its Future. -/
def Pc.wins : Pc → Bool
  | .publishing _ _ => true
  | .returned result => result = .won
  | _ => false

/-- The call is over. -/
def Pc.over : Pc → Bool
  | .returned _ => true
  | _ => false

/-- The call was not made. -/
def Pc.fresh : Pc → Bool
  | .idle => true
  | _ => false

/-- The await waits. -/
def Pc.waits : Pc → Bool
  | .bridged => true
  | _ => false

/-- `Future`. Its callbacks and bridges are known by the calls they came with. -/
structure Future (α : Type) where
  /-- `_state`, `_result` and `_exception`; nothing while it is pending. -/
  outcome : Option (Outcome α)
  /-- `_cancel_hook` is there. -/
  cancelHook : Bool
  /-- `_callbacks`. -/
  callbacks : List ℕ
  /-- `_bridges`. -/
  bridges : List ℕ

/-- `done`. -/
def Future.done {α : Type} (future : Future α) : Bool := future.outcome.isSome

/-- `ExecutorState`. -/
inductive ExecutorState
  /-- `CREATED`. -/
  | created
  /-- `RUNNING`. -/
  | running
  /-- `STOPPING`. -/
  | stopping
  /-- `STOPPED`. -/
  | stopped
  deriving DecidableEq

/-- Where the owner is in `_drain_shutdown`. -/
inductive Drain
  /-- Not in it. -/
  | none
  /-- These Futures are still to be ended. -/
  | cancelling (futures : List ℕ)
  /-- An attempt of the owner is under way; these are still to be ended after it. -/
  | attempting (call : ℕ) (futures : List ℕ)
  /-- In `_control`, before the last look. -/
  | control

/-- The owner may run queued callbacks. -/
def Drain.controls : Drain → Bool
  | .none | .control => true
  | _ => false

/-- The owner is not shutting down. -/
def Drain.idle : Drain → Bool
  | .none => true
  | _ => false

/-- The Future that the owner ends next. -/
def Drain.next : Drain → Option ℕ
  | .cancelling (future :: _) => some future
  | _ => Option.none

/-- The owner's attempt. -/
def Drain.attempt : Drain → Option ℕ
  | .attempting call _ => some call
  | _ => Option.none

/-- No Future is left to end. -/
def Drain.exhausted : Drain → Bool
  | .cancelling [] => true
  | _ => false

/-- The owner is about to look last. -/
def Drain.last : Drain → Bool
  | .control => true
  | _ => false

/-- The executor, its Futures and all calls. -/
structure System (α : Type) where
  /-- The Futures. -/
  futures : ℕ → Future α
  /-- The Futures made so far. -/
  created : List ℕ
  /-- `_futures`. -/
  registered : List ℕ
  /-- `_state`. -/
  state : ExecutorState
  /-- `_notifications`. -/
  notifications : List ℕ
  /-- `_notification_producers`. -/
  producers : ℕ
  /-- The calls. -/
  calls : ℕ → Pc
  /-- The callback that the owner took. -/
  running : Option ℕ
  /-- The owner in its shutdown. -/
  drain : Drain
  /-- The callbacks that ran. -/
  invoked : List ℕ
  /-- The bridges that were completed. -/
  transferred : List ℕ
  /-- The callbacks that were removed. -/
  removed : List ℕ
  /-- The bridges that their awaits took back. -/
  left : List ℕ
  /-- The callbacks whose executor had stopped. -/
  dropped : List ℕ

/-- Before the first Future. -/
def System.initial (α : Type) : System α where
  futures := fun _ => ⟨none,false,[],[]⟩
  created := []
  registered := []
  state := .created
  notifications := []
  producers := 0
  calls := fun _ => .idle
  running := none
  drain := .none
  invoked := []
  transferred := []
  removed := []
  left := []
  dropped := []

/-- A step of some thread. -/
inductive Event
  /-- The executor runs. -/
  | start
  /-- `request_shutdown`. -/
  | requestShutdown
  /-- A Future is made. -/
  | register (future : ℕ)
  /-- `_set_cancel_hook`. -/
  | setHook (future : ℕ)
  /-- A call is made, up to its first section. -/
  | call (call : ℕ)
  /-- The next section of a call; the cancel hook may raise. -/
  | step (call : ℕ) (hookRaises : Bool)
  /-- An await ends. -/
  | leave (call : ℕ)
  /-- `remove_done_callback`. -/
  | remove (future callback : ℕ)
  /-- The owner takes a queued callback. -/
  | take
  /-- The owner runs it. -/
  | invoke
  /-- `_drain_shutdown` reads the Futures. -/
  | beginDrain
  /-- The owner calls `_try_set_exception` of the next one. -/
  | attempt (call : ℕ)
  /-- That call is over. -/
  | attempted
  /-- All were called. -/
  | beginControl
  /-- The last look of `_drain_shutdown`; nothing else may be outstanding. -/
  | finishDrain (quiescent : Bool)

namespace System

variable {α : Type}

/-- A call goes on. -/
def goTo (call : ℕ) (pc : Pc) (s : System α) : System α :=
  { s with calls := Function.update s.calls call pc }

/-- A Future changes. -/
def setFuture (future : ℕ) (value : Future α) (s : System α) : System α :=
  { s with futures := Function.update s.futures future value }

/-- `_begin_future_notification`, if it does not raise. -/
def begin (call : ℕ) (pc : Pc) (s : System α) : System α :=
  if s.state = .stopped then s.goTo call (.returned .stopped)
  else { s.goTo call pc with producers := s.producers + 1 }

/-- `_end_future_notification`. -/
def release (call : ℕ) (result : Returned) (s : System α) : System α :=
  { s.goTo call (.returned result) with producers := s.producers - 1 }

/-- `_schedule` of the callback that came with a call. -/
def schedule (callback : ℕ) (s : System α) : System α :=
  if s.state = .stopped then { s with dropped := s.dropped ++ [callback] }
  else { s with notifications := s.notifications ++ [callback] }

/-- `_invoke` of the bridge that came with a call. -/
def complete (bridge : ℕ) (s : System α) : System α :=
  { s with transferred := s.transferred ++ [bridge] }

/-- A Future ends; the call has what was registered with it. -/
def finish (call future : ℕ) (outcome : Outcome α) (s : System α) : System α :=
  (s.setFuture future ⟨some outcome,false,[],[]⟩).goTo call
    (.publishing (s.futures future).callbacks (s.futures future).bridges)

/-- The section of `_finish` that ends the Future. -/
def commit (call future : ℕ) (outcome : Outcome α) (hookRaises : Bool) (s : System α) :
    System α :=
  if (s.futures future).done then s.goTo call (.ending .lost)
  else
    match outcome, (s.futures future).cancelHook && hookRaises with
    | .canceled, true => s.goTo call (.ending .hookRaised)
    | _, _ => s.finish call future outcome

/-- The first section of a call. -/
def first (c : ℕ) (call : Call α) (s : System α) : System α :=
  match call with
  | .finish future _ =>
    if (s.futures future).done then s.goTo c (.returned .lost) else s.goTo c .finishing
  | .add _ _ => s.begin c .adding
  | .wait future =>
    if (s.futures future).done then s.goTo c .completing
    else
      (s.setFuture future { s.futures future with
        bridges := (s.futures future).bridges ++ [c] }).goTo c .bridged

/-- The next section of a call. -/
def advance (c : ℕ) (call : Call α) (hookRaises : Bool) (s : System α) : System α :=
  match call, s.calls c with
  | .finish _ _, .finishing => s.begin c .reserved
  | .finish future outcome, .reserved => s.commit c future outcome hookRaises
  | .finish _ _, .publishing (callback :: rest) bridges =>
    (s.schedule callback).goTo c (.publishing rest bridges)
  | .finish _ _, .publishing [] (bridge :: rest) =>
    (s.complete bridge).goTo c (.publishing [] rest)
  | .finish _ _, .publishing [] [] => s.release c .won
  | .add future _, .adding =>
    if (s.futures future).done then s.goTo c .scheduling
    else
      (s.setFuture future { s.futures future with
        callbacks := (s.futures future).callbacks ++ [c] }).goTo c (.ending .added)
  | .add _ _, .scheduling => (s.schedule c).goTo c (.ending .added)
  | .wait _, .completing => (s.complete c).goTo c .bridged
  | _, .ending result => s.release c result
  | _, _ => s

/-- `_remove_bridge` at the end of an await. -/
def leave (c future : ℕ) (s : System α) : System α :=
  { s.setFuture future { s.futures future with
      bridges := (s.futures future).bridges.filter fun bridge => !(bridge == c) } with
    calls := Function.update s.calls c (.returned .awaited)
    left := s.left ++ (s.futures future).bridges.filter fun bridge => !(!(bridge == c)) }

end System

section Machine

variable {α : Type} (program : ℕ → Call α)

/-- The callback that came with a call. -/
def callbackOf (c : ℕ) : Option ℕ :=
  match program c with
  | .add _ callback => some callback
  | _ => none

/-- The owner's attempt on a Future: it ends it with the cause. -/
def endsWithCause (future c : ℕ) : Bool :=
  match program c with
  | .finish future' (.finished _) => future' = future
  | _ => false

namespace System

/-- `remove_done_callback`. -/
def remove (future callback : ℕ) (s : System α) : System α :=
  { s.setFuture future { s.futures future with
      callbacks := (s.futures future).callbacks.filter fun c =>
        !(callbackOf program c == some callback) } with
    removed := s.removed ++ (s.futures future).callbacks.filter fun c =>
      !(!(callbackOf program c == some callback)) }

/-- The effect of a step. -/
def next (s : System α) : Event → System α
  | .start => { s with state := .running }
  | .requestShutdown => if s.state = .stopped then s else { s with state := .stopping }
  | .register future =>
    { s with created := future :: s.created, registered := future :: s.registered }
  | .setHook future => s.setFuture future { s.futures future with cancelHook := true }
  | .call c => s.first c (program c)
  | .step c hookRaises => s.advance c (program c) hookRaises
  | .leave c => s.leave c (program c).future
  | .remove future callback => s.remove program future callback
  | .take => { s with notifications := s.notifications.tail, running := s.notifications.head? }
  | .invoke => { s with invoked := s.invoked ++ s.running.toList, running := none }
  | .beginDrain => { s with drain := .cancelling s.registered }
  | .attempt c =>
    match s.drain with
    | .cancelling (_ :: rest) => { s.first c (program c) with drain := .attempting c rest }
    | _ => s
  | .attempted =>
    match s.drain with
    | .attempting _ rest => { s with drain := .cancelling rest }
    | _ => s
  | .beginControl => { s with drain := .control }
  | .finishDrain quiescent =>
    if s.producers = 0 ∧ s.notifications = [] ∧ quiescent = true then
      { s with state := .stopped, registered := [], drain := .none }
    else { s with drain := .none }

/-- When a step may be made. -/
def enabled (s : System α) : Event → Prop
  | .start => s.state = .created
  | .requestShutdown => True
  | .register future => future ∉ s.created ∧ (s.state = .created ∨ s.state = .running)
  | .setHook future => future ∈ s.created ∧ (s.futures future).done = false
  | .call c => (s.calls c).fresh = true ∧ (program c).future ∈ s.created
  | .step _ _ => True
  | .leave c => (s.calls c).waits = true
  | .remove future _ => future ∈ s.created
  | .take => s.running = none ∧ s.drain.controls = true ∧ s.notifications ≠ []
  | .invoke => s.running ≠ none
  | .beginDrain => s.running = none ∧ s.state = .stopping ∧ s.drain.idle = true
  | .attempt c => (s.calls c).fresh = true ∧
    s.drain.next.any (fun future => endsWithCause program future c) = true
  | .attempted => s.drain.attempt.any (fun c => (s.calls c).over) = true
  | .beginControl => s.drain.exhausted = true
  | .finishDrain _ => s.running = none ∧ s.drain.last = true

instance (s : System α) (event : Event) : Decidable (s.enabled program event) := by
  cases event <;> unfold enabled <;> infer_instance

end System

/-- The executor, its owner and all threads that use its Futures. -/
def machine : Machine (System α) Event where
  enabled := System.enabled program
  next := System.next program
  decidableEnabled := fun _ _ => inferInstance

end Machine

end Dmw.Futures
