import Dmw.Counting
import Dmw.GuardedRuns
import Dmw.KeyedTable

/-!
# Task capacity of an AsyncIOExecutor

`AsyncIOExecutor` counts the callback tasks of every key and pauses the
registration of an entity whose key is exhausted. Every loop callback is a turn:
it may run the control path, consume a batch entry by entry, or retire a task
and restore registrations. Other threads and user code attach, detach and close
entities between any two steps, also within a turn.
-/

namespace Dmw.TaskCapacity

open Counting GuardedRuns KeyedTable

/-- Entities are numbered. -/
abbrev EntityId := ℕ

/-- Tasks are numbered in the order of their creation. -/
abbrev TaskId := ℕ

/-- Registrations are numbered by the WaitSet. -/
abbrev Token := ℕ

/-- `_dispatch_kind`; a publisher has none. -/
inductive DispatchKind
  | subscription
  | timer
  | graph
  | client
  | actionClient
  | service
  | actionServer
  | publisher
  deriving DecidableEq, Repr

/-- `isinstance(entity._native, _Waitable)`. -/
def DispatchKind.waitable : DispatchKind → Bool
  | .publisher => false
  | _ => true

/-- `ExecutorState`. -/
inductive ExecutorState
  | created
  | running
  | stopping
  | stopped
  deriving DecidableEq, Repr

/-- The kinds of tasks. -/
inductive TaskKind
  | general
  | service
  | execute
  deriving DecidableEq, Repr

/-- A key of `_task_counts`. -/
abbrev Key := TaskKind × Option EntityId

/-- `_task_key`. -/
def taskKey (entity : EntityId) (kind : TaskKind) : Key :=
  (kind,if kind = .general then none else some entity)

/-- `_limits`. -/
structure Limits where
  /-- `max_callback_tasks`. -/
  general : ℕ
  /-- `max_service_tasks_per_service`. -/
  service : ℕ
  /-- `max_execute_tasks_per_server`. -/
  execute : ℕ

/-- The limit of a kind. -/
def Limits.of (limits : Limits) : TaskKind → ℕ
  | .general => limits.general
  | .service => limits.service
  | .execute => limits.execute

/-- What the executor reads of an entity. -/
structure Entity where
  /-- `_dispatch_kind`. -/
  kind : DispatchKind
  /-- `_closing`. -/
  closing : Bool
  /-- `_lane_busy`. -/
  laneBusy : Bool

/-- `_EntityRecord`. -/
structure Record where
  /-- `generation`. -/
  generation : ℕ
  /-- `registration`. -/
  registration : Option Token

/-- An entry of `_tasks`, from the creation of the task until its done callback. -/
structure Task where
  /-- The entity of the task. -/
  entity : EntityId
  /-- The key it is counted under. -/
  key : Key

/-- An entry of a batch. -/
structure Ready where
  /-- `registration`. -/
  registration : Token
  /-- `attachment_generation`. -/
  generation : ℕ
  deriving DecidableEq

/-- Where the loop is. -/
inductive Turn
  /-- Between two callbacks. -/
  | idle
  /-- `start` in its `_control`. -/
  | starting
  /-- `_run_control`. -/
  | control
  /-- `_consume_batch` in its `_control`. -/
  | opening (entries : List Ready)
  /-- `_consume_batch` before its next entry. -/
  | batch (entries : List Ready)
  /-- An entry that passed the checks. -/
  | dispatching (entity : EntityId) (rest : List Ready)
  /-- `_take_ready` of an ActionServer that began its lane. -/
  | taking (entity : EntityId) (rest : List Ready)
  /-- The callback of a task that ended, in its `_control`. -/
  | ending
  deriving DecidableEq

/-- The turns in which `_control` runs after `start`. -/
def Turn.controls : Turn → Bool
  | .control | .opening _ | .ending => true
  | _ => false

/-- A batch has entries left. -/
def Turn.hasEntry : Turn → Bool
  | .batch (_ :: _) => true
  | _ => false

/-- A batch waits for its `_control`. -/
def Turn.isOpening : Turn → Bool
  | .opening _ => true
  | _ => false

/-- An entry is dispatched. -/
def Turn.isDispatching : Turn → Bool
  | .dispatching _ _ => true
  | _ => false

/-- An ActionServer takes a request. -/
def Turn.isTaking : Turn → Bool
  | .taking _ _ => true
  | _ => false

/-- `AsyncIOExecutor`. -/
structure Executor where
  /-- `_limits`. -/
  limits : Limits
  /-- `_state`. -/
  state : ExecutorState
  /-- `context.ok()`. -/
  contextOpen : Bool
  /-- `_fault` is recorded. -/
  fault : Bool
  /-- The entities. -/
  entities : EntityId → Entity
  /-- `_records`, and `_registrations` by their tokens. -/
  records : Table EntityId Record
  /-- The next token of the WaitSet. -/
  nextToken : Token
  /-- `_tasks`. -/
  tasks : Table TaskId Task
  /-- The next task. -/
  nextTask : TaskId
  /-- `_task_counts`. -/
  counts : Key → ℕ
  /-- Where the loop is. -/
  turn : Turn

namespace Executor

/-- `_has_task_capacity`. -/
def hasTaskCapacity (entity : EntityId) (kind : TaskKind) (s : Executor) : Bool :=
  s.counts (taskKey entity kind) < s.limits.of kind

/-- `_record_fault`. -/
def recordFault (s : Executor) : Executor :=
  if s.fault then s else {s with fault := true, state := .stopping}

/-- The record of a token. -/
def registered (token : Token) (s : Executor) : Option (EntityId × Record) :=
  (s.records.entries.find? fun e => e.2.registration = some token).map fun e => (e.1,e.2)

/-- A record is registered with the WaitSet. -/
def register (entity : EntityId) (record : Record) (s : Executor) : Executor :=
  {s with
    records := s.records.insert entity {record with registration := some s.nextToken}
    nextToken := s.nextToken + 1}

/-- `_suspend_registration`. -/
def suspend (entity : EntityId) (s : Executor) : Executor :=
  {s with records := s.records.modify entity fun record => {record with registration := none}}

/-- `_restore_registration`. -/
def restoreRegistration (entity : EntityId) (s : Executor) : Executor :=
  if s.state ≠ .running || !s.contextOpen || (s.entities entity).closing then s
  else match s.records.lookup entity with
    | none => s
    | some record => if record.registration.isSome then s else s.register entity record

/-- One round of `_restore_registrations`. -/
def restoreOne (s : Executor) (entity : EntityId) : Executor :=
  match s.records.lookup entity with
  | none => s
  | some record =>
    if record.registration.isNone && !(s.entities entity).closing &&
        (s.entities entity).kind.waitable && s.hasTaskCapacity entity .general then
      s.register entity record
    else s

/-- `_restore_registrations`, up to the entity whose registration raises. -/
def restoreRegistrations (raises : Option EntityId) (s : Executor) : Executor :=
  if s.state ≠ .running || !s.contextOpen then s
  else match raises with
    | none => s.records.keys.foldl restoreOne s
    | some entity =>
      ((s.records.keys.takeWhile (· ≠ entity)).foldl restoreOne s).recordFault

/-- `_attach_entity`. -/
def attach (entity : EntityId) (generation : ℕ) (s : Executor) : Executor :=
  if (s.entities entity).kind.waitable then s.register entity ⟨generation,none⟩
  else {s with records := s.records.insert entity ⟨generation,none⟩}

/-- The entity is `_closing`. -/
def close (entity : EntityId) (s : Executor) : Executor :=
  {s with entities := Function.update s.entities entity {s.entities entity with closing := true}}

/-- `_lane_busy` is set. -/
def setLane (entity : EntityId) (busy : Bool) (s : Executor) : Executor :=
  {s with
    entities := Function.update s.entities entity {s.entities entity with laneBusy := busy}}

/-- `_begin_lane`. -/
def beginLane (entity : EntityId) (s : Executor) : Executor :=
  (s.setLane entity true).suspend entity

/-- `_finish_lane`. -/
def finishLane (entity : EntityId) (s : Executor) : Executor :=
  (s.setLane entity false).restoreRegistration entity

/-- A task is created and counted. -/
def createTask (entity : EntityId) (kind : TaskKind) (s : Executor) : Executor :=
  {s with
    tasks := s.tasks.insert s.nextTask ⟨entity,taskKey entity kind⟩
    nextTask := s.nextTask + 1
    counts := Function.update s.counts (taskKey entity kind)
      (s.counts (taskKey entity kind) + 1)}

/-- `_schedule_action_feedback` and `_schedule_action_execute`: without capacity
there is no task. -/
def schedule (entity : EntityId) (kind : TaskKind) (s : Executor) : Executor :=
  if s.hasTaskCapacity entity kind then s.createTask entity kind else s

/-- An entry of a counted kind in `_consume_batch`: the count is raised for a
message that becomes a task, and for none it is lowered again. -/
def consume (entity : EntityId) (kind : TaskKind) (message : Bool) (s : Executor) : Executor :=
  if s.hasTaskCapacity entity kind then
    let s := if message then s.createTask entity kind else s
    if s.hasTaskCapacity entity kind then s else s.suspend entity
  else s.suspend entity

/-- The checks of an entry in `_consume_batch`. -/
def admitReady (ready : Ready) (rest : List Ready) (s : Executor) : Executor :=
  match s.registered ready.registration with
  | none => {s with turn := .batch rest}
  | some (entity,record) =>
    if record.generation ≠ ready.generation then {s.recordFault with turn := .idle}
    else if s.state ≠ .running || !s.contextOpen || (s.entities entity).closing then
      {s with turn := .batch rest}
    else {s with turn := .dispatching entity rest}

/-- The next entry is checked. -/
def admitNext (s : Executor) : Executor :=
  match s.turn with
  | .batch (ready :: rest) => s.admitReady ready rest
  | _ => s

/-- An entry is dispatched; `work` is a message, or a coroutine of the feedback
callback. -/
def dispatch (entity : EntityId) (rest : List Ready) (work : Bool) (s : Executor) : Executor :=
  match (s.entities entity).kind with
  | .client | .publisher => {s with turn := .batch rest}
  | .actionClient =>
    {(if work then s.schedule entity .general else s) with turn := .batch rest}
  | .actionServer =>
    if (s.entities entity).laneBusy then {s with turn := .batch rest}
    else {s.beginLane entity with turn := .taking entity rest}
  | .service => {s.consume entity .service work with turn := .batch rest}
  | .subscription | .timer | .graph => {s.consume entity .general work with turn := .batch rest}

/-- The entry that passed the checks is dispatched. -/
def dispatchEntry (work : Bool) (s : Executor) : Executor :=
  match s.turn with
  | .dispatching entity rest => s.dispatch entity rest work
  | _ => s

/-- `_take_ready` ends: a request that is taken keeps the lane. -/
def take (entity : EntityId) (rest : List Ready) (taken : Bool) (s : Executor) : Executor :=
  {(if taken then s else s.finishLane entity) with turn := .batch rest}

/-- The ActionServer that takes a request is done. -/
def finishTake (taken : Bool) (s : Executor) : Executor :=
  match s.turn with
  | .taking entity rest => s.take entity rest taken
  | _ => s

/-- The `_control` of a batch is over. -/
def openBatch (s : Executor) : Executor :=
  match s.turn with
  | .opening entries => {s with turn := .batch entries}
  | _ => s

/-- The done callback of a task, up to its `_control`. -/
def retireTask (id : TaskId) (s : Executor) : Executor :=
  match s.tasks.lookup id with
  | none => s
  | some task =>
    {s with
      tasks := s.tasks.erase id
      counts := Function.update s.counts task.key (s.counts task.key - 1)
      turn := .ending}

/-- What a turn raises is recorded; `start` raises it to its caller. -/
def abandon (s : Executor) : Executor :=
  if s.turn = .starting then {s with turn := .idle} else {s.recordFault with turn := .idle}

/-- A completion frees the lane of an ActionServer, whose registration may raise. -/
def completeLane (entity : EntityId) (raises : Bool) (s : Executor) : Executor :=
  if raises then (s.setLane entity false).abandon else s.finishLane entity

/-- A turn raises; `_take_ready` frees its lane first, which may raise too. -/
def fail (raises : Bool) (s : Executor) : Executor :=
  match s.turn with
  | .taking entity _ =>
    (if raises then s.setLane entity false else s.finishLane entity).abandon
  | _ => s.abandon

/-- No task has a lease of an entity. -/
def unleased (entity : EntityId) (s : Executor) : Bool :=
  s.tasks.entries.all fun e => e.2.entity ≠ entity

/-- The executor lets go of an entity. -/
def detach (entity : EntityId) (s : Executor) : Executor :=
  {s with records := s.records.erase entity}

end Executor

/-- A step of the loop, of another thread or of user code. -/
inductive Event
  | attach (entity : EntityId) (generation : ℕ)
  | detach (entity : EntityId)
  | close (entity : EntityId)
  | shutdownContext
  | requestShutdown
  | start
  | beginControl
  | endControl
  | beginBatch (entries : List Ready)
  | openBatch
  | admitEntry
  | dispatch (work : Bool)
  | take (taken : Bool)
  | endBatch
  | unregisterClosing (entity : EntityId)
  | laneCompleted (entity : EntityId) (raises : Bool)
  | scheduleExecute (entity : EntityId)
  | taskDone (id : TaskId)
  | restore (raises : Option EntityId)
  | fail (raises : Bool)
  | stopped

/-- When an event can happen. -/
def Enabled (s : Executor) : Event → Prop
  | .attach entity _ =>
    (s.state = .created ∨ s.state = .running) ∧ s.contextOpen = true ∧
      (s.entities entity).closing = false ∧ entity ∉ s.records
  | .detach entity => entity ∈ s.records ∧ s.unleased entity = true
  | .close _ => True
  | .shutdownContext => True
  | .requestShutdown => s.state ≠ .stopped
  | .start => s.turn = .idle ∧ s.state = .created ∧ s.contextOpen = true
  | .beginControl => s.turn = .idle ∧ s.state ≠ .stopped ∧ s.fault = false
  | .endControl => s.turn = .starting ∨ s.turn = .control
  | .beginBatch _ => s.turn = .idle ∧ s.state ≠ .created
  | .openBatch => s.turn.isOpening = true
  | .admitEntry => s.turn.hasEntry = true
  | .dispatch _ => s.turn.isDispatching = true
  | .take _ => s.turn.isTaking = true ∧ s.state ≠ .created
  | .endBatch => s.turn = .batch []
  | .unregisterClosing entity =>
    (s.turn.controls = true ∨ s.turn = .starting) ∧ (s.entities entity).closing = true
  | .laneCompleted entity _ =>
    s.turn.controls = true ∧ s.state ≠ .created ∧ (s.entities entity).kind = .actionServer
  | .scheduleExecute entity =>
    s.turn.controls = true ∧ s.state ≠ .created ∧ (s.entities entity).kind = .actionServer
  | .taskDone id => s.turn = .idle ∧ s.state ≠ .created ∧ id ∈ s.tasks
  | .restore raises =>
    s.turn = .ending ∧ (raises.isSome = true → s.state = .running ∧ s.contextOpen = true)
  | .fail _ => s.turn ≠ .idle
  | .stopped => s.turn = .idle ∧ s.state = .stopping ∧ s.tasks.entries.isEmpty = true

instance (s : Executor) (e : Event) : Decidable (Enabled s e) := by
  cases e <;> unfold Enabled <;> infer_instance

/-- Effect of an event. -/
def next (s : Executor) : Event → Executor
  | .attach entity generation => s.attach entity generation
  | .detach entity => s.detach entity
  | .close entity => s.close entity
  | .shutdownContext => {s with contextOpen := false}
  | .requestShutdown => {s with state := .stopping}
  | .start => {s with state := .running, turn := .starting}
  | .beginControl => {s with turn := .control}
  | .endControl => {s with turn := .idle}
  | .beginBatch entries => {s with turn := .opening entries}
  | .openBatch => s.openBatch
  | .admitEntry => s.admitNext
  | .dispatch work => s.dispatchEntry work
  | .take taken => s.finishTake taken
  | .endBatch => {s with turn := .idle}
  | .unregisterClosing entity => s.suspend entity
  | .laneCompleted entity raises => s.completeLane entity raises
  | .scheduleExecute entity => s.schedule entity .execute
  | .taskDone id => s.retireTask id
  | .restore raises => {s.restoreRegistrations raises with turn := .idle}
  | .fail raises => s.fail raises
  | .stopped => {s with state := .stopped, records := ∅}

/-- An AsyncIOExecutor with its loop. -/
def machine : Machine Executor Event where
  enabled := Enabled
  next := next
  decidableEnabled := inferInstance

/-- A new executor among entities that exist already. -/
def Executor.initial (limits : Limits) (entities : EntityId → Entity) : Executor where
  limits := limits
  state := .created
  contextOpen := true
  fault := false
  entities := entities
  records := ∅
  nextToken := 0
  tasks := ∅
  nextTask := 0
  counts := fun _ => 0
  turn := .idle

/-- A task of a key whose done callback has not run. -/
def Tracked (key : Key) (tasks : Table TaskId Task) (id : TaskId) : Prop :=
  ∃ task, tasks.lookup id = some task ∧ task.key = key

/-- The tasks that pause an entity. -/
def DispatchKind.taskKind : DispatchKind → Option TaskKind
  | .subscription | .timer | .graph => some .general
  | .service => some .service
  | _ => none

namespace Executor

/-- The capacity of its own kind pauses an entity. -/
def Exhausted (s : Executor) (entity : EntityId) : Prop :=
  ∃ kind, (s.entities entity).kind.taskKind = some kind ∧ s.hasTaskCapacity entity kind = false

/-- An ActionServer whose lane is busy. -/
def Busy (s : Executor) (entity : EntityId) : Prop :=
  (s.entities entity).kind = .actionServer ∧ (s.entities entity).laneBusy = true

/-- Tasks are counted and bounded; an open waitable is paused only for its own
kind, and an ActionServer with a busy lane is. -/
structure Lawful (s : Executor) : Prop where
  /-- Every count is the number of tasks of its key. -/
  counted : ∀ key, Counts (Tracked key s.tasks) (s.counts key)
  /-- No count exceeds its limit. -/
  limited : ∀ key, s.counts key ≤ s.limits.of key.1
  /-- An open waitable without registration has a reason. -/
  paused : ∀ entity record, s.records.lookup entity = some record →
    (s.entities entity).closing = false → (s.entities entity).kind.waitable = true →
      record.registration = none → s.Exhausted entity ∨ s.Busy entity
  /-- A busy lane is not dispatched. -/
  lane : ∀ entity record, s.records.lookup entity = some record → s.Busy entity →
    record.registration = none

/-- `_restore_registrations` registers this entity. -/
def Restored (s : Executor) (entity : EntityId) : Prop :=
  s.contextOpen = true ∧ s.hasTaskCapacity entity .general = true

/-- The paused entities whose kind has capacity are those that are restored. -/
def Restores (s : Executor) : Prop :=
  s.state = .running → ∀ entity record, s.records.lookup entity = some record →
    record.registration = none → (s.entities entity).closing = false →
      ((∃ kind, (s.entities entity).kind.taskKind = some kind ∧
        s.hasTaskCapacity entity kind = true) → s.Restored entity) ∧
      (s.Busy entity → ¬ s.Restored entity)

/-- The lane of an open ActionServer goes free before the Context shuts down. -/
def Frees (s : Executor) (entity : EntityId) : Prop :=
  s.state = .running → (s.entities entity).closing = false → entity ∈ s.records →
    s.contextOpen = true

end Executor

/-- When a step keeps the law. -/
def Regular (s : Executor) : Event → Prop
  | .attach entity _ => ¬ s.Busy entity
  | .take false => ∀ entity rest, s.turn = .taking entity rest → s.Frees entity
  | .laneCompleted entity false => s.Frees entity
  | .restore none => s.Restores
  | _ => True

/-! ## Tracked tasks -/

section

variable {key : Key} {tasks : Table TaskId Task} {id : TaskId} {task : Task}

/-- A new task is tracked under its key. -/
theorem tracked_insert (hnew : id ∉ tasks) (j : TaskId) :
    Tracked key (tasks.insert id task) j ↔ (j = id ∧ task.key = key) ∨ Tracked key tasks j := by
  have hnone : tasks.lookup id = none := AList.lookup_eq_none.mpr hnew
  unfold Tracked
  by_cases hj : j = id
  · subst hj
    simp [hnone]
  · simp [AList.lookup_insert_ne hj, hj]

/-- A retired task is tracked no longer. -/
theorem tracked_erase (j : TaskId) :
    Tracked key (tasks.erase id) j ↔ j ≠ id ∧ Tracked key tasks j := by
  unfold Tracked
  by_cases hj : j = id
  · subst hj
    simp
  · simp [AList.lookup_erase_ne hj, hj]

end

/-! ## Effects -/

namespace Executor

variable {s : Executor} {entity other : EntityId} {kind : TaskKind}

@[simp] theorem recordFault_tasks : s.recordFault.tasks = s.tasks := by
  unfold recordFault
  split <;> rfl

@[simp] theorem recordFault_nextTask : s.recordFault.nextTask = s.nextTask := by
  unfold recordFault
  split <;> rfl

@[simp] theorem recordFault_counts : s.recordFault.counts = s.counts := by
  unfold recordFault
  split <;> rfl

@[simp] theorem recordFault_limits : s.recordFault.limits = s.limits := by
  unfold recordFault
  split <;> rfl

/-- The executor has not been stopped. -/
def Active (s : Executor) : Prop := s.state = .created ∨ s.state = .running

/-- A recorded fault stops the executor. -/
def Faulty (s : Executor) : Prop := s.fault = true → ¬ s.Active

/-- After a fault the executor is stopped. -/
theorem Faulty.recordFault_inactive (h : s.Faulty) : ¬ s.recordFault.Active := by
  unfold recordFault
  split
  · next hfault => exact h hfault
  · rintro (hstate | hstate) <;> cases hstate

/-- The counts say how many tasks there are. -/
structure Counted (s : Executor) : Prop where
  /-- Every count is the number of tasks of its key. -/
  counted : ∀ key, Counts (Tracked key s.tasks) (s.counts key)
  /-- No count exceeds its limit. -/
  limited : ∀ key, s.counts key ≤ s.limits.of key.1
  /-- Tasks are numbered in order. -/
  fresh : ∀ id, s.nextTask ≤ id → id ∉ s.tasks

/-- What is counted does not depend on anything else. -/
theorem Counted.congr {s' : Executor} (h : s.Counted) (htasks : s'.tasks = s.tasks)
    (hnext : s'.nextTask = s.nextTask) (hcounts : s'.counts = s.counts)
    (hlimits : s'.limits = s.limits) : s'.Counted := by
  refine ⟨?_, ?_, ?_⟩
  · rw [htasks, hcounts]
    exact h.counted
  · rw [hcounts, hlimits]
    exact h.limited
  · rw [htasks, hnext]
    exact h.fresh

/-- A task is created where there is capacity. -/
theorem Counted.createTask (h : s.Counted) (hcapacity : s.hasTaskCapacity entity kind = true) :
    (s.createTask entity kind).Counted := by
  have hroom : s.counts (taskKey entity kind) < s.limits.of kind := of_decide_eq_true hcapacity
  have hnew : s.nextTask ∉ s.tasks := h.fresh s.nextTask le_rfl
  refine ⟨?_, ?_, ?_⟩
  · intro key
    change Counts (Tracked key (s.tasks.insert s.nextTask ⟨entity,taskKey entity kind⟩))
      (Function.update s.counts (taskKey entity kind) (s.counts (taskKey entity kind) + 1) key)
    by_cases hkey : key = taskKey entity kind
    · subst hkey
      rw [Function.update_self]
      refine (h.counted _).insert (i := s.nextTask) ?_ fun j => ?_
      · rintro ⟨task, hlookup, -⟩
        exact hnew (AList.lookup_isSome.mp (by simp [hlookup]))
      · rw [tracked_insert hnew]
        simp
    · rw [Function.update_of_ne hkey]
      refine (h.counted key).congr fun j => ?_
      rw [tracked_insert hnew]
      simp [Ne.symm hkey]
  · intro key
    change Function.update s.counts (taskKey entity kind) (s.counts (taskKey entity kind) + 1) key ≤
      s.limits.of key.1
    by_cases hkey : key = taskKey entity kind
    · subst hkey
      rw [Function.update_self]
      exact hroom
    · rw [Function.update_of_ne hkey]
      exact h.limited key
  · intro id hid
    change s.nextTask + 1 ≤ id at hid
    change id ∉ s.tasks.insert s.nextTask ⟨entity,taskKey entity kind⟩
    rw [AList.mem_insert]
    rintro (rfl | hmem)
    · exact Nat.not_succ_le_self _ hid
    · exact h.fresh id (Nat.le_of_succ_le hid) hmem

/-- A task whose callback runs is counted no longer. -/
theorem Counted.retireTask (h : s.Counted) (id : TaskId) : (s.retireTask id).Counted := by
  unfold Executor.retireTask
  cases hlookup : s.tasks.lookup id with
  | none => exact h
  | some task =>
    have hself : Tracked task.key s.tasks id := ⟨task, hlookup, rfl⟩
    refine ⟨?_, ?_, ?_⟩
    · intro key
      change Counts (Tracked key (s.tasks.erase id))
        (Function.update s.counts task.key (s.counts task.key - 1) key)
      by_cases hkey : key = task.key
      · subst hkey
        rw [Function.update_self]
        exact (h.counted task.key).remove hself fun j => tracked_erase j
      · rw [Function.update_of_ne hkey]
        refine (h.counted key).congr fun j => ?_
        rw [tracked_erase]
        refine ⟨fun hj => hj.2, fun hj => ⟨?_, hj⟩⟩
        rintro rfl
        obtain ⟨task', hlookup', hkey'⟩ := hj
        rw [hlookup, Option.some.injEq] at hlookup'
        exact hkey (by rw [← hkey', hlookup'])
    · intro key
      change Function.update s.counts task.key (s.counts task.key - 1) key ≤ s.limits.of key.1
      have hold := h.limited key
      by_cases hkey : key = task.key
      · subst hkey
        rw [Function.update_self]
        omega
      · rw [Function.update_of_ne hkey]
        exact hold
    · intro j hj
      change j ∉ s.tasks.erase id
      rw [AList.mem_erase]
      exact fun hmem => h.fresh j hj hmem.2

end Executor

/-! ## Registrations -/

namespace Executor

variable {s s' : Executor} {entity other : EntityId} {kind : TaskKind}

/-- Why an open waitable has no registration: its kind is exhausted, its lane is
busy, or a task just ended. -/
def Excused (s : Executor) (entity : EntityId) : Prop :=
  s.Exhausted entity ∨ s.Busy entity ∨
    s.turn = .ending ∧ (s.entities entity).kind.taskKind.isSome = true

/-- A registration agrees with its entity. -/
structure Settled (s : Executor) (entity : EntityId) : Prop where
  /-- Without registration there is an excuse. -/
  paused : ∀ record, s.records.lookup entity = some record →
    (s.entities entity).closing = false → (s.entities entity).kind.waitable = true →
      record.registration = none → s.Excused entity
  /-- A busy lane has no registration. -/
  lane : ∀ record, s.records.lookup entity = some record → s.Busy entity →
    record.registration = none

/-- Everything but one entity is as it was. -/
structure Elsewhere (entity : EntityId) (s s' : Executor) : Prop where
  /-- The other records. -/
  records : ∀ other, other ≠ entity → s'.records.lookup other = s.records.lookup other
  /-- The other entities. -/
  entities : ∀ other, other ≠ entity → s'.entities other = s.entities other
  /-- Exhausted keys. -/
  full : ∀ other kind, s.hasTaskCapacity other kind = false → s'.hasTaskCapacity other kind = false
  /-- The turn, if a task just ended. -/
  turn : s.turn = .ending → s'.turn = .ending

/-- One change after another. -/
theorem Elsewhere.trans {s'' : Executor} (h : Elsewhere entity s s') (h' : Elsewhere entity s' s'') :
    Elsewhere entity s s'' where
  records other hne := (h'.records other hne).trans (h.records other hne)
  entities other hne := (h'.entities other hne).trans (h.entities other hne)
  full other kind hfull := h'.full other kind (h.full other kind hfull)
  turn hturn := h'.turn (h.turn hturn)

/-- An excuse lasts while its entity stays as it is. -/
theorem Excused.last (h : s.Excused entity) (hentity : s'.entities entity = s.entities entity)
    (hfull : ∀ kind, s.hasTaskCapacity entity kind = false → s'.hasTaskCapacity entity kind = false)
    (hturn : s.turn = .ending → s'.turn = .ending) : s'.Excused entity := by
  rcases h with ⟨kind, hkind, hcapacity⟩ | hbusy | ⟨hending, hkind⟩
  · exact Or.inl ⟨kind, by rw [hentity]; exact hkind, hfull kind hcapacity⟩
  · refine Or.inr (Or.inl ?_)
    unfold Busy
    rw [hentity]
    exact hbusy
  · exact Or.inr (Or.inr ⟨hturn hending, by rw [hentity]; exact hkind⟩)

/-- An entity that is not touched stays settled. -/
theorem Settled.frame (h : s.Settled entity)
    (hrecord : s'.records.lookup entity = s.records.lookup entity)
    (hentity : s'.entities entity = s.entities entity)
    (hfull : ∀ kind, s.hasTaskCapacity entity kind = false → s'.hasTaskCapacity entity kind = false)
    (hturn : s.turn = .ending → s'.turn = .ending) : s'.Settled entity := by
  refine ⟨?_, ?_⟩
  · intro record hlookup hclosing hwaitable hnone
    rw [hrecord] at hlookup
    rw [hentity] at hclosing hwaitable
    exact (h.paused record hlookup hclosing hwaitable hnone).last hentity hfull hturn
  · intro record hlookup hbusy
    rw [hrecord] at hlookup
    unfold Busy at hbusy
    rw [hentity] at hbusy
    exact h.lane record hlookup hbusy

/-- The other entities stay settled. -/
theorem Elsewhere.settled (h : Elsewhere entity s s') (hne : other ≠ entity)
    (hother : s.Settled other) : s'.Settled other :=
  hother.frame (h.records other hne) (h.entities other hne) (h.full other) h.turn

/-- All entities are settled if the one that was touched is. -/
theorem Elsewhere.all (h : Elsewhere entity s s') (hself : s'.Settled entity)
    (hall : ∀ other, s.Settled other) : ∀ other, s'.Settled other := by
  intro other
  by_cases hne : other = entity
  · exact hne ▸ hself
  · exact h.settled hne (hall other)

/-- The loop moves on. -/
theorem Settled.turn (h : s.Settled entity) (hturn : s.turn ≠ .ending) (turn : Turn) :
    ({s with turn := turn} : Executor).Settled entity :=
  h.frame rfl rfl (fun _ hfull => hfull) fun hending => absurd hending hturn

/-- Without a record there is nothing to settle. -/
theorem Settled.of_none (hnone : s.records.lookup entity = none) : s.Settled entity := by
  refine ⟨?_, ?_⟩ <;> intro record hlookup <;> rw [hnone] at hlookup <;> cases hlookup

theorem suspend_lookup : (s.suspend entity).records.lookup entity =
    (s.records.lookup entity).map fun record => {record with registration := none} :=
  Table.lookup_modify_self entity _ s.records

theorem suspend_elsewhere : Elsewhere entity s (s.suspend entity) where
  records _ hne := Table.lookup_modify_ne hne _ s.records
  entities _ _ := rfl
  full _ _ hfull := hfull
  turn hturn := hturn

/-- A paused entity needs an excuse. -/
theorem Settled.suspend (h : s.Excused entity) : (s.suspend entity).Settled entity := by
  refine ⟨fun _ _ _ _ _ => h, ?_⟩
  intro record hlookup _
  rw [suspend_lookup, Option.map_eq_some_iff] at hlookup
  obtain ⟨_, -, rfl⟩ := hlookup
  rfl

/-- A closing entity needs none. -/
theorem Settled.suspend_closing (h : (s.entities entity).closing = true) :
    (s.suspend entity).Settled entity := by
  refine ⟨?_, ?_⟩
  · intro record _ hclosing
    rw [show (s.suspend entity).entities = s.entities from rfl, h] at hclosing
    cases hclosing
  · intro record hlookup _
    rw [suspend_lookup, Option.map_eq_some_iff] at hlookup
    obtain ⟨_, -, rfl⟩ := hlookup
    rfl

variable {record : Record}

theorem register_elsewhere : Elsewhere entity s (s.register entity record) where
  records _ hne := AList.lookup_insert_ne hne
  entities _ _ := rfl
  full _ _ hfull := hfull
  turn hturn := hturn

/-- A registered entity has no busy lane. -/
theorem Settled.register (h : ¬ s.Busy entity) : (s.register entity record).Settled entity := by
  refine ⟨?_, fun _ _ hbusy => absurd hbusy h⟩
  intro record' hlookup _ _ hnone
  rw [show (s.register entity record).records.lookup entity =
    some {record with registration := some s.nextToken} from AList.lookup_insert _,
    Option.some.injEq] at hlookup
  rw [← hlookup] at hnone
  cases hnone

theorem setLane_elsewhere (busy : Bool) : Elsewhere entity s (s.setLane entity busy) where
  records _ _ := rfl
  entities _ hne := Function.update_of_ne hne _ _
  full _ _ hfull := hfull
  turn hturn := hturn

theorem restoreRegistration_elsewhere : Elsewhere entity s (s.restoreRegistration entity) := by
  have hsame : Elsewhere entity s s := ⟨fun _ _ => rfl, fun _ _ => rfl, fun _ _ h => h, fun h => h⟩
  unfold restoreRegistration
  split
  · exact hsame
  · split
    · exact hsame
    · split
      · exact hsame
      · exact register_elsewhere

/-- The lane of an ActionServer begins. -/
theorem beginLane_elsewhere : Elsewhere entity s (s.beginLane entity) :=
  (setLane_elsewhere true).trans suspend_elsewhere

/-- The lane of an ActionServer goes free. -/
theorem finishLane_elsewhere : Elsewhere entity s (s.finishLane entity) :=
  (setLane_elsewhere false).trans restoreRegistration_elsewhere

/-- A busy lane is an excuse. -/
theorem Settled.beginLane (hkind : (s.entities entity).kind = .actionServer) :
    (s.beginLane entity).Settled entity := by
  refine Settled.suspend (Or.inr (Or.inl ?_))
  unfold Busy Executor.setLane
  simp [hkind]

/-- A lane that goes free is registered again. -/
theorem Settled.finishLane (hfrees : s.Frees entity) (hrunning : s.state = .running) :
    (s.finishLane entity).Settled entity := by
  have hfree : ¬ (s.setLane entity false).Busy entity := by
    unfold Busy Executor.setLane
    simp
  have hclosing : ((s.setLane entity false).entities entity).closing =
      (s.entities entity).closing := by
    unfold Executor.setLane
    simp
  unfold Executor.finishLane restoreRegistration
  split
  · next hskip =>
    refine ⟨?_, fun _ _ hbusy => absurd hbusy hfree⟩
    intro record hlookup hopen _ _
    have hmem : entity ∈ s.records := AList.lookup_isSome.mp (by
      rw [show (s.setLane entity false).records = s.records from rfl] at hlookup
      simp [hlookup])
    rw [hclosing] at hopen
    have hcontext := hfrees hrunning hopen hmem
    have hstate : (s.setLane entity false).state = .running := hrunning
    have hok : (s.setLane entity false).contextOpen = true := hcontext
    rw [hstate, hok, hclosing, hopen] at hskip
    simp at hskip
  · split
    · next hnone => exact Settled.of_none hnone
    · next record hlookup =>
      split
      · next hsome =>
        refine ⟨?_, fun _ _ hbusy => absurd hbusy hfree⟩
        intro record' hlookup' _ _ hnone
        rw [hlookup, Option.some.injEq] at hlookup'
        rw [hlookup', hnone] at hsome
        cases hsome
      · exact Settled.register hfree

end Executor

/-! ## Restored registrations -/

namespace Executor

variable {s s' s'' : Executor} {entity other : EntityId} {l : List EntityId}

/-- An open waitable that general capacity admits. -/
def Restorable (s : Executor) (entity : EntityId) : Prop :=
  (s.entities entity).closing = false ∧ (s.entities entity).kind.waitable = true ∧
    s.hasTaskCapacity entity .general = true

/-- Everything but the registrations is the same. -/
structure Same (s s' : Executor) : Prop where
  /-- `_limits`. -/
  limits : s'.limits = s.limits
  /-- `_state`. -/
  state : s'.state = s.state
  /-- `_fault`. -/
  fault : s'.fault = s.fault
  /-- The entities. -/
  entities : s'.entities = s.entities
  /-- `_tasks`. -/
  tasks : s'.tasks = s.tasks
  /-- The next task. -/
  nextTask : s'.nextTask = s.nextTask
  /-- `_task_counts`. -/
  counts : s'.counts = s.counts
  /-- Where the loop is. -/
  turn : s'.turn = s.turn

/-- The capacity is the same. -/
theorem Same.capacity (h : Same s s') (entity : EntityId) (kind : TaskKind) :
    s'.hasTaskCapacity entity kind = s.hasTaskCapacity entity kind := by
  unfold hasTaskCapacity
  rw [h.counts, h.limits]

/-- What is restorable stays so. -/
theorem Same.restorable (h : Same s s') : s'.Restorable entity ↔ s.Restorable entity := by
  unfold Restorable
  rw [h.entities, h.capacity]

/-- One sameness after another. -/
theorem Same.trans (h : Same s s') (h' : Same s' s'') : Same s s'' :=
  ⟨h'.limits.trans h.limits, h'.state.trans h.state, h'.fault.trans h.fault,
    h'.entities.trans h.entities, h'.tasks.trans h.tasks, h'.nextTask.trans h.nextTask,
    h'.counts.trans h.counts, h'.turn.trans h.turn⟩

/-- A record that was restored. -/
def Renewed (s s' : Executor) (entity : EntityId) : Prop :=
  s.Restorable entity ∧ ∃ record token, s.records.lookup entity = some record ∧
    record.registration = none ∧
      s'.records.lookup entity = some {record with registration := some token}

/-- What the rounds of `_restore_registrations` do. -/
structure Rounds (l : List EntityId) (s s' : Executor) : Prop where
  /-- Only registrations change. -/
  same : Same s s'
  /-- A record is kept or restored. -/
  kept : ∀ entity, s'.records.lookup entity = s.records.lookup entity ∨ Renewed s s' entity
  /-- What can be restored is. -/
  done : ∀ entity ∈ l, s.Restorable entity → ∀ record,
    s'.records.lookup entity = some record → record.registration ≠ none

/-- Nothing to do. -/
theorem Rounds.nil : Rounds [] s s :=
  ⟨⟨rfl,rfl,rfl,rfl,rfl,rfl,rfl,rfl⟩, fun _ => Or.inl rfl, fun _ h => absurd h List.not_mem_nil⟩

/-- One round restores one entity at most. -/
theorem restoreOne_rounds : Rounds [entity] s (s.restoreOne entity) := by
  unfold restoreOne
  cases hlookup : s.records.lookup entity with
  | none =>
    refine ⟨Rounds.nil.same, fun _ => Or.inl rfl, ?_⟩
    intro other hmem _ record hrecord
    rw [List.mem_singleton.mp hmem, hlookup] at hrecord
    cases hrecord
  | some record =>
    simp only
    split
    · next hrestore =>
      obtain ⟨⟨⟨hnone, hopen⟩, hwaitable⟩, hcapacity⟩ := by
        simpa only [Bool.and_eq_true, Option.isNone_iff_eq_none, Bool.not_eq_true'] using hrestore
      have hself : (s.register entity record).records.lookup entity =
          some {record with registration := some s.nextToken} := AList.lookup_insert _
      refine ⟨⟨rfl,rfl,rfl,rfl,rfl,rfl,rfl,rfl⟩, ?_, ?_⟩
      · intro other
        by_cases hne : other = entity
        · subst hne
          exact Or.inr ⟨⟨hopen, hwaitable, hcapacity⟩, record, s.nextToken, hlookup, hnone, hself⟩
        · exact Or.inl (AList.lookup_insert_ne hne)
      · intro other hmem _ record' hrecord hnone'
        rw [List.mem_singleton.mp hmem, hself, Option.some.injEq] at hrecord
        rw [← hrecord] at hnone'
        cases hnone'
    · next hkeep =>
      refine ⟨Rounds.nil.same, fun _ => Or.inl rfl, ?_⟩
      intro other hmem hrestorable record' hrecord hnone
      obtain rfl := List.mem_singleton.mp hmem
      rw [hlookup, Option.some.injEq] at hrecord
      rw [← hrecord] at hnone
      obtain ⟨hopen, hwaitable, hcapacity⟩ := hrestorable
      exact hkeep (by simp [hnone, hopen, hwaitable, hcapacity])

/-- More rounds after one. -/
theorem Rounds.cons (h : Rounds [entity] s s') (h' : Rounds l s' s'') :
    Rounds (entity :: l) s s'' := by
  refine ⟨h.same.trans h'.same, ?_, ?_⟩
  · intro other
    rcases h'.kept other with hkeep | ⟨hrestorable, record, token, hlookup, hnone, hnew⟩
    · rcases h.kept other with hkeep' | ⟨hrestorable, record, token, hlookup, hnone, hnew⟩
      · exact Or.inl (hkeep.trans hkeep')
      · exact Or.inr ⟨hrestorable, record, token, hlookup, hnone, hkeep.trans hnew⟩
    · rcases h.kept other with hkeep' | ⟨_, record', token', _, _, hnew'⟩
      · exact Or.inr ⟨h.same.restorable.mp hrestorable, record, token, hkeep'.symm.trans hlookup,
          hnone, hnew⟩
      · rw [hlookup, Option.some.injEq] at hnew'
        rw [hnew'] at hnone
        cases hnone
  · intro other hmem hrestorable record hlookup
    rcases h'.kept other with hkeep | ⟨_, record', token, _, _, hnew⟩
    · rcases List.mem_cons.mp hmem with rfl | hmem
      · exact h.done other List.mem_cons_self hrestorable record (hkeep ▸ hlookup)
      · exact h'.done other hmem (h.same.restorable.mpr hrestorable) record hlookup
    · rw [hnew, Option.some.injEq] at hlookup
      rw [← hlookup]
      exact Option.some_ne_none token

/-- The loop over the records. -/
theorem restore_rounds (l : List EntityId) (s : Executor) : Rounds l s (l.foldl restoreOne s) := by
  induction l generalizing s with
  | nil => exact Rounds.nil
  | cons entity rest ih => exact restoreOne_rounds.cons (ih (s.restoreOne entity))

/-- A task that ended is no excuse any longer. -/
theorem Settled.restored (h : s.Settled entity) (hactive : s.state = .running)
    (hrestores : s.Restores) (hrounds : Rounds l s s')
    (hall : s.contextOpen = true → s.Restorable entity → entity ∈ s.records → entity ∈ l)
    (hopen : s.contextOpen = false → s' = s) :
    ({s' with turn := .idle} : Executor).Settled entity := by
  refine ⟨?_, ?_⟩
  · intro record hlookup hclosing hwaitable hnone
    change s'.records.lookup entity = some record at hlookup
    change (s'.entities entity).closing = false at hclosing
    change (s'.entities entity).kind.waitable = true at hwaitable
    rw [hrounds.same.entities] at hclosing hwaitable
    have hbefore : s.records.lookup entity = some record := by
      rcases hrounds.kept entity with hkeep | ⟨_, record', token, _, _, hnew⟩
      · exact hkeep.symm.trans hlookup
      · rw [hlookup, Option.some.injEq] at hnew
        rw [hnew] at hnone
        cases hnone
    have hexcused : s.Exhausted entity ∨ s.Busy entity := by
      rcases h.paused record hbefore hclosing hwaitable hnone with hfull | hbusy | ⟨-, hkind⟩
      · exact Or.inl hfull
      · exact Or.inr hbusy
      · obtain ⟨kind, hkind⟩ := Option.isSome_iff_exists.mp hkind
        cases hcapacity : s.hasTaskCapacity entity kind with
        | false => exact Or.inl ⟨kind, hkind, hcapacity⟩
        | true =>
          obtain ⟨hcontext, hgeneral⟩ :=
            (hrestores hactive entity record hbefore hnone hclosing).1 ⟨kind, hkind, hcapacity⟩
          have hrestorable : s.Restorable entity := ⟨hclosing, hwaitable, hgeneral⟩
          have hmem := hall hcontext hrestorable (AList.lookup_isSome.mp (by simp [hbefore]))
          exact absurd hnone (hrounds.done entity hmem hrestorable record hlookup)
    rcases hexcused with ⟨kind, hkind, hfull⟩ | hbusy
    · refine Or.inl ⟨kind, ?_, ?_⟩
      · change (s'.entities entity).kind.taskKind = some kind
        rw [hrounds.same.entities]
        exact hkind
      · exact (hrounds.same.capacity entity kind).trans hfull
    · refine Or.inr (Or.inl ?_)
      change (s'.entities entity).kind = .actionServer ∧ (s'.entities entity).laneBusy = true
      rw [hrounds.same.entities]
      exact hbusy
  · intro record hlookup hbusy
    change s'.records.lookup entity = some record at hlookup
    change (s'.entities entity).kind = .actionServer ∧ (s'.entities entity).laneBusy = true at hbusy
    rw [hrounds.same.entities] at hbusy
    rcases hrounds.kept entity with hkeep | ⟨hrestorable, record', token, hbefore, hnone, hnew⟩
    · exact h.lane record (hkeep.symm.trans hlookup) hbusy
    · cases hcontext : s.contextOpen with
      | true =>
        have hnot := (hrestores hactive entity record' hbefore hnone hrestorable.1).2 hbusy
        exact absurd ⟨hcontext, hrestorable.2.2⟩ hnot
      | false =>
        rw [hopen hcontext, hbefore, Option.some.injEq] at hnew
        rw [hnew] at hnone
        cases hnone

end Executor

/-! ## The law -/

namespace Executor

variable {s s' : Executor} {entity other : EntityId} {kind : TaskKind}

/-- What every step keeps. -/
structure Inv (s : Executor) : Prop where
  /-- Tasks are counted. -/
  counted : s.Counted
  /-- A fault stops the executor. -/
  faulty : s.Faulty
  /-- Tasks end after `start` only. -/
  begun : s.turn = .ending → s.state ≠ .created
  /-- Registrations agree with their entities. -/
  settled : s.Active → ∀ entity, s.Settled entity

/-- A new executor has nothing to count. -/
theorem initial_inv (limits : Limits) (entities : EntityId → Entity) :
    (Executor.initial limits entities).Inv := by
  refine ⟨⟨?_, ?_, ?_⟩, ?_, ?_, ?_⟩
  · intro key
    refine Counts.none fun id => ?_
    rintro ⟨task, hlookup, -⟩
    cases hlookup
  · exact fun key => Nat.zero_le _
  · exact fun id _ hmem => AList.notMem_empty id hmem
  · exact fun hfault => by cases hfault
  · exact fun hturn => by cases hturn
  · exact fun _ entity => Settled.of_none rfl

/-- A change of one entity alone. -/
theorem Inv.touch (h : s.Inv) (hcounted : s'.Counted) (hfault : s'.fault = s.fault)
    (hstate : s'.state = s.state) (hturn : s'.turn = .ending → s.turn = .ending)
    (helsewhere : Elsewhere entity s s') (hself : s.Active → s'.Settled entity) : s'.Inv := by
  have hactive : s'.Active → s.Active := by
    unfold Active
    rw [hstate]
    exact id
  refine ⟨hcounted, ?_, ?_, ?_⟩
  · intro hfault'
    rw [hfault] at hfault'
    exact fun hrunning => h.faulty hfault' (hactive hrunning)
  · intro hending
    rw [hstate]
    exact h.begun (hturn hending)
  · exact fun hrunning => helsewhere.all (hself (hactive hrunning)) (h.settled (hactive hrunning))

/-- A change that stops the executor, or leaves it stopped. -/
theorem Inv.halt (hcounted : s'.Counted) (hstopped : ¬ s'.Active) : s'.Inv where
  counted := hcounted
  faulty _ := hstopped
  begun _ hcreated := hstopped (Or.inl hcreated)
  settled hactive := absurd hactive hstopped

/-- The loop moves on after something else than the end of a task. -/
theorem Inv.move (h : s.Inv) (hturn : s.turn ≠ .ending) {turn : Turn} (hnext : turn ≠ .ending) :
    ({s with turn := turn} : Executor).Inv where
  counted := h.counted.congr rfl rfl rfl rfl
  faulty := h.faulty
  begun hending := absurd hending hnext
  settled hactive entity := (h.settled hactive entity).turn hturn turn

/-- A fault is recorded. -/
theorem Inv.fault (h : s.Inv) (turn : Turn) : ({s.recordFault with turn := turn} : Executor).Inv :=
  Inv.halt (h.counted.congr recordFault_tasks recordFault_nextTask recordFault_counts
    recordFault_limits) h.faulty.recordFault_inactive

/-- A task more leaves exhausted keys exhausted. -/
theorem createTask_full (hfull : s.hasTaskCapacity other kind = false) (kind' : TaskKind) :
    (s.createTask entity kind').hasTaskCapacity other kind = false := by
  have hbound : s.limits.of kind ≤ s.counts (taskKey other kind) := by
    simpa [hasTaskCapacity] using hfull
  have hmore : s.counts (taskKey other kind) ≤
      (s.createTask entity kind').counts (taskKey other kind) := by
    change _ ≤ Function.update s.counts (taskKey entity kind')
      (s.counts (taskKey entity kind') + 1) (taskKey other kind)
    by_cases hkey : taskKey other kind = taskKey entity kind'
    · rw [hkey, Function.update_self]
      exact Nat.le_succ _
    · rw [Function.update_of_ne hkey]
  have hlimit : (s.createTask entity kind').limits = s.limits := rfl
  simpa [hasTaskCapacity, hlimit] using hbound.trans hmore

theorem createTask_elsewhere (kind : TaskKind) : Elsewhere other s (s.createTask entity kind) where
  records _ _ := rfl
  entities _ _ := rfl
  full _ _ hfull := createTask_full hfull kind
  turn hturn := hturn

/-- A task more leaves every entity settled. -/
theorem Settled.createTask (h : s.Settled other) : (s.createTask entity kind).Settled other :=
  h.frame rfl rfl (fun _ hfull => createTask_full hfull kind) fun hturn => hturn

/-- A scheduled task. -/
theorem Inv.schedule (h : s.Inv) : (s.schedule entity kind).Inv := by
  unfold Executor.schedule
  split
  · next hcapacity =>
    exact h.touch (h.counted.createTask hcapacity) rfl rfl id (createTask_elsewhere kind)
      fun hactive => (h.settled hactive entity).createTask
  · exact h

/-- An entry of a counted kind. -/
theorem Inv.consume (h : s.Inv) (message : Bool)
    (hkind : (s.entities entity).kind.taskKind = some kind) :
    (s.consume entity kind message).Inv := by
  have hpause : ∀ t : Executor, t.Inv → t.entities = s.entities →
      t.hasTaskCapacity entity kind = false → (t.suspend entity).Inv := by
    intro t ht hsame hfull
    refine ht.touch (ht.counted.congr rfl rfl rfl rfl) rfl rfl id suspend_elsewhere fun _ => ?_
    exact Settled.suspend (Or.inl ⟨kind, by rw [hsame]; exact hkind, hfull⟩)
  unfold Executor.consume
  split
  · next hcapacity =>
    have hcreated : (if message then s.createTask entity kind else s).Inv := by
      split
      · exact h.touch (h.counted.createTask hcapacity) rfl rfl id (createTask_elsewhere kind)
          fun hactive => (h.settled hactive entity).createTask
      · exact h
    have hsame : (if message then s.createTask entity kind else s).entities = s.entities := by
      split <;> rfl
    generalize (if message then s.createTask entity kind else s) = t at hcreated hsame
    change (if t.hasTaskCapacity entity kind then t else t.suspend entity).Inv
    split
    · exact hcreated
    · next hfull => exact hpause t hcreated hsame (Bool.eq_false_iff.mpr hfull)
  · next hfull => exact hpause s h rfl (Bool.eq_false_iff.mpr hfull)

theorem consume_turn (message : Bool) : (s.consume entity kind message).turn = s.turn := by
  have hcreated : (if message then s.createTask entity kind else s).turn = s.turn := by
    split <;> rfl
  unfold Executor.consume
  split
  · generalize (if message then s.createTask entity kind else s) = t at hcreated
    change (if t.hasTaskCapacity entity kind then t else t.suspend entity).turn = s.turn
    split <;> exact hcreated
  · rfl

theorem schedule_turn : (s.schedule entity kind).turn = s.turn := by
  unfold Executor.schedule
  split <;> rfl

theorem restoreRegistration_same : Same s (s.restoreRegistration entity) := by
  have hsame : Same s s := ⟨rfl,rfl,rfl,rfl,rfl,rfl,rfl,rfl⟩
  unfold restoreRegistration
  split
  · exact hsame
  · split
    · exact hsame
    · split
      · exact hsame
      · exact ⟨rfl,rfl,rfl,rfl,rfl,rfl,rfl,rfl⟩

/-- Freeing a lane counts nothing. -/
theorem Counted.finishLane (h : s.Counted) : (s.finishLane entity).Counted :=
  h.congr restoreRegistration_same.tasks restoreRegistration_same.nextTask
    restoreRegistration_same.counts restoreRegistration_same.limits

/-- A lane that goes free. -/
theorem Inv.finishLane (h : s.Inv) (hfrees : s.Frees entity) (hcreated : s.state ≠ .created) :
    (s.finishLane entity).Inv := by
  have hsame : Same (s.setLane entity false) (s.finishLane entity) := restoreRegistration_same
  refine h.touch h.counted.finishLane hsame.fault hsame.state ?_ finishLane_elsewhere ?_
  · intro hending
    rw [hsame.turn] at hending
    exact hending
  · intro hactive
    refine Settled.finishLane hfrees ?_
    rcases hactive with hstate | hstate
    · exact absurd hstate hcreated
    · exact hstate

/-- After a raised lane the executor is stopped, unless it was starting. -/
theorem Inv.halted (h : s.Inv) (hcounted : s'.Counted) (hfault : s'.fault = s.fault)
    (hstate : s'.state = s.state) : s'.recordFault.Inv := by
  refine Inv.halt (hcounted.congr recordFault_tasks recordFault_nextTask recordFault_counts
    recordFault_limits) ?_
  have hfaulty : s'.Faulty := by
    intro hfault' hactive
    rw [hfault] at hfault'
    unfold Active at hactive
    rw [hstate] at hactive
    exact h.faulty hfault' hactive
  exact hfaulty.recordFault_inactive

end Executor

namespace Executor

variable {s : Executor} {entity : EntityId}

/-- An entity is attached with a registration, if it is waitable. -/
theorem Inv.attach (h : s.Inv) (generation : ℕ) (hfree : ¬ s.Busy entity) :
    (s.attach entity generation).Inv := by
  unfold Executor.attach
  split
  · exact h.touch (h.counted.congr rfl rfl rfl rfl) rfl rfl id register_elsewhere
      fun _ => Settled.register hfree
  · next hwaitable =>
    have helsewhere : Elsewhere entity s
        {s with records := s.records.insert entity ⟨generation,none⟩} :=
      ⟨fun _ hne => AList.lookup_insert_ne hne, fun _ _ => rfl, fun _ _ hfull => hfull,
        fun hturn => hturn⟩
    refine h.touch (h.counted.congr rfl rfl rfl rfl) rfl rfl id helsewhere
      fun _ => ⟨?_, fun _ _ hbusy => absurd hbusy hfree⟩
    exact fun _ _ _ hwaitable' => absurd hwaitable' hwaitable

/-- An entity is detached. -/
theorem Inv.detach (h : s.Inv) : (s.detach entity).Inv := by
  have helsewhere : Elsewhere entity s (s.detach entity) :=
    ⟨fun _ hne => AList.lookup_erase_ne hne, fun _ _ => rfl, fun _ _ hfull => hfull,
      fun hturn => hturn⟩
  exact h.touch (h.counted.congr rfl rfl rfl rfl) rfl rfl id helsewhere
    fun _ => Settled.of_none (AList.lookup_erase entity s.records)

/-- An entity is closing. -/
theorem Inv.close (h : s.Inv) : (s.close entity).Inv := by
  have helsewhere : Elsewhere entity s (s.close entity) :=
    ⟨fun _ _ => rfl, fun _ hne => Function.update_of_ne hne _ _, fun _ _ hfull => hfull,
      fun hturn => hturn⟩
  refine h.touch (h.counted.congr rfl rfl rfl rfl) rfl rfl id helsewhere fun hactive => ⟨?_, ?_⟩
  · intro record _ hopen
    have hclosing : ((s.close entity).entities entity).closing = true := by
      simp [Executor.close]
    rw [hclosing] at hopen
    cases hopen
  · intro record hlookup hbusy
    refine (h.settled hactive entity).lane record hlookup ?_
    simpa [Busy, Executor.close] using hbusy

/-- A closing entity is paused. -/
theorem Inv.unregister (h : s.Inv) (hclosing : (s.entities entity).closing = true) :
    (s.suspend entity).Inv :=
  h.touch (h.counted.congr rfl rfl rfl rfl) rfl rfl id suspend_elsewhere
    fun _ => Settled.suspend_closing hclosing

/-- The next entry is checked. -/
theorem Inv.admitNext (h : s.Inv) : s.admitNext.Inv := by
  unfold Executor.admitNext
  split
  · next ready rest hturn =>
    have hmove : ∀ turn, turn ≠ .ending → ({s with turn := turn} : Executor).Inv :=
      fun turn => h.move (by rw [hturn]; exact fun hno => by cases hno)
    unfold admitReady
    split
    · exact hmove _ fun hno => by cases hno
    · split
      · exact h.fault .idle
      · split
        · exact hmove _ fun hno => by cases hno
        · exact hmove _ fun hno => by cases hno
  · exact h

/-- An entry is dispatched. -/
theorem Inv.dispatchEntry (h : s.Inv) (work : Bool) : (s.dispatchEntry work).Inv := by
  unfold Executor.dispatchEntry
  split
  · next entity rest hturn =>
    have hnot : s.turn ≠ .ending := by
      rw [hturn]
      exact fun hno => by cases hno
    have hbatch : ∀ t : Executor, t.Inv → t.turn = s.turn →
        ({t with turn := .batch rest} : Executor).Inv := by
      intro t ht hsame
      exact ht.move (by rw [hsame]; exact hnot) fun hno => by cases hno
    unfold dispatch
    cases hkind : (s.entities entity).kind with
    | client | publisher => exact hbatch s h rfl
    | actionClient =>
      simp only
      split
      · exact hbatch _ h.schedule schedule_turn
      · exact hbatch s h rfl
    | actionServer =>
      simp only
      split
      · exact hbatch s h rfl
      · have hlane : (s.beginLane entity).Inv :=
          h.touch (h.counted.congr rfl rfl rfl rfl) rfl rfl id beginLane_elsewhere
            fun _ => Settled.beginLane hkind
        exact hlane.move hnot fun hno => by cases hno
    | service => exact hbatch _ (h.consume work (by rw [hkind]; rfl)) (consume_turn work)
    | subscription | timer | graph =>
      exact hbatch _ (h.consume work (by rw [hkind]; rfl)) (consume_turn work)
  · exact h

/-- A request was taken, or the lane is free again. -/
theorem Inv.finishTake (h : s.Inv) (taken : Bool) (hcreated : s.state ≠ .created)
    (hfrees : taken = false → ∀ entity rest, s.turn = .taking entity rest → s.Frees entity) :
    (s.finishTake taken).Inv := by
  unfold Executor.finishTake
  split
  · next entity rest hturn =>
    have hnot : s.turn ≠ .ending := by
      rw [hturn]
      exact fun hno => by cases hno
    unfold take
    cases taken with
    | true => exact h.move hnot fun hno => by cases hno
    | false =>
      have hlane := h.finishLane (hfrees rfl entity rest hturn) hcreated
      have hsame : (s.finishLane entity).turn = s.turn := restoreRegistration_same.turn
      exact hlane.move (by rw [hsame]; exact hnot) fun hno => by cases hno
  · exact h

/-- The `_control` of a batch is over. -/
theorem Inv.openBatch (h : s.Inv) : s.openBatch.Inv := by
  unfold Executor.openBatch
  split
  · next entries hturn =>
    exact h.move (by rw [hturn]; exact fun hno => by cases hno) fun hno => by cases hno
  · exact h

/-- A task ended. -/
theorem Inv.retireTask (h : s.Inv) (id : TaskId) (hcreated : s.state ≠ .created)
    (hturn : s.turn = .idle) : (s.retireTask id).Inv := by
  have hcounted := h.counted.retireTask id
  unfold Executor.retireTask at hcounted ⊢
  split at hcounted
  · exact h
  · next task _ =>
    refine ⟨hcounted, h.faulty, fun _ => hcreated, fun hactive entity => ⟨?_, ?_⟩⟩
    · intro record hlookup hopen hwaitable hnone
      rcases (h.settled hactive entity).paused record hlookup hopen hwaitable hnone with
        ⟨kind, hkind, -⟩ | hbusy | ⟨hending, -⟩
      · exact Or.inr (Or.inr ⟨rfl, Option.isSome_iff_exists.mpr ⟨kind, hkind⟩⟩)
      · exact Or.inr (Or.inl hbusy)
      · rw [hturn] at hending
        cases hending
    · exact (h.settled hactive entity).lane

/-- Registrations are restored after a task ended. -/
theorem Inv.restore (h : s.Inv) (raises : Option EntityId) (hturn : s.turn = .ending)
    (hattempt : raises.isSome = true → s.state = .running ∧ s.contextOpen = true)
    (hrestores : raises = none → s.Restores) :
    ({s.restoreRegistrations raises with turn := .idle} : Executor).Inv := by
  have hkeep : ∀ {l t}, Rounds l s t → s.state = .running → s.Restores →
      (s.contextOpen = true → ∀ entity, entity ∈ s.records → entity ∈ l) →
      (s.contextOpen = false → t = s) → ({t with turn := .idle} : Executor).Inv := by
    intro l t hrounds hrunning hrestores hall hopen
    refine ⟨h.counted.congr hrounds.same.tasks hrounds.same.nextTask hrounds.same.counts
      hrounds.same.limits, ?_, (fun hno => by cases hno), ?_⟩
    · intro hfault hactive
      rw [show ({t with turn := Turn.idle} : Executor).fault = t.fault from rfl,
        hrounds.same.fault] at hfault
      exact h.faulty hfault (Or.inr hrunning)
    · intro _ entity
      exact (h.settled (Or.inr hrunning) entity).restored hrunning hrestores hrounds
        (fun hcontext _ => hall hcontext entity) hopen
  unfold restoreRegistrations
  split
  · next hskip =>
    have hnone : raises = none := by
      cases raises with
      | none => rfl
      | some entity =>
        obtain ⟨hrunning, hcontext⟩ := hattempt rfl
        simp [hrunning, hcontext] at hskip
    by_cases hrunning : s.state = .running
    · refine hkeep Rounds.nil hrunning (hrestores hnone) (fun hcontext => ?_) fun _ => rfl
      simp [hrunning, hcontext] at hskip
    · refine Inv.halt (h.counted.congr rfl rfl rfl rfl) ?_
      rintro (hcreated | hstate)
      · exact h.begun hturn hcreated
      · exact hrunning hstate
  · next hgo =>
    obtain ⟨hrunning, hcontext⟩ : s.state = .running ∧ s.contextOpen = true := by
      simpa using hgo
    cases raises with
    | none =>
      exact hkeep (restore_rounds s.records.keys s) hrunning (hrestores rfl)
        (fun _ entity hmem => AList.mem_keys.mp hmem) fun hno => by rw [hcontext] at hno; cases hno
    | some entity =>
      have hrounds := restore_rounds (s.records.keys.takeWhile (· ≠ entity)) s
      have hcounted := h.counted.congr hrounds.same.tasks hrounds.same.nextTask
        hrounds.same.counts hrounds.same.limits
      have hhalt := h.halted hcounted hrounds.same.fault hrounds.same.state
      refine Inv.halt (hhalt.counted.congr rfl rfl rfl rfl) ?_
      have hstopped : ¬ ((s.records.keys.takeWhile (· ≠ entity)).foldl restoreOne s).recordFault.Active := by
        refine Faulty.recordFault_inactive fun hfault _ => ?_
        rw [hrounds.same.fault] at hfault
        exact h.faulty hfault (Or.inr hrunning)
      exact hstopped

/-- What a turn raises stops the executor, unless it was starting. -/
theorem Inv.abandon (h : s.Inv) : s.abandon.Inv := by
  unfold Executor.abandon
  split
  · next hturn => exact h.move (by rw [hturn]; exact fun hno => by cases hno) fun hno => by cases hno
  · exact h.fault .idle

end Executor

namespace Executor

variable {s : Executor} {entity : EntityId}

/-- A lane whose registration raises is free, and the executor is stopped. -/
theorem Inv.raiseLane (h : s.Inv) (hturn : s.turn ≠ .starting) :
    (s.setLane entity false).abandon.Inv := by
  have hsame : (s.setLane entity false).turn ≠ .starting := hturn
  unfold Executor.abandon
  rw [if_neg hsame]
  have hcounted : (s.setLane entity false).Counted := h.counted.congr rfl rfl rfl rfl
  have hhalt := h.halted hcounted rfl rfl
  refine Inv.halt (hhalt.counted.congr rfl rfl rfl rfl) ?_
  exact Faulty.recordFault_inactive (s := s.setLane entity false) h.faulty

/-- A completion frees a lane. -/
theorem Inv.completeLane (h : s.Inv) (raises : Bool) (hturn : s.turn ≠ .starting)
    (hcreated : s.state ≠ .created) (hfrees : raises = false → s.Frees entity) :
    (s.completeLane entity raises).Inv := by
  cases raises with
  | true => exact h.raiseLane hturn
  | false => exact h.finishLane (hfrees rfl) hcreated

/-- A turn raises. -/
theorem Inv.fail (h : s.Inv) (raises : Bool) : (s.fail raises).Inv := by
  unfold Executor.fail
  split
  · next entity rest hturn =>
    have hnot : s.turn ≠ .starting := by
      rw [hturn]
      exact fun hno => by cases hno
    cases raises with
    | true => exact h.raiseLane hnot
    | false =>
      have hsame : Same (s.setLane entity false) (s.finishLane entity) := restoreRegistration_same
      have hstart : (s.finishLane entity).turn ≠ .starting := by
        rw [hsame.turn]
        exact hnot
      have hhalt := h.halted h.counted.finishLane hsame.fault hsame.state
      change (s.finishLane entity).abandon.Inv
      unfold Executor.abandon
      rw [if_neg hstart]
      refine Inv.halt (hhalt.counted.congr rfl rfl rfl rfl) ?_
      refine Faulty.recordFault_inactive (s := s.finishLane entity) fun hfault hactive => ?_
      rw [hsame.fault] at hfault
      unfold Active at hactive
      rw [hsame.state] at hactive
      exact h.faulty hfault hactive
  · exact h.abandon

/-- A stopped executor has nothing left to settle. -/
theorem Inv.stop (h : s.Inv) (state : ExecutorState) (hstate : state = .stopping ∨ state = .stopped) :
    ({s with state := state} : Executor).Inv := by
  refine Inv.halt (h.counted.congr rfl rfl rfl rfl) ?_
  rintro (hactive | hactive) <;> rcases hstate with rfl | rfl <;> cases hactive

end Executor

/-- The turn of a control step is not the one of `start`. -/
theorem Turn.not_starting {turn : Turn} (h : turn.controls = true) : turn ≠ .starting := by
  rintro rfl
  cases h

/-- Every step keeps what is counted and what is registered. -/
theorem step_inv {s : Executor} {e : Event} (h : s.Inv) (hen : Enabled s e) (hregular : Regular s e) :
    (next s e).Inv := by
  cases e with
  | attach entity generation => exact h.attach generation hregular
  | detach entity => exact h.detach
  | close entity => exact h.close
  | shutdownContext => exact ⟨h.counted.congr rfl rfl rfl rfl, h.faulty, h.begun,
      fun hactive entity => (h.settled hactive entity).frame rfl rfl (fun _ hfull => hfull) id⟩
  | requestShutdown => exact h.stop .stopping (Or.inl rfl)
  | start =>
    obtain ⟨hturn, hstate, -⟩ := hen
    have hnot : s.turn ≠ .ending := by
      rw [hturn]
      exact fun hno => by cases hno
    refine ⟨h.counted.congr rfl rfl rfl rfl, ?_, (fun hno => by cases hno), ?_⟩
    · exact fun hfault => absurd (Or.inl hstate) (h.faulty hfault)
    · intro _ entity
      exact (h.settled (Or.inl hstate) entity).frame rfl rfl (fun _ hfull => hfull)
        fun hending => absurd hending hnot
  | beginControl =>
    exact h.move (by rw [hen.1]; exact fun hno => by cases hno) fun hno => by cases hno
  | endControl =>
    refine h.move ?_ fun hno => by cases hno
    rcases hen with hturn | hturn <;> rw [hturn] <;> exact fun hno => by cases hno
  | beginBatch entries =>
    exact h.move (by rw [hen.1]; exact fun hno => by cases hno) fun hno => by cases hno
  | openBatch => exact h.openBatch
  | admitEntry => exact h.admitNext
  | dispatch work => exact h.dispatchEntry work
  | take taken => exact h.finishTake taken hen.2 fun htaken => by subst htaken; exact hregular
  | endBatch =>
    have hturn : s.turn = .batch [] := hen
    exact h.move (by rw [hturn]; exact fun hno => by cases hno) fun hno => by cases hno
  | unregisterClosing entity => exact h.unregister hen.2
  | laneCompleted entity raises =>
    exact h.completeLane raises (Turn.not_starting hen.1) hen.2.1
      fun hraises => by subst hraises; exact hregular
  | scheduleExecute entity => exact h.schedule
  | taskDone id => exact h.retireTask id hen.2.1 hen.1
  | restore raises =>
    exact h.restore raises hen.1 hen.2 fun hnone => by subst hnone; exact hregular
  | fail raises => exact h.fail raises
  | stopped =>
    have hstop := h.stop .stopped (Or.inr rfl)
    refine ⟨hstop.counted.congr rfl rfl rfl rfl, hstop.faulty, hstop.begun, ?_⟩
    exact fun hactive => absurd hactive fun hno => by rcases hno with hno | hno <;> cases hno

/-- Between two callbacks of a running loop, tasks are counted and bounded, and
an open waitable is unregistered only for its own kind or its own lane. -/
theorem capacity_lawful {limits : Limits} {entities : EntityId → Entity} {es : List Event}
    {s : Executor} (hrun : machine.RunWhen Regular (Executor.initial limits entities) es s)
    (hrunning : s.state = .running) (hidle : s.turn = .idle) : s.Lawful := by
  have hinv : s.Inv := hrun.invariant Executor.Inv (Executor.initial_inv limits entities)
    fun _ _ h hen hregular => step_inv h hen hregular
  have hsettled := hinv.settled (Or.inr hrunning)
  refine ⟨hinv.counted.counted, hinv.counted.limited, ?_, fun entity => (hsettled entity).lane⟩
  intro entity record hlookup hopen hwaitable hnone
  rcases (hsettled entity).paused record hlookup hopen hwaitable hnone with
    hfull | hbusy | ⟨hending, -⟩
  · exact Or.inl hfull
  · exact Or.inr hbusy
  · rw [hidle] at hending
    cases hending

/-- A subscription, a service and an ActionServer. -/
def sampleEntities : EntityId → Entity
  | 0 => ⟨.subscription,false,false⟩
  | 1 => ⟨.service,false,false⟩
  | _ => ⟨.actionServer,false,false⟩

/-- All three are attached and the loop starts. -/
def sampleStart : List Event :=
  [.attach 0 0,.attach 1 0,.attach 2 0,.start,.endControl]

/-- The service and the ActionServer get a request; the lane is free again before
the task of the service ends. -/
def separated : List Event :=
  sampleStart ++ [.beginBatch [⟨1,0⟩,⟨2,0⟩],.openBatch,.admitEntry,.dispatch true,.admitEntry,
    .dispatch false,.take true,.endBatch,.beginControl,.laneCompleted 2 false,.endControl,
    .taskDone 0,.restore none]

/-- A test that is enough for a step to keep the law. -/
def keepsLaw (s : Executor) : Event → Bool
  | .attach entity _ => !(s.entities entity).laneBusy
  | .take taken => taken || s.contextOpen
  | .laneCompleted _ _ => s.contextOpen
  | .restore _ => s.contextOpen && s.records.entries.all fun e =>
      e.2.registration.isSome ||
        s.hasTaskCapacity e.1 .general && !(s.entities e.1).laneBusy
  | _ => true

theorem regular_of_keepsLaw (s : Executor) (e : Event) (h : keepsLaw s e = true) : Regular s e := by
  cases e with
  | attach entity generation =>
    intro hbusy
    have hfree : (!(s.entities entity).laneBusy) = true := h
    rw [hbusy.2] at hfree
    cases hfree
  | take taken =>
    cases taken with
    | true => trivial
    | false => exact fun _ _ _ _ _ _ => h
  | laneCompleted entity raises =>
    cases raises with
    | true => trivial
    | false => exact fun _ _ _ => h
  | restore raises =>
    cases raises with
    | some entity => trivial
    | none =>
      obtain ⟨hcontext, hall⟩ := Bool.and_eq_true_iff.mp h
      intro _ entity record hlookup hnone _
      have hentry := List.all_eq_true.mp hall _ (Table.mem_entries_of_lookup hlookup)
      simp only [hnone, Option.isSome_none, Bool.false_or, Bool.and_eq_true,
        Bool.not_eq_true'] at hentry
      refine ⟨fun _ => ⟨hcontext, hentry.1⟩, fun hbusy _ => ?_⟩
      rw [hbusy.2] at hentry
      cases hentry.2
  | _ => trivial

/-- The law after a service task. -/
theorem capacity_lawful_separated :
    ∃ s, machine.RunWhen Regular (Executor.initial ⟨1,1,1⟩ sampleEntities) separated s ∧
      s.Lawful := by
  have hsome : ((machine.exec (Executor.initial ⟨1,1,1⟩ sampleEntities) separated).map fun s =>
    decide (s.state = .running ∧ s.turn = .idle)) = some true := by decide +kernel
  obtain ⟨s, hexec, hstate⟩ := Option.map_eq_some_iff.mp hsome
  obtain ⟨hrunning, hidle⟩ := of_decide_eq_true hstate
  have hrun := Machine.runWhen_of_exec keepsLaw regular_of_keepsLaw hexec (by decide +kernel)
  exact ⟨s, hrun, capacity_lawful hrun hrunning hidle⟩

/-- The only general task goes on while the task of the service ends. -/
def nested : List Event :=
  sampleStart ++ [.beginBatch [⟨0,0⟩,⟨1,0⟩],.openBatch,.admitEntry,.dispatch true,.admitEntry,
    .dispatch true,.endBatch,.taskDone 1,.restore none]

/-- A service stays paused although none of its tasks is left. -/
theorem nested_not_lawful :
    ¬ ∀ limits entities es s, machine.Run (Executor.initial limits entities) es s →
      s.state = .running → s.turn = .idle → s.Lawful := by
  intro hall
  have hsome : ((machine.exec (Executor.initial ⟨1,1,1⟩ sampleEntities) nested).map fun s =>
    decide (s.state = .running ∧ s.turn = .idle ∧
      (s.records.lookup 1).map (·.registration) = some none ∧
      s.hasTaskCapacity 1 .service = true ∧ (s.entities 1).kind = .service ∧
      (s.entities 1).closing = false)) = some true := by decide +kernel
  obtain ⟨s, hexec, hstate⟩ := Option.map_eq_some_iff.mp hsome
  obtain ⟨hrunning, hidle, hpaused, hcapacity, hkind, hopen⟩ := of_decide_eq_true hstate
  obtain ⟨record, hlookup, hnone⟩ := Option.map_eq_some_iff.mp hpaused
  have hlaw := hall _ _ _ s (Machine.run_of_exec hexec) hrunning hidle
  rcases hlaw.paused 1 record hlookup hopen (by rw [hkind]; rfl) hnone with
    ⟨kind, hown, hfull⟩ | hbusy
  · rw [hkind] at hown
    cases hown
    rw [hcapacity] at hfull
    cases hfull
  · have hserver := hbusy.1
    rw [hkind] at hserver
    cases hserver

/-- A general task ends while the ActionServer has a request. -/
def overlapping : List Event :=
  sampleStart ++ [.beginBatch [⟨0,0⟩,⟨2,0⟩],.openBatch,.admitEntry,.dispatch true,.admitEntry,
    .dispatch true,.take true,.endBatch,.taskDone 0,.restore none]

/-- An ActionServer is registered again while its lane is busy. -/
theorem overlapping_registered :
    ∃ s record, machine.Run (Executor.initial ⟨1,1,1⟩ sampleEntities) overlapping s ∧
      s.state = .running ∧ s.turn = .idle ∧ s.Busy 2 ∧
      s.records.lookup 2 = some record ∧ record.registration ≠ none := by
  have hsome : ((machine.exec (Executor.initial ⟨1,1,1⟩ sampleEntities) overlapping).map fun s =>
    decide (s.state = .running ∧ s.turn = .idle ∧
      ((s.entities 2).kind = .actionServer ∧ (s.entities 2).laneBusy = true) ∧
      (s.records.lookup 2).map (·.registration.isSome) = some true)) = some true := by
    decide +kernel
  obtain ⟨s, hexec, hstate⟩ := Option.map_eq_some_iff.mp hsome
  obtain ⟨hrunning, hidle, hbusy, hregistered⟩ := of_decide_eq_true hstate
  obtain ⟨record, hlookup, hsome⟩ := Option.map_eq_some_iff.mp hregistered
  refine ⟨s, record, Machine.run_of_exec hexec, hrunning, hidle, hbusy, hlookup, ?_⟩
  intro hnone
  rw [hnone] at hsome
  cases hsome

end Dmw.TaskCapacity
