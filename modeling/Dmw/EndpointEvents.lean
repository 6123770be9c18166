import Dmw.GuardedRuns
import Mathlib.Data.List.Basic
import Mathlib.Logic.Function.Basic

/-!
# Events of one endpoint

A DDS listener updates the status slots of its endpoint while threads create
Events and take from them. Every critical section of the parent's mutex and
every atomic flag access is one event of the machine. An Event's wait state is
named by its registration id.
-/

namespace Dmw.EndpointEvents

open GuardedRuns

/-- Threads are numbered; a listener callback runs on one of them. -/
abbrev ThreadId := ℕ

/-- Largest 64-bit generation. -/
def generationMax : ℕ := UInt64.size-1

/-- Status kinds of Subscribers and Publishers. -/
inductive EventType
  | livelinessChanged
  | requestedDeadlineMissed
  | requestedIncompatibleQos
  | messageLost
  | livelinessLost
  | offeredDeadlineMissed
  | offeredIncompatibleQos
  deriving DecidableEq

/-- The endpoint an event type belongs to. -/
inductive Side
  | subscriber
  | publisher
  deriving DecidableEq

/-- Only the types of its own side are valid for an endpoint. -/
def EventType.side : EventType → Side
  | .livelinessChanged | .requestedDeadlineMissed | .requestedIncompatibleQos => .subscriber
  | .messageLost => .subscriber
  | .livelinessLost | .offeredDeadlineMissed | .offeredIncompatibleQos => .publisher

/-- QoS policies an incompatibility may name. -/
inductive QosPolicyKind
  | unknown
  | history
  | reliability
  | durability
  | deadline
  | lifespan
  | liveliness
  deriving DecidableEq

/-- Status of one kind. Changes add up, totals are replaced. -/
inductive EventInfo
  | deadlineMissed (totalCount totalCountChange : Int32)
  | livelinessLost (totalCount totalCountChange : Int32)
  | livelinessChanged (aliveCount notAliveCount aliveCountChange notAliveCountChange : Int32)
  | incompatibleQos (totalCount totalCountChange : Int32) (lastPolicy : QosPolicyKind)
  | messageLost (totalCount totalCountChange : UInt64)
  deriving DecidableEq

/-- The status before the first update. -/
def emptyEventInfo : EventType → EventInfo
  | .livelinessChanged => .livelinessChanged 0 0 0 0
  | .livelinessLost => .livelinessLost 0 0
  | .requestedIncompatibleQos | .offeredIncompatibleQos => .incompatibleQos 0 0 .unknown
  | .messageLost => .messageLost 0 0
  | .requestedDeadlineMissed | .offeredDeadlineMissed => .deadlineMissed 0 0

/-- Add an update to a status; a slot never sees another kind. -/
@[grind =] def accumulate : EventInfo → EventInfo → EventInfo
  | .deadlineMissed _ change, .deadlineMissed total delta => .deadlineMissed total (change+delta)
  | .livelinessLost _ change, .livelinessLost total delta => .livelinessLost total (change+delta)
  | .livelinessChanged _ _ alive notAlive, .livelinessChanged count notCount delta notDelta =>
    .livelinessChanged count notCount (alive+delta) (notAlive+notDelta)
  | .incompatibleQos _ change _, .incompatibleQos total delta policy =>
    .incompatibleQos total (change+delta) policy
  | .messageLost _ change, .messageLost total delta => .messageLost total (change+delta)
  | total, _ => total

/-- What happened since a cursor; `none` is a cursor of another kind. -/
@[grind =] def difference : EventInfo → EventInfo → Option EventInfo
  | .deadlineMissed total change, .deadlineMissed _ previous =>
    some (.deadlineMissed total (change-previous))
  | .livelinessLost total change, .livelinessLost _ previous =>
    some (.livelinessLost total (change-previous))
  | .livelinessChanged count notCount alive notAlive, .livelinessChanged _ _ previous notPrevious =>
    some (.livelinessChanged count notCount (alive-previous) (notAlive-notPrevious))
  | .incompatibleQos total change policy, .incompatibleQos _ previous _ =>
    some (.incompatibleQos total (change-previous) policy)
  | .messageLost total change, .messageLost _ previous => some (.messageLost total (change-previous))
  | _, _ => none

/-- A status with the number of updates it stands for. -/
structure Snapshot where
  /-- The accumulated status. -/
  info : EventInfo
  /-- Updates so far. -/
  generation : ℕ
  deriving DecidableEq

/-- One registered wait state. -/
structure EventRecord where
  /-- Registration id, which also names the wait state. -/
  registrationId : ℕ
  /-- The slot it listens to. -/
  type : EventType
  deriving DecidableEq

/-- Whether the DDS listener is installed. -/
inductive ListenerInstallState
  | detached
  | installing
  | attached
  deriving DecidableEq

/-- State shared by an endpoint and its Events. -/
structure EventParentState where
  /-- Whether this is a Subscriber or a Publisher. -/
  side : Side
  /-- The endpoint has not been closed. -/
  alive : Bool
  /-- Accumulated status by type. -/
  slots : EventType → Snapshot
  /-- Registered wait states. -/
  events : List EventRecord
  /-- Next registration id; 0 once they are used up. -/
  nextEventRegistrationId : ℕ
  /-- A generation or the registration ids are used up. -/
  exhausted : Bool
  /-- Installation of the listener. -/
  listener : ListenerInstallState

namespace EventParentState

/-- A new endpoint. -/
def initial (side : Side) : EventParentState where
  side := side
  alive := true
  slots := fun type => ⟨emptyEventInfo type,0⟩
  events := []
  nextEventRegistrationId := 1
  exhausted := false
  listener := .detached

/-- The status of one type. -/
def snapshot (type : EventType) (parent : EventParentState) : Snapshot :=
  let current := parent.slots type
  if current.generation = 0 then ⟨emptyEventInfo type,0⟩ else current

/-- Add one update to a slot. -/
def advance (type : EventType) (info : EventInfo) (parent : EventParentState) : EventParentState :=
  let current := parent.slots type
  let next := if current.generation = 0 then info else accumulate current.info info
  {parent with slots := Function.update parent.slots type ⟨next,current.generation+1⟩}

/-- Register a wait state; 0 once the ids are used up. -/
def registerEvent (type : EventType) (parent : EventParentState) : ℕ × EventParentState :=
  if parent.exhausted || parent.nextEventRegistrationId == 0 then
    (0,{parent with exhausted := true})
  else
    (parent.nextEventRegistrationId,{parent with
      events := parent.events ++ [⟨parent.nextEventRegistrationId,type⟩]
      nextEventRegistrationId := (parent.nextEventRegistrationId+1)%UInt64.size})

/-- Forget a registration. -/
def unregisterEvent (registrationId : ℕ) (parent : EventParentState) : EventParentState :=
  if registrationId = 0 then parent
  else {parent with events := parent.events.eraseP fun record => record.registrationId = registrationId}

/-- Highest registration id given out so far, as 64-bit arithmetic has it. -/
def notificationLimit (parent : EventParentState) : ℕ :=
  (parent.nextEventRegistrationId+generationMax)%UInt64.size

end EventParentState

/-- An Event as its creator got it. -/
structure Event.Impl where
  /-- The slot it follows. -/
  type : EventType
  /-- What was taken so far. -/
  cursor : Snapshot
  deriving DecidableEq

/-- A status handed out by a take. -/
structure Taken where
  /-- The Event. -/
  registrationId : ℕ
  /-- What happened since its last take. -/
  info : EventInfo
  deriving DecidableEq

/-- Next step of one thread. -/
inductive Pc
  | idle
  /-- `update`: slot advanced, WaitSets to be notified one by one. -/
  | notifying (type : EventType) (notifyAll : Bool) (limit previous : ℕ)
  /-- `create_event`: admitted, listener to be attached. -/
  | attaching (type : EventType)
  /-- `create_event`: `set_listener` outstanding. -/
  | installing (type : EventType)
  /-- `create_event`: cursor to be taken. -/
  | snapshotting (type : EventType)
  /-- `create_event`: cursor taken, registration outstanding. -/
  | registering (type : EventType) (cursor : Snapshot)
  /-- `create_event`: registered, construction outstanding. -/
  | constructing (type : EventType) (cursor : Snapshot) (registrationId : ℕ)
  /-- `take`: admitted, snapshot outstanding. -/
  | taking (registrationId : ℕ)
  /-- `take`: comparison with the cursor outstanding. -/
  | comparing (registrationId : ℕ) (current : Snapshot)
  /-- `take`: cursor advanced, pending flag to be cleared. -/
  | clearing (registrationId generation : ℕ)
  deriving DecidableEq

/-- One endpoint with its Events and threads. -/
structure System where
  /-- The shared parent state. -/
  parent : EventParentState
  /-- Pending flag of every wait state. -/
  pending : ℕ → Bool
  /-- Events by registration id. -/
  objects : ℕ → Option Event.Impl
  /-- Next step of every thread. -/
  pc : ThreadId → Pc
  /-- Results of the takes in order; history only. -/
  log : List Taken

namespace System

/-- A new endpoint without Events. -/
def initial (side : Side) : System :=
  ⟨EventParentState.initial side,fun _ => false,fun _ => none,fun _ => .idle,[]⟩

/-- Move one thread. -/
def goto (t : ThreadId) (next : Pc) (s : System) : System :=
  {s with pc := Function.update s.pc t next}

/-- Set the pending flags of the chosen registrations. -/
def setPending (chosen : EventRecord → Bool) (s : System) : System :=
  {s with pending := fun id =>
    s.pending id || s.parent.events.any fun record => record.registrationId == id && chosen record}

end System

/-- `update` up to its notifications. -/
def update (t : ThreadId) (type : EventType) (info : EventInfo) (s : System) : System :=
  if s.parent.exhausted then s
  else if (s.parent.slots type).generation = generationMax then
    {(s.setPending fun _ => true).goto t (.notifying type true s.parent.notificationLimit 0) with
      parent := {s.parent with exhausted := true}}
  else
    {(s.setPending fun record => record.type = type).goto t
        (.notifying type false s.parent.notificationLimit 0) with
      parent := s.parent.advance type info}

/-- The next record to notify; its WaitSet is woken outside the model. -/
def notifyNext (t : ThreadId) (type : EventType) (notifyAll : Bool) (limit previous : ℕ) (s : System) :
    System :=
  if previous < limit then
    let next := s.parent.events.find? fun record =>
      (notifyAll || record.type = type) && previous < record.registrationId &&
        record.registrationId ≤ limit
    match next with
    | none => s.goto t .idle
    | some record => s.goto t (.notifying type notifyAll limit record.registrationId)
  else s.goto t .idle

/-- Admission of `create_event`. -/
def createBegin (t : ThreadId) (type : EventType) (operation : Bool) (s : System) : System :=
  if type.side ≠ s.parent.side || !operation || !s.parent.alive then s
  else s.goto t (.attaching type)

/-- First part of `attach`; the allocation of the listener may throw. -/
def attachBegin (t : ThreadId) (type : EventType) (threw : Bool) (s : System) : System :=
  if s.parent.listener = .attached then s.goto t (.snapshotting type)
  else if threw then s.goto t .idle
  else {s.goto t (.installing type) with parent := {s.parent with listener := .installing}}

/-- Second part of `attach`, after `set_listener`. -/
def attachEnd (t : ThreadId) (type : EventType) (installed : Bool) (s : System) : System :=
  if installed then
    {s.goto t (.snapshotting type) with parent := {s.parent with listener := .attached}}
  else {s.goto t .idle with parent := {s.parent with listener := .detached}}

/-- The registration of `create_event`, with a fresh pending flag. -/
def register (t : ThreadId) (type : EventType) (cursor : Snapshot) (s : System) : System :=
  let (id,parent) := s.parent.registerEvent type
  if id = 0 then {s.goto t .idle with parent := parent}
  else
    {s.goto t (.constructing type cursor id) with
      parent := parent
      pending := Function.update s.pending id false}

/-- The construction of the Event; a failed allocation unregisters. -/
def construct (t : ThreadId) (type : EventType) (cursor : Snapshot) (id : ℕ) (threw : Bool)
    (s : System) : System :=
  if threw then {s.goto t .idle with parent := s.parent.unregisterEvent id}
  else {s.goto t .idle with objects := Function.update s.objects id (some ⟨type,cursor⟩)}

/-- Admission of `take`. -/
def takeBegin (t : ThreadId) (id : ℕ) (operation : Bool) (s : System) : System :=
  if !operation || !s.parent.alive || s.parent.exhausted then s else s.goto t (.taking id)

/-- The snapshot of `take`. -/
def takeSnapshot (t : ThreadId) (id : ℕ) (s : System) : System :=
  match s.objects id with
  | none => s
  | some event => s.goto t (.comparing id (s.parent.snapshot event.type))

/-- The comparison with the cursor, which moves to the snapshot. -/
def compareCursor (t : ThreadId) (id : ℕ) (current : Snapshot) (s : System) : System :=
  match s.objects id with
  | none => s
  | some event =>
    if current.generation = event.cursor.generation then s.goto t .idle
    else
      match difference current.info event.cursor.info with
      | none => s.goto t .idle
      | some info =>
        {s.goto t (.clearing id current.generation) with
          objects := Function.update s.objects id (some {event with cursor := current})
          log := s.log ++ [⟨id,info⟩]}

/-- `clear_pending` at the end of a successful take. -/
def clearPending (t : ThreadId) (id : ℕ) (s : System) : System :=
  {s.goto t .idle with pending := Function.update s.pending id false}

/-- One atomic event. -/
inductive Event
  | update (t : ThreadId) (type : EventType) (info : EventInfo)
  | notifyNext (t : ThreadId) (type : EventType) (notifyAll : Bool) (limit previous : ℕ)
  | createBegin (t : ThreadId) (type : EventType) (operation : Bool)
  | attachBegin (t : ThreadId) (type : EventType) (threw : Bool)
  | attachEnd (t : ThreadId) (type : EventType) (installed : Bool)
  | snapshot (t : ThreadId) (type : EventType)
  | register (t : ThreadId) (type : EventType) (cursor : Snapshot)
  | construct (t : ThreadId) (type : EventType) (cursor : Snapshot) (id : ℕ) (threw : Bool)
  | takeBegin (t : ThreadId) (id : ℕ) (operation : Bool)
  | takeSnapshot (t : ThreadId) (id : ℕ)
  | compareCursor (t : ThreadId) (id : ℕ) (current : Snapshot)
  | clearPending (t : ThreadId) (id generation : ℕ)

/-- The acting thread stands at the event's step. A take needs its Event, an
installation under way keeps other creators waiting. -/
def enabled (s : System) : Event → Prop
  | .update t _ _ => s.pc t = .idle
  | .notifyNext t type notifyAll limit previous =>
    s.pc t = .notifying type notifyAll limit previous
  | .createBegin t _ _ => s.pc t = .idle
  | .attachBegin t type _ => s.pc t = .attaching type ∧ s.parent.listener ≠ .installing
  | .attachEnd t type _ => s.pc t = .installing type
  | .snapshot t type => s.pc t = .snapshotting type
  | .register t type cursor => s.pc t = .registering type cursor
  | .construct t type cursor id _ => s.pc t = .constructing type cursor id
  | .takeBegin t id _ => s.pc t = .idle ∧ (s.objects id).isSome = true
  | .takeSnapshot t id => s.pc t = .taking id
  | .compareCursor t id current => s.pc t = .comparing id current
  | .clearPending t id generation => s.pc t = .clearing id generation

/-- Effect of an enabled event. -/
def next (s : System) : Event → System
  | .update t type info => update t type info s
  | .notifyNext t type notifyAll limit previous => notifyNext t type notifyAll limit previous s
  | .createBegin t type operation => createBegin t type operation s
  | .attachBegin t type threw => attachBegin t type threw s
  | .attachEnd t type installed => attachEnd t type installed s
  | .snapshot t type => s.goto t (.registering type (s.parent.snapshot type))
  | .register t type cursor => register t type cursor s
  | .construct t type cursor id threw => construct t type cursor id threw s
  | .takeBegin t id operation => takeBegin t id operation s
  | .takeSnapshot t id => takeSnapshot t id s
  | .compareCursor t id current => compareCursor t id current s
  | .clearPending t id _ => clearPending t id s

instance (s : System) : (e : Event) → Decidable (enabled s e)
  | .attachBegin .. => inferInstanceAs (Decidable (_ ∧ _ ≠ _))
  | .takeBegin .. => inferInstanceAs (Decidable (_ ∧ _ = _))
  | .update .. | .notifyNext .. | .createBegin .. | .attachEnd .. | .snapshot .. | .register ..
  | .construct .. | .takeSnapshot .. | .compareCursor .. | .clearPending .. =>
    inferInstanceAs (Decidable (_ = _))

/-- One endpoint and its threads. -/
def machine : Machine System Event where
  enabled := enabled
  next := next
  decidableEnabled := inferInstance

/-- The thread that acts. -/
def Event.thread : Event → ThreadId
  | .update t .. | .notifyNext t .. | .createBegin t .. | .attachBegin t .. | .attachEnd t ..
  | .snapshot t _ | .register t .. | .construct t .. | .takeBegin t .. | .takeSnapshot t _
  | .compareCursor t .. | .clearPending t .. => t

/-- Moving one thread moves no other. -/
theorem goto_pc_ne {s : System} {t u : ThreadId} {next : Pc} (hne : u ≠ t) :
    (s.goto t next).pc u = s.pc u :=
  Function.update_of_ne hne ..

/-- An event moves its own thread only. -/
theorem next_pc_ne {s : System} {e : Event} {u : ThreadId} (hne : u ≠ e.thread) :
    (next s e).pc u = s.pc u := by
  cases e with
  | update t type info =>
    simp only [next, update]
    split
    · rfl
    · split <;> exact goto_pc_ne hne
  | notifyNext t type notifyAll limit previous =>
    simp only [next, notifyNext]
    split
    · split <;> exact goto_pc_ne hne
    · exact goto_pc_ne hne
  | createBegin t type operation =>
    simp only [next, createBegin]
    split
    · rfl
    · exact goto_pc_ne hne
  | attachBegin t type threw =>
    simp only [next, attachBegin]
    split
    · exact goto_pc_ne hne
    · split <;> exact goto_pc_ne hne
  | attachEnd t type installed =>
    simp only [next, attachEnd]
    split <;> exact goto_pc_ne hne
  | register t type cursor =>
    simp only [next, register]
    split <;> exact goto_pc_ne hne
  | construct t type cursor id threw =>
    simp only [next, construct]
    split <;> exact goto_pc_ne hne
  | takeBegin t id operation =>
    simp only [next, takeBegin]
    split
    · rfl
    · exact goto_pc_ne hne
  | takeSnapshot t id =>
    simp only [next, takeSnapshot]
    split
    · rfl
    · exact goto_pc_ne hne
  | compareCursor t id current =>
    simp only [next, compareCursor]
    split
    · rfl
    · split
      · exact goto_pc_ne hne
      · split <;> exact goto_pc_ne hne
  | snapshot t type => exact goto_pc_ne hne
  | clearPending t id generation => exact goto_pc_ne hne

/-- A thread that does not act stays where it is. -/
theorem exec_pc_ne {s s' : System} {es : List Event} {u : ThreadId}
    (hexec : machine.exec s es = some s') (hne : ∀ e ∈ es, u ≠ e.thread) : s'.pc u = s.pc u := by
  refine Machine.exec_keeps (fun s => s.pc u) ?_ hexec
  intro _ e he
  exact next_pc_ne (hne e he)

end Dmw.EndpointEvents
