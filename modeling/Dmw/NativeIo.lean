import Dmw.GuardedRuns
import Dmw.Identity
import Dmw.KeyedTable
import Dmw.LinkedQueues
import Dmw.Rings
import Dmw.TicketLife

/-!
# The native I/O dispatcher

One dispatcher with its 256 slots, its two ready queues and the mailboxes of
its completion ports, used by any number of threads and by its worker. Every
section of a mutex is one event, and so are a run of a job and the settling of
its outcome, which may be anything. Deadlines are read off a clock that may
show anything. A `condition_variable` may wake up at any time, so a worker that
waits is one that looks again. Notifications carry no data and are left out.
-/

namespace Dmw.NativeIo

open GuardedRuns Identity KeyedTable LinkedQueues Rings TicketLife

/-- Index of a slot; no index is the end of a queue. -/
abbrev Index := Fin 256

/-- Jobs are numbered. -/
abbrev JobId := ℕ

/-- `NativeJobKind`. -/
inductive NativeJobKind
  | publish
  | serviceRequest
  | serviceResponse
  | discardRequest
  | goalRequest
  | cancelRequest
  | resultRequest
  | goalResponse
  | cancelResponse
  | resultResponse
  | feedback
  | status
  deriving DecidableEq

/-- `CompletionRecord`. -/
structure CompletionRecord where
  /-- Port the ticket was reserved for. -/
  executorId : ℕ
  /-- Generation of the attachment. -/
  attachmentGeneration : ℕ
  /-- The operation of the owner. -/
  operationId : ℕ
  /-- The entity it is about. -/
  entityId : ℕ
  /-- What the job does. -/
  kind : NativeJobKind
  /-- The last step failed. -/
  failed : Bool
  /-- The job was cancelled. -/
  skipped : Bool
  /-- A cleanup failed. -/
  cleanupFailed : Bool
  /-- Why it failed. -/
  errorCode : ErrorCode
  /-- Text of at most 255 bytes. -/
  diagnostic : String
  /-- Identity of a request that was sent. -/
  requestId : Option RequestId

/-- What an operation throws. -/
inductive Fault
  /-- `MiddlewareFailure`. -/
  | failure (code : ErrorCode) (message : String)
  | entityClosed
  deriving DecidableEq

/-- What a step of a job throws. -/
inductive Thrown
  /-- `MiddlewareFailure`. -/
  | failure (code : ErrorCode) (what : String)
  | badAlloc
  /-- Any other `std::exception`. -/
  | exception (what : String)
  | unclassified

/-- The whole characters that fit into so many bytes, up to the end of the text. -/
def fit : ℕ → List Char → List Char
  | _, [] => []
  | room, c :: cs =>
    if c = Char.ofNat 0 ∨ room < c.utf8Size then [] else c :: fit (room-c.utf8Size) cs

/-- `copy_diagnostic`. -/
def copyDiagnostic (message : String) : String := String.ofList (fit 255 message.toList)

/-- `execute_step`, given what the function left in the record and threw. -/
def executeStep (record : CompletionRecord) : Option Thrown → CompletionRecord
  | none => record
  | some (.failure code what) =>
    {record with failed := true, errorCode := code, diagnostic := copyDiagnostic what}
  | some .badAlloc =>
    {record with
      failed := true
      errorCode := .resourceExhausted
      diagnostic := copyDiagnostic "Native I/O allocation failed"}
  | some (.exception what) =>
    {record with failed := true, errorCode := .ddsError, diagnostic := copyDiagnostic what}
  | some .unclassified =>
    {record with
      failed := true
      errorCode := .ddsError
      diagnostic := copyDiagnostic "Unclassified native I/O exception"}

/-- A step of a job: its effect on the record and what it throws. -/
structure Step where
  /-- Effect on the record. -/
  effect : CompletionRecord → CompletionRecord
  /-- Exception, if any. -/
  thrown : Option Thrown

/-- A completion port, by the dispatcher that opened it and its `id_`. -/
inductive PortRef
  | own (id : ℕ)
  | foreign (id : ℕ)
  deriving DecidableEq

/-- `id`. -/
def PortRef.id : PortRef → ℕ
  | .own id | .foreign id => id

/-- `CompletionPort`. -/
structure CompletionPort where
  /-- `completions_`, `head_` and `count_`. -/
  mailbox : Ring Index 256
  /-- `outstanding_`. -/
  outstanding : ℕ
  /-- `accepting_`. -/
  accepting : Bool

/-- A port as it is constructed. -/
def CompletionPort.fresh : CompletionPort where
  mailbox := ⟨fun _ => 0,0,0⟩
  outstanding := 0
  accepting := true

/-- A WaitSet handed to `open_route`. -/
structure NativeWaitSet where
  /-- It belongs to the Context of the dispatcher. -/
  ownContext : Bool
  /-- What `control_wake_lease` throws, if anything. -/
  refused : Option Fault

/-- `SlotState`. -/
inductive SlotState
  | free
  | reserved
  | queued
  | running
  | retryWaiting
  | completed
  deriving DecidableEq

/-- `Slot`, without its link. -/
structure Slot where
  /-- Its ticket; tickets count up from one. -/
  ticket : ℕ
  /-- Where its ticket stands. -/
  state : SlotState
  /-- It was reserved from the control capacity. -/
  control : Bool
  /-- It is queued before user work. -/
  priority : Bool
  /-- Attempts repeated so far. -/
  retries : ℕ
  /-- Earliest time of the next attempt. -/
  retryDue : ℕ
  /-- Storage of the completion. -/
  completion : CompletionRecord
  /-- Port of the completion. -/
  port : Option PortRef
  /-- The prepared job. -/
  job : Option JobId

/-- A slot holds a ticket. -/
def Slot.Live (slot : Slot) : Prop := slot.state ≠ .free

instance (slot : Slot) : Decidable slot.Live := inferInstanceAs (Decidable (_ ≠ _))

/-- A record as it is constructed. -/
def CompletionRecord.fresh : CompletionRecord where
  executorId := 0
  attachmentGeneration := 0
  operationId := 0
  entityId := 0
  kind := .publish
  failed := false
  skipped := false
  cleanupFailed := false
  errorCode := .ddsError
  diagnostic := ""
  requestId := none

/-- A slot as it is constructed. -/
def Slot.fresh : Slot where
  ticket := 0
  state := .free
  control := false
  priority := false
  retries := 0
  retryDue := 0
  completion := .fresh
  port := none
  job := none

/-- Record after a run of the job. -/
def Slot.ran (step : Step) (slot : Slot) : CompletionRecord :=
  executeStep (step.effect {slot.completion with failed := false, diagnostic := ""}) step.thrown

/-- A failed run is repeated. -/
def Slot.again (step : Step) (retryable : Bool) (maxAttempts : ℕ) (slot : Slot) : Bool :=
  let record := slot.ran step
  record.failed && decide (record.errorCode ≠ .protocolFault) && retryable &&
    decide (slot.retries < 3) && decide (slot.retries+1 < maxAttempts)

/-- Record after `after_failed_delivery`, which only a failed job is told. -/
def Slot.told (step : Step) (slot : Slot) : CompletionRecord :=
  if slot.completion.failed then executeStep (step.effect slot.completion) step.thrown
  else slot.completion

/-- `NativeIoDispatcher`. -/
structure NativeIoDispatcher where
  /-- `slots_`. -/
  slots : Index → Slot
  /-- The link of each slot. -/
  next : Index → Option Index
  /-- `control_queue_`. -/
  controlQueue : Queue Index
  /-- `user_queue_`. -/
  userQueue : Queue Index
  /-- Completion ports. -/
  ports : PortRef → CompletionPort
  /-- `routes_`. -/
  routes : Table ℕ PortRef
  /-- `used_`. -/
  used : ℕ
  /-- `ordinary_used_`. -/
  ordinaryUsed : ℕ
  /-- `next_ticket_`. -/
  nextTicket : ℕ
  /-- `next_owner_`. -/
  nextOwner : ℕ
  /-- `stopping_`. -/
  stopping : Bool

namespace NativeIoDispatcher

/-- A dispatcher as it is constructed. -/
def fresh : NativeIoDispatcher where
  slots := fun _ => .fresh
  next := fun _ => none
  controlQueue := .empty
  userQueue := .empty
  ports := fun _ => .fresh
  routes := ∅
  used := 0
  ordinaryUsed := 0
  nextTicket := 1
  nextOwner := 1
  stopping := false

/-- Largest value of the counters. -/
def maxIdentity : ℕ := 18446744073709551615

/-- Change one slot. -/
def setSlot (i : Index) (slot : Slot) (d : NativeIoDispatcher) : NativeIoDispatcher :=
  {d with slots := Function.update d.slots i slot}

/-- Change the state of a slot. -/
def setState (i : Index) (state : SlotState) (d : NativeIoDispatcher) : NativeIoDispatcher :=
  d.setSlot i {d.slots i with state := state}

/-- Change the port behind a pointer. -/
def setPort (port : Option PortRef) (f : CompletionPort → CompletionPort)
    (d : NativeIoDispatcher) : NativeIoDispatcher :=
  {d with ports := match port with
    | none => d.ports
    | some p => Function.update d.ports p (f (d.ports p))}

/-- The queue of a priority. -/
def queue (priority : Bool) (d : NativeIoDispatcher) : Queue Index :=
  if priority then d.controlQueue else d.userQueue

/-- Change the queue of a priority. -/
def setQueue (priority : Bool) (q : Queue Index) (d : NativeIoDispatcher) : NativeIoDispatcher :=
  {d with
    controlQueue := if priority then q else d.controlQueue
    userQueue := if priority then d.userQueue else q}

/-- `validate_route`. -/
def validateRoute (port : Option PortRef) (d : NativeIoDispatcher) : Except Fault PortRef :=
  match port with
  | none => .error (.failure .invalidArgument "Missing completion route")
  | some p =>
    if d.routes.lookup p.id = some p then .ok p
    else .error (.failure .notRegistered
      "Completion route belongs to another dispatcher or has retired")

/-- A new port is made and registered. -/
def addRoute (d : NativeIoDispatcher) : NativeIoDispatcher :=
  {d with
    ports := Function.update d.ports (.own d.nextOwner) .fresh
    routes := d.routes.insert d.nextOwner (.own d.nextOwner)
    nextOwner := d.nextOwner+1}

/-- `open_route`. -/
def openRoute (waitSet : Option NativeWaitSet) (d : NativeIoDispatcher) :
    Except Fault (PortRef × NativeIoDispatcher) :=
  match waitSet with
  | none => .error (.failure .invalidArgument "Missing owner WaitSet")
  | some waitSet =>
    if waitSet.ownContext = false then
      .error (.failure .invalidArgument "Completion route belongs to a foreign Context")
    else
      match waitSet.refused with
      | some fault => .error fault
      | none =>
        if d.stopping then .error (.failure .invalidState "Native dispatcher is stopping")
        else if d.nextOwner = maxIdentity then
          .error (.failure .resourceExhausted "Executor routing identities exhausted")
        else .ok (.own d.nextOwner,d.addRoute)

/-- `stop_route`. -/
def stopRoute (port : Option PortRef) (d : NativeIoDispatcher) : Except Fault NativeIoDispatcher :=
  match d.validateRoute port with
  | .error fault => .error fault
  | .ok p => .ok (d.setPort (some p) fun port => {port with accepting := false})

/-- A port stops accepting and is no longer a route. -/
def removeRoute (p : PortRef) (d : NativeIoDispatcher) : NativeIoDispatcher :=
  {d.setPort (some p) fun port => {port with accepting := false} with
    routes := d.routes.erase p.id}

/-- `retire_route`. -/
def retireRoute (port : Option PortRef) (d : NativeIoDispatcher) :
    Except Fault NativeIoDispatcher :=
  match d.validateRoute port with
  | .error fault => .error fault
  | .ok p =>
    if (d.ports p).outstanding ≠ 0 then
      .error (.failure .busy "Completion route still has accepted producers")
    else if (d.ports p).mailbox.count ≠ 0 then
      .error (.failure .busy "Completion route still contains notifications")
    else .ok (d.removeRoute p)

/-- Responses and discards go before other work. -/
def isPriority : NativeJobKind → Bool
  | .serviceResponse | .discardRequest | .goalResponse | .cancelResponse | .resultResponse => true
  | _ => false

/-- A slot that takes a ticket. -/
def admitted (p : PortRef) (record : CompletionRecord) (control : Bool) (ticket : ℕ)
    (slot : Slot) : Slot :=
  {slot with
    ticket := ticket
    state := .reserved
    control := control
    priority := isPriority record.kind
    retries := 0
    completion := {record with executorId := p.id}
    port := some p}

/-- A ticket takes a slot. -/
def issueTicket (p : PortRef) (record : CompletionRecord) (control : Bool) (i : Index)
    (d : NativeIoDispatcher) : NativeIoDispatcher :=
  let taken := d.setSlot i (admitted p record control d.nextTicket (d.slots i))
  {taken.setPort (some p) fun port => {port with outstanding := port.outstanding+1} with
    nextTicket := d.nextTicket+1
    used := d.used+1
    ordinaryUsed := if control then d.ordinaryUsed else d.ordinaryUsed+1}

/-- The first slot that passes a test. -/
def find (test : Slot → Bool) (d : NativeIoDispatcher) : Option Index :=
  (List.finRange 256).find? fun i => test (d.slots i)

/-- `reserve`. -/
def reserve (port : Option PortRef) (record : CompletionRecord) (control : Bool)
    (d : NativeIoDispatcher) : Except Fault (ℕ × NativeIoDispatcher) :=
  match d.validateRoute port with
  | .error fault => .error fault
  | .ok p =>
    if control = true ∧ record.kind ≠ .goalResponse ∧ record.kind ≠ .cancelResponse then
      .error (.failure .invalidArgument
        "Only Goal and Cancel transactions may use reserved control capacity")
    else if d.stopping = true ∨ control = false ∧ (d.ports p).accepting = false then
      .error (.failure .invalidState "Dispatcher route rejects new user work")
    else if d.used = 256 ∨ control = false ∧ d.ordinaryUsed = 224 then
      .error (.failure .resourceExhausted "Native I/O admission capacity exhausted")
    else if d.nextTicket = maxIdentity then
      .error (.failure .resourceExhausted "Native I/O ticket identities exhausted")
    else
      match d.find fun slot => decide (slot.state = .free) with
      | some i => .ok (d.nextTicket,d.issueTicket p record control i)
      | none =>
        .error (.failure .invalidState "Native I/O capacity accounting is inconsistent")

/-- The slot of a ticket. -/
def indexOf (ticket : ℕ) (d : NativeIoDispatcher) : Option Index :=
  d.find fun slot => decide (slot.state ≠ .free ∧ slot.ticket = ticket)

/-- `locate`. -/
def locate (ticket : ℕ) (d : NativeIoDispatcher) : Except Fault Index :=
  match d.indexOf ticket with
  | some i => .ok i
  | none => .error (.failure .notFound "Native I/O ticket has retired")

/-- `push`. -/
def push (priority : Bool) (i : Index) (d : NativeIoDispatcher) : NativeIoDispatcher :=
  {d.setQueue priority (pushQueue (d.queue priority) i) with
    next := pushLinks d.next (d.queue priority) i}

/-- `pop` of a queue with this first member. -/
def pop (priority : Bool) (i : Index) (d : NativeIoDispatcher) : NativeIoDispatcher :=
  d.setQueue priority (popQueue d.next (d.queue priority) i)

/-- `install`. -/
def install (ticket : ℕ) (job : Option JobId) (d : NativeIoDispatcher) :
    Except Fault NativeIoDispatcher :=
  match job with
  | none => .error (.failure .invalidArgument "Missing native job")
  | some job =>
    match d.locate ticket with
    | .error fault => .error fault
    | .ok i =>
      if (d.slots i).state ≠ .reserved ∨ (d.slots i).job ≠ none then
        .error (.failure .invalidState "Native ticket already has its prepared job")
      else .ok (d.setSlot i {d.slots i with job := some job})

/-- A slot is put into the queue of its priority. -/
def enqueueSlot (i : Index) (d : NativeIoDispatcher) : NativeIoDispatcher :=
  (d.setState i .queued).push (d.slots i).priority i

/-- `enqueue_prepared`. -/
def enqueuePrepared (ticket : ℕ) (d : NativeIoDispatcher) :
    Except Fault NativeIoDispatcher :=
  match d.locate ticket with
  | .error fault => .error fault
  | .ok i =>
    if (d.slots i).state ≠ .reserved ∨ (d.slots i).job = none then
      .error (.failure .invalidState
        "Native ticket has no prepared job or was already enqueued")
    else .ok (d.enqueueSlot i)

/-- The index of a slot is put into the mailbox of its port. -/
def deliver (i : Index) (d : NativeIoDispatcher) : NativeIoDispatcher :=
  d.setPort (d.slots i).port fun port => {port with mailbox := port.mailbox.push i}

/-- A slot is taken out of its queue behind its predecessor. -/
def unlink (i : Index) (previous : Option Index) (d : NativeIoDispatcher) : NativeIoDispatcher :=
  let priority := (d.slots i).priority
  {d.setQueue priority (unlinkQueue d.next (d.queue priority) i previous) with
    next := unlinkLinks d.next i previous}

/-- A slot is completed without its job being run. -/
def skip (i : Index) (d : NativeIoDispatcher) : NativeIoDispatcher :=
  d.setSlot i {d.slots i with
    completion := {(d.slots i).completion with skipped := true}
    state := .completed}

/-- `cancel_queued`. The walk along the queue is given one step for each slot
and one for its end; a longer one would not stop. -/
def cancelQueued (ticket : ℕ) (d : NativeIoDispatcher) :
    Except Fault (Bool × NativeIoDispatcher) :=
  match d.indexOf ticket with
  | none => .ok (false,d)
  | some i =>
    if (d.slots i).state ≠ .queued then .ok (false,d)
    else
      match search d.next i 257 none (d.queue (d.slots i).priority).head with
      | none =>
        .error (.failure .invalidState "Queued native ticket is missing from its ready list")
      | some previous => .ok (true,((d.unlink i previous).skip i).deliver i)

/-- `release_slot`. -/
def releaseSlot (i : Index) (d : NativeIoDispatcher) : NativeIoDispatcher :=
  let slot := d.slots i
  {(d.setPort slot.port fun port => {port with outstanding := port.outstanding-1}).setSlot i
      {slot with job := none, port := none, state := .free} with
    used := d.used-1
    ordinaryUsed := if slot.control then d.ordinaryUsed else d.ordinaryUsed-1}

/-- `abandon`. -/
def abandon (ticket : ℕ) (d : NativeIoDispatcher) : Except Fault NativeIoDispatcher :=
  match d.locate ticket with
  | .error fault => .error fault
  | .ok i =>
    if (d.slots i).state ≠ .reserved then
      .error (.failure .busy "An accepted job must retire through its completion owner")
    else .ok (d.releaseSlot i)

/-- `peek`. -/
def peek (port : Option PortRef) (d : NativeIoDispatcher) :
    Except Fault (Option (ℕ × CompletionRecord)) :=
  match d.validateRoute port with
  | .error fault => .error fault
  | .ok p => .ok ((d.ports p).mailbox.peek.map fun i => ((d.slots i).ticket,(d.slots i).completion))

/-- The head of a mailbox is taken out and its slot released. -/
def retire (p : PortRef) (i : Index) (d : NativeIoDispatcher) : NativeIoDispatcher :=
  (d.setPort (some p) fun port => {port with mailbox := port.mailbox.pop}).releaseSlot i

/-- `acknowledge`. -/
def acknowledge (port : Option PortRef) (ticket : ℕ) (d : NativeIoDispatcher) :
    Except Fault NativeIoDispatcher :=
  match d.validateRoute port with
  | .error fault => .error fault
  | .ok p =>
    match d.locate ticket with
    | .error fault => .error fault
    | .ok i =>
      if (d.ports p).mailbox.peek ≠ some i ∨ (d.slots i).port ≠ some p then
        .error (.failure .invalidState "Completion ACK does not match the owner mailbox head")
      else .ok (d.retire p i)

/-- The section of `shutdown` in which it is decided. -/
def shutdown (d : NativeIoDispatcher) : Except Fault NativeIoDispatcher :=
  if d.used ≠ 0 ∨ d.routes.size ≠ 0 then
    .error (.failure .busy "Native I/O routes or tickets have not retired")
  else .ok {d with stopping := true}

/-- A slot waits for another attempt. -/
def delaySlot (i : Index) (due retries : ℕ) (d : NativeIoDispatcher) : NativeIoDispatcher :=
  d.setSlot i {d.slots i with retryDue := due, retries := retries, state := .retryWaiting}

end NativeIoDispatcher

/-- Next step of the worker. -/
inductive Worker
  /-- It looks for work, or waits for some. -/
  | looking
  | executing (i : Index)
  /-- Before the section that schedules another attempt. -/
  | delaying (i : Index)
  /-- Before `after_failed_delivery` and `cleanup_pending`. -/
  | settling (i : Index)
  /-- Before the section that schedules another cleanup. -/
  | postponing (i : Index)
  /-- Before the section that completes the slot. -/
  | completing (i : Index)
  /-- Before the section of the port. -/
  | publishing (i : Index)
  | exited
  deriving DecidableEq

/-- The slot that the worker runs. -/
def Worker.runs : Worker → Option Index
  | .executing i | .delaying i | .settling i | .postponing i | .completing i => some i
  | _ => none

/-- A dispatcher with its worker and its history. -/
structure System where
  /-- The dispatcher. -/
  io : NativeIoDispatcher
  /-- Its worker. -/
  worker : Worker
  /-- What was done to which ticket; history only. -/
  log : List (ℕ × Deed)
  /-- Port each ticket was reserved for; history only. -/
  home : ℕ → Option PortRef

namespace System

/-- A dispatcher is constructed. -/
def initial : System where
  io := .fresh
  worker := .looking
  log := []
  home := fun _ => none

/-- A deed done to the ticket of a slot. -/
def note (i : Index) (deed : Deed) (s : System) : System :=
  {s with log := s.log ++ [((s.io.slots i).ticket,deed)]}

/-- One slot of the loop over the delayed slots, with the earliest deadline
ahead. -/
def wakeDelayed (now : ℕ) (scan : System × Option ℕ) (i : Index) : System × Option ℕ :=
  let (s,earliest) := scan
  let slot := s.io.slots i
  if slot.state ≠ .retryWaiting then (s,earliest)
  else if slot.retryDue ≤ now then ({s.note i .requeue with io := s.io.enqueueSlot i},earliest)
  else (s,some (earliest.elim slot.retryDue (min slot.retryDue)))

/-- The first member of a queue is taken by the worker. -/
def takeSlot (priority : Bool) (i : Index) (s : System) : System :=
  {s.note i .take with
    io := (s.io.pop priority i).setState i .running
    worker := .executing i}

/-- One round of the section in which the worker looks for work. -/
def take (now : ℕ) (s : System) : System :=
  let (s,earliest) := (List.finRange 256).foldl (wakeDelayed now) (s,none)
  match s.io.controlQueue.head with
  | some i => s.takeSlot true i
  | none =>
    match s.io.userQueue.head with
    | some i => s.takeSlot false i
    | none => if s.io.stopping = true ∧ earliest = none then {s with worker := .exited} else s

/-- Change what a slot is to deliver. -/
def setCompletion (i : Index) (record : CompletionRecord) (s : System) : System :=
  {s with io := s.io.setSlot i {s.io.slots i with completion := record}}

/-- The job of a slot runs, and it is decided whether to run it again. -/
def run (i : Index) (step : Step) (retryable : Bool) (maxAttempts : ℕ) (s : System) : System :=
  let slot := s.io.slots i
  {(s.note i .run).setCompletion i (slot.ran step) with
    worker := if slot.again step retryable maxAttempts then .delaying i else .settling i}

/-- The section that schedules another attempt. -/
def delay (i : Index) (now : ℕ) (s : System) : System :=
  let retries := (s.io.slots i).retries
  {s.note i .delay with
    io := s.io.delaySlot i (now+(10 <<< retries)) (retries+1)
    worker := .looking}

/-- A failed job is told, and asked for pending cleanup. -/
def settle (i : Index) (step : Step) (cleanupPending : Bool) (s : System) : System :=
  {s.setCompletion i ((s.io.slots i).told step) with
    worker := if cleanupPending then .postponing i else .completing i}

/-- The section that schedules another cleanup. -/
def postpone (i : Index) (now : ℕ) (s : System) : System :=
  {s.note i .delay with
    io := s.io.delaySlot i (now+50) (s.io.slots i).retries
    worker := .looking}

/-- The section that completes the slot. -/
def complete (i : Index) (s : System) : System :=
  {s.note i .complete with
    io := s.io.setState i .completed
    worker := .publishing i}

/-- The section of the port. -/
def publish (i : Index) (s : System) : System :=
  {s.note i .publish with
    io := s.io.deliver i
    worker := .looking}

/-- An operation that yields a dispatcher. -/
def call (result : Except Fault NativeIoDispatcher) (deed : Option (ℕ × Deed))
    (s : System) : System :=
  match result with
  | .error _ => s
  | .ok io => {s with io := io, log := s.log ++ deed.toList}

/-- A call of `open_route`. -/
def openRoute (waitSet : Option NativeWaitSet) (s : System) : System :=
  s.call ((s.io.openRoute waitSet).map (·.2)) none

/-- A call of `reserve`. -/
def reserve (port : Option PortRef) (record : CompletionRecord) (control : Bool) (s : System) :
    System :=
  match s.io.reserve port record control with
  | .error _ => s
  | .ok (ticket,io) =>
    {s with
      io := io
      log := s.log ++ [(ticket,.reserve)]
      home := Function.update s.home ticket port}

/-- A call of `cancel_queued`. -/
def cancelQueued (ticket : ℕ) (s : System) : System :=
  match s.io.cancelQueued ticket with
  | .error _ => s
  | .ok (cancelled,io) =>
    {s with io := io, log := s.log ++ if cancelled then [(ticket,.cancel)] else []}

end System

/-- One atomic event. -/
inductive Event
  | openRoute (waitSet : Option NativeWaitSet)
  | stopRoute (port : Option PortRef)
  | retireRoute (port : Option PortRef)
  | reserve (port : Option PortRef) (record : CompletionRecord) (control : Bool)
  | install (ticket : ℕ) (job : Option JobId)
  | enqueuePrepared (ticket : ℕ)
  | cancelQueued (ticket : ℕ)
  | abandon (ticket : ℕ)
  | peek (port : Option PortRef)
  | acknowledge (port : Option PortRef) (ticket : ℕ)
  | shutdown
  | take (now : ℕ)
  | run (i : Index) (step : Step) (retryable : Bool) (maxAttempts : ℕ)
  | delay (i : Index) (now : ℕ)
  | settle (i : Index) (step : Step) (cleanupPending : Bool)
  | postpone (i : Index) (now : ℕ)
  | complete (i : Index)
  | publish (i : Index)

/-- Operations are called at any time; the worker follows its steps. -/
def Enabled (s : System) : Event → Prop
  | .take _ => s.worker = .looking
  | .run i _ _ _ => s.worker = .executing i
  | .delay i _ => s.worker = .delaying i
  | .settle i _ _ => s.worker = .settling i
  | .postpone i _ => s.worker = .postponing i
  | .complete i => s.worker = .completing i
  | .publish i => s.worker = .publishing i
  | _ => True

/-- Effect of an enabled event. -/
def next (s : System) : Event → System
  | .openRoute waitSet => s.openRoute waitSet
  | .stopRoute port => s.call (s.io.stopRoute port) none
  | .retireRoute port => s.call (s.io.retireRoute port) none
  | .reserve port record control => s.reserve port record control
  | .install ticket job => s.call (s.io.install ticket job) none
  | .enqueuePrepared ticket => s.call (s.io.enqueuePrepared ticket) (some (ticket,.enqueue))
  | .cancelQueued ticket => s.cancelQueued ticket
  | .abandon ticket => s.call (s.io.abandon ticket) (some (ticket,.abandon))
  | .peek _ => s
  | .acknowledge port ticket => s.call (s.io.acknowledge port ticket) (some (ticket,.acknowledge))
  | .shutdown => s.call s.io.shutdown none
  | .take now => s.take now
  | .run i step retryable maxAttempts => s.run i step retryable maxAttempts
  | .delay i now => s.delay i now
  | .settle i step cleanupPending => s.settle i step cleanupPending
  | .postpone i now => s.postpone i now
  | .complete i => s.complete i
  | .publish i => s.publish i

instance (s : System) (e : Event) : Decidable (Enabled s e) := by
  cases e <;> unfold Enabled <;> infer_instance

/-- The dispatcher as a guarded machine. -/
def machine : Machine System Event where
  enabled := Enabled
  next := next
  decidableEnabled := inferInstance

end Dmw.NativeIo
