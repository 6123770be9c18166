import Dmw.NativeTables
import Dmw.Scripts
import Dmw.TaskCapacity

/-!
# Dispatching without tickets

A Service and an ActionServer reserve the ticket of a response before they take
its request, and the publication of a status reserves one of its own: about
goals that expired, before a request is taken, and about goals that a cancel
request moved, after it was taken. Tickets are also reserved and released by
other threads at any time, so the dispatcher each reservation finds is an input
of the dispatch, as is what other threads and user code do to the executor
meanwhile. The completions that are drained before a batch are not part of it.
-/

namespace Dmw.TicketBackpressure

open NativeIo Scripts TaskCapacity

/-- What the dispatch of an entity raises. -/
inductive Exception
  /-- A call of the dispatcher. -/
  | native (fault : Fault)
  /-- The ready batch does not fit the registrations. -/
  | stale
  /-- User code, whatever it did itself, or a call that reserves nothing. -/
  | handler

/-- A ticket could not be reserved because there is none. -/
def Exception.isExhausted : Exception → Bool
  | .native (.failure code _) => decide (code = .resourceExhausted)
  | _ => false

/-- `_state`. -/
inductive Phase
  | running
  /-- `STOPPING` for this `_fault`. -/
  | faulted (cause : Exception)
  /-- Any other state. -/
  | halted

/-- Requests are numbered. -/
abbrev RequestNumber := ℕ

/-- A request and the response it is taken for. -/
structure Taken where
  /-- The entity it was taken by. -/
  entity : EntityId
  /-- The job of its response. -/
  kind : NativeJobKind
  /-- The request. -/
  request : RequestNumber
  deriving DecidableEq

/-- An executor. -/
structure Owner where
  /-- It is an `AsyncIOExecutor`. -/
  asynchronous : Bool
  /-- `_state` and `_fault`. -/
  phase : Phase
  /-- `context.ok()`. -/
  contextOpen : Bool
  /-- `_closing`. -/
  closing : EntityId → Bool
  /-- There is a `registration`. -/
  registered : EntityId → Bool
  /-- `_lane_busy`. -/
  laneBusy : EntityId → Bool
  /-- There is a `_status_inflight_ticket`. -/
  statusInflight : EntityId → Bool
  /-- Requests in DDS, by the job of their response. -/
  inbox : EntityId → NativeJobKind → List RequestNumber
  /-- Requests taken so far; history only. -/
  taken : List Taken

/-- What other threads and user code do to an executor in the meantime. -/
structure Meanwhile where
  /-- Entities that are closed. -/
  closes : EntityId → Bool
  /-- Entities that are detached with their Node. -/
  detaches : EntityId → Bool
  /-- ActionServers whose status is published. -/
  publishes : EntityId → Bool
  /-- `request_shutdown`. -/
  stops : Bool
  /-- The Context is shut down. -/
  shutsDown : Bool

/-- They leave it alone. -/
def Meanwhile.nothing : Meanwhile := ⟨fun _ => false,fun _ => false,fun _ => false,false,false⟩

/-- The executor after that. -/
def Owner.meet (m : Meanwhile) (s : Owner) : Owner :=
  {s with
    phase := match s.phase with
      | .running => if m.stops then .halted else .running
      | phase => phase
    contextOpen := s.contextOpen && !m.shutsDown
    closing := fun entity => s.closing entity || m.closes entity
    registered := fun entity => s.registered entity && !m.detaches entity
    statusInflight := fun entity => s.statusInflight entity || m.publishes entity}

/-- An entry of a ready batch, with what its dispatch meets. -/
structure Entry where
  /-- Its entity. -/
  entity : EntityId
  /-- `_dispatch_kind`. -/
  kind : DispatchKind
  /-- `generation`. -/
  generation : ℕ
  /-- `_port`. -/
  port : PortRef
  /-- The dispatcher that the reservation for a job finds. -/
  io : NativeJobKind → NativeIoDispatcher
  /-- What happens before the dispatch looks at the executor. -/
  before : Meanwhile
  /-- What happens before it looks for expired goals. -/
  lane : Meanwhile
  /-- What happens while the request is handled. -/
  during : Meanwhile
  /-- The entity cannot be taken out of the WaitSet. -/
  suspendRaises : Bool
  /-- `_finish_lane` in the `try` of `_take_ready` raises. -/
  finishRaises : Bool
  /-- So does the one in its `except`. -/
  cleanupRaises : Bool
  /-- Goals have expired. -/
  expires : Bool
  /-- `take_expired_goals` raises. -/
  expiryRaises : Bool
  /-- `receive` raises. -/
  receiveRaises : NativeJobKind → Bool
  /-- `_has_task_capacity` before the dispatch. -/
  capacity : Bool
  /-- `_has_task_capacity` after it. -/
  capacityLeft : Bool
  /-- What is done with the request raises. -/
  raises : Bool
  /-- `_take_cancel` moves a goal. -/
  commits : Bool
  /-- The snapshot of a status raises. -/
  snapshotRaises : Bool
  /-- The response raises. -/
  responseRaises : Bool
  /-- `_take_result` retains the request. -/
  retains : Bool

/-- A step of an owner. -/
abbrev Act (α : Type) := Script Owner Exception α

/-- Goal and Cancel work is reserved from the control capacity. -/
def isControl : NativeJobKind → Bool
  | .goalResponse | .cancelResponse => true
  | _ => false

/-- The completion of a work. -/
def Entry.record (kind : NativeJobKind) (entry : Entry) : CompletionRecord :=
  {CompletionRecord.fresh with
    attachmentGeneration := entry.generation
    entityId := entry.entity
    kind := kind}

/-- `reserve` of a work or of a publication. -/
def Entry.reserved (kind : NativeJobKind) (entry : Entry) :
    Except Fault (ℕ × NativeIoDispatcher) :=
  (entry.io kind).reserve (some entry.port) (entry.record kind) (isControl kind)

/-- The constructor of a work. -/
def reserve (entry : Entry) (kind : NativeJobKind) : Act Unit :=
  match entry.reserved kind with
  | .ok _ => pure ()
  | .error fault => Script.raise (.native fault)

/-- `receive`; tells whether there was a request. -/
def receive (entry : Entry) (kind : NativeJobKind) : Act Bool := do
  let s ← Script.get
  if entry.receiveRaises kind then Script.raise .handler
  else match s.inbox entry.entity kind with
    | [] => pure false
    | request :: rest => do
      Script.modify fun s => {s with
        inbox := Function.update s.inbox entry.entity
          (Function.update (s.inbox entry.entity) kind rest)
        taken := s.taken ++ [⟨entry.entity,kind,request⟩]}
      pure true

/-- The status of an ActionServer has its ticket. -/
def Owner.setInflight (entity : EntityId) (s : Owner) : Owner :=
  {s with statusInflight := Function.update s.statusInflight entity true}

/-- `_publish_status`. -/
def publishStatus (entry : Entry) : Act Unit := do
  let s ← Script.get
  if s.statusInflight entry.entity || s.closing entry.entity then pure ()
  else if entry.snapshotRaises then Script.raise .handler
  else do
    reserve entry .status
    Script.modify fun s => s.setInflight entry.entity

/-- User code runs, or a Task is made for it. -/
def callBack (entry : Entry) : Act Unit := do
  Script.modify (Owner.meet entry.during)
  if entry.raises then Script.raise .handler else pure ()

/-- `_take_cancel` publishes the status that it changed. -/
def publishCancel (entry : Entry) (kind : NativeJobKind) : Act Unit :=
  if kind = .cancelResponse ∧ entry.commits = true then publishStatus entry else pure ()

/-- The response is submitted. -/
def respond (entry : Entry) : Act Unit :=
  if entry.responseRaises then Script.raise .handler else pure ()

/-- What is done with a request. -/
def handleRequest (entry : Entry) (kind : NativeJobKind) : Act Unit := do
  callBack entry
  publishCancel entry kind
  respond entry

/-- A work is made, and released again if there is no request. -/
def takeRequest (entry : Entry) (kind : NativeJobKind) : Act Bool := do
  reserve entry kind
  let taken ← receive entry kind
  if taken then do
    handleRequest entry kind
    pure true
  else pure false

/-- The loop over the kinds of requests; tells the kind that was taken. -/
def takeRequests (entry : Entry) : List NativeJobKind → Act (Option NativeJobKind)
  | [] => pure none
  | kind :: rest => do
    let taken ← takeRequest entry kind
    if taken then pure (some kind) else takeRequests entry rest

/-- `_suspend_registration`. -/
def suspend (entry : Entry) : Act Unit :=
  if entry.suspendRaises then Script.raise .handler
  else Script.modify fun s => {s with
    registered := Function.update s.registered entry.entity false}

/-- The lane is busy or free. -/
def Owner.setLane (entity : EntityId) (busy : Bool) (s : Owner) : Owner :=
  {s with laneBusy := Function.update s.laneBusy entity busy}

/-- `_begin_lane`. -/
def beginLane (entry : Entry) : Act Unit := do
  Script.modify fun s => s.setLane entry.entity true
  suspend entry

/-- `_state` is `RUNNING`. -/
def Owner.isRunning (s : Owner) : Bool :=
  match s.phase with
  | .running => true
  | _ => false

/-- `_restore_registration`. -/
def Owner.restore (entity : EntityId) (s : Owner) : Owner :=
  {s with
    registered := if s.isRunning && s.contextOpen && !s.closing entity
      then Function.update s.registered entity true else s.registered}

/-- `_finish_lane`; an entity that is closed meanwhile cannot be restored. -/
def finishLane (entity : EntityId) (raises : Bool) : Act Unit := do
  Script.modify fun s => s.setLane entity false
  if raises then Script.raise .handler else Script.modify fun s => s.restore entity

/-- Requests of a Service or an ActionServer, in the order they are looked for. -/
def requestsOf : DispatchKind → List NativeJobKind
  | .service => [.serviceResponse]
  | .actionServer => [.goalResponse,.cancelResponse,.resultResponse]
  | _ => []

/-- What `_take_ready` does between `take_expired_goals` and `_finish_lane`. -/
def publishAndTakeRequests (entry : Entry) : Act (Option NativeJobKind) := do
  if entry.expires then publishStatus entry else pure ()
  takeRequests entry (requestsOf .actionServer)

/-- What it does before `_finish_lane`. -/
def takeExpiredAndRequests (entry : Entry) : Act (Option NativeJobKind) := do
  Script.modify (Owner.meet entry.lane)
  if entry.expiryRaises then Script.raise .handler else publishAndTakeRequests entry

/-- The lane is free again unless a response is awaited. -/
def freeLane (entry : Entry) (found : Option NativeJobKind) : Act Unit :=
  if found = none ∨ found = some .resultResponse ∧ entry.retains = true then
    finishLane entry.entity entry.finishRaises
  else pure ()

/-- The `try` of `_take_ready`. -/
def runLane (entry : Entry) : Act Unit := do
  let found ← takeExpiredAndRequests entry
  freeLane entry found

/-- `_take_ready` of an ActionServer. -/
def takeReady (entry : Entry) : Act Unit := do
  let s ← Script.get
  if s.laneBusy entry.entity then pure ()
  else do
    beginLane entry
    let outcome ← Script.attempt (runLane entry)
    match outcome with
    | .error e => do
      finishLane entry.entity entry.cleanupRaises
      Script.raise e
    | .ok _ => pure ()

/-- A Service in a batch. -/
def takeService (entry : Entry) : Act Unit := do
  let s ← Script.get
  if s.asynchronous && !entry.capacity then suspend entry
  else do
    let _ ← takeRequests entry (requestsOf .service)
    if s.asynchronous && !entry.capacityLeft then suspend entry
    else pure ()

/-- One entry of a batch. -/
def dispatch (entry : Entry) : Act Unit := do
  Script.modify (Owner.meet entry.before)
  let s ← Script.get
  if !s.registered entry.entity then
    if s.asynchronous then pure () else Script.raise .stale
  else if !s.isRunning || !s.contextOpen || s.closing entry.entity then pure ()
  else match entry.kind with
    | .service => takeService entry
    | .actionServer => takeReady entry
    | _ => callBack entry

/-- The loop over a batch. -/
def consumeBatch : List Entry → Act Unit
  | [] => pure ()
  | entry :: rest => do
    dispatch entry
    consumeBatch rest

/-- `_record_fault`. -/
def Owner.recordFault (cause : Exception) (s : Owner) : Owner :=
  match s.phase with
  | .faulted _ => s
  | _ => {s with phase := .faulted cause}

/-- The `except` of `_consume_batch`. -/
def recordOutcome : Except Exception Unit → Act Unit
  | .ok _ => pure ()
  | .error e => Script.modify fun s => s.recordFault e

/-- `spin_once` lets an exception out, `_consume_batch` records it. -/
def ownerStep (batch : List Entry) : Act Unit := do
  let s ← Script.get
  if s.asynchronous then do
    let outcome ← Script.attempt (consumeBatch batch)
    recordOutcome outcome
  else consumeBatch batch

/-! ## Reservations and backpressure -/

/-- There is no ticket for the job. -/
def Entry.Refused (kind : NativeJobKind) (entry : Entry) : Prop :=
  ∃ message, entry.reserved kind = .error (.failure .resourceExhausted message)

/-- There is a ticket for the job. -/
def Entry.Granted (kind : NativeJobKind) (entry : Entry) : Prop :=
  ∃ result, entry.reserved kind = .ok result

/-- Nothing but a ticket is missing before a request is taken. -/
def Entry.OnlyTickets (entry : Entry) : Prop :=
  (∀ kind, entry.Granted kind ∨ entry.Refused kind) ∧ entry.snapshotRaises = false ∧
    entry.expiryRaises = false ∧ (∀ kind, entry.receiveRaises kind = false) ∧
      entry.suspendRaises = false ∧ entry.cleanupRaises = false

/-- Nor does anything happen meanwhile. -/
def Entry.Uneventful (entry : Entry) : Prop :=
  entry.OnlyTickets ∧ entry.raises = false ∧ entry.responseRaises = false ∧
    entry.before = .nothing ∧ entry.lane = .nothing ∧ entry.during = .nothing

/-- The request that is ready, by the job of its response. -/
def Owner.ready (entry : Entry) (kinds : List NativeJobKind) (s : Owner) :
    Option NativeJobKind :=
  kinds.find? fun kind => !(s.inbox entry.entity kind).isEmpty

/-- The entity is dispatched. -/
def Owner.Reaches (entry : Entry) (s : Owner) : Prop :=
  s.registered entry.entity = true ∧
    (s.isRunning = true ∧ s.contextOpen = true ∧ s.closing entry.entity = false) ∧
      (entry.kind = .service ∧ ¬ (s.asynchronous = true ∧ entry.capacity = false) ∨
        entry.kind = .actionServer ∧ s.laneBusy entry.entity = false)

/-- No status is in flight, so that one would be published. -/
def Owner.SlotOpen (entry : Entry) (s : Owner) : Prop :=
  s.statusInflight entry.entity = false ∧ s.closing entry.entity = false

/-- The publication about a cancel request that moved a goal finds no ticket. -/
def StarvesAfter (s : Owner) (entry : Entry) : Prop :=
  entry.raises = false ∧ entry.commits = true ∧ (s.meet entry.during).SlotOpen entry ∧
    entry.snapshotRaises = false ∧ entry.Refused .status

/-- One of these reservations is made and finds no ticket: each one is made if
the ones before found a ticket and no request. A cancel request that is taken
leads to one more. -/
def StarvesAt (s : Owner) (entry : Entry) : List NativeJobKind → Prop
  | [] => False
  | kind :: rest => entry.Refused kind ∨ entry.Granted kind ∧ entry.receiveRaises kind = false ∧
      (s.inbox entry.entity kind = [] ∧ StarvesAt s entry rest ∨
        s.inbox entry.entity kind ≠ [] ∧ kind = .cancelResponse ∧ StarvesAfter s entry)

/-- The publication about expired goals finds no ticket, or a request does. -/
def StarvesInLane (s : Owner) (entry : Entry) : Prop :=
  (entry.expires = true ∧ s.SlotOpen entry) ∧ entry.snapshotRaises = false ∧
      (entry.Refused .status ∨ entry.Granted .status ∧
        StarvesAt (s.setInflight entry.entity) entry (requestsOf .actionServer)) ∨
    ¬ (entry.expires = true ∧ s.SlotOpen entry) ∧ StarvesAt s entry (requestsOf .actionServer)

/-- So does one of these reservations in the lane, and that is what is raised. -/
def StarvesReady (s : Owner) (entry : Entry) : Prop :=
  (entry.suspendRaises = false ∧ entry.cleanupRaises = false) ∧
    entry.expiryRaises = false ∧ StarvesInLane (s.meet entry.lane) entry

/-- The dispatch of the entity makes a reservation that finds no ticket. -/
def Starves (s : Owner) (entry : Entry) : Prop :=
  (s.meet entry.before).Reaches entry ∧
    (entry.kind = .service ∧ StarvesAt (s.meet entry.before) entry (requestsOf .service) ∨
      entry.kind = .actionServer ∧ StarvesReady (s.meet entry.before) entry)

/-- Every reservation the batch comes to finds a ticket. -/
def Supplied : Owner → List Entry → Prop
  | _, [] => True
  | s, entry :: rest => ¬ Starves s entry ∧
      ((dispatch entry s).1 = .ok () → Supplied (dispatch entry s).2 rest)

/-- The first request of a kind has been taken, and nothing else. -/
def Takes (entry : Entry) (kind : NativeJobKind) (s s' : Owner) : Prop :=
  ∃ request, (s.inbox entry.entity kind).head? = some request ∧
    s'.taken = s.taken ++ [⟨entry.entity,kind,request⟩]

/-- The entity is registered and its lane is free. -/
def Owner.restored (entity : EntityId) (s : Owner) : Owner :=
  {s with
    laneBusy := Function.update s.laneBusy entity false
    registered := Function.update s.registered entity true}

/-- Once there are tickets, the ready request is taken. -/
def Redispatches (entry : Entry) (s : Owner) : Prop :=
  ∀ later : Entry, later.entity = entry.entity → later.kind = entry.kind →
    later.capacity = true → later.before = .nothing → later.OnlyTickets →
      (∀ kind, later.Granted kind) → ∃ kind, s.ready later (requestsOf later.kind) = some kind ∧
        Takes later kind s (dispatch later (s.restored later.entity)).2

/-- The batch gets to the entry, which is dispatched and has this request ready. -/
structure Comes (s : Owner) (batch : List Entry) (before : List Entry) (entry : Entry)
    (kind : NativeJobKind) : Prop where
  part : ∃ after, batch = before ++ entry :: after
  returned : (consumeBatch before s).1 = .ok ()
  reached : ((consumeBatch before s).2.meet entry.before).Reaches entry
  ready : (consumeBatch before s).2.ready entry (requestsOf entry.kind) = some kind

/-- Having no ticket is no fault. -/
structure Backpressure (s : Owner) (batch : List Entry) : Prop where
  /-- It is not raised out of the step. -/
  returns : ∀ e, (ownerStep batch s).1 = .error e → e.isExhausted = false
  /-- It is not recorded. -/
  unfaulted : ∀ e, (ownerStep batch s).2.phase = .faulted e →
    s.phase = .faulted e ∨ e.isExhausted = false
  /-- A request without a ticket stays in DDS. -/
  untaken : ∀ before entry kind, Comes s batch before entry kind → entry.Refused kind →
    (dispatch entry (consumeBatch before s).2).2.taken = (consumeBatch before s).2.taken
  /-- A goal or cancel request that can get a ticket is taken. -/
  control : ∀ before entry kind, Comes s batch before entry kind → isControl kind = true →
    entry.Granted kind → entry.OnlyTickets →
      Takes entry kind (consumeBatch before s).2 (dispatch entry (consumeBatch before s).2).2
  /-- A request without a ticket is dispatched again when there is one. -/
  again : (∀ entry ∈ batch, entry.Uneventful) →
    ∀ before entry kind, Comes s batch before entry kind → entry.Refused kind →
      Redispatches entry (ownerStep batch s).2

/-! ## One reservation -/

section Dispatch

variable {s s' s'' : Owner} {entry : Entry} {kind : NativeJobKind} {kinds : List NativeJobKind}

/-- The executor may stop, but records no fault. -/
def Steady (s s' : Owner) : Prop := s'.phase = s.phase ∨ s'.phase = .halted

theorem Steady.refl (s : Owner) : Steady s s := .inl rfl

theorem Steady.trans (h : Steady s s') (h' : Steady s' s'') : Steady s s'' := by
  rcases h' with h' | h'
  · exact h.imp h'.trans h'.trans
  · exact .inr h'

theorem Steady.meet (m : Meanwhile) (s : Owner) : Steady s (s.meet m) := by
  unfold Steady Owner.meet
  cases s.phase with
  | running => cases m.stops <;> first | exact .inl rfl | exact .inr rfl
  | _ => exact .inl rfl

/-- An executor that still runs did so before. -/
theorem Steady.running (h : Steady s s') (hrunning : s'.isRunning = true) : s.isRunning = true := by
  unfold Owner.isRunning at hrunning ⊢
  rcases h with h | h
  · rw [← h]
    exact hrunning
  · rw [h] at hrunning
    cases hrunning

/-- A fault was there before. -/
theorem Steady.faulted (h : Steady s s') {e : Exception} (hfault : s'.phase = .faulted e) :
    s.phase = .faulted e := by
  rcases h with h | h
  · exact h.symm.trans hfault
  · rw [h] at hfault
    cases hfault

/-- A script ends in states of which this holds, as it is exhausted or not. -/
abbrev Ends {α : Type} (s : Owner) (x : Act α) (p : Bool → Owner → Prop) : Prop :=
  Script.Ensures (· = s) x (fun _ => p false) fun e => p e.isExhausted

theorem Ends.weaken {α : Type} {x : Act α} {p q : Bool → Owner → Prop} (h : Ends s x p)
    (himp : ∀ exhausted u, p exhausted u → q exhausted u) : Ends s x q :=
  Script.Ensures.weaken h (fun _ h => h) (fun _ => himp false) fun e => himp e.isExhausted

/-- A reservation ends in one way. -/
theorem Entry.Granted.not_refused (h : entry.Granted kind) : ¬ entry.Refused kind := by
  obtain ⟨result,hresult⟩ := h
  rintro ⟨message,hmessage⟩
  rw [hresult] at hmessage
  cases hmessage

theorem reserve_spec (entry : Entry) (kind : NativeJobKind) (s : Owner) :
    Script.Ensures (· = s) (reserve entry kind)
      (fun _ s' => s' = s ∧ entry.Granted kind)
      (fun e s' => s' = s ∧ ¬ entry.Granted kind ∧
        (e.isExhausted = true ↔ entry.Refused kind)) := by
  unfold reserve
  cases hreserved : entry.reserved kind with
  | ok result => exact Script.Ensures.pure fun u hu => ⟨hu,result,hreserved⟩
  | error fault =>
    refine Script.Ensures.raise fun u hu => ⟨hu,?_,?_⟩
    · rintro ⟨result,hresult⟩
      rw [hreserved] at hresult
      cases hresult
    · constructor
      · intro hexhausted
        cases fault with
        | failure code message =>
          have hcode : code = .resourceExhausted := of_decide_eq_true hexhausted
          exact ⟨message,by rw [hreserved,hcode]⟩
        | entityClosed => cases hexhausted
      · rintro ⟨message,hmessage⟩
        rw [hreserved] at hmessage
        cases hmessage
        rfl

/-- A request was ready and has been taken. -/
def Took (entry : Entry) (kind : NativeJobKind) (s s' : Owner) : Prop :=
  s.inbox entry.entity kind ≠ [] ∧ Steady s s' ∧ Takes entry kind s s'

/-- The condition on the publication of a status reads the slot, and whether the
server is closed. -/
theorem starvesAfter_congr (hslot : s'.statusInflight = s.statusInflight)
    (hclosing : s'.closing = s.closing) : StarvesAfter s' entry ↔ StarvesAfter s entry := by
  unfold StarvesAfter Owner.SlotOpen Owner.meet
  rw [hslot,hclosing]

theorem receive_spec (entry : Entry) (kind : NativeJobKind) (s : Owner) :
    Script.Ensures (· = s) (receive entry kind)
      (fun taken s' => entry.receiveRaises kind = false ∧
        (taken = false ∧ s.inbox entry.entity kind = [] ∧ s' = s ∨
          taken = true ∧ Took entry kind s s' ∧ (StarvesAfter s' entry ↔ StarvesAfter s entry)))
      (fun e s' => entry.receiveRaises kind = true ∧ e.isExhausted = false ∧ s' = s) := by
  refine Script.Ensures.inspect fun t ht => ?_
  subst ht
  cases hraises : entry.receiveRaises kind with
  | true => exact Script.Ensures.raise fun u hu => ⟨rfl,rfl,hu⟩
  | false =>
    cases hinbox : t.inbox entry.entity kind with
    | nil => exact Script.Ensures.pure fun u hu => ⟨rfl,.inl ⟨rfl,rfl,hu⟩⟩
    | cons request rest =>
      have hready : t.inbox entry.entity kind ≠ [] := fun h => by rw [hinbox] at h; cases h
      have hhead : (t.inbox entry.entity kind).head? = some request := by rw [hinbox]; rfl
      refine Script.Ensures.bind (m := fun _ u => Took entry kind t u ∧
        (StarvesAfter u entry ↔ StarvesAfter t entry)) ?_ fun _ =>
        Script.Ensures.pure fun u hu => ⟨rfl,.inr ⟨rfl,hu⟩⟩
      refine Script.Ensures.modify ?_
      rintro _ rfl
      exact ⟨⟨hready,.inl rfl,request,hhead,rfl⟩,starvesAfter_congr rfl rfl⟩

/-- A publication is exhausted if it finds no ticket; it changes the slot only. -/
theorem publishStatus_spec (entry : Entry) (s : Owner) :
    Script.Ensures (· = s) (publishStatus entry)
      (fun _ s' => (s.SlotOpen entry → (entry.snapshotRaises = false ∧ entry.Granted .status) ∧
        s' = s.setInflight entry.entity) ∧ (¬ s.SlotOpen entry → s' = s))
      (fun e s' => s' = s ∧ s.SlotOpen entry ∧
        (e.isExhausted = true ↔ entry.snapshotRaises = false ∧ entry.Refused .status) ∧
          (entry.snapshotRaises = false → ¬ entry.Granted .status)) := by
  refine Script.Ensures.inspect fun t ht => ?_
  subst ht
  by_cases hskip : (t.statusInflight entry.entity || t.closing entry.entity) = true
  · rw [if_pos hskip]
    have hbusy : ¬ t.SlotOpen entry := by
      rintro ⟨hslot,hopen⟩
      simp [hslot,hopen] at hskip
    exact Script.Ensures.pure fun u hu => ⟨fun h => absurd h hbusy,fun _ => hu⟩
  rw [if_neg hskip]
  have hopen : t.SlotOpen entry := by simpa [Owner.SlotOpen] using hskip
  by_cases hsnapshot : entry.snapshotRaises = true
  · rw [if_pos hsnapshot]
    refine Script.Ensures.raise fun u hu => ⟨hu,hopen,?_,fun h => ?_⟩
    · refine iff_of_false Bool.noConfusion fun h => ?_
      rw [hsnapshot] at h
      cases h.1
    · rw [hsnapshot] at h
      cases h
  · rw [if_neg hsnapshot]
    have hquiet : entry.snapshotRaises = false := Bool.eq_false_iff.mpr hsnapshot
    refine Script.Ensures.bind ((reserve_spec entry .status t).weaken (fun _ h => h)
      (fun _ _ h => h) ?_) fun _ => ?_
    · rintro e u ⟨hu,hdenied,hexhausted⟩
      exact ⟨hu,hopen,⟨fun h => ⟨hquiet,hexhausted.mp h⟩,fun h => hexhausted.mpr h.2⟩,fun _ => hdenied⟩
    · refine Script.Ensures.modify ?_
      rintro _ ⟨rfl,hgranted⟩
      exact ⟨fun _ => ⟨⟨hquiet,hgranted⟩,rfl⟩,fun h => absurd hopen h⟩

/-- What the handling of a taken request leaves behind. -/
structure Handled (s : Owner) (entry : Entry) (kind : NativeJobKind) (exhausted : Bool)
    (s' : Owner) : Prop where
  steady : Steady s s'
  taken : s'.taken = s.taken
  starves : exhausted = true ↔ kind = .cancelResponse ∧ StarvesAfter s entry

/-- It is exhausted if it publishes a status that finds no ticket. -/
theorem handleRequest_spec (entry : Entry) (kind : NativeJobKind) (s : Owner) :
    Ends s (handleRequest entry kind) (Handled s entry kind) := by
  let called := s.meet entry.during
  have hcalled : Steady s called := .meet _ _
  refine Script.Ensures.bind (m := fun _ u => u = called ∧ entry.raises = false) ?_ fun _ => ?_
  · refine Script.Ensures.bind (m := fun _ u => u = called) ?_ fun _ => ?_
    · refine Script.Ensures.modify ?_
      rintro _ rfl
      rfl
    · by_cases hraises : entry.raises = true
      · rw [if_pos hraises]
        refine Script.Ensures.raise ?_
        rintro _ rfl
        refine ⟨hcalled,rfl,iff_of_false Bool.noConfusion ?_⟩
        rintro ⟨-,hquiet,-⟩
        rw [hraises] at hquiet
        cases hquiet
      · rw [if_neg hraises]
        exact Script.Ensures.pure fun u hu => ⟨hu,Bool.eq_false_iff.mpr hraises⟩
  refine Script.Ensures.bind (m := fun _ => Handled s entry kind false) ?_ fun _ => ?_
  · unfold publishCancel
    by_cases hpublishes : kind = .cancelResponse ∧ entry.commits = true
    · rw [if_pos hpublishes]
      rintro _ ⟨rfl,hquiet⟩
      refine ((publishStatus_spec entry called).weaken (fun _ h => h) ?_ ?_) called rfl
      · rintro - u ⟨hpublished,hskipped⟩
        by_cases hopen : called.SlotOpen entry
        · obtain ⟨⟨-,hgranted⟩,rfl⟩ := hpublished hopen
          refine ⟨hcalled,rfl,iff_of_false Bool.noConfusion ?_⟩
          rintro ⟨-,-,-,-,-,hrefused⟩
          exact hgranted.not_refused hrefused
        · obtain rfl := hskipped hopen
          refine ⟨hcalled,rfl,iff_of_false Bool.noConfusion ?_⟩
          rintro ⟨-,-,-,hslot,-⟩
          exact hopen hslot
      · rintro e _ ⟨rfl,hopen,hexhausted,-⟩
        refine ⟨hcalled,rfl,hexhausted.trans ⟨fun h => ?_,?_⟩⟩
        · exact ⟨hpublishes.1,hquiet,hpublishes.2,hopen,h⟩
        · rintro ⟨-,-,-,-,h⟩
          exact h
    · rw [if_neg hpublishes]
      refine Script.Ensures.pure ?_
      rintro _ ⟨rfl,-⟩
      refine ⟨hcalled,rfl,iff_of_false Bool.noConfusion ?_⟩
      rintro ⟨hcancel,-,hcommits,-⟩
      exact hpublishes ⟨hcancel,hcommits⟩
  · unfold respond
    by_cases hresponse : entry.responseRaises = true
    · rw [if_pos hresponse]
      exact Script.Ensures.raise fun u hu => hu
    · rw [if_neg hresponse]
      exact Script.Ensures.pure fun u hu => hu

/-- How the work of one kind ends. -/
theorem takeRequest_spec (entry : Entry) (kind : NativeJobKind) (s : Owner) :
    Script.Ensures (· = s) (takeRequest entry kind)
      (fun taken s' => entry.Granted kind ∧ entry.receiveRaises kind = false ∧
        (taken = false ∧ s.inbox entry.entity kind = [] ∧ s' = s ∨
          taken = true ∧ Took entry kind s s' ∧ ¬ (kind = .cancelResponse ∧ StarvesAfter s entry)))
      (fun e s' => s' = s ∧ ¬ entry.Granted kind ∧ (e.isExhausted = true ↔ entry.Refused kind) ∨
        entry.Granted kind ∧ (entry.receiveRaises kind = true ∧ e.isExhausted = false ∧ s' = s ∨
          entry.receiveRaises kind = false ∧ Took entry kind s s' ∧
            (e.isExhausted = true ↔ kind = .cancelResponse ∧ StarvesAfter s entry))) := by
  refine Script.Ensures.bind (m := fun _ u => u = s ∧ entry.Granted kind) ?_ fun _ => ?_
  · exact (reserve_spec entry kind s).weaken (fun _ h => h) (fun _ _ h => h) fun _ _ h => .inl h
  rintro u ⟨rfl,hgranted⟩
  refine Script.Ensures.bind ((receive_spec entry kind u).weaken (fun _ h => h) (fun _ _ h => h) ?_)
    (fun taken => ?_) u rfl
  · exact fun e v hv => .inr ⟨hgranted,.inl hv⟩
  cases taken with
  | false =>
    refine Script.Ensures.pure fun v hv => ⟨hgranted,hv.1,?_⟩
    rcases hv.2 with hnothing | ⟨h,-⟩
    · exact .inl hnothing
    · cases h
  | true =>
    rintro v ⟨hreceived,⟨h,-⟩ | ⟨-,htook,hafter⟩⟩
    · cases h
    have hlater : ∀ {exhausted w}, Handled v entry kind exhausted w → Took entry kind u w ∧
        (exhausted = true ↔ kind = .cancelResponse ∧ StarvesAfter u entry) := by
      intro exhausted w hw
      obtain ⟨hready,hsteady,request,hhead,htaken⟩ := htook
      exact ⟨⟨hready,hsteady.trans hw.steady,request,hhead,hw.taken.trans htaken⟩,
        hw.starves.trans (and_congr Iff.rfl hafter)⟩
    have hhandled : Script.Ensures (· = v) (handleRequest entry kind)
        (fun _ => Handled v entry kind false) _ := handleRequest_spec entry kind v
    refine (Script.Ensures.bind (hhandled.weaken (fun _ h => h) (fun _ _ h => h) ?_)
      fun _ => ?_) v rfl
    · rintro e w hw
      obtain ⟨hw,hexhausted⟩ := hlater hw
      exact .inr ⟨hgranted,.inr ⟨hreceived,hw,hexhausted⟩⟩
    · refine Script.Ensures.pure fun w hw => ⟨hgranted,hreceived,.inr ⟨rfl,?_⟩⟩
      obtain ⟨hw,hexhausted⟩ := hlater hw
      exact ⟨hw,fun h => by cases hexhausted.mpr h⟩

/-! ## The dispatch of an entity -/

/-- What a dispatch that looks for these requests leaves behind. -/
structure Round (s : Owner) (entry : Entry) (kinds : List NativeJobKind) (starving : Prop)
    (exhausted : Bool) (s' : Owner) : Prop where
  steady : Steady s s'
  /-- It is exhausted if it makes a reservation that finds no ticket. -/
  starves : exhausted = true ↔ starving
  /-- A request without a ticket stays in DDS. -/
  untaken : ∀ kind, s.ready entry kinds = some kind → entry.Refused kind → s'.taken = s.taken
  /-- Otherwise the ready request is taken. -/
  takes : entry.OnlyTickets → exhausted = false → ∀ kind, s.ready entry kinds = some kind →
    Takes entry kind s s'

/-- Only the requests of the entity are read, and only what is taken is told. -/
theorem Round.congr {starving : Prop} {exhausted : Bool}
    (h : Round s entry kinds starving exhausted s') {t t' : Owner} (hsteady : Steady t s)
    (hinbox : s.inbox = t.inbox) (htaken : s.taken = t.taken) (hsteady' : Steady s' t')
    (htaken' : t'.taken = s'.taken) : Round t entry kinds starving exhausted t' where
  steady := hsteady.trans (h.steady.trans hsteady')
  starves := h.starves
  untaken kind hready hrefused := by
    rw [htaken',← htaken]
    exact h.untaken kind (by unfold Owner.ready at hready ⊢; rw [hinbox]; exact hready) hrefused
  takes honly hexhausted kind hready := by
    obtain ⟨request,hhead,htake⟩ := h.takes honly hexhausted kind
      (by unfold Owner.ready at hready ⊢; rw [hinbox]; exact hready)
    exact ⟨request,by rw [← hinbox]; exact hhead,by rw [htaken',← htaken]; exact htake⟩

theorem starvesAt_congr (hinbox : s'.inbox = s.inbox)
    (hslot : s'.statusInflight = s.statusInflight) (hclosing : s'.closing = s.closing) :
    StarvesAt s' entry kinds ↔ StarvesAt s entry kinds := by
  induction kinds with
  | nil => exact Iff.rfl
  | cons kind rest ih =>
    unfold StarvesAt
    rw [hinbox,ih,starvesAfter_congr hslot hclosing]

/-- A request of the first kind is ready. -/
theorem ready_cons_of_ne (h : s.inbox entry.entity kind ≠ []) :
    s.ready entry (kind :: kinds) = some kind := by
  have htest : (!(s.inbox entry.entity kind).isEmpty) = true := by
    simpa using h
  exact List.find?_cons_of_pos htest

theorem ready_cons_of_nil (h : s.inbox entry.entity kind = []) :
    s.ready entry (kind :: kinds) = s.ready entry kinds := by
  have htest : ¬ (!(s.inbox entry.entity kind).isEmpty) = true := by
    rw [h]
    exact Bool.noConfusion
  exact List.find?_cons_of_neg htest

/-- The first kind has a request and it is taken. -/
theorem Round.of_took {exhausted : Bool} (hgranted : entry.Granted kind)
    (hreceived : entry.receiveRaises kind = false) (h : Took entry kind s s')
    (hexhausted : exhausted = true ↔ kind = .cancelResponse ∧ StarvesAfter s entry) :
    Round s entry (kind :: kinds) (StarvesAt s entry (kind :: kinds)) exhausted s' where
  steady := h.2.1
  starves := by
    refine hexhausted.trans ⟨fun hafter => .inr ⟨hgranted,hreceived,.inr ⟨h.1,hafter⟩⟩,?_⟩
    rintro (hrefused | ⟨-,-,⟨hempty,-⟩ | ⟨-,hafter⟩⟩)
    · exact absurd hrefused hgranted.not_refused
    · exact absurd hempty h.1
    · exact hafter
  untaken found hready hrefused := by
    rw [ready_cons_of_ne h.1] at hready
    cases hready
    exact absurd hrefused hgranted.not_refused
  takes _ _ found hready := by
    rw [ready_cons_of_ne h.1] at hready
    cases hready
    exact h.2.2

theorem takeRequests_spec (entry : Entry) (kinds : List NativeJobKind) (s : Owner) :
    Ends s (takeRequests entry kinds) (Round s entry kinds (StarvesAt s entry kinds)) := by
  induction kinds with
  | nil =>
    refine Script.Ensures.pure ?_
    rintro _ rfl
    exact ⟨.refl _,iff_of_false Bool.noConfusion id,fun _ hready => (by cases hready),
      fun _ _ _ hready => by cases hready⟩
  | cons kind rest ih =>
    refine Script.Ensures.bind ((takeRequest_spec entry kind s).weaken (fun _ h => h)
      (fun _ _ h => h) ?_) fun taken => ?_
    · rintro e u (⟨rfl,hdenied,hexhausted⟩ | ⟨hgranted,⟨hraises,hquiet,rfl⟩ |
        ⟨hreceived,htook,hexhausted⟩⟩)
      · refine ⟨.refl _,?_,fun _ _ _ => rfl,fun honly hquiet => ?_⟩
        · exact ⟨fun h => .inl (hexhausted.mp h),fun h =>
            hexhausted.mpr (h.elim id fun h => absurd h.1 hdenied)⟩
        · have hrefused : entry.Refused kind := (honly.1 kind).resolve_left hdenied
          rw [hexhausted.mpr hrefused] at hquiet
          cases hquiet
      · refine ⟨.refl _,?_,fun _ _ _ => rfl,fun honly => ?_⟩
        · rw [hquiet]
          refine iff_of_false Bool.noConfusion ?_
          rintro (hrefused | ⟨-,hreceived,-⟩)
          · exact hgranted.not_refused hrefused
          · exact Bool.noConfusion (hreceived.symm.trans hraises)
        · exact Bool.noConfusion ((honly.2.2.2.1 kind).symm.trans hraises)
      · exact Round.of_took hgranted hreceived htook hexhausted
    · cases taken with
      | true =>
        refine Script.Ensures.pure ?_
        rintro u ⟨hgranted,hreceived,⟨h,-⟩ | ⟨-,htook,hquiet⟩⟩
        · cases h
        · exact Round.of_took hgranted hreceived htook (iff_of_false Bool.noConfusion hquiet)
      | false =>
        rintro u ⟨hgranted,hreceived,⟨-,hempty,rfl⟩ | ⟨h,-⟩⟩
        · have hstarves : StarvesAt u entry rest ↔ StarvesAt u entry (kind :: rest) := by
            refine ⟨fun h => .inr ⟨hgranted,hreceived,.inl ⟨hempty,h⟩⟩,?_⟩
            rintro (hrefused | ⟨-,-,⟨-,h⟩ | ⟨hready,-⟩⟩)
            · exact absurd hrefused hgranted.not_refused
            · exact h
            · exact absurd hempty hready
          have hround : ∀ exhausted v, Round u entry rest (StarvesAt u entry rest) exhausted v →
              Round u entry (kind :: rest) (StarvesAt u entry (kind :: rest)) exhausted v := by
            intro exhausted v hv
            refine ⟨hv.steady,hv.starves.trans hstarves,fun found hready => ?_,
              fun honly hquiet found hready => ?_⟩
            · rw [ready_cons_of_nil hempty] at hready
              exact hv.untaken found hready
            · rw [ready_cons_of_nil hempty] at hready
              exact hv.takes honly hquiet found hready
          exact ih.weaken hround u rfl
        · cases h

end Dispatch

section Batch

variable {s s' s'' : Owner} {entry : Entry} {kind : NativeJobKind} {batch : List Entry}

/-- The condition of a round may be put another way. -/
theorem Round.iff {starving starving' : Prop} {exhausted : Bool} {kinds : List NativeJobKind}
    (h : Round s entry kinds starving exhausted s') (hiff : starving ↔ starving') :
    Round s entry kinds starving' exhausted s' :=
  ⟨h.steady,h.starves.trans hiff,h.untaken,h.takes⟩

/-- A round that raises before anything is reserved. -/
theorem Round.of_raised {starving : Prop} {kinds : List NativeJobKind} (hsteady : Steady s s')
    (htaken : s'.taken = s.taken) (hquiet : ¬ starving) (hother : ¬ entry.OnlyTickets) :
    Round s entry kinds starving false s' :=
  ⟨hsteady,iff_of_false Bool.noConfusion hquiet,fun _ _ _ => htaken,
    fun honly => absurd honly hother⟩

theorem publishAndTakeRequests_spec (entry : Entry) (s : Owner) :
    Ends s (publishAndTakeRequests entry)
      (Round s entry (requestsOf .actionServer) (StarvesInLane s entry)) := by
  -- Without a publication the requests come next.
  have hskipped : ¬ (entry.expires = true ∧ s.SlotOpen entry) →
      Ends s (takeRequests entry (requestsOf .actionServer))
        (Round s entry (requestsOf .actionServer) (StarvesInLane s entry)) := by
    intro hskip
    have hstarves : StarvesAt s entry (requestsOf .actionServer) ↔ StarvesInLane s entry :=
      ⟨fun h => .inr ⟨hskip,h⟩,fun h => (h.resolve_left fun h => hskip h.1).2⟩
    exact (takeRequests_spec entry (requestsOf .actionServer) s).weaken
      fun _ _ hu => hu.iff hstarves
  unfold publishAndTakeRequests
  by_cases hexpires : entry.expires = true
  · rw [if_pos hexpires]
    refine Script.Ensures.bind ((publishStatus_spec entry s).weaken (fun _ h => h)
      (fun _ _ h => h) ?_) fun _ => ?_
    · rintro e _ ⟨rfl,hopen,hexhausted,hdenied⟩
      refine ⟨.refl _,hexhausted.trans ⟨fun h => ?_,?_⟩,fun _ _ _ => rfl,fun honly hquiet => ?_⟩
      · exact .inl ⟨⟨hexpires,hopen⟩,h.1,.inl h.2⟩
      · rintro (⟨-,hsnapshot,hrefused | ⟨hgranted,-⟩⟩ | ⟨hskip,-⟩)
        · exact ⟨hsnapshot,hrefused⟩
        · exact absurd hgranted (hdenied hsnapshot)
        · exact absurd ⟨hexpires,hopen⟩ hskip
      · have hrefused : entry.Refused .status := (honly.1 .status).resolve_left (hdenied honly.2.1)
        rw [hexhausted.mpr ⟨honly.2.1,hrefused⟩] at hquiet
        cases hquiet
    · rintro u ⟨hpublished,hskip⟩
      by_cases hopen : s.SlotOpen entry
      · obtain ⟨⟨hsnapshot,hgranted⟩,rfl⟩ := hpublished hopen
        have hstarves : StarvesAt (s.setInflight entry.entity) entry (requestsOf .actionServer) ↔
            StarvesInLane s entry := by
          refine ⟨fun h => .inl ⟨⟨hexpires,hopen⟩,hsnapshot,.inr ⟨hgranted,h⟩⟩,?_⟩
          rintro (⟨-,-,hrefused | ⟨-,h⟩⟩ | ⟨hskip,-⟩)
          · exact absurd hrefused hgranted.not_refused
          · exact h
          · exact absurd ⟨hexpires,hopen⟩ hskip
        have hrest : Ends (s.setInflight entry.entity) (takeRequests entry (requestsOf .actionServer))
            (Round s entry (requestsOf .actionServer) (StarvesInLane s entry)) :=
          (takeRequests_spec entry (requestsOf .actionServer) _).weaken fun _ _ hv =>
            (hv.iff hstarves).congr (.inl rfl) rfl rfl (.refl _) rfl
        exact hrest _ rfl
      · obtain rfl := hskip hopen
        exact hskipped (fun h => hopen h.2) _ rfl
  · rw [if_neg hexpires]
    exact hskipped fun h => hexpires h.1

/-- The condition while nothing else has raised. -/
abbrev StarvesLane (s : Owner) (entry : Entry) : Prop :=
  entry.expiryRaises = false ∧ StarvesInLane (s.meet entry.lane) entry

theorem takeExpiredAndRequests_spec (entry : Entry) (s : Owner) :
    Ends s (takeExpiredAndRequests entry)
      (Round s entry (requestsOf .actionServer) (StarvesLane s entry)) := by
  let met := s.meet entry.lane
  refine Script.Ensures.bind (m := fun _ u => u = met) ?_ fun _ => ?_
  · refine Script.Ensures.modify ?_
    rintro _ rfl
    rfl
  by_cases hraises : entry.expiryRaises = true
  · rw [if_pos hraises]
    refine Script.Ensures.raise ?_
    rintro _ rfl
    refine Round.of_raised (.meet _ _) rfl (fun h => ?_) fun honly => ?_
    · exact Bool.noConfusion (h.1.symm.trans hraises)
    · exact Bool.noConfusion (honly.2.2.1.symm.trans hraises)
  · rw [if_neg hraises]
    have hquiet : entry.expiryRaises = false := Bool.eq_false_iff.mpr hraises
    have hstarves : StarvesInLane met entry ↔ StarvesLane s entry :=
      ⟨fun h => ⟨hquiet,h⟩,fun h => h.2⟩
    have hrest : Ends met (publishAndTakeRequests entry)
        (Round s entry (requestsOf .actionServer) (StarvesLane s entry)) :=
      (publishAndTakeRequests_spec entry met).weaken fun _ _ hv =>
        (hv.iff hstarves).congr (.meet _ _) rfl rfl (.refl _) rfl
    exact hrest

/-- Two states differ in what is busy and what is registered only. -/
def Alike (s s' : Owner) : Prop :=
  s' = {s with laneBusy := s'.laneBusy, registered := s'.registered}

/-- The entity is registered no more, unless that raises. -/
theorem suspend_spec {p : Owner → Prop} (entry : Entry) (hkept : ∀ u v, p u → Alike u v → p v) :
    Script.Ensures p (suspend entry) (fun _ u => p u ∧ entry.suspendRaises = false)
      (fun e u => p u ∧ entry.suspendRaises = true ∧ e.isExhausted = false) := by
  unfold suspend
  cases hraises : entry.suspendRaises with
  | true => exact Script.Ensures.raise fun u hu => ⟨hu,rfl,rfl⟩
  | false => exact Script.Ensures.modify fun u hu => ⟨hkept u _ hu rfl,rfl⟩

theorem finishLane_spec {p : Owner → Prop} (entity : EntityId) (raises : Bool)
    (hkept : ∀ u v, p u → Alike u v → p v) :
    Script.Ensures p (finishLane entity raises) (fun _ u => p u ∧ raises = false)
      (fun e u => p u ∧ raises = true ∧ e.isExhausted = false) := by
  refine Script.Ensures.bind (m := fun _ => p) ?_ fun _ => ?_
  · exact Script.Ensures.modify fun u hu => hkept u _ hu rfl
  cases raises with
  | true => exact Script.Ensures.raise fun u hu => ⟨hu,rfl,rfl⟩
  | false => exact Script.Ensures.modify fun u hu => ⟨hkept u _ hu rfl,rfl⟩

/-- What is busy or registered makes no difference to what a round leaves behind. -/
theorem Round.kept {starving : Prop} {exhausted : Bool} {u v : Owner}
    (h : Round s entry kinds starving exhausted u) (halike : Alike u v) :
    Round s entry kinds starving exhausted v := by
  rw [halike]
  exact h.congr (.refl _) rfl rfl (.inl rfl) rfl

theorem runLane_spec (entry : Entry) (s : Owner) :
    Ends s (runLane entry)
      (Round s entry (requestsOf .actionServer) (StarvesLane s entry)) := by
  refine Script.Ensures.bind (takeExpiredAndRequests_spec entry s) fun found => ?_
  unfold freeLane
  split
  · refine (finishLane_spec entry.entity entry.finishRaises fun u v hu => hu.kept).weaken
      (fun _ h => h) (fun _ _ h => h.1) ?_
    rintro e u ⟨hu,-,hquiet⟩
    rw [hquiet]
    exact hu
  · exact Script.Ensures.pure fun u hu => hu

/-- Nor does it to the conditions in the lane. -/
theorem Alike.starvesLane (h : Alike s s') : StarvesLane s' entry ↔ StarvesLane s entry := by
  have hnow : StarvesAt (s'.meet entry.lane) entry (requestsOf .actionServer) ↔
      StarvesAt (s.meet entry.lane) entry (requestsOf .actionServer) := by
    rw [h]
    exact starvesAt_congr rfl rfl rfl
  have hlater : StarvesAt ((s'.meet entry.lane).setInflight entry.entity) entry
      (requestsOf .actionServer) ↔ StarvesAt ((s.meet entry.lane).setInflight entry.entity) entry
        (requestsOf .actionServer) := by
    rw [h]
    exact starvesAt_congr rfl rfl rfl
  unfold StarvesLane StarvesInLane
  rw [hnow,hlater,h]
  exact Iff.rfl

theorem takeReady_spec (entry : Entry) {s : Owner} (hfree : s.laneBusy entry.entity = false) :
    Ends s (takeReady entry)
      (Round s entry (requestsOf .actionServer) (StarvesReady s entry)) := by
  refine Script.Ensures.inspect fun t ht => ?_
  subst ht
  have hbusy : ¬ t.laneBusy entry.entity = true := by rw [hfree]; exact Bool.noConfusion
  rw [if_neg hbusy]
  refine Script.Ensures.bind (m := fun _ u => Alike t u ∧ entry.suspendRaises = false) ?_
    fun _ => ?_
  · refine Script.Ensures.bind (m := fun _ => Alike t) ?_ fun _ => ?_
    · refine Script.Ensures.modify ?_
      rintro _ rfl
      rfl
    refine (suspend_spec entry fun u v hu huv => ?_).weaken (fun _ h => h) (fun _ _ h => h) ?_
    · rw [huv,hu]
      rfl
    rintro e u ⟨hu,hraises,hquiet⟩
    rw [hquiet,hu]
    refine Round.of_raised (.inl rfl) rfl (fun h => ?_) fun honly => ?_
    · exact Bool.noConfusion (h.1.1.symm.trans hraises)
    · exact Bool.noConfusion (honly.2.2.2.2.1.symm.trans hraises)
  rintro begun ⟨hbegun,hsuspended⟩
  -- What the lane leaves behind is a round of the state before it.
  have hback : ∀ {exhausted u}, Round begun entry (requestsOf .actionServer)
      (StarvesLane begun entry) exhausted u →
        Round t entry (requestsOf .actionServer) (StarvesLane t entry) exhausted u := by
    intro exhausted u hu
    have hround := hu.iff hbegun.starvesLane
    rw [hbegun] at hround
    exact hround.congr (.inl rfl) rfl rfl (.refl _) rfl
  -- Where the exception gets out, or there is none, the condition is that of the lane.
  have hout : ∀ {exhausted u}, (exhausted = true → entry.cleanupRaises = false) →
      Round t entry (requestsOf .actionServer) (StarvesLane t entry) exhausted u →
        Round t entry (requestsOf .actionServer) (StarvesReady t entry) exhausted u := by
    refine fun hcleanup hu => ⟨hu.steady,?_,hu.untaken,hu.takes⟩
    exact ⟨fun h => ⟨⟨hsuspended,hcleanup h⟩,hu.starves.mp h⟩,fun h => hu.starves.mpr h.2⟩
  refine (Script.Ensures.bind (Script.Ensures.attempt (q := Script.either
    (fun _ => Round t entry (requestsOf .actionServer) (StarvesLane t entry) false)
    fun (e : Exception) => Round t entry (requestsOf .actionServer)
      (StarvesLane t entry) e.isExhausted) ((runLane_spec entry begun).weaken
        fun _ _ hu => hback hu)) fun outcome => ?_) begun rfl
  cases outcome with
  | error e =>
    refine Script.Ensures.bind ((finishLane_spec entry.entity entry.cleanupRaises
      fun u v hu => hu.kept).weaken (fun _ h => h) (fun _ _ h => h) ?_) fun _ => ?_
    · rintro e' u ⟨hu,hcleanup,hquiet⟩
      rw [hquiet]
      refine ⟨hu.steady,iff_of_false Bool.noConfusion fun h => ?_,hu.untaken,fun honly => ?_⟩
      · exact Bool.noConfusion (h.1.2.symm.trans hcleanup)
      · exact Bool.noConfusion (honly.2.2.2.2.2.symm.trans hcleanup)
    · exact Script.Ensures.raise fun u hu => hout (fun _ => hu.2) hu.1
  | ok found => exact Script.Ensures.pure fun u hu => hout Bool.noConfusion hu

theorem takeService_spec (entry : Entry) {s : Owner}
    (hcapacity : ¬ (s.asynchronous = true ∧ entry.capacity = false)) :
    Ends s (takeService entry)
      (Round s entry (requestsOf .service) (StarvesAt s entry (requestsOf .service))) := by
  refine Script.Ensures.inspect fun t ht => ?_
  subst ht
  have hgo : ¬ (t.asynchronous && !entry.capacity) = true := by
    simpa using hcapacity
  rw [if_neg hgo]
  refine Script.Ensures.bind (takeRequests_spec entry (requestsOf .service) t) fun _ => ?_
  by_cases hfull : (t.asynchronous && !entry.capacityLeft) = true
  · rw [if_pos hfull]
    refine (suspend_spec entry fun u v hu => hu.kept).weaken (fun _ h => h) (fun _ _ h => h.1) ?_
    rintro e u ⟨hu,-,hquiet⟩
    rw [hquiet]
    exact hu
  · rw [if_neg hfull]
    exact Script.Ensures.pure fun u hu => hu

/-- What the dispatch of an entry leaves behind. -/
structure Dispatched (s : Owner) (entry : Entry) (exhausted : Bool) (s' : Owner) : Prop where
  steady : Steady s s'
  starves : exhausted = true ↔ Starves s entry
  round : (s.meet entry.before).Reaches entry →
    Round s entry (requestsOf entry.kind) (Starves s entry) exhausted s'

theorem Dispatched.of_round {starving : Prop} {exhausted : Bool}
    (h : Round (s.meet entry.before) entry (requestsOf entry.kind) starving exhausted s')
    (hstarves : starving ↔ Starves s entry) : Dispatched s entry exhausted s' where
  steady := (Steady.meet _ _).trans h.steady
  starves := h.starves.trans hstarves
  round _ := (h.iff hstarves).congr (.meet _ _) rfl rfl (.refl _) rfl

/-- An entry that is not dispatched. -/
theorem Dispatched.of_passed {exhausted : Bool} (hpassed : ¬ (s.meet entry.before).Reaches entry)
    (hsteady : Steady (s.meet entry.before) s') (hquiet : exhausted = false) :
    Dispatched s entry exhausted s' where
  steady := (Steady.meet _ _).trans hsteady
  starves := by
    rw [hquiet]
    exact iff_of_false Bool.noConfusion fun h => hpassed h.1
  round h := absurd h hpassed

theorem dispatch_spec (entry : Entry) (s : Owner) :
    Ends s (dispatch entry) (Dispatched s entry) := by
  refine Script.Ensures.bind (m := fun _ u => u = s.meet entry.before) ?_ fun _ => ?_
  · refine Script.Ensures.modify ?_
    rintro _ rfl
    rfl
  refine Script.Ensures.inspect fun t ht => ?_
  cases hregistered : t.registered entry.entity with
  | false =>
    have hpassed : ¬ (s.meet entry.before).Reaches entry := by
      rintro ⟨h,-⟩
      rw [← ht,hregistered] at h
      cases h
    by_cases hasync : t.asynchronous = true
    · rw [if_pos (show (!false) = true from rfl),if_pos hasync]
      refine Script.Ensures.pure ?_
      rintro _ rfl
      exact Dispatched.of_passed hpassed (ht ▸ .refl _) rfl
    · rw [if_pos (show (!false) = true from rfl),if_neg hasync]
      refine Script.Ensures.raise ?_
      rintro _ rfl
      exact Dispatched.of_passed hpassed (ht ▸ .refl _) rfl
  | true =>
    rw [if_neg Bool.noConfusion]
    by_cases hclosed : (!t.isRunning || !t.contextOpen || t.closing entry.entity) = true
    · rw [if_pos hclosed]
      refine Script.Ensures.pure ?_
      rintro _ rfl
      refine Dispatched.of_passed ?_ (ht ▸ .refl _) rfl
      rw [← ht]
      rintro ⟨-,⟨hrunning,hopen,hclosing⟩,-⟩
      simp [hrunning,hopen,hclosing] at hclosed
    rw [if_neg hclosed]
    have hadmitted : t.isRunning = true ∧ t.contextOpen = true ∧
        t.closing entry.entity = false := by
      have h : (t.isRunning = true ∧ t.contextOpen = true) ∧ t.closing entry.entity = false := by
        simpa using hclosed
      exact ⟨h.1.1,h.1.2,h.2⟩
    have hother : entry.kind ≠ .service → entry.kind ≠ .actionServer →
        Ends t (callBack entry) (Dispatched s entry) := by
      intro hservice haction
      have hpassed : ¬ (s.meet entry.before).Reaches entry := by
        rintro ⟨-,-,⟨h,-⟩ | ⟨h,-⟩⟩
        · exact hservice h
        · exact haction h
      refine Script.Ensures.bind (m := fun _ => Steady t) ?_ fun _ => ?_
      · refine Script.Ensures.modify ?_
        rintro _ rfl
        exact .meet _ _
      · by_cases hraises : entry.raises = true
        · rw [if_pos hraises]
          exact Script.Ensures.raise fun u hu => Dispatched.of_passed hpassed (ht ▸ hu) rfl
        · rw [if_neg hraises]
          exact Script.Ensures.pure fun u hu => Dispatched.of_passed hpassed (ht ▸ hu) rfl
    cases hkind : entry.kind with
    | service =>
      by_cases hcapacity : t.asynchronous = true ∧ entry.capacity = false
      · have hpassed : ¬ t.Reaches entry := by
          rintro ⟨-,-,⟨-,h⟩ | ⟨h,-⟩⟩
          · exact h hcapacity
          · rw [hkind] at h
            cases h
        refine Script.Ensures.inspect fun u hu => ?_
        subst hu
        have hstop : (u.asynchronous && !entry.capacity) = true := by simpa using hcapacity
        rw [if_pos hstop]
        refine (suspend_spec (p := Steady u) entry fun v w hv hvw => hv.trans (.inl ?_)).weaken
          ?_ (fun _ v hv => ?_) fun e v hv => ?_
        · rw [hvw]
        · rintro _ rfl
          exact .refl _
        · exact Dispatched.of_passed (ht ▸ hpassed) (ht ▸ hv.1) rfl
        · exact Dispatched.of_passed (ht ▸ hpassed) (ht ▸ hv.1) hv.2.2
      · have hreaches : t.Reaches entry := ⟨hregistered,hadmitted,.inl ⟨hkind,hcapacity⟩⟩
        subst ht
        have hstarves : StarvesAt (s.meet entry.before) entry (requestsOf .service) ↔
            Starves s entry := by
          refine ⟨fun h => ⟨hreaches,.inl ⟨hkind,h⟩⟩,?_⟩
          rintro ⟨-,⟨-,h⟩ | ⟨h,-⟩⟩
          · exact h
          · rw [hkind] at h
            cases h
        exact (takeService_spec entry hcapacity).weaken fun _ _ hu =>
          Dispatched.of_round (hkind ▸ hu) hstarves
    | actionServer =>
      cases hbusy : t.laneBusy entry.entity with
      | true =>
        have hpassed : ¬ t.Reaches entry := by
          rintro ⟨-,-,⟨h,-⟩ | ⟨-,h⟩⟩
          · rw [hkind] at h
            cases h
          · rw [hbusy] at h
            cases h
        refine Script.Ensures.inspect fun u hu => ?_
        subst hu
        rw [if_pos hbusy]
        refine Script.Ensures.pure ?_
        rintro _ rfl
        exact Dispatched.of_passed (ht ▸ hpassed) (ht ▸ .refl _) rfl
      | false =>
        have hreaches : t.Reaches entry := ⟨hregistered,hadmitted,.inr ⟨hkind,hbusy⟩⟩
        subst ht
        have hstarves : StarvesReady (s.meet entry.before) entry ↔ Starves s entry := by
          refine ⟨fun h => ⟨hreaches,.inr ⟨hkind,h⟩⟩,?_⟩
          rintro ⟨-,⟨h,-⟩ | ⟨-,h⟩⟩
          · rw [hkind] at h
            cases h
          · exact h
        exact (takeReady_spec entry hbusy).weaken fun _ _ hu =>
          Dispatched.of_round (hkind ▸ hu) hstarves
    | _ => exact hother (by rw [hkind]; decide) (by rw [hkind]; decide)

end Batch

/-! ## The whole batch -/

section Batches

variable {s : Owner} {entry : Entry} {kind : NativeJobKind} {batch : List Entry}

/-- Running out of tickets is raised exactly if the batch is not supplied, and
only while the executor is running. -/
theorem consumeBatch_spec (s : Owner) (batch : List Entry) :
    Steady s (consumeBatch batch s).2 ∧
      ((∃ e, (consumeBatch batch s).1 = .error e ∧ e.isExhausted = true) ↔ ¬ Supplied s batch) ∧
        (¬ Supplied s batch → s.isRunning = true) := by
  induction batch generalizing s with
  | nil =>
    refine ⟨.refl _,iff_of_false ?_ fun h => h trivial,fun h => absurd trivial h⟩
    rintro ⟨e,h,-⟩
    cases h
  | cons entry rest ih =>
    cases houtcome : (dispatch entry s).1 with
    | ok value =>
      have hround := (dispatch_spec entry s).ok rfl houtcome
      have hbatch : consumeBatch (entry :: rest) s = consumeBatch rest (dispatch entry s).2 :=
        Script.bind_ok houtcome
      have hquiet : ¬ Starves s entry := fun h => by cases hround.starves.mpr h
      have hsupplied : Supplied s (entry :: rest) ↔ Supplied (dispatch entry s).2 rest :=
        ⟨fun h => h.2 houtcome,fun h => ⟨hquiet,fun _ => h⟩⟩
      obtain ⟨hsteady,hraised,hrunning⟩ := ih (dispatch entry s).2
      rw [hbatch,hsupplied]
      exact ⟨hround.steady.trans hsteady,hraised,fun h => hround.steady.running (hrunning h)⟩
    | error e =>
      have hround := (dispatch_spec entry s).error rfl houtcome
      have hbatch : consumeBatch (entry :: rest) s = (.error e,(dispatch entry s).2) :=
        Script.bind_error houtcome
      have hsupplied : Supplied s (entry :: rest) ↔ ¬ Starves s entry := by
        refine ⟨fun h => h.1,fun h => ⟨h,fun hok => ?_⟩⟩
        rw [houtcome] at hok
        cases hok
      rw [hbatch,hsupplied,not_not]
      refine ⟨hround.steady,?_,fun h => (Steady.meet _ _).running h.1.2.1.1⟩
      rw [← hround.starves]
      constructor
      · rintro ⟨_,⟨⟩,h⟩
        exact h
      · exact fun h => ⟨e,rfl,h⟩

/-- A batch that is supplied raises nothing about tickets. -/
theorem consumeBatch_supplied (h : Supplied s batch) {e : Exception}
    (he : (consumeBatch batch s).1 = .error e) : e.isExhausted = false := by
  cases hexhausted : e.isExhausted with
  | false => rfl
  | true => exact absurd h ((consumeBatch_spec s batch).2.1.mp ⟨e,he,hexhausted⟩)

/-- The entries a supplied batch comes to do not starve. -/
theorem Supplied.comes {before after : List Entry}
    (h : Supplied s (before ++ entry :: after)) (hbefore : (consumeBatch before s).1 = .ok ()) :
    ¬ Starves (consumeBatch before s).2 entry := by
  induction before generalizing s with
  | nil => exact h.1
  | cons first rest ih =>
    cases houtcome : (dispatch first s).1 with
    | ok value =>
      have hbatch : consumeBatch (first :: rest) s = consumeBatch rest (dispatch first s).2 :=
        Script.bind_ok houtcome
      rw [hbatch] at hbefore ⊢
      exact ih (h.2 houtcome) hbefore
    | error e =>
      have hbatch : consumeBatch (first :: rest) s = (.error e,(dispatch first s).2) :=
        Script.bind_error houtcome
      rw [hbatch] at hbefore
      cases hbefore

/-- How the dispatch of an entry ends, whatever its outcome. -/
theorem dispatched (entry : Entry) (s : Owner) :
    ∃ exhausted, Dispatched s entry exhausted (dispatch entry s).2 := by
  cases houtcome : (dispatch entry s).1 with
  | ok value => exact ⟨false,(dispatch_spec entry s).ok rfl houtcome⟩
  | error e => exact ⟨e.isExhausted,(dispatch_spec entry s).error rfl houtcome⟩

/-- What an entry that is come to has ready stays in DDS if it has no ticket. -/
theorem Comes.untaken {before : List Entry} (h : Comes s batch before entry kind)
    (hrefused : entry.Refused kind) :
    (dispatch entry (consumeBatch before s).2).2.taken = (consumeBatch before s).2.taken := by
  obtain ⟨exhausted,hround⟩ := dispatched entry (consumeBatch before s).2
  exact (hround.round h.reached).untaken kind h.ready hrefused

theorem Comes.takes {before : List Entry} (h : Comes s batch before entry kind)
    (hsupplied : Supplied s batch) (honly : entry.OnlyTickets) :
    Takes entry kind (consumeBatch before s).2 (dispatch entry (consumeBatch before s).2).2 := by
  obtain ⟨after,rfl⟩ := h.part
  obtain ⟨exhausted,hround⟩ := dispatched entry (consumeBatch before s).2
  have hquiet : exhausted = false := by
    cases exhausted with
    | false => rfl
    | true => exact absurd (hround.starves.mp rfl) (hsupplied.comes h.returned)
  exact (hround.round h.reached).takes honly hquiet kind h.ready

/-- Where only tickets can be missing, a supplied batch has one for every
request that is ready. -/
theorem Comes.not_refused {before : List Entry} (h : Comes s batch before entry kind)
    (hsupplied : Supplied s batch) (honly : entry.OnlyTickets) : ¬ entry.Refused kind := by
  intro hrefused
  obtain ⟨request,-,htaken⟩ := h.takes hsupplied honly
  rw [h.untaken hrefused] at htaken
  have hlength := congrArg List.length htaken
  simp at hlength

theorem ownerStep_sync (hsync : s.asynchronous = false) :
    ownerStep batch s = consumeBatch batch s := by
  have hnot : ¬ s.asynchronous = true := by rw [hsync]; exact Bool.noConfusion
  have hstep : ownerStep batch s = (if s.asynchronous then
      Script.attempt (consumeBatch batch) >>= recordOutcome else consumeBatch batch) s := rfl
  rw [hstep,if_neg hnot]

theorem ownerStep_async (hasync : s.asynchronous = true) :
    ownerStep batch s = recordOutcome (consumeBatch batch s).1 (consumeBatch batch s).2 := by
  have hstep : ownerStep batch s = (if s.asynchronous then
      Script.attempt (consumeBatch batch) >>= recordOutcome else consumeBatch batch) s := rfl
  rw [hstep,if_pos hasync]
  rfl

/-- A fault that is recorded was there before or ends the batch. -/
theorem recordOutcome_phase {outcome : Except Exception Unit} {e : Exception}
    (h : (recordOutcome outcome s).2.phase = .faulted e) :
    s.phase = .faulted e ∨ outcome = .error e := by
  cases outcome with
  | ok value => exact .inl h
  | error cause =>
    change (s.recordFault cause).phase = .faulted e at h
    unfold Owner.recordFault at h
    cases hphase : s.phase with
    | faulted known =>
      rw [hphase] at h
      exact .inl (hphase.symm.trans h)
    | running =>
      rw [hphase] at h
      cases h
      exact .inr rfl
    | halted =>
      rw [hphase] at h
      cases h
      exact .inr rfl

/-- The step of an executor takes the lack of tickets for a fault of its own
exactly if its batch comes to a reservation that finds none. -/
theorem backpressure_iff (s : Owner) (batch : List Entry) :
    Backpressure s batch ↔ Supplied s batch := by
  obtain ⟨hsteady,hraised,hrunning⟩ := consumeBatch_spec s batch
  constructor
  · intro h
    by_contra hstarved
    obtain ⟨e,he,hexhausted⟩ := hraised.mpr hstarved
    cases hasync : s.asynchronous with
    | false =>
      have hquiet := h.returns e (by rw [ownerStep_sync hasync]; exact he)
      rw [hexhausted] at hquiet
      cases hquiet
    | true =>
      have hstep : ownerStep batch s =
          recordOutcome (consumeBatch batch s).1 (consumeBatch batch s).2 := ownerStep_async hasync
      have hup := hrunning hstarved
      have hfault : (ownerStep batch s).2.phase = .faulted e := by
        rw [hstep,he]
        change ((consumeBatch batch s).2.recordFault e).phase = .faulted e
        unfold Owner.recordFault
        cases hafter : (consumeBatch batch s).2.phase with
        | faulted cause =>
          unfold Owner.isRunning at hup
          rw [hsteady.faulted hafter] at hup
          cases hup
        | running => rfl
        | halted => rfl
      rcases h.unfaulted e hfault with hbefore | hquiet
      · unfold Owner.isRunning at hup
        rw [hbefore] at hup
        cases hup
      · rw [hexhausted] at hquiet
        cases hquiet
  · intro hsupplied
    refine ⟨fun e he => ?_,fun e he => ?_,fun _ _ _ hcomes => hcomes.untaken,
      fun _ _ _ hcomes _ _ honly => hcomes.takes hsupplied honly,
      fun hall before entry kind hcomes hrefused => ?_⟩
    · cases hasync : s.asynchronous with
      | false =>
        rw [ownerStep_sync hasync] at he
        exact consumeBatch_supplied hsupplied he
      | true =>
        rw [ownerStep_async hasync] at he
        cases houtcome : (consumeBatch batch s).1 with
        | ok value => rw [houtcome] at he; cases he
        | error cause => rw [houtcome] at he; cases he
    · cases hasync : s.asynchronous with
      | false =>
        rw [ownerStep_sync hasync] at he
        exact .inl (hsteady.faulted he)
      | true =>
        rw [ownerStep_async hasync] at he
        rcases recordOutcome_phase he with hbefore | hcause
        · exact .inl (hsteady.faulted hbefore)
        · exact .inr (consumeBatch_supplied hsupplied hcause)
    · obtain ⟨after,hpart⟩ := hcomes.part
      have hmem : entry ∈ batch := by rw [hpart]; exact List.mem_append_right _ List.mem_cons_self
      exact absurd hrefused (hcomes.not_refused hsupplied (hall entry hmem).1)

end Batches

/-- A request finds no ticket when all tickets are in use, or all that are not
reserved for control. -/
theorem refused_iff {entry : Entry} {kind : NativeJobKind}
    (hroute : (entry.io kind).validateRoute (some entry.port) = .ok entry.port)
    (hrunning : (entry.io kind).stopping = false)
    (haccepting : ((entry.io kind).ports entry.port).accepting = true) :
    entry.Refused kind ↔ (entry.io kind).used = 256 ∨
      isControl kind = false ∧ (entry.io kind).ordinaryUsed = 224 ∨
        (entry.io kind).nextTicket = NativeIoDispatcher.maxIdentity := by
  have hright : ¬ (isControl kind = true ∧ (entry.record kind).kind ≠ .goalResponse ∧
      (entry.record kind).kind ≠ .cancelResponse) := by
    rintro ⟨hcontrol,hgoal,hcancel⟩
    cases kind <;> first | exact hgoal rfl | exact hcancel rfl | cases hcontrol
  have hopen : ¬ ((entry.io kind).stopping = true ∨
      isControl kind = false ∧ ((entry.io kind).ports entry.port).accepting = false) := by
    rw [hrunning,haccepting]
    rintro (h | ⟨-,h⟩) <;> cases h
  unfold Entry.Refused Entry.reserved NativeIoDispatcher.reserve
  simp only [hroute,if_neg hright,if_neg hopen]
  by_cases hfull : (entry.io kind).used = 256 ∨
      isControl kind = false ∧ (entry.io kind).ordinaryUsed = 224
  · rw [if_pos hfull]
    exact iff_of_true ⟨_,rfl⟩ (hfull.elim .inl fun h => .inr (.inl h))
  rw [if_neg hfull]
  by_cases hlast : (entry.io kind).nextTicket = NativeIoDispatcher.maxIdentity
  · rw [if_pos hlast]
    exact iff_of_true ⟨_,rfl⟩ (.inr (.inr hlast))
  rw [if_neg hlast]
  refine iff_of_false ?_ ?_
  · rintro ⟨message,hmessage⟩
    cases hfind : (entry.io kind).find fun slot => decide (slot.state = .free) with
    | none => rw [hfind] at hmessage; cases hmessage
    | some i => rw [hfind] at hmessage; cases hmessage
  · rintro (h | h | h)
    · exact hfull (.inl h)
    · exact hfull (.inr h)
    · exact hlast h

/-- A dispatcher with a route, where 224 requests await their responses. -/
def saturated : NativeIoDispatcher where
  slots i := if i.val < 224 then
    {Slot.fresh with
      ticket := i.val+1
      state := .reserved
      port := some (.own 1)
      job := some i.val}
    else .fresh
  next _ := none
  controlQueue := .empty
  userQueue := .empty
  ports _ := {CompletionPort.fresh with outstanding := 224}
  routes := AList.insert 1 (.own 1) ∅
  used := 224
  ordinaryUsed := 224
  nextTicket := 225
  nextOwner := 2
  stopping := false

/-- A Service with a request and an ActionServer with a cancel request. -/
def serving (asynchronous : Bool) : Owner where
  asynchronous := asynchronous
  phase := .running
  contextOpen := true
  closing _ := false
  registered _ := true
  laneBusy _ := false
  statusInflight _ := false
  inbox entity kind :=
    if entity = 1 ∧ kind = .serviceResponse ∨ entity = 2 ∧ kind = .cancelResponse then [7] else []
  taken := []

/-- An entry that is dispatched while the tickets are in use. -/
def readyEntry (entity : EntityId) (kind : DispatchKind) (commits : Bool) : Entry where
  entity := entity
  kind := kind
  generation := 3
  port := .own 1
  io _ := saturated
  before := .nothing
  lane := .nothing
  during := .nothing
  suspendRaises := false
  finishRaises := false
  cleanupRaises := false
  expires := false
  expiryRaises := false
  receiveRaises _ := false
  capacity := true
  capacityLeft := true
  raises := false
  commits := commits
  snapshotRaises := false
  responseRaises := false
  retains := false

/-- They are ready in one batch. -/
def readyTogether : List Entry := [readyEntry 1 .service false,readyEntry 2 .actionServer false]

/-- The error for the request of the Service. -/
def exhaustion : Exception :=
  .native (.failure .resourceExhausted "Native I/O admission capacity exhausted")

/-- With 224 requests awaiting responses that of the Service ends the executor,
and the cancel request is not taken although 32 tickets are left for it. -/
theorem saturated_faulted :
    ((ownerStep readyTogether (serving true)).2.phase = .faulted exhaustion ∧
      (ownerStep readyTogether (serving true)).2.taken = []) ∧
        ¬ ∀ s batch, Backpressure s batch := by
  have hfault : (ownerStep readyTogether (serving true)).2.phase = .faulted exhaustion := rfl
  refine ⟨⟨hfault,rfl⟩,fun h => ?_⟩
  rcases (h (serving true) readyTogether).unfaulted exhaustion hfault with hbefore | hquiet
  · cases hbefore
  · cases hquiet

/-- Alone the cancel request is taken with a ticket of the control capacity, and
the status about the goal that it moved ends the executor. -/
example : (ownerStep [readyEntry 2 .actionServer true] (serving true)).2.phase =
      .faulted exhaustion ∧
    (ownerStep [readyEntry 2 .actionServer true] (serving true)).2.taken =
      [⟨2,.cancelResponse,7⟩] := ⟨rfl,rfl⟩

end Dmw.TicketBackpressure
