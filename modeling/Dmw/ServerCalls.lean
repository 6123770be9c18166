import Dmw.GuardedRuns
import Dmw.ServerPending
import Mathlib.Logic.Function.Basic

/-!
# Interleaved calls on one Server

Any number of threads call `read_request`, `discard_request`,
`write_response` and the claim/write pair on one Server. Each
`pending_mutex_` critical section and each flag exchange is one event; the
straight-line code between them travels with the event that starts it. The
log is a history variable: no guard and no effect reads it.
-/

namespace Dmw.ServerCalls

open Identity KeyedTable GuardedRuns ServerPending

/-- Threads are numbered; there is no bound on their number. -/
abbrev ThreadId := ℕ

/-- Success that a call reports about an accepted request. -/
inductive Report
  /-- `discard_request` succeeds. -/
  | discarded (id : RequestId) (acceptance : ℕ)
  /-- The responding call succeeds. -/
  | answered (id : RequestId) (acceptance : ℕ)
  deriving DecidableEq

/-- What a caller or a peer can observe of one accepted request. -/
inductive Observation
  /-- The read registered the request. -/
  | accepted (id : RequestId) (acceptance : ℕ)
  /-- The DDS response write succeeded. -/
  | written (id : RequestId) (acceptance : ℕ)
  /-- A call returned success. -/
  | returned (report : Report)
  deriving DecidableEq

/-- How a read goes on once its reservation is given back. -/
inductive ReadNext
  | again (remaining : ℕ)
  | leave (reply : Reply)
  deriving DecidableEq

/-- Next step of one thread. -/
inductive Pc
  | idle
  /-- Loop test of the read, `request_read_mutex_` held. -/
  | reading (remaining : ℕ)
  /-- Slot reserved, destructive take outstanding. -/
  | taking (remaining : ℕ) (becameFull : Bool)
  /-- Reservation to be given back. -/
  | retracting (next : ReadNext)
  /-- Request decoded, registration outstanding. -/
  | inserting (remaining : ℕ) (becameFull : Bool) (id : RequestId) (identity : SampleIdentity)
  /-- Request registered, `commit_to` outstanding. -/
  | committing (id : RequestId) (acceptance : ℕ)
  /-- `commit_to` failed, the registered entry is to be erased. -/
  | rollingBack (id : RequestId) (reply : Reply)
  /-- End of the read, `request_read_mutex_` still held. -/
  | leaving (reply : Reply)
  /-- Claim held, nothing decided yet. -/
  | claimed (id : RequestId) (identity : SampleIdentity) (acceptance : ℕ)
  /-- Failure path: explicit restore outstanding. -/
  | restoring (id : RequestId) (acceptance : ℕ) (reply : Reply)
  /-- Success path: erase outstanding. -/
  | releasing (id : RequestId) (acceptance : ℕ)
  /-- The `RestorePending` destructor is outstanding. -/
  | unwinding (id : RequestId) (acceptance : ℕ) (reply : Reply)
  /-- A flag exchange is outstanding. -/
  | settingFlag (value : Bool) (next : Pc)
  /-- The call is about to return. -/
  | returning (report : Option Report) (reply : Reply)
  deriving DecidableEq

/-- The step a read takes after its reservation was given back. -/
def ReadNext.pc : ReadNext → Pc
  | .again remaining => .reading remaining
  | .leave reply => .leaving reply

/-- One Server, its threads and the observations made so far. -/
structure System where
  /-- Shared state of the Server. -/
  server : Server
  /-- Owner of `request_read_mutex_`. -/
  reader : Option ThreadId
  /-- Next step of every thread. -/
  pc : ThreadId → Pc
  /-- Observations in order; history only. -/
  log : List Observation

namespace System

/-- A fresh Server that nobody is calling. -/
def initial (maxPendingRequests : ℕ) : System :=
  ⟨Server.initial maxPendingRequests,none,fun _ => .idle,[]⟩

/-- Move one thread. -/
def goto (t : ThreadId) (next : Pc) (s : System) : System :=
  {s with pc := Function.update s.pc t next}

@[simp] theorem goto_pc_self (t : ThreadId) (next : Pc) (s : System) :
    (s.goto t next).pc t = next := by simp [goto]

@[simp] theorem goto_pc_ne {t u : ThreadId} (hne : u ≠ t) (next : Pc) (s : System) :
    (s.goto t next).pc u = s.pc u := by simp [goto, hne]

@[simp] theorem goto_server (t : ThreadId) (next : Pc) (s : System) :
    (s.goto t next).server = s.server := rfl

end System

/-- Show the reader again after a critical section that saw a full table. -/
def showWhen (wasFull : Bool) (next : Pc) : Pc := if wasFull then .settingFlag true next else next

/-- Admission of a read, before any lock. -/
def readAdmission (requestNull operation : Bool) : Option Error :=
  if requestNull then some ⟨.invalidArgument,"Request must not be null"⟩
  else if !operation then some ⟨.contextShutdown,"Context is shut down"⟩
  else none

/-- Admission of a response, before the claim. -/
def responseAdmission (responseNull operation : Bool) : Option Error :=
  if responseNull then some ⟨.invalidArgument,"Response must not be null"⟩
  else if !operation then some ⟨.contextShutdown,"Context is shut down"⟩
  else none

/-- Start of a read: the unread count is sampled once, under the read mutex. -/
def readBegin (t : ThreadId) (admission : Option Error) (remaining : ℕ) (s : System) : System :=
  match admission with
  | some e => s.goto t (.returning none (.failure e))
  | none => {s.goto t (.reading remaining) with reader := some t}

/-- One loop test of the read, and the reservation when it goes on. -/
def readTurn (t : ThreadId) : ℕ → System → System
  | 0, s => s.goto t (.leaving (.value false))
  | remaining+1, s =>
    match s.server.reserveRequestSlot with
    | none =>
      s.goto t (.leaving (.failure
        ⟨.resourceExhausted,"Server pending request capacity is exhausted"⟩))
    | some (becameFull,server) =>
      let next := Pc.taking remaining becameFull
      {s.goto t (if becameFull then .settingFlag false next else next) with server := server}

/-- The destructive take and its decoding. An exception leaves the read with
the reservation in place. -/
def take (t : ThreadId) (remaining : ℕ) (becameFull : Bool) (outcome : TakeOutcome)
    (s : System) : System :=
  match decodeTake outcome with
  | .throw => s.goto t (.leaving .exception)
  | .leave reply => s.goto t (.retracting (.leave reply))
  | .skip => s.goto t (.retracting (.again remaining))
  | .insert id identity => s.goto t (.inserting remaining becameFull id identity)

/-- Give the reservation back. -/
def retract (t : ThreadId) (next : ReadNext) (s : System) : System :=
  let (wasFull,server) := s.server.releaseRequestReservation
  {s.goto t (showWhen wasFull next.pc) with server := server}

/-- Register the decoded request, or notice a duplicate or an exception. -/
def insert (t : ThreadId) (remaining : ℕ) (becameFull : Bool) (id : RequestId)
    (identity : SampleIdentity) (threw : Bool) (s : System) : System :=
  if threw then
    {s.goto t (showWhen becameFull (.leaving .exception)) with server := s.server.abandonInsertion}
  else
    match s.server.insertRequest id identity with
    | (false,server) => {s.goto t (showWhen becameFull (.reading remaining)) with server := server}
    | (true,server) =>
      {s.goto t (.committing id s.server.accepted) with
        server := server
        log := s.log ++ [.accepted id s.server.accepted]}

/-- Hand the sample to the caller; `none` is an exception. -/
def commit (t : ThreadId) (id : RequestId) (outcome : Option (Result Unit)) (s : System) : System :=
  match outcome with
  | some (.ok _) => s.goto t (.leaving (.value true))
  | some (.error e) => s.goto t (.rollingBack id (.failure e))
  | none => s.goto t (.rollingBack id .exception)

/-- Erase the entry of a request that could not be handed out. -/
def rollback (t : ThreadId) (id : RequestId) (reply : Reply) (s : System) : System :=
  let (wasFull,server) := s.server.releasePendingRequest id
  {s.goto t (showWhen wasFull (.leaving reply)) with server := server}

/-- The discard call up to its flag exchange. -/
def discardBegin (t : ThreadId) (operation : Bool) (id : RequestId) (s : System) : System :=
  if !operation then
    s.goto t (.returning none (.failure ⟨.contextShutdown,"Context is shut down"⟩))
  else
    match s.server.discardRequest id with
    | .error e => s.goto t (.returning none (.failure e))
    | .ok (entry,wasFull,server) =>
      {s.goto t (showWhen wasFull (.returning (some (.discarded id entry.acceptance)) .success)) with
        server := server}

/-- Claim a request for a response. -/
def respondBegin (t : ThreadId) (admission : Option Error) (id : RequestId)
    (s : System) : System :=
  match admission with
  | some e => s.goto t (.returning none (.failure e))
  | none =>
    match s.server.claimResponse id with
    | .error e => s.goto t (.returning none (.failure e))
    | .ok (entry,server) =>
      {s.goto t (.claimed id entry.sampleIdentity entry.acceptance) with server := server}

/-- The claimed write up to its use of the pending table. -/
def decideResponse (t : ThreadId) (id : RequestId) (identity : SampleIdentity) (acceptance : ℕ)
    (env : ResponseEnv) (s : System) : System :=
  match respond identity env with
  | .unwind reply => s.goto t (.unwinding id acceptance reply)
  | .restore reply => s.goto t (.restoring id acceptance reply)
  | .release false => s.goto t (.releasing id acceptance)
  | .release true =>
    {s.goto t (.releasing id acceptance) with log := s.log ++ [.written id acceptance]}

/-- Explicit restore of a failure path. -/
def restore (t : ThreadId) (id : RequestId) (acceptance : ℕ) (reply : Reply) (s : System) : System :=
  {s.goto t (.unwinding id acceptance reply) with server := s.server.restorePending id}

/-- Erase after a successful write, or after the reader was confirmed gone. -/
def release (t : ThreadId) (id : RequestId) (acceptance : ℕ) (s : System) : System :=
  let (wasFull,server) := s.server.releasePendingRequest id
  {s.goto t (showWhen wasFull (.unwinding id acceptance .success)) with server := server}

/-- The `RestorePending` destructor, on every path. -/
def unwind (t : ThreadId) (id : RequestId) (acceptance : ℕ) (reply : Reply) (s : System) : System :=
  let report := if reply = .success then some (Report.answered id acceptance) else none
  {s.goto t (.returning report reply) with server := s.server.restorePending id}

/-- Leave `read_request`, releasing the read mutex. -/
def leave (t : ThreadId) (reply : Reply) (s : System) : System :=
  {s.goto t (.returning none reply) with reader := none}

/-- Return to the caller. -/
def finish (t : ThreadId) (report : Option Report) (s : System) : System :=
  {s.goto t .idle with log := s.log ++ (report.map Observation.returned).toList}

/-- One atomic event of one thread. -/
inductive Event
  | readBegin (t : ThreadId) (requestNull operation : Bool) (remaining : ℕ)
  | readTurn (t : ThreadId) (remaining : ℕ)
  | take (t : ThreadId) (remaining : ℕ) (becameFull : Bool) (outcome : TakeOutcome)
  | retract (t : ThreadId) (next : ReadNext)
  | insert (t : ThreadId) (remaining : ℕ) (becameFull : Bool) (id : RequestId)
      (identity : SampleIdentity) (threw : Bool)
  | commit (t : ThreadId) (id : RequestId) (acceptance : ℕ) (outcome : Option (Result Unit))
  | rollback (t : ThreadId) (id : RequestId) (reply : Reply)
  | leave (t : ThreadId) (reply : Reply)
  | discardBegin (t : ThreadId) (operation : Bool) (id : RequestId)
  | respondBegin (t : ThreadId) (responseNull operation : Bool) (id : RequestId)
  | decideResponse (t : ThreadId) (id : RequestId) (identity : SampleIdentity) (acceptance : ℕ)
      (env : ResponseEnv)
  | restore (t : ThreadId) (id : RequestId) (acceptance : ℕ) (reply : Reply)
  | release (t : ThreadId) (id : RequestId) (acceptance : ℕ)
  | unwind (t : ThreadId) (id : RequestId) (acceptance : ℕ) (reply : Reply)
  | setFlag (t : ThreadId) (value : Bool) (next : Pc)
  | finish (t : ThreadId) (report : Option Report) (reply : Reply)

/-- The acting thread stands at the event's step; a read also needs its mutex. -/
def enabled (s : System) : Event → Prop
  | .readBegin t requestNull operation _ =>
    s.pc t = .idle ∧ (readAdmission requestNull operation = none → s.reader = none)
  | .readTurn t remaining => s.pc t = .reading remaining
  | .take t remaining becameFull _ => s.pc t = .taking remaining becameFull
  | .retract t next => s.pc t = .retracting next
  | .insert t remaining becameFull id identity _ => s.pc t = .inserting remaining becameFull id identity
  | .commit t id acceptance _ => s.pc t = .committing id acceptance
  | .rollback t id reply => s.pc t = .rollingBack id reply
  | .leave t reply => s.pc t = .leaving reply
  | .discardBegin t _ _ => s.pc t = .idle
  | .respondBegin t _ _ _ => s.pc t = .idle
  | .decideResponse t id identity acceptance _ => s.pc t = .claimed id identity acceptance
  | .restore t id acceptance reply => s.pc t = .restoring id acceptance reply
  | .release t id acceptance => s.pc t = .releasing id acceptance
  | .unwind t id acceptance reply => s.pc t = .unwinding id acceptance reply
  | .setFlag t value next => s.pc t = .settingFlag value next
  | .finish t report reply => s.pc t = .returning report reply

/-- Effect of an enabled event. -/
def next (s : System) : Event → System
  | .readBegin t requestNull operation remaining =>
    readBegin t (readAdmission requestNull operation) remaining s
  | .readTurn t remaining => readTurn t remaining s
  | .take t remaining becameFull outcome => take t remaining becameFull outcome s
  | .retract t next => retract t next s
  | .insert t remaining becameFull id identity threw => insert t remaining becameFull id identity threw s
  | .commit t id _ outcome => commit t id outcome s
  | .rollback t id reply => rollback t id reply s
  | .leave t reply => leave t reply s
  | .discardBegin t operation id => discardBegin t operation id s
  | .respondBegin t responseNull operation id =>
    respondBegin t (responseAdmission responseNull operation) id s
  | .decideResponse t id identity acceptance env => decideResponse t id identity acceptance env s
  | .restore t id acceptance reply => restore t id acceptance reply s
  | .release t id acceptance => release t id acceptance s
  | .unwind t id acceptance reply => unwind t id acceptance reply s
  | .setFlag t value next => {s.goto t next with server := s.server.setBlockingEnabled value}
  | .finish t report _ => finish t report s

instance (s : System) : (e : Event) → Decidable (enabled s e)
  | .readBegin .. => inferInstanceAs (Decidable (_ ∧ (_ → _)))
  | .readTurn ..
  | .take ..
  | .retract ..
  | .insert ..
  | .commit ..
  | .rollback ..
  | .leave ..
  | .discardBegin ..
  | .respondBegin ..
  | .decideResponse ..
  | .restore ..
  | .release ..
  | .unwind ..
  | .setFlag ..
  | .finish .. => inferInstanceAs (Decidable (_ = _))

/-- The calls of one Server as a guarded machine. -/
def machine : Machine System Event where
  enabled := enabled
  next := next
  decidableEnabled := inferInstance

/-- The acting thread of an event. -/
def Event.thread : Event → ThreadId
  | .readBegin t .. | .readTurn t .. | .take t .. | .retract t .. | .insert t .. | .commit t ..
  | .rollback t .. | .leave t .. | .discardBegin t .. | .respondBegin t .. | .decideResponse t ..
  | .restore t .. | .release t .. | .unwind t .. | .setFlag t .. | .finish t .. => t

/-- An event moves no other thread. -/
theorem next_pc_ne {s : System} {e : Event} {u : ThreadId} (hne : u ≠ e.thread) :
    (next s e).pc u = s.pc u := by
  cases e with
  | readBegin t requestNull operation remaining =>
    simp only [next, readBegin]
    split <;> exact System.goto_pc_ne hne _ s
  | readTurn t remaining =>
    simp only [next]
    unfold readTurn
    split
    · exact System.goto_pc_ne hne _ _
    · split <;> exact System.goto_pc_ne hne _ _
  | take t remaining becameFull outcome =>
    simp only [next, take]
    split <;> exact System.goto_pc_ne hne _ s
  | insert t remaining becameFull id identity threw =>
    simp only [next, insert]
    split
    · exact System.goto_pc_ne hne _ s
    · split <;> exact System.goto_pc_ne hne _ s
  | commit t id acceptance outcome =>
    simp only [next, commit]
    split <;> exact System.goto_pc_ne hne _ s
  | discardBegin t operation id =>
    simp only [next, discardBegin]
    split
    · exact System.goto_pc_ne hne _ s
    · split <;> exact System.goto_pc_ne hne _ s
  | respondBegin t responseNull operation id =>
    simp only [next, respondBegin]
    split
    · exact System.goto_pc_ne hne _ s
    · split <;> exact System.goto_pc_ne hne _ s
  | decideResponse t id identity acceptance env =>
    simp only [next, decideResponse]
    split <;> exact System.goto_pc_ne hne _ s
  | _ => exact System.goto_pc_ne hne _ s

/-- A thread that does not act stays where it is. -/
theorem exec_pc_ne {s s' : System} {es : List Event} {u : ThreadId}
    (hexec : machine.exec s es = some s') (hne : ∀ e ∈ es, u ≠ e.thread) : s'.pc u = s.pc u := by
  induction es generalizing s with
  | nil =>
    cases hexec
    rfl
  | cons e es ih =>
    by_cases hen : machine.enabled s e
    · have hrest := ih (by simpa [Machine.exec, hen] using hexec) fun e' he' => hne e' (by simp [he'])
      exact hrest.trans (next_pc_ne (hne e (by simp)))
    · simp [Machine.exec, hen] at hexec

/-- A client whose entity is no reader, so that a response needs no target. -/
def sampleClient : SampleIdentity :=
  ⟨⟨Vector.replicate 12 1,Vector.replicate 4 1⟩,⟨0,7⟩⟩

/-- The request that client sent. -/
def sampleRequest : RequestId := ⟨toGid sampleClient.writerGuid,7⟩

/-- Thread 0 accepts the request. -/
def acceptance : List Event :=
  [.readBegin 0 false true 1,
    .readTurn 0 1,
    .take 0 0 false (.taken ⟨true,sampleClient,⟨Guid.unknown,⟨0,0⟩⟩⟩),
    .insert 0 0 false sampleRequest sampleClient false,
    .commit 0 sampleRequest 0 (some (.ok ())),
    .leave 0 (.value true),
    .finish 0 none (.value true)]

end Dmw.ServerCalls
