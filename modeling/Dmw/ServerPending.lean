import Dmw.Identity
import Dmw.KeyedTable

/-!
# Pending requests of one Server

The bounded pending table behind a Server. Every definition up to
`setBlockingEnabled` is one `pending_mutex_` critical section or one flag
exchange; `respond` is the straight-line part of `write_claimed_response`
between them, with discovery, shutdown and DDS answers supplied from outside.
-/

namespace Dmw.ServerPending

open Identity KeyedTable

/-- A pending request waits for a responder or is being answered. -/
inductive PendingPhase
  | pending
  | responding
  deriving DecidableEq, Repr

/-- One accepted request. -/
structure PendingRequest where
  /-- Identity written back with the response. -/
  sampleIdentity : SampleIdentity
  /-- Whether a responder holds the claim. -/
  phase : PendingPhase
  /-- Ordinal of the accepting read; history only, no branch reads it. -/
  acceptance : ℕ
  deriving DecidableEq

/-- Pending table, capacity accounting and the request reader's visibility. -/
structure Server where
  /-- Public capacity bound. -/
  maxPendingRequests : ℕ
  /-- Slots held by a read that has not registered its request yet. -/
  reservations : ℕ
  /-- Accepted requests by identity. -/
  pending : Table RequestId PendingRequest
  /-- The request reader takes part in its WaitSet. -/
  blockingEnabled : Bool
  /-- Number of accepted requests so far; history only. -/
  accepted : ℕ

namespace Server

/-- A new Server has the whole capacity free and a visible reader. -/
def initial (maxPendingRequests : ℕ) : Server := ⟨maxPendingRequests, 0, ∅, true, 0⟩

/-- Slots in use, counting reservations. -/
def occupied (s : Server) : ℕ := Table.size s.pending + s.reservations

/-- The capacity test used by every critical section. -/
def hasCapacity (s : Server) : Bool := s.occupied < s.maxPendingRequests

/-- Reserve a slot before the destructive take; reports whether it was the
last one. -/
def reserveRequestSlot (s : Server) : Option (Bool × Server) :=
  if s.occupied ≥ s.maxPendingRequests then none
  else
    let reserved := {s with reservations := s.reservations+1}
    some (reserved.occupied == s.maxPendingRequests, reserved)

/-- Give a reservation back; reports whether the table was full. -/
def releaseRequestReservation (s : Server) : Bool × Server :=
  let released := {s with reservations := s.reservations-1}
  (released.occupied+1 == s.maxPendingRequests, released)

/-- Erase an entry whatever its phase; the report is taken before the erase. -/
def releasePendingRequest (id : RequestId) (s : Server) : Bool × Server :=
  (s.occupied == s.maxPendingRequests, {s with pending := s.pending.erase id})

/-- Turn the reservation into a pending entry; a duplicate keeps the old one.
Reports whether the request was new. -/
def insertRequest (id : RequestId) (identity : SampleIdentity) (s : Server) : Bool × Server :=
  if id ∈ s.pending then (false,{s with reservations := s.reservations-1})
  else
    (true,{s with
      pending := s.pending.insert id ⟨identity,.pending,s.accepted⟩
      reservations := s.reservations-1
      accepted := s.accepted+1})

/-- The insertion threw; only the reservation is given back. -/
def abandonInsertion (s : Server) : Server := {s with reservations := s.reservations-1}

/-- The entry of a request nobody is answering, or the documented error. -/
def findUnclaimed (id : RequestId) (s : Server) : Result PendingRequest :=
  match s.pending.lookup id with
  | none => .error ⟨.notFound,"Request is not pending"⟩
  | some entry =>
    match entry.phase with
    | .responding => .error ⟨.busy,"Response is in progress"⟩
    | .pending => .ok entry

/-- Non-mutating admission check. -/
def checkPendingRequest (id : RequestId) (s : Server) : Result Unit :=
  (s.findUnclaimed id).map fun _ => ()

/-- Erase a request nobody is answering; reports the entry and whether the
table was full. -/
def discardRequest (id : RequestId) (s : Server) : Result (PendingRequest × Bool × Server) :=
  (s.findUnclaimed id).map fun entry =>
    (entry,s.occupied == s.maxPendingRequests,{s with pending := s.pending.erase id})

/-- Overwrite the phase of an entry that is still registered. -/
def setPhase (phase : PendingPhase) (id : RequestId) (s : Server) : Server :=
  {s with pending := Table.modify id (fun e => {e with phase := phase}) s.pending}

/-- Move a request from Pending to Responding and hand out its entry. -/
def claimResponse (id : RequestId) (s : Server) : Result (PendingRequest × Server) :=
  (s.findUnclaimed id).map fun entry => (entry,s.setPhase .responding id)

/-- Put a still registered entry back to Pending, whoever holds it. -/
def restorePending (id : RequestId) (s : Server) : Server := s.setPhase .pending id

/-- Publish the reader's visibility. -/
def setBlockingEnabled (value : Bool) (s : Server) : Server := {s with blockingEnabled := value}

variable {s : Server} {id id' : RequestId} {entry : PendingRequest} {phase : PendingPhase}

/-- A reservation needs a free slot and adds itself. -/
theorem reserveRequestSlot_some {s' : Server} {becameFull : Bool} :
    s.reserveRequestSlot = some (becameFull, s') ↔
      s.occupied < s.maxPendingRequests ∧ becameFull = (s.occupied + 1 == s.maxPendingRequests) ∧
        s' = {s with reservations := s.reservations+1} := by
  unfold reserveRequestSlot
  split
  · next hfull =>
    simp only [reduceCtorEq, false_iff, not_and]
    omega
  · next hfree =>
    simp only [Option.some.injEq, Prod.mk.injEq]
    constructor
    · rintro ⟨rfl, rfl⟩
      exact ⟨by omega, rfl, rfl⟩
    · rintro ⟨_, rfl, rfl⟩
      exact ⟨rfl, rfl⟩

/-- Only a registered entry in phase Pending passes the admission checks. -/
theorem findUnclaimed_ok :
    s.findUnclaimed id = .ok entry ↔ s.pending.lookup id = some entry ∧ entry.phase = .pending := by
  unfold findUnclaimed
  cases hl : s.pending.lookup id with
  | none => simp
  | some e =>
    obtain ⟨identity, phase, acceptance⟩ := e
    cases phase with
    | pending =>
      simp only [Except.ok.injEq, Option.some.injEq]
      constructor
      · rintro rfl
        exact ⟨rfl, rfl⟩
      · exact fun h => h.1
    | responding =>
      simp only [Option.some.injEq, reduceCtorEq, false_iff, not_and]
      rintro rfl hpending
      cases hpending

/-- A claim hands out a Pending entry and marks it Responding. -/
theorem claimResponse_ok {s' : Server} :
    s.claimResponse id = .ok (entry, s') ↔
      s.pending.lookup id = some entry ∧ entry.phase = .pending ∧ s' = s.setPhase .responding id := by
  rw [← and_assoc, ← findUnclaimed_ok, claimResponse]
  cases s.findUnclaimed id with
  | error e => simp [Except.map]
  | ok found =>
    simp only [Except.map, Except.ok.injEq, Prod.mk.injEq]
    exact ⟨fun h => ⟨h.1, h.2.symm⟩, fun h => ⟨h.1, h.2.symm⟩⟩

/-- A discard erases a Pending entry. -/
theorem discardRequest_ok {s' : Server} {wasFull : Bool} :
    s.discardRequest id = .ok (entry, wasFull, s') ↔
      s.pending.lookup id = some entry ∧ entry.phase = .pending ∧
        wasFull = (s.occupied == s.maxPendingRequests) ∧
          s' = {s with pending := s.pending.erase id} := by
  rw [← and_assoc, ← findUnclaimed_ok, discardRequest]
  cases s.findUnclaimed id with
  | error e => simp [Except.map]
  | ok found =>
    simp only [Except.map, Except.ok.injEq, Prod.mk.injEq]
    exact ⟨fun h => ⟨h.1, h.2.1.symm, h.2.2.symm⟩, fun h => ⟨h.1, h.2.1.symm, h.2.2.symm⟩⟩

@[simp] theorem lookup_setPhase_self :
    (s.setPhase phase id).pending.lookup id =
      (s.pending.lookup id).map fun e => {e with phase := phase} :=
  Table.lookup_modify_self id _ s.pending

@[simp] theorem lookup_setPhase_ne (hne : id' ≠ id) :
    (s.setPhase phase id).pending.lookup id' = s.pending.lookup id' :=
  Table.lookup_modify_ne hne _ s.pending

@[simp] theorem occupied_setPhase : (s.setPhase phase id).occupied = s.occupied := by
  simp [occupied, setPhase]

/-- A reservation takes one slot. -/
theorem occupied_reserve (s : Server) :
    occupied {s with reservations := s.reservations+1} = s.occupied + 1 := rfl

/-- An abandoned insertion frees its slot. -/
theorem occupied_abandonInsertion (hheld : s.reservations ≠ 0) :
    s.abandonInsertion.occupied + 1 = s.occupied := by
  simp only [abandonInsertion, occupied]
  omega

/-- Giving a held reservation back frees one slot and reports a full table. -/
theorem releaseRequestReservation_eq (hheld : s.reservations ≠ 0) :
    s.releaseRequestReservation.2.occupied + 1 = s.occupied ∧
      s.releaseRequestReservation.1 = (s.occupied == s.maxPendingRequests) := by
  have hfreed : s.releaseRequestReservation.2.occupied + 1 = s.occupied := by
    simp only [releaseRequestReservation, occupied]
    omega
  exact ⟨hfreed, by rw [← hfreed]; rfl⟩

/-- A registration trades the reservation for an entry; a duplicate frees it. -/
theorem occupied_insertRequest (id : RequestId) (identity : SampleIdentity) (hheld : s.reservations ≠ 0) :
    (s.insertRequest id identity).2.occupied + (if id ∈ s.pending then 1 else 0) = s.occupied := by
  by_cases hmem : id ∈ s.pending
  · simp only [insertRequest, if_pos hmem, occupied]
    omega
  · simp only [insertRequest, if_neg hmem, occupied, Table.size_insert_of_notMem hmem]
    omega

/-- Erasing frees the slot of a registered entry. -/
theorem occupied_erase (id : RequestId) (s : Server) :
    occupied {s with pending := s.pending.erase id} + (if id ∈ s.pending then 1 else 0) =
      s.occupied := by
  by_cases hmem : id ∈ s.pending
  · have hpos := Table.size_pos_of_mem hmem
    simp only [occupied, Table.size_erase, if_pos hmem]
    omega
  · simp only [occupied, Table.size_erase, if_neg hmem]
    omega

end Server

/-- How a call ends for its caller. -/
inductive Reply
  | success
  | value (b : Bool)
  | failure (e : Error)
  | exception
  deriving DecidableEq

/-- Discovery state of an exact response reader. -/
inductive TargetStatus
  | ready
  | removed
  | timedOut
  | unavailable
  deriving DecidableEq, Repr

/-- Everything outside the pending table that `write_claimed_response` asks,
in source order; `none` is an exception. -/
structure ResponseEnv where
  /-- The caller passed no response. -/
  responseNull : Bool
  /-- The Context admitted the operation. -/
  operation : Bool
  /-- Response writer QoS query and deadline conversion. -/
  deadline : Option (Result Unit)
  /-- First wait for the exact response reader. -/
  target : Option TargetStatus
  /-- Context shutdown observed at the commit point. -/
  isShutdown : Bool
  /-- Commit-point recheck of the response reader. -/
  finalTarget : TargetStatus
  /-- Second wait, only after a timed-out recheck. -/
  finalWait : Option TargetStatus
  /-- Result of the DDS write. -/
  written : Option Bool

/-- What the call does with its claim next. -/
inductive Disposition
  | unwind (reply : Reply)
  | restore (reply : Reply)
  | release (written : Bool)
  deriving DecidableEq

/-- Both target checks map a reader that is not ready in the same way; only
the timeout text differs. -/
def notReady (status : TargetStatus) (timeoutMessage : String) : Disposition :=
  match status with
  | .removed => .release false
  | .unavailable =>
    .restore (.failure ⟨.ddsError,"Response reader discovery context is unavailable"⟩)
  | _ => .restore (.failure ⟨.timeout,timeoutMessage⟩)

/-- The DDS write and the handling of its three outcomes. -/
def writeSample (env : ResponseEnv) : Disposition :=
  match env.written with
  | none => .restore .exception
  | some true => .release true
  | some false => .restore (.failure ⟨.ddsError,"Fast DDS response write failed"⟩)

/-- Commit-point recheck of an exact response reader before the write. -/
def recheckTarget (env : ResponseEnv) : Disposition :=
  let final := if env.finalTarget = .timedOut then env.finalWait else some env.finalTarget
  match final with
  | none => .restore .exception
  | some .ready => writeSample env
  | some status => notReady status "Response reader is unavailable before write"

/-- Shutdown recheck, then the target recheck, then the write. -/
def commitResponse (hasTargetReader : Bool) (env : ResponseEnv) : Disposition :=
  if env.isShutdown then .restore (.failure ⟨.contextShutdown,"Context is shut down"⟩)
  else if hasTargetReader then recheckTarget env
  else writeSample env

/-- Every path of `write_claimed_response` up to its use of the pending table. -/
def respond (identity : SampleIdentity) (env : ResponseEnv) : Disposition :=
  if env.responseNull then .unwind (.failure ⟨.invalidArgument,"Response must not be null"⟩)
  else if !env.operation then .unwind (.failure ⟨.contextShutdown,"Context is shut down"⟩)
  else
    let hasTargetReader := isReaderGuid identity.writerGuid
    match env.deadline with
    | none => .unwind .exception
    | some (.error e) => .restore (.failure e)
    | some (.ok _) =>
      if hasTargetReader then
        match env.target with
        | none => .restore .exception
        | some .ready => commitResponse true env
        | some status => notReady status "Response reader did not match before the deadline"
      else commitResponse false env

/-- What one destructive take yields, and what decoding it may report. -/
inductive TakeOutcome
  /-- An exception, of the take or while the sample it takes into is created. -/
  | threw
  | scratchFailed (e : Error)
  | noData
  | failed (e : Error)
  | taken (info : SampleInfo)

/-- What the read loop does with a take. -/
inductive TakeDecision
  | throw
  | leave (reply : Reply)
  | skip
  | insert (id : RequestId) (identity : SampleIdentity)

/-- Decode a take. A request that names its client's response reader is
identified, and answered, by that reader. -/
def decodeTake : TakeOutcome → TakeDecision
  | .threw => .throw
  | .scratchFailed e => .leave (.failure e)
  | .noData => .leave (.value false)
  | .failed e => .leave (.failure e)
  | .taken info =>
    if !info.validData then .skip
    else
      match toRequestId info.sampleIdentity with
      | none => .leave (.failure ⟨.ddsError,"Fast DDS request has an unknown sequence"⟩)
      | some id =>
        let responseReader := info.relatedSampleIdentity.writerGuid
        if responseReader ≠ Guid.unknown then
          .insert {id with clientGid := toGid responseReader}
            {info.sampleIdentity with writerGuid := responseReader}
        else .insert id info.sampleIdentity

/-- Decoding what was taken throws nothing. -/
theorem decodeTake_throw {outcome : TakeOutcome} :
    decodeTake outcome = .throw ↔ outcome = .threw := by
  cases outcome with
  | taken info =>
    simp only [decodeTake, reduceCtorEq, iff_false]
    split_ifs
    · exact nofun
    · split <;> exact nofun
    · split <;> exact nofun
  | _ => simp [decodeTake]

end Dmw.ServerPending
