import Dmw.OutboundRequests

/-!
# Responses of a Client

`Client` on its owner's thread, over the requests of its executor. A response
is matched with a call by the RequestId that the send of the call returned; it
may come before the owner has seen that send complete, more than once, or
without any call.
-/

namespace Dmw.ServiceClient

open GuardedRuns KeyedTable KeyedTable.Table ReplyStaging RecordVector.Records OutboundRequests

variable {κ ρ : Type} [DecidableEq κ]

/-- The tables of a `Client`. -/
structure ClientTables (κ ρ : Type) where
  /-- `_pending`. -/
  pending : Table κ ℕ
  /-- `_early`. -/
  early : Staging κ ρ
  /-- `_tombstones`. -/
  tombstones : Tombstones κ
  /-- `_unreconciled`. -/
  unreconciled : Finset ℕ
  /-- Every response that was received, in order. -/
  received : List (κ × ρ)

/-- No call was made. -/
def ClientTables.initial (κ ρ : Type) [DecidableEq κ] : ClientTables κ ρ :=
  ⟨∅,∅,RecordVector.Records.empty,∅,[]⟩

/-- 60 seconds, in nanoseconds. -/
def tombstoneLifetime : ℕ := 60000000000

/-- The bound of `_tombstones` and of `_early`. -/
def stagingCapacity : ℕ := 4096

/-- A client with its executor. -/
abbrev Client (κ ρ : Type) := Requests κ ρ (ClientTables κ ρ)

/-- `_tombstone`. -/
def ClientTables.bury (now : ℕ) (requestId : κ) (t : ClientTables κ ρ) : ClientTables κ ρ :=
  { t with tombstones := tombstone stagingCapacity tombstoneLifetime now requestId t.tombstones }

/-- `_retire_candidate`. -/
def ClientTables.retireCandidate (operation : ℕ) (t : ClientTables κ ρ) : ClientTables κ ρ :=
  { t with
    unreconciled := t.unreconciled.erase operation
    early := retire operation t.early }

/-- `_cancel_operation`, after the native work was canceled. -/
def ClientTables.forget (now operation : ℕ) (record : Operation κ) (t : ClientTables κ ρ) :
    ClientTables κ ρ :=
  match record.requestId with
  | none => t.retireCandidate operation
  | some requestId =>
    (({ t with
        pending := t.pending.erase requestId
        early := t.early.erase requestId }).bury now requestId).retireCandidate operation

/-- `_send_committed`. -/
def sendCommitted (now operation : ℕ) (completion : Completion κ) :
    Step κ ρ (ClientTables κ ρ) Bool := fun s =>
  match completion.error with
  | some code =>
    (.ok false,{ s with
      out := s.out.finish operation (.exception (.native code))
      tables := s.tables.retireCandidate operation })
  | none =>
    match completion.requestId with
    | none => (.ok false,{ s with tables := s.tables.retireCandidate operation })
    | some requestId =>
      if completion.skipped then
        (.ok false,{ s with tables := s.tables.retireCandidate operation })
      else
        let out := match s.closing with
          | none => s.out
          | some cause => s.out.finish operation (.exception (.ended cause))
        let out := out.identify operation requestId
        let tables := { s.tables with early := s.tables.early.erase requestId }
        if (out.futures operation).done ∨ s.closing.isSome then
          (.ok false,{ s with
            out := out
            tables := (tables.bury now requestId).retireCandidate operation })
        else
          match s.tables.early.lookup requestId with
          | some staged =>
            (.ok false,{ s with
              out := out.finish operation (.result staged.response)
              tables := (tables.bury now requestId).retireCandidate operation })
          | none =>
            (.ok true,{ s with
              out := out
              tables := { tables with pending := tables.pending.insert requestId operation
                }.retireCandidate operation })

/-- `_retire_bindings`. -/
def ClientTables.retireBindings (t : ClientTables κ ρ) : ClientTables κ ρ :=
  { ClientTables.initial κ ρ with received := t.received }

/-- What an executor calls on a `Client`. -/
def clientCallee : Callee κ ρ (ClientTables κ ρ) where
  addCandidate := fun operation t => { t with unreconciled := insert operation t.unreconciled }
  retireCandidate := ClientTables.retireCandidate
  forget := ClientTables.forget
  sendCommitted := sendCommitted
  retireBindings := ClientTables.retireBindings

/-- `_complete_request`. -/
def completeRequest (operation : ℕ) (response : ρ) : Step κ ρ (ClientTables κ ρ) Unit := fun s =>
  match s.out.operations.lookup operation with
  | none => (.error .keyError,s)
  | some _ =>
    (.ok (),s.withOut fun out => (out.drop operation).finish operation (.result response))

/-- Staging a response that nobody is known to wait for. -/
def stageResponse (now : ℕ) (requestId : κ) (response : ρ) :
    Step κ ρ (ClientTables κ ρ) Unit := fun s =>
  if ∃ operation ∈ s.tables.unreconciled, s.out.operations.lookup operation = none then
    (.error .keyError,s)
  else
    let candidates := s.tables.unreconciled.filter fun operation =>
      (s.out.works operation).sendStarted
    if candidates = ∅ then (.ok (),s)
    else if (s.tables.early.lookup requestId).isSome then (.ok (),s)
    else if size s.tables.early = stagingCapacity then
      let cause := Cause.resourceExhausted "Early response staging capacity exhausted"
      let s := cancelEntityOperations clientCallee now cause
        { s with closing := some (s.closing.getD cause) }
      (.ok (),{ s with tables := { s.tables with early := ∅ } })
    else
      (.ok (),{ s with
        tables := { s.tables with
          early := s.tables.early.insert requestId ⟨response,candidates⟩ } })

/-- `_take_response`, with the response that was received. -/
def takeResponse (now : ℕ) (requestId : κ) (response : ρ) :
    Step κ ρ (ClientTables κ ρ) Unit := fun s =>
  let s := { s with
    tables := { s.tables with received := s.tables.received ++ [(requestId,response)] } }
  if remembered now requestId s.tables.tombstones then (.ok (),s)
  else
    let s := { s with
      tables := { s.tables with tombstones := s.tables.tombstones.erase requestId } }
    match s.tables.pending.lookup requestId with
    | some operation =>
      completeRequest operation response { s with
        tables := { s.tables with pending := s.tables.pending.erase requestId }.bury now requestId }
    | none => stageResponse now requestId response s

/-- The steps of a `Client` and its executor. -/
inductive ClientEvent (κ ρ : Type)
  /-- A step that every client takes part in. -/
  | executor (event : ExecutorEvent κ)
  /-- The owner takes a response. -/
  | respond (now : ℕ) (requestId : κ) (response : ρ)

/-- Every request of a `Client` is a service request. -/
def ClientEvent.Enabled (s : Client κ ρ) : ClientEvent κ ρ → Prop
  | .executor (.submit kind admission) =>
      (ExecutorEvent.submit kind admission).Enabled s ∧ kind = .service
  | .executor event => event.Enabled s
  | .respond _ _ _ => True

/-- What a step does, and whether it raises. -/
def clientStep (event : ClientEvent κ ρ) : Step κ ρ (ClientTables κ ρ) Unit :=
  match event with
  | .executor event => executorStep clientCallee event
  | .respond now requestId response => takeResponse now requestId response

instance (s : Client κ ρ) (event : ClientEvent κ ρ) : Decidable (event.Enabled s) :=
  match event with
  | .executor event =>
    match event with
    | .submit _ _ => instDecidableAnd
    | .start operation => OutboundRequests.instDecidableEnabled s (.start operation)
    | .sent operation outcome => OutboundRequests.instDecidableEnabled s (.sent operation outcome)
    | .cancel operation => OutboundRequests.instDecidableEnabled s (.cancel operation)
    | .drain now operation => OutboundRequests.instDecidableEnabled s (.drain now operation)
    | .notify now => OutboundRequests.instDecidableEnabled s (.notify now)
    | .cancelAll now => OutboundRequests.instDecidableEnabled s (.cancelAll now)
    | .close cause => OutboundRequests.instDecidableEnabled s (.close cause)
    | .shutdown cause => OutboundRequests.instDecidableEnabled s (.shutdown cause)
    | .expire operation => OutboundRequests.instDecidableEnabled s (.expire operation)
    | .retire => OutboundRequests.instDecidableEnabled s .retire
    | .elsewhere count => OutboundRequests.instDecidableEnabled s (.elsewhere count)
  | .respond _ _ _ => isTrue trivial

/-- Before the first call. -/
def initial (κ ρ : Type) [DecidableEq κ] : Client κ ρ :=
  ⟨Outbound.initial κ ρ,none,ClientTables.initial κ ρ⟩

/-- A `Client`, its executor, the worker and the users of its Futures. -/
def machine (κ ρ : Type) [DecidableEq κ] : Machine (Client κ ρ) (ClientEvent κ ρ) where
  enabled := fun s event => event.Enabled s
  next := fun s event => (clientStep event s).2
  decidableEnabled := fun _ _ => inferInstance

end Dmw.ServiceClient
