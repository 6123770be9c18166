import Dmw.GuardedRuns
import Dmw.Identity
import Dmw.QosPolicies
import Dmw.GraphNames
import Dmw.RecordVector

/-!
# The discovery graph

One graph per participant collects what discovery callbacks report about the
remote side and what the local API registers about its own. Every operation is
one critical section that changes the tables and says whether the graph
changed. A change moves the revision, an invalid input makes the graph
unavailable for good, and both are announced to the subscribers.
-/

namespace Dmw.DiscoveryGraph

open GuardedRuns Identity QosPolicies GraphNames RecordVector

/-- Direction of one discovery report, and the lifecycle it leaves. -/
inductive DiscoveryChange
  | added
  | removed
  deriving DecidableEq, Repr

/-- Whether the graph still accepts input. -/
inductive DiscoveryHealth
  | healthy
  | unavailable
  deriving DecidableEq, Repr

/-- DDS direction of an endpoint. -/
inductive EndpointKind
  | reader
  | writer
  deriving DecidableEq, Repr

/-- What is known about one endpoint. -/
inductive EndpointState
  | unknown
  | active
  | removed
  | unavailable
  deriving DecidableEq, Repr

/-- Outcome of one change of the tables. -/
inductive GraphMutation
  | changed
  | unchanged
  | invalid
  deriving DecidableEq, Repr

/-- One participant ever heard of. -/
structure ParticipantRecord where
  /-- Identity. -/
  guidPrefix : GuidPrefix
  /-- Last accepted report. -/
  lifecycle : DiscoveryChange
  /-- Number of departures. -/
  generation : ℕ
  deriving DecidableEq

/-- One endpoint ever heard of. In the graph and in a copy of it the participant
is a pointer to its record, named by the record's prefix; once the pointer was
followed it is the record. -/
structure EndpointRecord (π : Type) where
  /-- Identity. -/
  guid : Guid
  /-- Direction. -/
  kind : EndpointKind
  /-- DDS topic name. -/
  topic : ByteString
  /-- DDS type name. -/
  type : ByteString
  /-- Announced QoS. -/
  qos : Qos
  /-- The participant it belongs to. -/
  participant : π
  /-- Last accepted report. -/
  lifecycle : DiscoveryChange
  deriving DecidableEq

/-- Local node identity. -/
structure LocalNodeRecord where
  /-- Identity within the context, never zero. -/
  id : ℕ
  /-- Node name. -/
  name : ByteString
  /-- Node namespace. -/
  nodeNamespace : ByteString
  /-- The node facade and every local endpoint associated with the node. -/
  references : ℕ
  deriving DecidableEq

/-- One local endpoint with its node. -/
structure LocalEndpointRecord where
  /-- Identity. -/
  guid : Guid
  /-- Direction. -/
  kind : EndpointKind
  /-- DDS topic name. -/
  topic : ByteString
  /-- DDS type name. -/
  type : ByteString
  /-- Requested QoS. -/
  qos : Qos
  /-- The node that created it. -/
  nodeId : ℕ
  deriving DecidableEq

/-- Node identity learned from another participant's graph metadata. -/
structure RemoteNodeRecord where
  /-- Node namespace. -/
  nodeNamespace : ByteString
  /-- Node name. -/
  nodeName : ByteString
  /-- GUID octets of the readers it lists. -/
  readerGids : List (Vector UInt8 16)
  /-- GUID octets of the writers it lists. -/
  writerGids : List (Vector UInt8 16)
  deriving DecidableEq

/-- Metadata snapshot of one participant. -/
structure RemoteParticipantNodes where
  /-- The participant. -/
  guidPrefix : GuidPrefix
  /-- Its nodes. -/
  nodes : List RemoteNodeRecord
  deriving DecidableEq

/-- Largest value of a 64-bit counter. -/
def uint64Max : ℕ := UInt64.size - 1

/-- What the graph knows. -/
structure Tables where
  /-- Last node id given out. -/
  nextLocalNodeId : ℕ
  /-- Local nodes. -/
  localNodes : Records LocalNodeRecord.id
  /-- Local endpoints. -/
  localEndpoints : Records LocalEndpointRecord.guid
  /-- Metadata of the other participants. -/
  remoteNodes : Records RemoteParticipantNodes.guidPrefix
  /-- Participants, departed ones included. -/
  participants : Records ParticipantRecord.guidPrefix
  /-- Discovered endpoints, removed ones included. -/
  endpoints : Records (@EndpointRecord.guid GuidPrefix)

/-- State behind the graph mutex, with the history of its announcements. -/
structure Graph extends Tables where
  /-- Whether input is accepted. -/
  health : DiscoveryHealth
  /-- Number of accepted changes. -/
  revision : ℕ
  /-- Revisions announced to the subscribers, oldest first. -/
  notices : List ℕ

/-- A graph that has heard of nothing. -/
def Graph.initial : Graph where
  nextLocalNodeId := 0
  localNodes := .empty
  localEndpoints := .empty
  remoteNodes := .empty
  participants := .empty
  endpoints := .empty
  health := .healthy
  revision := 0
  notices := []

/-- Call every subscriber with the current revision. -/
def notify (g : Graph) : Graph := { g with notices := g.notices ++ [g.revision] }

/-- Run one change under the graph mutex and account for its outcome. -/
def mutate (change : Tables → Tables × GraphMutation) (g : Graph) : Graph :=
  if g.health ≠ .healthy then g
  else
    match change g.toTables with
    | (t, .invalid) => notify { g with toTables := t, health := .unavailable }
    | (t, .changed) =>
      if g.revision = uint64Max then notify { g with toTables := t, health := .unavailable }
      else notify { g with toTables := t, revision := g.revision + 1 }
    | (t, .unchanged) => { g with toTables := t }

/-- Change of `applyParticipant`. -/
def participantChange (guidPrefix : GuidPrefix) (change : DiscoveryChange) (t : Tables) :
    Tables × GraphMutation :=
  match t.participants.find guidPrefix with
  | none => ({ t with participants := t.participants.put ⟨guidPrefix, change, 0⟩ }, .changed)
  | some participant =>
    if change = .added ∧ participant.lifecycle = .removed then (t, .invalid)
    else if change = .removed ∧ participant.lifecycle ≠ .removed then
      if participant.generation = uint64Max then (t, .invalid)
      else
        ({ t with
            participants := t.participants.put
              { participant with lifecycle := change, generation := participant.generation + 1 } },
          .changed)
    else (t, .unchanged)

/-- Report about one participant. -/
def applyParticipant (guidPrefix : GuidPrefix) (change : DiscoveryChange) : Graph → Graph :=
  mutate (participantChange guidPrefix change)

/-- The record of a participant, created on first sight. -/
def participantFor (guidPrefix : GuidPrefix) (t : Tables) : Tables × ParticipantRecord :=
  match t.participants.find guidPrefix with
  | some participant => (t, participant)
  | none =>
    ({ t with participants := t.participants.put ⟨guidPrefix, .added, 0⟩ }, ⟨guidPrefix, .added, 0⟩)

/-- What an endpoint announces about itself. -/
structure Announcement where
  /-- Direction. -/
  kind : EndpointKind
  /-- DDS topic name. -/
  topic : ByteString
  /-- DDS type name. -/
  type : ByteString
  /-- QoS. -/
  qos : Qos
  deriving DecidableEq

/-- Change of `applyEndpoint` once the participant's record is known. -/
def recordEndpoint (guid : Guid) (told : Announcement) (change : DiscoveryChange)
    (participant : ParticipantRecord) (t : Tables) : Tables × GraphMutation :=
  if change = .added ∧ participant.lifecycle = .removed then (t, .invalid)
  else
    match t.endpoints.find guid with
    | none =>
      ({ t with
          endpoints := t.endpoints.put
            { guid, kind := told.kind, topic := told.topic, type := told.type, qos := told.qos,
              participant := participant.guidPrefix, lifecycle := change } },
        .changed)
    | some found =>
      if change = .added ∧ found.lifecycle = .removed then (t, .invalid)
      else if found.kind = told.kind ∧ found.topic = told.topic ∧ found.type = told.type ∧
          found.lifecycle = change then (t, .unchanged)
      else
        ({ t with
            endpoints := t.endpoints.put
              { found with
                kind := told.kind, topic := told.topic, type := told.type, qos := told.qos,
                lifecycle := change } },
          .changed)

/-- Change of `applyEndpoint`. -/
def endpointChange (guid : Guid) (told : Announcement) (change : DiscoveryChange) (t : Tables) :
    Tables × GraphMutation :=
  let (t', participant) := participantFor guid.guidPrefix t
  recordEndpoint guid told change participant t'

/-- Report about one endpoint. -/
def applyEndpoint (guid : Guid) (told : Announcement) (change : DiscoveryChange) :
    Graph → Graph :=
  mutate (endpointChange guid told change)

/-- Change of `applyRemoteNodes`. -/
def remoteNodesChange (guidPrefix : GuidPrefix) (nodes : List RemoteNodeRecord) (t : Tables) :
    Tables × GraphMutation :=
  match t.remoteNodes.find guidPrefix with
  | none =>
    if nodes = [] then (t, .unchanged)
    else ({ t with remoteNodes := t.remoteNodes.put ⟨guidPrefix, nodes⟩ }, .changed)
  | some found =>
    if found.nodes = nodes then (t, .unchanged)
    else if nodes = [] then
      ({ t with remoteNodes := t.remoteNodes.erase guidPrefix }, .changed)
    else ({ t with remoteNodes := t.remoteNodes.put { found with nodes } }, .changed)

/-- Replace one participant's metadata snapshot. -/
def applyRemoteNodes (guidPrefix : GuidPrefix) (nodes : List RemoteNodeRecord) :
    Graph → Graph :=
  mutate (remoteNodesChange guidPrefix nodes)

/-- Change of `addLocalNode`. -/
def localNodeAddition (name nodeNamespace : ByteString) (t : Tables) : Tables × GraphMutation :=
  if t.nextLocalNodeId = uint64Max then (t, .invalid)
  else
    ({ t with
        nextLocalNodeId := t.nextLocalNodeId + 1
        localNodes := t.localNodes.put ⟨t.nextLocalNodeId + 1, name, nodeNamespace, 1⟩ },
      .changed)

/-- Register one local node. -/
def addLocalNode (name nodeNamespace : ByteString) : Graph → Graph :=
  mutate (localNodeAddition name nodeNamespace)

/-- The id that `addLocalNode` returns, or zero. -/
def addLocalNodeId (g : Graph) : ℕ :=
  if g.health = .healthy ∧ g.nextLocalNodeId ≠ uint64Max then g.nextLocalNodeId + 1 else 0

/-- One reference less, and the record goes with the last one. -/
def dropReference (node : LocalNodeRecord) (t : Tables) : Tables :=
  if node.references - 1 = 0 then { t with localNodes := t.localNodes.erase node.id }
  else { t with localNodes := t.localNodes.put { node with references := node.references - 1 } }

/-- Change of `releaseLocalNode`. -/
def localNodeRelease (id : ℕ) (t : Tables) : Tables × GraphMutation :=
  match t.localNodes.find id with
  | none => (t, .unchanged)
  | some found =>
    (dropReference found t, if found.references - 1 = 0 then .changed else .unchanged)

/-- Drop the node facade's reference. -/
def releaseLocalNode (id : ℕ) (g : Graph) : Graph :=
  if id = 0 then g else mutate (localNodeRelease id) g

/-- Change of `addLocalEndpoint`. -/
def localEndpointAddition (guid : Guid) (told : Announcement) (nodeId : ℕ) (t : Tables) :
    Tables × GraphMutation :=
  match t.localNodes.find nodeId with
  | none => (t, .invalid)
  | some node =>
    match t.localEndpoints.find guid with
    | some found =>
      if found.kind = told.kind ∧ found.topic = told.topic ∧ found.type = told.type ∧
          found.nodeId = nodeId then (t, .unchanged)
      else
        ({ t with
            localEndpoints := t.localEndpoints.put
              { found with
                kind := told.kind, topic := told.topic, type := told.type, qos := told.qos,
                nodeId } },
          .changed)
    | none =>
      ({ t with
          localNodes := t.localNodes.put { node with references := node.references + 1 }
          localEndpoints := t.localEndpoints.put
            { guid, kind := told.kind, topic := told.topic, type := told.type, qos := told.qos,
              nodeId } },
        .changed)

/-- Associate one local endpoint with the node that created it. -/
def addLocalEndpoint (guid : Guid) (told : Announcement) (nodeId : ℕ) (g : Graph) : Graph :=
  if nodeId = 0 then g else mutate (localEndpointAddition guid told nodeId) g

/-- Change of `removeLocalEndpoint`. -/
def localEndpointRemoval (guid : Guid) (t : Tables) : Tables × GraphMutation :=
  match t.localEndpoints.find guid with
  | none => (t, .unchanged)
  | some found =>
    let t' := { t with localEndpoints := t.localEndpoints.erase guid }
    match t'.localNodes.find found.nodeId with
    | none => (t', .changed)
    | some node => (dropReference node t', .changed)

/-- Forget one local endpoint. -/
def removeLocalEndpoint (guid : Guid) : Graph → Graph := mutate (localEndpointRemoval guid)

/-- What is known about one endpoint. -/
def Graph.endpoint (guid : Guid) (g : Graph) : EndpointState :=
  if g.health ≠ .healthy then .unavailable
  else
    match g.endpoints.find guid with
    | none => .unknown
    | some found =>
      if found.lifecycle = .removed ∨
          (g.participants.find found.participant).any fun p => p.lifecycle = .removed then .removed
      else .active

/-- A call that changes the graph. -/
inductive GraphCall
  | applyParticipant (guidPrefix : GuidPrefix) (change : DiscoveryChange)
  | applyEndpoint (guid : Guid) (told : Announcement) (change : DiscoveryChange)
  | applyRemoteNodes (guidPrefix : GuidPrefix) (nodes : List RemoteNodeRecord)
  | addLocalNode (name nodeNamespace : ByteString)
  | releaseLocalNode (id : ℕ)
  | addLocalEndpoint (guid : Guid) (told : Announcement) (nodeId : ℕ)
  | removeLocalEndpoint (guid : Guid)
  deriving DecidableEq

/-- Perform one call. -/
def perform (g : Graph) : GraphCall → Graph
  | .applyParticipant guidPrefix change => applyParticipant guidPrefix change g
  | .applyEndpoint guid told change => applyEndpoint guid told change g
  | .applyRemoteNodes guidPrefix nodes => applyRemoteNodes guidPrefix nodes g
  | .addLocalNode name nodeNamespace => addLocalNode name nodeNamespace g
  | .releaseLocalNode id => releaseLocalNode id g
  | .addLocalEndpoint guid told nodeId => addLocalEndpoint guid told nodeId g
  | .removeLocalEndpoint guid => removeLocalEndpoint guid g

/-- What a call does to the tables of a healthy graph. -/
def effect (call : GraphCall) (t : Tables) : Tables × GraphMutation :=
  match call with
  | .applyParticipant guidPrefix change => participantChange guidPrefix change t
  | .applyEndpoint guid told change => endpointChange guid told change t
  | .applyRemoteNodes guidPrefix nodes => remoteNodesChange guidPrefix nodes t
  | .addLocalNode name nodeNamespace => localNodeAddition name nodeNamespace t
  | .releaseLocalNode id => if id = 0 then (t, .unchanged) else localNodeRelease id t
  | .addLocalEndpoint guid told nodeId =>
    if nodeId = 0 then (t, .unchanged) else localEndpointAddition guid told nodeId t
  | .removeLocalEndpoint guid => localEndpointRemoval guid t

/-- A change that leaves the tables alone leaves the graph alone. -/
theorem mutate_idle (g : Graph) : mutate (fun t => (t, .unchanged)) g = g := by
  unfold mutate
  split <;> rfl

/-- Every call is one change under the mutex. -/
theorem perform_eq (g : Graph) (call : GraphCall) : perform g call = mutate (effect call) g := by
  cases call with
  | releaseLocalNode id =>
    by_cases hid : id = 0
    · have heffect : effect (.releaseLocalNode id) = fun t => (t, .unchanged) := by
        funext t
        exact if_pos hid
      rw [heffect, mutate_idle]
      exact if_pos hid
    · have heffect : effect (.releaseLocalNode id) = localNodeRelease id := by
        funext t
        exact if_neg hid
      rw [heffect]
      exact if_neg hid
  | addLocalEndpoint guid told nodeId =>
    by_cases hid : nodeId = 0
    · have heffect : effect (.addLocalEndpoint guid told nodeId) = fun t => (t, .unchanged) := by
        funext t
        exact if_pos hid
      rw [heffect, mutate_idle]
      exact if_pos hid
    · have heffect : effect (.addLocalEndpoint guid told nodeId) =
          localEndpointAddition guid told nodeId := by
        funext t
        exact if_neg hid
      rw [heffect]
      exact if_neg hid
  | _ => rfl

/-- A graph that is healthy after a call was healthy before, and the call went
through: either nothing was reported, or the revision moved by one and the
subscribers were called. -/
theorem perform_healthy {g : Graph} {call : GraphCall}
    (hhealthy : (perform g call).health = .healthy) :
    g.health = .healthy ∧
      ((effect call g.toTables).2 = .unchanged ∧
          perform g call = { g with toTables := (effect call g.toTables).1 } ∨
        (effect call g.toTables).2 = .changed ∧
          perform g call =
            notify { g with toTables := (effect call g.toTables).1, revision := g.revision + 1 }) := by
  rw [perform_eq] at hhealthy ⊢
  unfold mutate at hhealthy ⊢
  by_cases hbefore : g.health = .healthy
  · refine ⟨hbefore, ?_⟩
    simp only [hbefore, ne_eq, not_true_eq_false, if_false] at hhealthy ⊢
    rcases heffect : effect call g.toTables with ⟨t, outcome⟩
    simp only [heffect] at hhealthy ⊢
    cases outcome with
    | invalid => simp [notify] at hhealthy
    | unchanged => exact Or.inl ⟨rfl, rfl⟩
    | changed =>
      refine Or.inr ⟨rfl, ?_⟩
      by_cases hfull : g.revision = uint64Max
      · simp [hfull, notify] at hhealthy
      · simp [hfull]
  · simp [hbefore] at hhealthy

/-- A call leaves the tables alone or has its effect on them. -/
theorem perform_tables (g : Graph) (call : GraphCall) :
    (perform g call).toTables = g.toTables ∨
      (perform g call).toTables = (effect call g.toTables).1 := by
  rw [perform_eq]
  unfold mutate
  split
  · exact Or.inl rfl
  · right
    rcases heffect : effect call g.toTables with ⟨t, outcome⟩
    cases outcome with
    | changed =>
      dsimp only
      split <;> rfl
    | _ => rfl

/-- No call moves the revision back. -/
theorem revision_le_perform (g : Graph) (call : GraphCall) :
    g.revision ≤ (perform g call).revision := by
  rw [perform_eq]
  unfold mutate
  split
  · exact le_rfl
  · rcases effect call g.toTables with ⟨t, outcome⟩
    cases outcome with
    | changed =>
      dsimp only
      split
      · exact le_rfl
      · exact Nat.le_succ _
    | _ => exact le_rfl

/-- The graph as a machine. Every call may come at any time. -/
def machine : Machine Graph GraphCall where
  enabled _ _ := True
  next := perform
  decidableEnabled _ _ := .isTrue trivial

variable {ok : Graph → GraphCall → Prop} {g : Graph} {calls : List GraphCall}

/-- What every effect keeps of the tables, every run keeps. -/
theorem run_tables {inv : Tables → Prop} (hinit : inv Graph.initial.toTables)
    (hstep : ∀ t call, inv t → inv (effect call t).1)
    (hrun : machine.RunWhen ok .initial calls g) : inv g.toTables := by
  refine hrun.invariant (fun g => inv g.toTables) hinit fun g call hinv _ _ => ?_
  rcases perform_tables g call with htables | htables
  · exact htables ▸ hinv
  · exact htables ▸ hstep g.toTables call hinv

/-- Runs never move the revision back. -/
theorem revision_le_run {g' : Graph} (hrun : machine.RunWhen ok g calls g') :
    g.revision ≤ g'.revision :=
  hrun.invariant (fun g' => g.revision ≤ g'.revision) le_rfl
    fun g' call hle _ _ => hle.trans (revision_le_perform g' call)

/-- The record of a participant is the stored one, or a new one. -/
theorem participantFor_cases (guidPrefix : GuidPrefix) (t : Tables) :
    (∃ r, t.participants.find guidPrefix = some r ∧ participantFor guidPrefix t = (t, r)) ∨
      t.participants.find guidPrefix = none ∧
        participantFor guidPrefix t =
          ({ t with participants := t.participants.put ⟨guidPrefix, .added, 0⟩ },
            ⟨guidPrefix, .added, 0⟩) := by
  unfold participantFor
  cases hfound : t.participants.find guidPrefix with
  | some r => exact Or.inl ⟨r, rfl, rfl⟩
  | none => exact Or.inr ⟨rfl, rfl⟩

/-- Every endpoint points to the record of the participant in its GUID. -/
def Linked (t : Tables) : Prop :=
  ∀ e ∈ t.endpoints.records,
    e.participant = e.guid.guidPrefix ∧ (t.participants.find e.participant).isSome

/-- Discovery tables that only grow participants keep their links. -/
theorem Linked.of_participants {t t' : Tables} (hlinked : Linked t)
    (hendpoints : t'.endpoints = t.endpoints)
    (hparticipants : ∀ k, (t.participants.find k).isSome → (t'.participants.find k).isSome) :
    Linked t' := by
  intro e he
  rw [hendpoints] at he
  exact ⟨(hlinked e he).1, hparticipants _ (hlinked e he).2⟩

/-- Storing a participant loses none. -/
theorem isSome_find_put {rs : Records ParticipantRecord.guidPrefix} {r : ParticipantRecord}
    {k : GuidPrefix} (h : (rs.find k).isSome) : ((rs.put r).find k).isSome := by
  rw [Records.find_put]
  split
  · rfl
  · exact h

/-- The reports about endpoints keep the links. -/
theorem linked_recordEndpoint {t : Tables} {guid : Guid} {told : Announcement}
    {change : DiscoveryChange} {participant : ParticipantRecord} (hlinked : Linked t)
    (hparticipant : t.participants.find guid.guidPrefix = some participant) :
    Linked (recordEndpoint guid told change participant t).1 := by
  have hkey := Records.key_of_find hparticipant
  unfold recordEndpoint
  split
  · exact hlinked
  · split
    · intro e he
      rcases Records.mem_put.mp he with rfl | ⟨hold, -⟩
      · exact ⟨hkey, by simp [hkey, hparticipant]⟩
      · exact hlinked e hold
    · next found hfound =>
      split
      · exact hlinked
      · split
        · exact hlinked
        · intro e he
          rcases Records.mem_put.mp he with rfl | ⟨hold, -⟩
          · exact hlinked found (Records.find_eq_some.mp hfound).1
          · exact hlinked e hold

/-- A report about a participant leaves the other tables alone. -/
theorem participantChange_frame (guidPrefix : GuidPrefix) (change : DiscoveryChange)
    (t : Tables) :
    (participantChange guidPrefix change t).1.endpoints = t.endpoints ∧
      (participantChange guidPrefix change t).1.localEndpoints = t.localEndpoints ∧
      (participantChange guidPrefix change t).1.remoteNodes = t.remoteNodes := by
  unfold participantChange
  repeat' split
  all_goals exact ⟨rfl, rfl, rfl⟩

/-- Metadata leave the other tables alone. -/
theorem remoteNodesChange_frame (guidPrefix : GuidPrefix) (nodes : List RemoteNodeRecord)
    (t : Tables) :
    (remoteNodesChange guidPrefix nodes t).1.endpoints = t.endpoints ∧
      (remoteNodesChange guidPrefix nodes t).1.participants = t.participants ∧
      (remoteNodesChange guidPrefix nodes t).1.localEndpoints = t.localEndpoints := by
  unfold remoteNodesChange
  repeat' split
  all_goals exact ⟨rfl, rfl, rfl⟩

/-- Two states of the tables agree outside of the local nodes and endpoints. -/
structure SameRemote (t t' : Tables) : Prop where
  /-- The same endpoints were discovered. -/
  endpoints : t'.endpoints = t.endpoints
  /-- The same participants were discovered. -/
  participants : t'.participants = t.participants
  /-- They announced the same nodes. -/
  remoteNodes : t'.remoteNodes = t.remoteNodes

/-- Adding a local node touches the local nodes only. -/
theorem localNodeAddition_frame (name nodeNamespace : ByteString) (t : Tables) :
    SameRemote t (localNodeAddition name nodeNamespace t).1 ∧
      (localNodeAddition name nodeNamespace t).1.localEndpoints = t.localEndpoints := by
  unfold localNodeAddition
  split <;> exact ⟨⟨rfl, rfl, rfl⟩, rfl⟩

/-- Releasing a local node touches the local nodes only. -/
theorem localNodeRelease_frame (id : ℕ) (t : Tables) :
    SameRemote t (localNodeRelease id t).1 ∧
      (localNodeRelease id t).1.localEndpoints = t.localEndpoints := by
  unfold localNodeRelease dropReference
  repeat' split
  all_goals exact ⟨⟨rfl, rfl, rfl⟩, rfl⟩

/-- Registering a local endpoint touches local tables only. -/
theorem localEndpointAddition_frame (guid : Guid) (told : Announcement) (nodeId : ℕ)
    (t : Tables) : SameRemote t (localEndpointAddition guid told nodeId t).1 := by
  unfold localEndpointAddition
  repeat' split
  all_goals exact ⟨rfl, rfl, rfl⟩

/-- Removing a local endpoint touches local tables only. -/
theorem localEndpointRemoval_frame (guid : Guid) (t : Tables) :
    SameRemote t (localEndpointRemoval guid t).1 := by
  simp only [localEndpointRemoval, dropReference]
  repeat' split
  all_goals exact ⟨rfl, rfl, rfl⟩

/-- Looking a participant up leaves the other tables alone. -/
theorem participantFor_frame (guidPrefix : GuidPrefix) (t : Tables) :
    (participantFor guidPrefix t).1.endpoints = t.endpoints ∧
      (participantFor guidPrefix t).1.localEndpoints = t.localEndpoints ∧
      (participantFor guidPrefix t).1.remoteNodes = t.remoteNodes := by
  rcases participantFor_cases guidPrefix t with ⟨r, -, heq⟩ | ⟨-, heq⟩ <;> rw [heq] <;>
    exact ⟨rfl, rfl, rfl⟩

/-- A report about an endpoint runs on the tables that hold its participant. -/
theorem endpointChange_eq (guid : Guid) (told : Announcement) (change : DiscoveryChange)
    (t : Tables) :
    endpointChange guid told change t =
      recordEndpoint guid told change (participantFor guid.guidPrefix t).2
        (participantFor guid.guidPrefix t).1 := rfl

/-- A report about an endpoint leaves the other tables alone. -/
theorem recordEndpoint_frame (guid : Guid) (told : Announcement) (change : DiscoveryChange)
    (participant : ParticipantRecord) (t : Tables) :
    (recordEndpoint guid told change participant t).1.participants = t.participants ∧
      (recordEndpoint guid told change participant t).1.localEndpoints = t.localEndpoints ∧
      (recordEndpoint guid told change participant t).1.remoteNodes = t.remoteNodes := by
  unfold recordEndpoint
  repeat' split
  all_goals exact ⟨rfl, rfl, rfl⟩

/-- Calls about local nodes and endpoints touch local tables only. -/
theorem effect_local {t : Tables} {call : GraphCall}
    (hparticipant : ∀ guidPrefix change, call ≠ .applyParticipant guidPrefix change)
    (hendpoint : ∀ guid told change, call ≠ .applyEndpoint guid told change)
    (hmetadata : ∀ guidPrefix nodes, call ≠ .applyRemoteNodes guidPrefix nodes) :
    SameRemote t (effect call t).1 := by
  cases call with
  | applyParticipant guidPrefix change => exact absurd rfl (hparticipant guidPrefix change)
  | applyEndpoint guid told change => exact absurd rfl (hendpoint guid told change)
  | applyRemoteNodes guidPrefix nodes => exact absurd rfl (hmetadata guidPrefix nodes)
  | addLocalNode name nodeNamespace => exact (localNodeAddition_frame name nodeNamespace t).1
  | releaseLocalNode id =>
    simp only [effect]
    split
    · exact ⟨rfl, rfl, rfl⟩
    · exact (localNodeRelease_frame id t).1
  | addLocalEndpoint guid told nodeId =>
    simp only [effect]
    split
    · exact ⟨rfl, rfl, rfl⟩
    · exact localEndpointAddition_frame guid told nodeId t
  | removeLocalEndpoint guid => exact localEndpointRemoval_frame guid t

/-- Only reports about participants and endpoints touch what was discovered. -/
theorem effect_discovered {t : Tables} {call : GraphCall}
    (hparticipant : ∀ guidPrefix change, call ≠ .applyParticipant guidPrefix change)
    (hendpoint : ∀ guid told change, call ≠ .applyEndpoint guid told change) :
    (effect call t).1.endpoints = t.endpoints ∧
      (effect call t).1.participants = t.participants := by
  cases call with
  | applyRemoteNodes guidPrefix nodes =>
    have hframe := remoteNodesChange_frame guidPrefix nodes t
    exact ⟨hframe.1, hframe.2.1⟩
  | _ =>
    have hlocal := effect_local (t := t) hparticipant hendpoint (by simp)
    exact ⟨hlocal.endpoints, hlocal.participants⟩

/-- Only reports about endpoints touch the discovered endpoints. -/
theorem effect_endpoints {t : Tables} {call : GraphCall}
    (hendpoint : ∀ guid told change, call ≠ .applyEndpoint guid told change) :
    (effect call t).1.endpoints = t.endpoints := by
  cases call with
  | applyParticipant guidPrefix change => exact (participantChange_frame guidPrefix change t).1
  | _ => exact (effect_discovered (by simp) hendpoint).1

/-- Only local registrations touch the local endpoints. -/
theorem effect_localEndpoints {t : Tables} {call : GraphCall}
    (haddition : ∀ guid told nodeId, call ≠ .addLocalEndpoint guid told nodeId)
    (hremoval : ∀ guid, call ≠ .removeLocalEndpoint guid) :
    (effect call t).1.localEndpoints = t.localEndpoints := by
  cases call with
  | applyParticipant guidPrefix change => exact (participantChange_frame guidPrefix change t).2.1
  | applyEndpoint guid told change =>
    exact (recordEndpoint_frame _ _ _ _ _).2.1.trans (participantFor_frame _ _).2.1
  | applyRemoteNodes guidPrefix nodes => exact (remoteNodesChange_frame guidPrefix nodes t).2.2
  | addLocalNode name nodeNamespace => exact (localNodeAddition_frame name nodeNamespace t).2
  | releaseLocalNode id =>
    simp only [effect]
    split
    · rfl
    · exact (localNodeRelease_frame id t).2
  | addLocalEndpoint guid told nodeId => exact absurd rfl (haddition guid told nodeId)
  | removeLocalEndpoint guid => exact absurd rfl (hremoval guid)

/-- Only metadata touches the metadata. -/
theorem effect_remoteNodes {t : Tables} {call : GraphCall}
    (hmetadata : ∀ guidPrefix nodes, call ≠ .applyRemoteNodes guidPrefix nodes) :
    (effect call t).1.remoteNodes = t.remoteNodes := by
  cases call with
  | applyParticipant guidPrefix change => exact (participantChange_frame guidPrefix change t).2.2
  | applyEndpoint guid told change =>
    exact (recordEndpoint_frame _ _ _ _ _).2.2.trans (participantFor_frame _ _).2.2
  | _ => exact (effect_local (by simp) (by simp) hmetadata).remoteNodes

/-- A removal takes the local endpoint out and leaves the others. -/
theorem localEndpointRemoval_localEndpoints (guid : Guid) (t : Tables) :
    (localEndpointRemoval guid t).1.localEndpoints.records ⊆ t.localEndpoints.records := by
  have herase : (t.localEndpoints.erase guid).records ⊆ t.localEndpoints.records :=
    fun e he => (Records.mem_erase.mp he).1
  simp only [localEndpointRemoval, dropReference]
  repeat' split
  all_goals first | exact List.Subset.refl _ | exact herase

/-- A graph that is healthy after a call has accepted its effect. -/
theorem perform_accepted {call : GraphCall} (hhealthy : (perform g call).health = .healthy) :
    g.health = .healthy ∧ (effect call g.toTables).2 ≠ .invalid ∧
      (perform g call).toTables = (effect call g.toTables).1 := by
  obtain ⟨hbefore, hcase⟩ := perform_healthy hhealthy
  refine ⟨hbefore, ?_⟩
  rcases hcase with ⟨houtcome, heq⟩ | ⟨houtcome, heq⟩ <;> rw [heq, houtcome] <;>
    exact ⟨by simp, rfl⟩

/-- No report loses a participant. -/
theorem effect_participants {t : Tables} {call : GraphCall} {k : GuidPrefix}
    (hk : (t.participants.find k).isSome) : ((effect call t).1.participants.find k).isSome := by
  cases call with
  | applyParticipant guidPrefix change =>
    simp only [effect, participantChange]
    repeat' split
    all_goals first | exact hk | exact isSome_find_put hk
  | applyEndpoint guid told change =>
    have hfor : ((participantFor guid.guidPrefix t).1.participants.find k).isSome := by
      rcases participantFor_cases guid.guidPrefix t with ⟨r, -, heq⟩ | ⟨-, heq⟩
      · exact heq ▸ hk
      · exact heq ▸ isSome_find_put hk
    simp only [effect, endpointChange, recordEndpoint]
    repeat' split
    all_goals exact hfor
  | _ => rw [(effect_discovered (by simp) (by simp)).2]; exact hk

/-- Every call keeps the links. -/
theorem linked_effect (t : Tables) (call : GraphCall) (hlinked : Linked t) :
    Linked (effect call t).1 := by
  cases call with
  | applyParticipant guidPrefix change =>
    exact hlinked.of_participants (participantChange_frame guidPrefix change t).1
      fun k hk => effect_participants hk
  | applyEndpoint guid told change =>
    simp only [effect, endpointChange]
    rcases participantFor_cases guid.guidPrefix t with ⟨r, hr, heq⟩ | ⟨-, heq⟩
    · rw [heq]
      exact linked_recordEndpoint hlinked hr
    · rw [heq]
      refine linked_recordEndpoint (hlinked.of_participants rfl fun k => isSome_find_put) ?_
      exact Records.find_put_self (r := (⟨guid.guidPrefix, .added, 0⟩ : ParticipantRecord))
  | _ =>
    exact hlinked.of_participants (effect_discovered (by simp) (by simp)).1
      fun k hk => effect_participants hk

/-- Every reachable graph is linked. -/
theorem linked_run (hrun : machine.RunWhen ok .initial calls g) : Linked g.toTables :=
  run_tables (by simp [Linked, Graph.initial, Records.empty]) linked_effect hrun

end Dmw.DiscoveryGraph
