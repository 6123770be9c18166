import Dmw.DiscoveryGraph
import Dmw.Grouping

/-!
# Endpoint candidates and their composition

A view of the graph is reduced to one list of endpoint candidates:
local metadata first, then every live discovered endpoint that is not local.
Action candidates group the endpoints of one action under a composed key, and
action availability searches the same list endpoint by endpoint.
-/

namespace Dmw.GraphCandidates

open Identity QosPolicies GraphNames RecordVector DiscoveryGraph Grouping

/-- DDS topic of the metadata transport, internal to the middleware. -/
def graphMetadataTopicName : ByteString := text "ros_discovery_info"

/-- One copy of the whole graph. Its vectors are copies of the graph's own
tables, so their keys stay distinct. The records of the endpoints are copied with
their participants as they are held, by pointer or followed. -/
structure GraphView (π : Type) where
  /-- Revision of the copy. -/
  revision : ℕ
  /-- Participants, departed ones included. -/
  participants : Records ParticipantRecord.guidPrefix
  /-- Discovered endpoints with their participants. -/
  endpoints : Records (@EndpointRecord.guid π)
  /-- Local nodes. -/
  localNodes : Records LocalNodeRecord.id
  /-- Local endpoints. -/
  localEndpoints : Records LocalEndpointRecord.guid
  /-- Metadata of the other participants. -/
  remoteNodes : Records RemoteParticipantNodes.guidPrefix

/-- A view whose pointers were followed to the records of the participants. -/
abbrev FollowedView := GraphView (Option ParticipantRecord)

/-- Copy the tables under the graph mutex. The endpoints keep their pointers to
the records that the graph goes on changing. -/
def view (g : Graph) : GraphView GuidPrefix where
  revision := g.revision
  participants := g.participants
  endpoints := g.endpoints
  localNodes := g.localNodes
  localEndpoints := g.localEndpoints
  remoteNodes := g.remoteNodes

/-- An endpoint with what was found behind its pointer. -/
def withParticipant (e : EndpointRecord GuidPrefix) (found : Option ParticipantRecord) :
    EndpointRecord (Option ParticipantRecord) where
  guid := e.guid
  kind := e.kind
  topic := e.topic
  type := e.type
  qos := e.qos
  participant := found
  lifecycle := e.lifecycle

/-- A view with what was found behind the pointer of each endpoint. -/
def GraphView.follow (v : GraphView GuidPrefix) (found : Guid → Option ParticipantRecord) :
    FollowedView where
  revision := v.revision
  participants := v.participants
  endpoints := v.endpoints.map (fun e => withParticipant e (found e.guid)) fun _ => rfl
  localNodes := v.localNodes
  localEndpoints := v.localEndpoints
  remoteNodes := v.remoteNodes

/-- Follow the participant pointer of an endpoint. -/
def resolve (g : Graph) (e : EndpointRecord GuidPrefix) :
    EndpointRecord (Option ParticipantRecord) :=
  withParticipant e (g.participants.find e.participant)

theorem resolve_guid (g : Graph) (e : EndpointRecord GuidPrefix) : (resolve g e).guid = e.guid :=
  rfl

/-- A view all of whose pointers are followed before the graph changes again. -/
def atomicView (g : Graph) : FollowedView where
  revision := g.revision
  participants := g.participants
  endpoints := g.endpoints.map (resolve g) (resolve_guid g)
  localNodes := g.localNodes
  localEndpoints := g.localEndpoints
  remoteNodes := g.remoteNodes

/-- One endpoint reduced to the facts shared by every aggregate view. -/
structure EndpointCandidate where
  /-- Identity. -/
  gid : Gid
  /-- DDS direction. -/
  nativeKind : EndpointKind
  /-- Logical role. -/
  role : GraphEndpointRole
  /-- Logical name. -/
  logicalName : ByteString
  /-- DDS type name. -/
  wireType : ByteString
  /-- QoS. -/
  qos : Qos
  /-- Name of its node, empty without one. -/
  nodeName : ByteString
  /-- Namespace of its node, empty without one. -/
  nodeNamespace : ByteString
  /-- Whether a node is known. -/
  hasNode : Bool
  /-- Participant identity. -/
  participantKey : ByteString
  deriving DecidableEq

/-- Opaque participant identity: the octets of the prefix. -/
def participantKey (guidPrefix : GuidPrefix) : ByteString := guidPrefix.toList

/-- Composition identity within one participant. A known node is
authoritative. Without one the endpoint is isolated in ROS 2 mode and falls
back to its participant in DDS mode. -/
def candidateCompositionKey (mode : RuntimeMode) (candidate : EndpointCandidate) : ByteString :=
  if candidate.hasNode then candidate.nodeNamespace ++ [0] ++ candidate.nodeName
  else if mode = .ros2 then text "?" ++ candidate.gid.data.toList
  else []

/-- A candidate before its node is known. -/
def bareCandidate (guid : Guid) (kind : EndpointKind) (type : ByteString) (qos : Qos)
    (normalized : NormalizedEndpointName) : EndpointCandidate where
  gid := toGid guid
  nativeKind := kind
  role := normalized.role
  logicalName := normalized.logicalName
  wireType := type
  qos := qos
  nodeName := []
  nodeNamespace := []
  hasNode := false
  participantKey := participantKey guid.guidPrefix

/-- Fill in the name and namespace of the node, if it is known. -/
def withNode (node : Option (ByteString × ByteString)) (candidate : EndpointCandidate) :
    EndpointCandidate :=
  match node with
  | none => candidate
  | some (name, nodeNamespace) =>
    { candidate with nodeName := name, nodeNamespace := nodeNamespace, hasNode := true }

/-- Name and namespace of a local node. -/
def localNode (v : FollowedView) (id : ℕ) : Option (ByteString × ByteString) :=
  (v.localNodes.find id).map fun node => (node.name, node.nodeNamespace)

/-- Candidate of one local endpoint. -/
def localCandidate (mode : RuntimeMode) (v : FollowedView) (e : LocalEndpointRecord) :
    Option EndpointCandidate :=
  if e.topic = graphMetadataTopicName then none
  else
    (normalizeEndpointName mode e.topic).map fun normalized =>
      withNode (localNode v e.nodeId) (bareCandidate e.guid e.kind e.type e.qos normalized)

/-- The first node, over all participants, that lists a GUID. -/
def remoteByGid (v : FollowedView) (gid : Vector UInt8 16) : Option RemoteNodeRecord :=
  (v.remoteNodes.records.flatMap (·.nodes)).find? fun node =>
    gid ∈ node.readerGids ∨ gid ∈ node.writerGids

/-- An endpoint record that discovery still counts as present. -/
def EndpointLive (e : EndpointRecord (Option ParticipantRecord)) : Prop :=
  e.lifecycle ≠ .removed ∧ ∀ p ∈ e.participant, p.lifecycle ≠ .removed

instance (e : EndpointRecord (Option ParticipantRecord)) : Decidable (EndpointLive e) := by
  unfold EndpointLive
  infer_instance

/-- Name and namespace of the node that lists a GUID. -/
def remoteNode (v : FollowedView) (gid : Gid) : Option (ByteString × ByteString) :=
  (remoteByGid v gid.data).map fun node => (node.nodeName, node.nodeNamespace)

/-- Candidate of one discovered endpoint, unless it is local. -/
def remoteCandidate (mode : RuntimeMode) (v : FollowedView) (localGids : List Gid)
    (e : EndpointRecord (Option ParticipantRecord)) : Option EndpointCandidate :=
  if ¬ EndpointLive e then none
  else if e.topic = graphMetadataTopicName then none
  else if toGid e.guid ∈ localGids then none
  else
    (normalizeEndpointName mode e.topic).map fun normalized =>
      withNode (remoteNode v (toGid e.guid)) (bareCandidate e.guid e.kind e.type e.qos normalized)

/-- Normalize local metadata and remote discovery into one list. -/
def collectEndpointCandidates (mode : RuntimeMode) (v : FollowedView) : List EndpointCandidate :=
  let locals := v.localEndpoints.records.filterMap (localCandidate mode v)
  locals ++ v.endpoints.records.filterMap (remoteCandidate mode v (locals.map (·.gid)))

/-- Whether a candidate writes. -/
def candidateIsPublisher (candidate : EndpointCandidate) : Bool :=
  candidate.nativeKind = .writer

section Candidates

variable (node : Option (ByteString × ByteString)) (c : EndpointCandidate)

@[simp] theorem withNode_gid : (withNode node c).gid = c.gid := by
  unfold withNode
  split <;> rfl

@[simp] theorem withNode_nativeKind : (withNode node c).nativeKind = c.nativeKind := by
  unfold withNode
  split <;> rfl

@[simp] theorem withNode_role : (withNode node c).role = c.role := by
  unfold withNode
  split <;> rfl

@[simp] theorem withNode_logicalName : (withNode node c).logicalName = c.logicalName := by
  unfold withNode
  split <;> rfl

@[simp] theorem withNode_wireType : (withNode node c).wireType = c.wireType := by
  unfold withNode
  split <;> rfl

@[simp] theorem withNode_qos : (withNode node c).qos = c.qos := by
  unfold withNode
  split <;> rfl

@[simp] theorem withNode_participantKey :
    (withNode node c).participantKey = c.participantKey := by
  unfold withNode
  split <;> rfl

end Candidates

/-- When a local endpoint is a candidate, and which. -/
theorem localCandidate_eq_some {mode : RuntimeMode} {v : FollowedView} {e : LocalEndpointRecord}
    {c : EndpointCandidate} :
    localCandidate mode v e = some c ↔
      e.topic ≠ graphMetadataTopicName ∧
        ∃ normalized, normalizeEndpointName mode e.topic = some normalized ∧
          c = withNode (localNode v e.nodeId)
            (bareCandidate e.guid e.kind e.type e.qos normalized) := by
  unfold localCandidate
  split
  · next htopic => simp [htopic]
  · next htopic =>
    rw [Option.map_eq_some_iff]
    exact ⟨fun ⟨n, hn, hc⟩ => ⟨htopic, n, hn, hc.symm⟩, fun ⟨_, n, hn, hc⟩ => ⟨n, hn, hc.symm⟩⟩

/-- When a discovered endpoint is a candidate, and which. -/
theorem remoteCandidate_eq_some {mode : RuntimeMode} {v : FollowedView} {localGids : List Gid}
    {e : EndpointRecord (Option ParticipantRecord)} {c : EndpointCandidate} :
    remoteCandidate mode v localGids e = some c ↔
      EndpointLive e ∧ e.topic ≠ graphMetadataTopicName ∧ toGid e.guid ∉ localGids ∧
        ∃ normalized, normalizeEndpointName mode e.topic = some normalized ∧
          c = withNode (remoteNode v (toGid e.guid))
            (bareCandidate e.guid e.kind e.type e.qos normalized) := by
  unfold remoteCandidate
  by_cases hlive : EndpointLive e
  · by_cases htopic : e.topic = graphMetadataTopicName
    · simp [hlive, htopic]
    · by_cases hlocal : toGid e.guid ∈ localGids
      · simp [hlive, htopic, hlocal]
      · simp only [hlive, htopic, hlocal, not_true_eq_false, not_false_eq_true, if_false, ne_eq,
          true_and, Option.map_eq_some_iff]
        exact ⟨fun ⟨n, hn, hc⟩ => ⟨n, hn, hc.symm⟩, fun ⟨n, hn, hc⟩ => ⟨n, hn, hc.symm⟩⟩
  · simp [hlive]

/-- The identifiers of the local candidates. -/
def localGids (mode : RuntimeMode) (v : FollowedView) : List Gid :=
  (v.localEndpoints.records.filterMap (localCandidate mode v)).map (·.gid)

/-- Where a candidate comes from. -/
theorem mem_collect {mode : RuntimeMode} {v : FollowedView} {c : EndpointCandidate} :
    c ∈ collectEndpointCandidates mode v ↔
      (∃ e ∈ v.localEndpoints.records, localCandidate mode v e = some c) ∨
        ∃ e ∈ v.endpoints.records, remoteCandidate mode v (localGids mode v) e = some c := by
  unfold collectEndpointCandidates localGids
  rw [List.mem_append, List.mem_filterMap, List.mem_filterMap]

/-- Every candidate stands for an endpoint, whose participant it names. -/
theorem candidate_guid {mode : RuntimeMode} {v : FollowedView} {c : EndpointCandidate}
    (hc : c ∈ collectEndpointCandidates mode v) :
    ∃ guid, c.gid = toGid guid ∧ c.participantKey = participantKey guid.guidPrefix := by
  rcases mem_collect.mp hc with ⟨e, -, he⟩ | ⟨e, -, he⟩
  · obtain ⟨-, n, -, rfl⟩ := localCandidate_eq_some.mp he
    exact ⟨e.guid, withNode_gid _ _, withNode_participantKey _ _⟩
  · obtain ⟨-, -, -, n, -, rfl⟩ := remoteCandidate_eq_some.mp he
    exact ⟨e.guid, withNode_gid _ _, withNode_participantKey _ _⟩

/-- Separator of composed keys. -/
def pipe : UInt8 := 0x7C

/-- Key under which endpoints of one participant, name and composition meet. -/
def composedKey (mode : RuntimeMode) (name : ByteString) (candidate : EndpointCandidate) :
    ByteString :=
  candidate.participantKey ++ [pipe] ++ name ++ [pipe] ++ candidateCompositionKey mode candidate

/-- Endpoints of one action, the first of each role and direction. -/
structure ActionGroup where
  /-- Action name. -/
  actionName : ByteString
  /-- Endpoint of a role and a direction. -/
  find : ActionEndpointRole → EndpointKind → Option EndpointCandidate

/-- A group nothing was added to. -/
def ActionGroup.fresh : ActionGroup := ⟨[], fun _ _ => none⟩

/-- A candidate that serves an action. -/
abbrev ActionEndpoint := EndpointCandidate × ActionEndpointClassification

/-- Add an endpoint: the name is overwritten, a taken place is not. -/
def ActionGroup.insert (group : ActionGroup) (endpoint : ActionEndpoint) : ActionGroup where
  actionName := endpoint.2.actionName
  find role kind :=
    if endpoint.2.role = role ∧ endpoint.1.nativeKind = kind then
      (group.find role kind).or (some endpoint.1)
    else group.find role kind

/-- The candidates that serve an action. -/
def actionEndpoints (candidates : List EndpointCandidate) : List ActionEndpoint :=
  candidates.filterMap fun c =>
    (classifyActionEndpoint ⟨c.logicalName, c.role⟩).map fun classified => (c, classified)

/-- Key of the group an action endpoint belongs to. -/
def actionKey (mode : RuntimeMode) (endpoint : ActionEndpoint) : ByteString :=
  composedKey mode endpoint.2.actionName endpoint.1

/-- The action groups, in key order. -/
def actionGroups (mode : RuntimeMode) (candidates : List EndpointCandidate) :
    Std.TreeMap ByteString ActionGroup :=
  groupInto (actionKey mode) ActionGroup.insert .fresh (actionEndpoints candidates)

/-- Places of an action server, in the order its identifiers are reported. -/
def serverPlaces : List (ActionEndpointRole × EndpointKind) :=
  [(.sendGoalRequest, .reader), (.sendGoalResponse, .writer), (.cancelGoalRequest, .reader),
    (.cancelGoalResponse, .writer), (.getResultRequest, .reader), (.getResultResponse, .writer),
    (.feedback, .writer), (.status, .writer)]

/-- Places of an action client, in the order its identifiers are reported. -/
def clientPlaces : List (ActionEndpointRole × EndpointKind) :=
  [(.sendGoalRequest, .writer), (.sendGoalResponse, .reader), (.cancelGoalRequest, .writer),
    (.cancelGoalResponse, .reader), (.getResultRequest, .writer), (.getResultResponse, .reader),
    (.feedback, .reader), (.status, .reader)]

/-- The endpoints in all of some places, if none is empty. -/
def ActionGroup.occupants (group : ActionGroup)
    (places : List (ActionEndpointRole × EndpointKind)) : Option (List EndpointCandidate) :=
  places.mapM fun place => group.find place.1 place.2

/-- One participant-consistent action composition. -/
structure ActionCandidate where
  /-- Action name. -/
  actionName : ByteString
  /-- All server places are taken. -/
  hasServer : Bool
  /-- All client places are taken. -/
  hasClient : Bool
  /-- Identifiers of the server endpoints. -/
  serverGids : List Gid
  /-- Identifiers of the client endpoints. -/
  clientGids : List Gid
  /-- Node of the server's goal reader. -/
  serverNodeName : ByteString
  /-- Its namespace. -/
  serverNodeNamespace : ByteString
  /-- Node of the client's goal writer. -/
  clientNodeName : ByteString
  /-- Its namespace. -/
  clientNodeNamespace : ByteString
  /-- Participant identity. -/
  participantKey : ByteString
  deriving DecidableEq

/-- An association of the first of some endpoints, empty without a node. -/
def leadingNode (read : EndpointCandidate → ByteString)
    (endpoints : Option (List EndpointCandidate)) : ByteString :=
  match endpoints.bind List.head? with
  | none => []
  | some c => if c.hasNode then read c else []

/-- Report one group. The participant is cut out of the key again. -/
def actionCandidate (entry : ByteString × ActionGroup) : ActionCandidate :=
  let server := entry.2.occupants serverPlaces
  let client := entry.2.occupants clientPlaces
  { actionName := entry.2.actionName
    hasServer := server.isSome
    hasClient := client.isSome
    serverGids := (server.getD []).map (·.gid)
    clientGids := (client.getD []).map (·.gid)
    serverNodeName := leadingNode (·.nodeName) server
    serverNodeNamespace := leadingNode (·.nodeNamespace) server
    clientNodeName := leadingNode (·.nodeName) client
    clientNodeNamespace := leadingNode (·.nodeNamespace) client
    participantKey := entry.1.takeWhile (· ≠ pipe) }

/-- Compose the eight physical endpoints of each action. -/
def composeActionCandidates (mode : RuntimeMode) (candidates : List EndpointCandidate) :
    List ActionCandidate :=
  (actionGroups mode candidates).toList.map actionCandidate

/-- Wire type names of the endpoints of one action. -/
structure ActionEndpointTypes where
  /-- Goal request. -/
  sendGoalRequest : ByteString
  /-- Goal response. -/
  sendGoalResponse : ByteString
  /-- Cancel request. -/
  cancelGoalRequest : ByteString
  /-- Cancel response. -/
  cancelGoalResponse : ByteString
  /-- Result request. -/
  getResultRequest : ByteString
  /-- Result response. -/
  getResultResponse : ByteString
  /-- Feedback message. -/
  feedback : ByteString
  /-- Status message. -/
  status : ByteString
  deriving DecidableEq

/-- QoS of the eight endpoints of one action client. -/
structure ActionClientEndpointQos where
  /-- Goal request writer. -/
  sendGoalRequestWriter : Qos
  /-- Goal response reader. -/
  sendGoalResponseReader : Qos
  /-- Cancel request writer. -/
  cancelGoalRequestWriter : Qos
  /-- Cancel response reader. -/
  cancelGoalResponseReader : Qos
  /-- Result request writer. -/
  getResultRequestWriter : Qos
  /-- Result response reader. -/
  getResultResponseReader : Qos
  /-- Feedback reader. -/
  feedbackReader : Qos
  /-- Status reader. -/
  statusReader : Qos
  deriving DecidableEq

/-- One endpoint an action server needs, with the client endpoint it faces. -/
structure RequiredEndpoint where
  /-- Logical name. -/
  logicalName : ByteString
  /-- Logical role. -/
  role : GraphEndpointRole
  /-- DDS direction. -/
  kind : EndpointKind
  /-- DDS type name. -/
  wireType : ByteString
  /-- QoS of the client's counterpart. -/
  counterpart : ActionClientEndpointQos → Qos

/-- The eight endpoints of an action server, in the order of the search. -/
def requiredEndpoints (names : ActionEndpointNames) (types : ActionEndpointTypes) :
    List RequiredEndpoint :=
  [⟨names.sendGoal, .serviceRequest, .reader, types.sendGoalRequest, (·.sendGoalRequestWriter)⟩,
    ⟨names.sendGoal, .serviceResponse, .writer, types.sendGoalResponse,
      (·.sendGoalResponseReader)⟩,
    ⟨names.cancelGoal, .serviceRequest, .reader, types.cancelGoalRequest,
      (·.cancelGoalRequestWriter)⟩,
    ⟨names.cancelGoal, .serviceResponse, .writer, types.cancelGoalResponse,
      (·.cancelGoalResponseReader)⟩,
    ⟨names.getResult, .serviceRequest, .reader, types.getResultRequest,
      (·.getResultRequestWriter)⟩,
    ⟨names.getResult, .serviceResponse, .writer, types.getResultResponse,
      (·.getResultResponseReader)⟩,
    ⟨names.feedback, .topic, .writer, types.feedback, (·.feedbackReader)⟩,
    ⟨names.status, .topic, .writer, types.status, (·.statusReader)⟩]

/-- Whether a candidate is what the search looks for. -/
def RequiredEndpoint.Matches (required : RequiredEndpoint) (mode : RuntimeMode)
    (participant compositionKey : ByteString) (c : EndpointCandidate) : Prop :=
  c.participantKey = participant ∧ c.nativeKind = required.kind ∧ c.role = required.role ∧
    c.logicalName = required.logicalName ∧ c.wireType = required.wireType ∧
    candidateCompositionKey mode c = compositionKey

instance (required : RequiredEndpoint) (mode : RuntimeMode)
    (participant compositionKey : ByteString) (c : EndpointCandidate) :
    Decidable (required.Matches mode participant compositionKey c) := by
  unfold RequiredEndpoint.Matches
  infer_instance

/-- The first candidate that matches. -/
def findEndpoint (candidates : List EndpointCandidate) (required : RequiredEndpoint)
    (mode : RuntimeMode) (participant compositionKey : ByteString) : Option EndpointCandidate :=
  candidates.find? fun c => required.Matches mode participant compositionKey c

/-- Whether a publisher may serve a subscriber. -/
def qosCompatible (publisher subscriber : Qos) : Bool :=
  (checkQosCompatibility publisher subscriber).compatibility ≠ .incompatible

/-- Whether an endpoint suits the client's counterpart, the writer of the two
being the publisher. Without a client every endpoint suits. -/
def RequiredEndpoint.suits (required : RequiredEndpoint)
    (clientQos : Option ActionClientEndpointQos) (c : EndpointCandidate) : Bool :=
  match clientQos with
  | none => true
  | some qos =>
    if required.kind = .reader then qosCompatible (required.counterpart qos) c.qos
    else qosCompatible c.qos (required.counterpart qos)

/-- All eight endpoints are found and the found ones suit the client. -/
def actionServerCompositionComplete (candidates : List EndpointCandidate)
    (participant : ByteString) (names : ActionEndpointNames) (types : ActionEndpointTypes)
    (mode : RuntimeMode) (compositionKey : ByteString)
    (clientQos : Option ActionClientEndpointQos) : Bool :=
  (requiredEndpoints names types).all fun required =>
    (findEndpoint candidates required mode participant compositionKey).any
      (required.suits clientQos)

/-- Some composition of the participant is complete. -/
def participantHasActionServer (candidates : List EndpointCandidate)
    (participant : ByteString) (names : ActionEndpointNames) (types : ActionEndpointTypes)
    (mode : RuntimeMode) (clientQos : Option ActionClientEndpointQos) : Bool :=
  let compositions := (candidates.filter fun c => c.participantKey = participant).map
    (candidateCompositionKey mode)
  compositions.any fun composition =>
    actionServerCompositionComplete candidates participant names types mode composition clientQos

/-- Some participant holds a complete action server composition. -/
def hasActionServer (candidates : List EndpointCandidate) (names : ActionEndpointNames)
    (types : ActionEndpointTypes) (mode : RuntimeMode)
    (clientQos : Option ActionClientEndpointQos) : Bool :=
  let participants := candidates.map (·.participantKey)
  participants.any fun participant =>
    participantHasActionServer candidates participant names types mode clientQos

/-- The group under a key, fresh if nothing has the key. -/
def actionGroupAt (mode : RuntimeMode) (candidates : List EndpointCandidate) (k : ByteString) :
    ActionGroup :=
  ((actionEndpoints candidates).filter fun e => actionKey mode e = k).foldl ActionGroup.insert
    .fresh

/-- The composition walks over the groups of all keys in use. -/
theorem mem_composeActionCandidates {mode : RuntimeMode} {candidates : List EndpointCandidate}
    {c : ActionCandidate} :
    c ∈ composeActionCandidates mode candidates ↔
      ∃ k, (actionEndpoints candidates).filter (fun e => actionKey mode e = k) ≠ [] ∧
        c = actionCandidate (k, actionGroupAt mode candidates k) := by
  unfold composeActionCandidates actionGroups
  rw [List.mem_map]
  constructor
  · rintro ⟨⟨k, group⟩, hentry, rfl⟩
    obtain ⟨hmembers, rfl⟩ := mem_toList_groupInto.mp hentry
    exact ⟨k, hmembers, rfl⟩
  · rintro ⟨k, hmembers, rfl⟩
    exact ⟨(k, _), mem_toList_groupInto.mpr ⟨hmembers, rfl⟩, rfl⟩

/-- A place is held by the first endpoint that claimed it. -/
theorem find_foldl_insert (endpoints : List ActionEndpoint) (role : ActionEndpointRole)
    (kind : EndpointKind) :
    (endpoints.foldl ActionGroup.insert .fresh).find role kind =
      (endpoints.find? fun e => e.2.role = role ∧ e.1.nativeKind = kind).map (·.1) := by
  induction endpoints using List.reverseRecOn with
  | nil => rfl
  | append_singleton endpoints e ih =>
    rw [List.foldl_append, List.foldl_cons, List.foldl_nil, List.find?_append, ActionGroup.insert]
    dsimp only
    rw [ih]
    by_cases hplace : e.2.role = role ∧ e.1.nativeKind = kind
    · rw [if_pos hplace]
      cases endpoints.find? fun e => e.2.role = role ∧ e.1.nativeKind = kind <;> simp [hplace]
    · rw [if_neg hplace]
      cases endpoints.find? fun e => e.2.role = role ∧ e.1.nativeKind = kind <;> simp [hplace]

/-- The first action endpoint of a key, a role and a direction. -/
def firstIn (mode : RuntimeMode) (candidates : List EndpointCandidate) (k : ByteString)
    (role : ActionEndpointRole) (kind : EndpointKind) : Option ActionEndpoint :=
  (actionEndpoints candidates).find? fun e =>
    actionKey mode e = k ∧ e.2.role = role ∧ e.1.nativeKind = kind

/-- A place of a group is held by the first endpoint with its key. -/
theorem actionGroupAt_find (mode : RuntimeMode) (candidates : List EndpointCandidate)
    (k : ByteString) (role : ActionEndpointRole) (kind : EndpointKind) :
    (actionGroupAt mode candidates k).find role kind =
      (firstIn mode candidates k role kind).map (·.1) := by
  rw [actionGroupAt, find_foldl_insert, List.find?_filter, firstIn]
  congr 2
  funext e
  simp

/-- Action endpoints are candidates, classified by name and role. -/
theorem mem_actionEndpoints {candidates : List EndpointCandidate} {e : ActionEndpoint} :
    e ∈ actionEndpoints candidates ↔
      e.1 ∈ candidates ∧ classifyActionEndpoint ⟨e.1.logicalName, e.1.role⟩ = some e.2 := by
  unfold actionEndpoints
  rw [List.mem_filterMap]
  constructor
  · rintro ⟨c, hc, hclassified⟩
    obtain ⟨classified, hfound, rfl⟩ := Option.map_eq_some_iff.mp hclassified
    exact ⟨hc, hfound⟩
  · rintro ⟨hc, hclassified⟩
    exact ⟨e.1, hc, by rw [hclassified, Option.map_some]⟩

/-- The occupants are there place by place. -/
theorem occupants_eq_some {group : ActionGroup}
    {places : List (ActionEndpointRole × EndpointKind)} {endpoints : List EndpointCandidate} :
    group.occupants places = some endpoints ↔
      List.Forall₂ (fun place c => group.find place.1 place.2 = some c) places endpoints := by
  induction places generalizing endpoints with
  | nil =>
    simp only [ActionGroup.occupants, List.mapM_nil, List.forall₂_nil_left_iff]
    exact ⟨fun h => (Option.some.inj h).symm, fun h => h ▸ rfl⟩
  | cons place places ih =>
    rw [List.forall₂_cons_left_iff]
    simp only [ActionGroup.occupants, List.mapM_cons, Option.bind_eq_bind,
      Option.bind_eq_some_iff] at ih ⊢
    constructor
    · rintro ⟨c, hc, rest, hrest, hend⟩
      exact ⟨c, rest, hc, ih.mp hrest, (Option.some.inj hend).symm⟩
    · rintro ⟨c, rest, hc, hrest, rfl⟩
      exact ⟨c, hc, rest, ih.mpr hrest, rfl⟩

/-- What is related to a list elementwise is related to one of its elements. -/
theorem exists_of_forall₂ {α β : Type} {R : α → β → Prop} {l : List α} {l' : List β}
    (h : List.Forall₂ R l l') {b : β} (hb : b ∈ l') : ∃ a ∈ l, R a b := by
  induction h with
  | nil => cases hb
  | cons hfirst _ ih =>
    rcases List.mem_cons.mp hb with rfl | hrest
    · exact ⟨_, List.mem_cons_self, hfirst⟩
    · obtain ⟨a, ha, hab⟩ := ih hrest
      exact ⟨a, List.mem_cons_of_mem _ ha, hab⟩

end Dmw.GraphCandidates
