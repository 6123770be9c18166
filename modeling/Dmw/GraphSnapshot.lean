import Std.Data.TreeSet.Basic
import Dmw.GraphCandidates

/-!
# The public graph snapshot

What a user sees of the graph, assembled from one consistent view: nodes,
topics, services and actions with the endpoints behind them. Aggregates come
out in name order.
-/

namespace Dmw.GraphSnapshot

open Identity QosPolicies GraphNames DiscoveryGraph GraphCandidates Grouping

/-- One known node. -/
structure NodeGraphInfo where
  /-- Node name. -/
  nodeName : ByteString
  /-- Node namespace. -/
  nodeNamespace : ByteString
  deriving DecidableEq

/-- Public direction of a topic endpoint. -/
inductive TopicEndpointKind
  | publisher
  | subscriber
  deriving DecidableEq, Repr

/-- One discovered topic endpoint. -/
structure TopicEndpointInfo where
  /-- Identity. -/
  endpointGid : Gid
  /-- Direction. -/
  kind : TopicEndpointKind
  /-- Node name, empty if not proved. -/
  nodeName : ByteString
  /-- Node namespace, empty if not proved. -/
  nodeNamespace : ByteString
  /-- Topic name. -/
  topicName : ByteString
  /-- Wire type. -/
  wireType : ByteString
  /-- QoS. -/
  qos : Qos
  deriving DecidableEq

/-- Aggregate of one topic. -/
structure TopicGraphInfo where
  /-- Topic name. -/
  topicName : ByteString
  /-- Wire types in use, in order. -/
  wireTypes : List ByteString
  /-- Number of publishers. -/
  publisherCount : ℕ
  /-- Number of subscribers. -/
  subscriberCount : ℕ
  deriving DecidableEq

/-- Side of a service or action composition. -/
inductive CompositionKind
  | client
  | server
  deriving DecidableEq, Repr

/-- One participant-consistent service composition. -/
structure ServiceEndpointInfo where
  /-- Side. -/
  kind : CompositionKind
  /-- Node name, empty if not proved. -/
  nodeName : ByteString
  /-- Node namespace, empty if not proved. -/
  nodeNamespace : ByteString
  /-- Service name. -/
  serviceName : ByteString
  /-- Request endpoint. -/
  requestEndpointGid : Gid
  /-- Response endpoint. -/
  responseEndpointGid : Gid
  /-- Request wire type. -/
  requestWireType : ByteString
  /-- Response wire type. -/
  responseWireType : ByteString
  deriving DecidableEq

/-- Aggregate of one service. -/
structure ServiceGraphInfo where
  /-- Service name. -/
  serviceName : ByteString
  /-- Request wire types in use, in order. -/
  requestWireTypes : List ByteString
  /-- Response wire types in use, in order. -/
  responseWireTypes : List ByteString
  /-- Number of client compositions. -/
  clientCandidateCount : ℕ
  /-- Number of server compositions. -/
  serverCandidateCount : ℕ
  deriving DecidableEq

/-- Endpoint identities of one composed action candidate. -/
structure ActionEndpointInfo where
  /-- Side. -/
  kind : CompositionKind
  /-- Node name, empty if not proved. -/
  nodeName : ByteString
  /-- Node namespace, empty if not proved. -/
  nodeNamespace : ByteString
  /-- Action name. -/
  actionName : ByteString
  /-- The eight endpoints. -/
  endpointGids : List Gid
  deriving DecidableEq

/-- Aggregate of one action. -/
structure ActionGraphInfo where
  /-- Action name. -/
  actionName : ByteString
  /-- Number of client candidates. -/
  clientCandidateCount : ℕ
  /-- Number of server candidates. -/
  serverCandidateCount : ℕ
  deriving DecidableEq

/-- One internally consistent snapshot of the whole graph. -/
structure Snapshot where
  /-- Revision. -/
  revision : ℕ
  /-- Nodes, local ones first. -/
  nodes : List NodeGraphInfo
  /-- Topics. -/
  topics : List TopicGraphInfo
  /-- Topic endpoints. -/
  topicEndpoints : List TopicEndpointInfo
  /-- Services. -/
  services : List ServiceGraphInfo
  /-- Service endpoints. -/
  serviceEndpoints : List ServiceEndpointInfo
  /-- Actions. -/
  actions : List ActionGraphInfo
  /-- Action endpoints. -/
  actionEndpoints : List ActionEndpointInfo
  deriving DecidableEq

/-- The nodes a view knows of. -/
def nodeInfos (v : FollowedView) : List NodeGraphInfo :=
  (v.localNodes.records.map fun node => ⟨node.name, node.nodeNamespace⟩) ++
    (v.remoteNodes.records.flatMap (·.nodes)).map fun node => ⟨node.nodeName, node.nodeNamespace⟩

/-- Public form of one topic candidate. -/
def topicEndpointInfo (c : EndpointCandidate) : TopicEndpointInfo where
  endpointGid := c.gid
  kind := if candidateIsPublisher c then .publisher else .subscriber
  nodeName := c.nodeName
  nodeNamespace := c.nodeNamespace
  topicName := c.logicalName
  wireType := c.wireType
  qos := c.qos

/-- Running totals of one topic. -/
structure TopicAggregate where
  /-- Publishers so far. -/
  publisherCount : ℕ
  /-- Subscribers so far. -/
  subscriberCount : ℕ
  /-- Wire types so far. -/
  wireTypes : Std.TreeSet ByteString

/-- Count one topic candidate. -/
def TopicAggregate.count (a : TopicAggregate) (c : EndpointCandidate) : TopicAggregate where
  publisherCount := if candidateIsPublisher c then a.publisherCount + 1 else a.publisherCount
  subscriberCount := if candidateIsPublisher c then a.subscriberCount else a.subscriberCount + 1
  wireTypes := a.wireTypes.insert c.wireType

/-- Aggregates of the topics. -/
def topicInfos (topicCandidates : List EndpointCandidate) : List TopicGraphInfo :=
  (groupInto (·.logicalName) TopicAggregate.count ⟨0, 0, ∅⟩ topicCandidates).toList.map
    fun entry => ⟨entry.1, entry.2.wireTypes.toList, entry.2.publisherCount,
      entry.2.subscriberCount⟩

/-- Endpoints of one service, the last of each role and direction. -/
structure ServiceGroup where
  /-- Service name. -/
  name : ByteString
  /-- Server side of the requests. -/
  requestReader : Option EndpointCandidate
  /-- Client side of the requests. -/
  requestWriter : Option EndpointCandidate
  /-- Client side of the responses. -/
  responseReader : Option EndpointCandidate
  /-- Server side of the responses. -/
  responseWriter : Option EndpointCandidate

/-- A group nothing was added to. -/
def ServiceGroup.fresh : ServiceGroup := ⟨[], none, none, none, none⟩

/-- A place of a service group. -/
def servicePlace (role : GraphEndpointRole) (kind : EndpointKind) (c : EndpointCandidate) : Bool :=
  c.role = role ∧ c.nativeKind = kind

/-- Add an endpoint: the name and its place are overwritten. -/
def ServiceGroup.insert (group : ServiceGroup) (c : EndpointCandidate) : ServiceGroup where
  name := c.logicalName
  requestReader := keepLatest (servicePlace .serviceRequest .reader) group.requestReader c
  requestWriter := keepLatest (servicePlace .serviceRequest .writer) group.requestWriter c
  responseReader := keepLatest (servicePlace .serviceResponse .reader) group.responseReader c
  responseWriter := keepLatest (servicePlace .serviceResponse .writer) group.responseWriter c

/-- The service groups, in key order. -/
def serviceGroups (mode : RuntimeMode) (candidates : List EndpointCandidate) :
    Std.TreeMap ByteString ServiceGroup :=
  groupInto (fun c => composedKey mode c.logicalName c) ServiceGroup.insert .fresh
    (candidates.filter fun c => c.role ≠ .topic)

/-- Public form of a request endpoint with a response endpoint. -/
def serviceEndpointInfo (kind : CompositionKind) (name : ByteString)
    (request response : EndpointCandidate) : ServiceEndpointInfo where
  kind := kind
  nodeName := if request.hasNode then request.nodeName else []
  nodeNamespace := if request.hasNode then request.nodeNamespace else []
  serviceName := name
  requestEndpointGid := request.gid
  responseEndpointGid := response.gid
  requestWireType := request.wireType
  responseWireType := response.wireType

/-- A composition with both its endpoints. -/
def composition (kind : CompositionKind) (name : ByteString)
    (request response : Option EndpointCandidate) : Option ServiceEndpointInfo :=
  match request, response with
  | some request, some response => some (serviceEndpointInfo kind name request response)
  | _, _ => none

/-- Server composition of a group. -/
def ServiceGroup.server (group : ServiceGroup) : Option ServiceEndpointInfo :=
  composition .server group.name group.requestReader group.responseWriter

/-- Client composition of a group. -/
def ServiceGroup.client (group : ServiceGroup) : Option ServiceEndpointInfo :=
  composition .client group.name group.requestWriter group.responseReader

/-- Running totals of one service. -/
structure ServiceAggregate where
  /-- Request wire types so far. -/
  requestWireTypes : Std.TreeSet ByteString
  /-- Response wire types so far. -/
  responseWireTypes : Std.TreeSet ByteString
  /-- Client compositions so far. -/
  clientCandidateCount : ℕ
  /-- Server compositions so far. -/
  serverCandidateCount : ℕ

/-- Add the type of a present endpoint. -/
def insertType (types : Std.TreeSet ByteString) (endpoint : Option EndpointCandidate) :
    Std.TreeSet ByteString :=
  match endpoint with
  | none => types
  | some c => types.insert c.wireType

/-- Count one service group. -/
def ServiceAggregate.count (a : ServiceAggregate) (group : ServiceGroup) : ServiceAggregate where
  requestWireTypes := insertType (insertType a.requestWireTypes group.requestReader)
    group.requestWriter
  responseWireTypes := insertType (insertType a.responseWireTypes group.responseReader)
    group.responseWriter
  clientCandidateCount := a.clientCandidateCount + if group.client.isSome then 1 else 0
  serverCandidateCount := a.serverCandidateCount + if group.server.isSome then 1 else 0

/-- Aggregates of the services. -/
def serviceInfos (groups : List ServiceGroup) : List ServiceGraphInfo :=
  (groupInto (·.name) ServiceAggregate.count ⟨∅, ∅, 0, 0⟩ groups).toList.map
    fun entry => ⟨entry.1, entry.2.requestWireTypes.toList, entry.2.responseWireTypes.toList,
      entry.2.clientCandidateCount, entry.2.serverCandidateCount⟩

/-- Server composition of an action candidate. -/
def actionServer (c : ActionCandidate) : Option ActionEndpointInfo :=
  if c.hasServer then
    some ⟨.server, c.serverNodeName, c.serverNodeNamespace, c.actionName, c.serverGids⟩
  else none

/-- Client composition of an action candidate. -/
def actionClient (c : ActionCandidate) : Option ActionEndpointInfo :=
  if c.hasClient then
    some ⟨.client, c.clientNodeName, c.clientNodeNamespace, c.actionName, c.clientGids⟩
  else none

/-- Running totals of one action. -/
structure ActionAggregate where
  /-- Client candidates so far. -/
  clientCandidateCount : ℕ
  /-- Server candidates so far. -/
  serverCandidateCount : ℕ

/-- Count one action candidate. -/
def ActionAggregate.count (a : ActionAggregate) (c : ActionCandidate) : ActionAggregate where
  clientCandidateCount := a.clientCandidateCount + if c.hasClient then 1 else 0
  serverCandidateCount := a.serverCandidateCount + if c.hasServer then 1 else 0

/-- Aggregates of the actions. -/
def actionInfos (actions : List ActionCandidate) : List ActionGraphInfo :=
  (groupInto (·.actionName) ActionAggregate.count ⟨0, 0⟩ actions).toList.map
    fun entry => ⟨entry.1, entry.2.clientCandidateCount, entry.2.serverCandidateCount⟩

/-- Assemble one consistent public snapshot. -/
def assembleSnapshot (mode : RuntimeMode) (v : FollowedView) : Snapshot :=
  let candidates := collectEndpointCandidates mode v
  let topicCandidates := candidates.filter fun c => c.role = .topic
  let services := (serviceGroups mode candidates).toList.map (·.2)
  let actions := composeActionCandidates mode candidates
  { revision := v.revision
    nodes := nodeInfos v
    topics := topicInfos topicCandidates
    topicEndpoints := topicCandidates.map topicEndpointInfo
    services := serviceInfos services
    serviceEndpoints := services.flatMap fun group =>
      group.server.toList ++ group.client.toList
    actions := actionInfos actions
    actionEndpoints := actions.flatMap fun c => (actionServer c).toList ++ (actionClient c).toList }

/-- A snapshot is determined by the revision, the nodes and the candidates. -/
theorem assembleSnapshot_congr {mode : RuntimeMode} {v v' : FollowedView}
    (hrevision : v.revision = v'.revision) (hnodes : nodeInfos v = nodeInfos v')
    (hcandidates : collectEndpointCandidates mode v = collectEndpointCandidates mode v') :
    assembleSnapshot mode v = assembleSnapshot mode v' := by
  simp only [assembleSnapshot, hrevision, hnodes, hcandidates]

/-- The group under a key, fresh if nothing has the key. -/
def serviceGroupAt (mode : RuntimeMode) (candidates : List EndpointCandidate) (k : ByteString) :
    ServiceGroup :=
  ((candidates.filter fun c => c.role ≠ .topic).filter fun c =>
    composedKey mode c.logicalName c = k).foldl ServiceGroup.insert .fresh

/-- The last service endpoint of a key, a role and a direction. -/
def latestIn (mode : RuntimeMode) (candidates : List EndpointCandidate) (k : ByteString)
    (role : GraphEndpointRole) (kind : EndpointKind) : Option EndpointCandidate :=
  (candidates.filter fun c =>
    composedKey mode c.logicalName c = k ∧ c.role = role ∧ c.nativeKind = kind).getLast?

/-- A place of a group is held by the last endpoint with its key. -/
theorem foldl_serviceGroup (members : List EndpointCandidate)
    (read : ServiceGroup → Option EndpointCandidate) (place : EndpointCandidate → Bool)
    (hfresh : read .fresh = none)
    (hinsert : ∀ group c, read (group.insert c) = keepLatest place (read group) c) :
    read (members.foldl ServiceGroup.insert .fresh) = (members.filter place).getLast? := by
  rw [← foldl_keepLatest, ← hfresh]
  exact (List.foldl_hom read fun group c => (hinsert group c).symm).symm

/-- Every place of a group is held by the last endpoint with its key. -/
theorem serviceGroupAt_places (mode : RuntimeMode) (candidates : List EndpointCandidate)
    (k : ByteString) :
    (serviceGroupAt mode candidates k).requestReader =
        latestIn mode candidates k .serviceRequest .reader ∧
      (serviceGroupAt mode candidates k).requestWriter =
        latestIn mode candidates k .serviceRequest .writer ∧
      (serviceGroupAt mode candidates k).responseReader =
        latestIn mode candidates k .serviceResponse .reader ∧
      (serviceGroupAt mode candidates k).responseWriter =
        latestIn mode candidates k .serviceResponse .writer := by
  have hmembers : ∀ role kind, role ≠ .topic →
      (((candidates.filter fun c => c.role ≠ .topic).filter fun c =>
        composedKey mode c.logicalName c = k).filter (servicePlace role kind)).getLast? =
        latestIn mode candidates k role kind := by
    intro role kind hrole
    unfold latestIn
    rw [List.filter_filter, List.filter_filter]
    congr 1
    refine List.filter_congr fun c _ => ?_
    by_cases hplace : c.role = role
    · simp [servicePlace, hplace, hrole, and_comm]
    · simp [servicePlace, hplace]
  unfold serviceGroupAt
  refine ⟨?_, ?_, ?_, ?_⟩
  · rw [← hmembers .serviceRequest .reader (by simp)]
    exact foldl_serviceGroup _ (·.requestReader) _ rfl fun _ _ => rfl
  · rw [← hmembers .serviceRequest .writer (by simp)]
    exact foldl_serviceGroup _ (·.requestWriter) _ rfl fun _ _ => rfl
  · rw [← hmembers .serviceResponse .reader (by simp)]
    exact foldl_serviceGroup _ (·.responseReader) _ rfl fun _ _ => rfl
  · rw [← hmembers .serviceResponse .writer (by simp)]
    exact foldl_serviceGroup _ (·.responseWriter) _ rfl fun _ _ => rfl

/-- A group with a composition was created by an endpoint. -/
theorem serviceGroupAt_used {mode : RuntimeMode} {candidates : List EndpointCandidate}
    {k : ByteString} {info : ServiceEndpointInfo}
    (hinfo : (serviceGroupAt mode candidates k).server = some info ∨
      (serviceGroupAt mode candidates k).client = some info) :
    ((candidates.filter fun c => c.role ≠ .topic).filter fun c =>
      composedKey mode c.logicalName c = k) ≠ [] := by
  intro hnone
  unfold serviceGroupAt at hinfo
  rw [hnone] at hinfo
  rcases hinfo with h | h <;> cases h

/-- The service endpoints of a snapshot are the compositions of the groups. -/
theorem mem_serviceEndpoints {mode : RuntimeMode} {v : FollowedView} {info : ServiceEndpointInfo} :
    info ∈ (assembleSnapshot mode v).serviceEndpoints ↔
      ∃ k, (serviceGroupAt mode (collectEndpointCandidates mode v) k).server = some info ∨
        (serviceGroupAt mode (collectEndpointCandidates mode v) k).client = some info := by
  simp only [assembleSnapshot, serviceGroups, List.mem_flatMap, List.mem_map, List.mem_append,
    Option.mem_toList]
  constructor
  · rintro ⟨group, ⟨⟨k, group'⟩, hentry, rfl⟩, hinfo⟩
    obtain ⟨-, rfl⟩ := mem_toList_groupInto.mp hentry
    exact ⟨k, hinfo⟩
  · rintro ⟨k, hinfo⟩
    exact ⟨_, ⟨(k, _), mem_toList_groupInto.mpr ⟨serviceGroupAt_used hinfo, rfl⟩, rfl⟩, hinfo⟩

/-- Both endpoints of a composition are there. -/
theorem composition_eq_some {kind : CompositionKind} {name : ByteString}
    {request response : Option EndpointCandidate} {info : ServiceEndpointInfo} :
    composition kind name request response = some info ↔
      ∃ r w, request = some r ∧ response = some w ∧ info = serviceEndpointInfo kind name r w := by
  unfold composition
  constructor
  · intro h
    split at h
    · next r w => exact ⟨r, w, rfl, rfl, (Option.some.inj h).symm⟩
    · cases h
  · rintro ⟨r, w, rfl, rfl, rfl⟩
    rfl

end Dmw.GraphSnapshot
