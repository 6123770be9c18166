import Dmw.GraphCandidates

/-!
# Service availability

A client asks the graph whether a participant serves a service. The graph
looks at the discovered endpoints and at the metadata of that participant. The
snapshot answers the same question from the candidates, which put local
metadata first and associate a discovered endpoint with whatever node lists
it. The two answers part where an association is only seen by one of them.
-/

namespace Dmw.ServiceAvailability

open GuardedRuns Identity QosPolicies GraphNames RecordVector DiscoveryGraph GraphCandidates

/-- What is known about the service of one participant. -/
inductive ServiceState
  | unknown
  | complete
  | incomplete
  | unavailable
  deriving DecidableEq, Repr

/-- Endpoints of a participant that discovery counts as present. -/
def presentEndpoints (guidPrefix : GuidPrefix) (g : Graph) : List (EndpointRecord GuidPrefix) :=
  g.endpoints.records.filter fun e =>
    e.guid.guidPrefix = guidPrefix ∧ e.lifecycle ≠ .removed ∧
      (g.participants.find e.participant).any fun p => p.lifecycle ≠ .removed

/-- Whether a participant serves requests of a service. With the node
association required, one of its nodes has to list both endpoints. -/
def service (guidPrefix : GuidPrefix) (requestTopic requestType responseTopic
    responseType : ByteString) (requireNodeAssociation : Bool) (g : Graph) : ServiceState :=
  if g.health ≠ .healthy then .unavailable
  else
    let present := presentEndpoints guidPrefix g
    let requests := present.filter fun e => e.topic = requestTopic ∧ e.type = requestType
    let responses := present.filter fun e => e.topic = responseTopic ∧ e.type = responseType
    let requestReaders := requests.filter fun e => e.kind = .reader
    let responseWriters := responses.filter fun e => e.kind = .writer
    if requestReaders = [] ∨ responseWriters = [] then
      if requests = [] ∧ responses = [] then .unknown else .incomplete
    else if requireNodeAssociation = false then .complete
    else
      match g.remoteNodes.find guidPrefix with
      | none => .incomplete
      | some participant =>
        if participant.nodes.any fun node =>
            requestReaders.any (fun e => node.readerGids.contains (toGid e.guid).data) &&
              responseWriters.any (fun e => node.writerGids.contains (toGid e.guid).data)
        then .complete
        else .incomplete

/-- One direction of a service as its server sees it. -/
structure Direction where
  /-- Service name without the leading slash. -/
  path : ByteString
  /-- Requests or responses. -/
  request : Bool
  /-- DDS type name. -/
  type : ByteString

/-- Transport topic of the direction. -/
def Direction.topic (d : Direction) : ByteString :=
  serviceTopicName .ros2 (text "/" ++ d.path) d.request

/-- Role of its endpoints. -/
def Direction.role (d : Direction) : GraphEndpointRole :=
  if d.request then .serviceRequest else .serviceResponse

/-- A server reads requests and writes responses. -/
def Direction.kind (d : Direction) : EndpointKind := if d.request then .reader else .writer

/-- GUIDs a node lists as endpoints of the direction. -/
def Direction.listed (d : Direction) (node : RemoteNodeRecord) : List (Vector UInt8 16) :=
  if d.request then node.readerGids else node.writerGids

/-- A candidate is a server endpoint of the direction in a participant. -/
def Direction.Serves (d : Direction) (guidPrefix : GuidPrefix) (c : EndpointCandidate) : Prop :=
  c.participantKey = participantKey guidPrefix ∧ c.role = d.role ∧ c.nativeKind = d.kind ∧
    c.logicalName = text "/" ++ d.path ∧ c.wireType = d.type

instance (d : Direction) (guidPrefix : GuidPrefix) (c : EndpointCandidate) :
    Decidable (d.Serves guidPrefix c) := by
  unfold Direction.Serves
  infer_instance

/-- Name and namespace of a node. -/
abbrev NodeIdentity := ByteString × ByteString

/-- The snapshot sees an endpoint of the direction in a node. -/
def Seen (v : FollowedView) (guidPrefix : GuidPrefix) (d : Direction) (identity : NodeIdentity) :
    Prop :=
  ∃ c ∈ collectEndpointCandidates .ros2 v, d.Serves guidPrefix c ∧ c.hasNode = true ∧
    c.nodeName = identity.1 ∧ c.nodeNamespace = identity.2

instance (v : FollowedView) (guidPrefix : GuidPrefix) (d : Direction) (identity : NodeIdentity) :
    Decidable (Seen v guidPrefix d identity) := by
  unfold Seen
  infer_instance

/-- The snapshot sees both directions of a service in one node of a participant. -/
def SeesServer (v : FollowedView) (guidPrefix : GuidPrefix) (path requestType
    responseType : ByteString) : Prop :=
  ∃ identity, Seen v guidPrefix ⟨path, true, requestType⟩ identity ∧
    Seen v guidPrefix ⟨path, false, responseType⟩ identity

/-- No GUID is listed by two nodes. -/
def ListedOnce (t : Tables) : Prop :=
  (t.remoteNodes.records.flatMap (·.nodes)).Pairwise fun node node' =>
    ∀ gid, gid ∈ node.readerGids ++ node.writerGids →
      gid ∉ node'.readerGids ++ node'.writerGids

/-- The GUIDs of each node are compared with those of later ones. -/
theorem listedOnce_iff (t : Tables) :
    (t.remoteNodes.records.flatMap (·.nodes)).Pairwise (fun node node' =>
      (node.readerGids ++ node.writerGids).all (fun gid =>
        !(node'.readerGids ++ node'.writerGids).contains gid) = true) ↔ ListedOnce t := by
  simp only [ListedOnce, List.all_eq_true, Bool.not_eq_true', ← Bool.not_eq_true,
    List.contains_iff_mem]

instance (t : Tables) : Decidable (ListedOnce t) := decidable_of_iff _ (listedOnce_iff t)

/-- Availability and snapshot agree about a service. -/
def Agree (g : Graph) (guidPrefix : GuidPrefix) (path requestType responseType : ByteString) :
    Prop :=
  service guidPrefix (serviceTopicName .ros2 (text "/" ++ path) true) requestType
      (serviceTopicName .ros2 (text "/" ++ path) false) responseType true g = .complete ↔
    SeesServer (atomicView g) guidPrefix path requestType responseType

/-- A discovered server endpoint of the direction is present. -/
def Present (g : Graph) (guidPrefix : GuidPrefix) (d : Direction) (e : EndpointRecord GuidPrefix) :
    Prop :=
  e ∈ presentEndpoints guidPrefix g ∧ e.topic = d.topic ∧ e.type = d.type ∧ e.kind = d.kind

/-- Local metadata of a named endpoint takes the place of its discovery. -/
def Hidden (t : Tables) (guid : Guid) : Prop :=
  ∃ l ∈ t.localEndpoints.records, l.guid = guid ∧
    (normalizeEndpointName .ros2 l.topic).isSome = true

/-- Local metadata has a server endpoint of the direction in a node. -/
def Own (t : Tables) (guidPrefix : GuidPrefix) (d : Direction) (identity : NodeIdentity) : Prop :=
  ∃ l ∈ t.localEndpoints.records, l.guid.guidPrefix = guidPrefix ∧ l.topic = d.topic ∧
    l.type = d.type ∧ l.kind = d.kind ∧
      ∃ node, t.localNodes.find l.nodeId = some node ∧ node.name = identity.1 ∧
        node.nodeNamespace = identity.2

/-- A node of any participant lists a present endpoint of the direction that
local metadata does not hide. -/
structure Listed (g : Graph) (guidPrefix : GuidPrefix) (d : Direction)
    (owner : RemoteParticipantNodes) (node : RemoteNodeRecord) (e : EndpointRecord GuidPrefix) :
    Prop where
  /-- The endpoint is present. -/
  present : Present g guidPrefix d e
  /-- It is not hidden. -/
  shown : ¬ Hidden g.toTables e.guid
  /-- The owner has metadata. -/
  owned : owner ∈ g.remoteNodes.records
  /-- The node is one of its nodes. -/
  mem : node ∈ owner.nodes
  /-- One of the two lists of the node has the endpoint. -/
  listed : (toGid e.guid).data ∈ node.readerGids ++ node.writerGids

/-- A node of the participant itself lists the endpoint, in the right list. -/
structure Proper (guidPrefix : GuidPrefix) (d : Direction) (owner : RemoteParticipantNodes)
    (node : RemoteNodeRecord) (e : EndpointRecord GuidPrefix) : Prop where
  /-- The node belongs to the participant. -/
  own : owner.guidPrefix = guidPrefix
  /-- The list is that of the direction. -/
  listed : (toGid e.guid).data ∈ d.listed node

section Conditions

variable (g : Graph) (guidPrefix : GuidPrefix) (d d' : Direction)

/-- One node of the participant lists present endpoints of both directions. -/
def Served : Prop :=
  ∃ owner ∈ g.remoteNodes.records, ∃ node ∈ owner.nodes,
    (∃ e, Present g guidPrefix d e ∧ Proper guidPrefix d owner node e) ∧
      ∃ e, Present g guidPrefix d' e ∧ Proper guidPrefix d' owner node e

/-- One node of the participant lists endpoints of both directions that no
local metadata hides. -/
def ServedOpenly : Prop :=
  ∃ owner node, (∃ e, Listed g guidPrefix d owner node e ∧ Proper guidPrefix d owner node e) ∧
    ∃ e, Listed g guidPrefix d' owner node e ∧ Proper guidPrefix d' owner node e

/-- Endpoints of both directions meet under one node identity in another way. -/
inductive Stray : Prop
  /-- Both belong to the context. -/
  | own (identity : NodeIdentity) (h : Own g.toTables guidPrefix d identity)
    (h' : Own g.toTables guidPrefix d' identity)
  /-- The first belongs to the context, and the other is listed. -/
  | ownFirst (owner : RemoteParticipantNodes) (node : RemoteNodeRecord)
    (e : EndpointRecord GuidPrefix)
    (h : Own g.toTables guidPrefix d (node.nodeName, node.nodeNamespace))
    (h' : Listed g guidPrefix d' owner node e)
  /-- The second belongs to the context, and the other is listed. -/
  | ownSecond (owner : RemoteParticipantNodes) (node : RemoteNodeRecord)
    (e : EndpointRecord GuidPrefix) (h : Listed g guidPrefix d owner node e)
    (h' : Own g.toTables guidPrefix d' (node.nodeName, node.nodeNamespace))
  /-- Two node records of one name list them, or another participant, or the
  list of the other kind. -/
  | listed (owner owner' : RemoteParticipantNodes) (node node' : RemoteNodeRecord)
    (e e' : EndpointRecord GuidPrefix) (h : Listed g guidPrefix d owner node e)
    (h' : Listed g guidPrefix d' owner' node' e') (hname : node.nodeName = node'.nodeName)
    (hnamespace : node.nodeNamespace = node'.nodeNamespace)
    (hstray : ¬ (owner = owner' ∧ node = node' ∧ Proper guidPrefix d owner node e ∧
      Proper guidPrefix d' owner' node' e'))

/-- What one node of the participant lists is seen, and nothing else is. -/
structure Aligned : Prop where
  /-- Local metadata does not hide the only association. -/
  shown : Served g guidPrefix d d' → ServedOpenly g guidPrefix d d' ∨ Stray g guidPrefix d d'
  /-- No stray association stands alone. -/
  backed : Stray g guidPrefix d d' → Served g guidPrefix d d'

end Conditions

variable {g : Graph} {guidPrefix : GuidPrefix}

/-- Only a listing in the participant's own metadata completes a service. -/
theorem service_complete_iff {path requestType responseType : ByteString}
    (hhealthy : g.health = .healthy) :
    service guidPrefix (serviceTopicName .ros2 (text "/" ++ path) true) requestType
        (serviceTopicName .ros2 (text "/" ++ path) false) responseType true g = .complete ↔
      Served g guidPrefix ⟨path, true, requestType⟩ ⟨path, false, responseType⟩ := by
  have hreader : ∀ e, e ∈ (((presentEndpoints guidPrefix g).filter fun e =>
        e.topic = serviceTopicName .ros2 (text "/" ++ path) true ∧ e.type = requestType).filter
          fun e => e.kind = .reader) ↔ Present g guidPrefix ⟨path, true, requestType⟩ e := by
    intro e
    rw [List.mem_filter, List.mem_filter, decide_eq_true_eq, decide_eq_true_eq, and_assoc,
      and_assoc]
    exact Iff.rfl
  have hwriter : ∀ e, e ∈ (((presentEndpoints guidPrefix g).filter fun e =>
        e.topic = serviceTopicName .ros2 (text "/" ++ path) false ∧ e.type = responseType).filter
          fun e => e.kind = .writer) ↔ Present g guidPrefix ⟨path, false, responseType⟩ e := by
    intro e
    rw [List.mem_filter, List.mem_filter, decide_eq_true_eq, decide_eq_true_eq, and_assoc,
      and_assoc]
    exact Iff.rfl
  unfold service
  rw [if_neg (by simp [hhealthy])]
  dsimp only
  constructor
  · intro hcomplete
    split at hcomplete
    · split at hcomplete <;> cases hcomplete
    · split at hcomplete
      · next hoff => cases hoff
      · split at hcomplete
        · cases hcomplete
        · next participant hfound =>
          obtain ⟨hmem, hstart⟩ := Records.find_eq_some.mp hfound
          split at hcomplete
          · next hany =>
            simp only [List.any_eq_true, Bool.and_eq_true, hreader, hwriter, List.contains_iff_mem]
              at hany
            obtain ⟨node, hnode, ⟨e, he, hlisted⟩, e', he', hlisted'⟩ := hany
            exact ⟨participant, hmem, node, hnode, ⟨e, he, hstart, hlisted⟩,
              e', he', hstart, hlisted'⟩
          · cases hcomplete
  · rintro ⟨participant, hmem, node, hnode, ⟨e, he, hstart, hlisted⟩, e', he', -, hlisted'⟩
    have hfound : g.remoteNodes.find guidPrefix = some participant :=
      Records.find_eq_some.mpr ⟨hmem, hstart⟩
    rw [if_neg, if_neg (by simp), hfound]
    · dsimp only
      rw [if_pos]
      simp only [List.any_eq_true, Bool.and_eq_true, hreader, hwriter, List.contains_iff_mem]
      exact ⟨node, hnode, ⟨e, he, hlisted⟩, e', he', hlisted'⟩
    · rw [not_or]
      exact ⟨List.ne_nil_of_mem ((hreader e).mpr he), List.ne_nil_of_mem ((hwriter e').mpr he')⟩

/-- In a linked graph the present endpoints are the live ones of the view. -/
theorem mem_presentEndpoints (hlinked : Linked g.toTables) {e : EndpointRecord GuidPrefix} :
    e ∈ presentEndpoints guidPrefix g ↔
      e ∈ g.endpoints.records ∧ e.guid.guidPrefix = guidPrefix ∧ EndpointLive (resolve g e) := by
  unfold presentEndpoints EndpointLive resolve withParticipant
  rw [List.mem_filter, decide_eq_true_eq]
  refine and_congr_right fun hmem => and_congr_right fun _ => and_congr_right fun _ => ?_
  obtain ⟨participant, hfound⟩ := Option.isSome_iff_exists.mp (hlinked e hmem).2
  simp [hfound]

/-- Names of one direction map back to it and to nothing else. -/
theorem normalize_iff {d : Direction} (hpath : d.path ≠ []) {topic : ByteString} :
    normalizeEndpointName .ros2 topic = some ⟨text "/" ++ d.path, d.role⟩ ↔ topic = d.topic :=
  normalize_service hpath d.request

/-- What is mapped back is no metadata transport. -/
theorem ne_metadata {topic : ByteString} {n : NormalizedEndpointName}
    (h : normalizeEndpointName .ros2 topic = some n) : topic ≠ graphMetadataTopicName := by
  rintro rfl
  have hnone : normalizeEndpointName .ros2 graphMetadataTopicName = none := by decide
  rw [hnone] at h
  cases h

/-- Local metadata hides the endpoints whose candidates it replaces. -/
theorem mem_localGids {guid : Guid} :
    toGid guid ∈ localGids .ros2 (atomicView g) ↔ Hidden g.toTables guid := by
  unfold localGids Hidden
  simp only [List.mem_map, List.mem_filterMap]
  constructor
  · rintro ⟨c, ⟨l, hl, hc⟩, hgid⟩
    obtain ⟨-, n, hn, rfl⟩ := localCandidate_eq_some.mp hc
    rw [withNode_gid] at hgid
    exact ⟨l, hl, toGid_injective hgid, by rw [hn]; rfl⟩
  · rintro ⟨l, hl, rfl, hnamed⟩
    obtain ⟨n, hn⟩ := Option.isSome_iff_exists.mp hnamed
    have hc : localCandidate .ros2 (atomicView g) l = some _ :=
      localCandidate_eq_some.mpr ⟨ne_metadata hn, n, hn, rfl⟩
    exact ⟨_, ⟨l, hl, hc⟩, withNode_gid _ _⟩

/-- Where GUIDs are listed once, the node that lists one is found. -/
theorem remoteByGid_eq_some (honce : ListedOnce g.toTables) {gid : Vector UInt8 16}
    {node : RemoteNodeRecord} :
    remoteByGid (atomicView g) gid = some node ↔
      ∃ owner ∈ g.remoteNodes.records, node ∈ owner.nodes ∧
        gid ∈ node.readerGids ++ node.writerGids := by
  unfold remoteByGid
  constructor
  · intro hfound
    have hlists : gid ∈ node.readerGids ∨ gid ∈ node.writerGids := by
      simpa using List.find?_some hfound
    obtain ⟨owner, howner, hnode⟩ := List.mem_flatMap.mp (List.mem_of_find?_eq_some hfound)
    exact ⟨owner, howner, hnode, List.mem_append.mpr hlists⟩
  · rintro ⟨owner, howner, hnode, hlists⟩
    obtain ⟨earlier, later, hsplit⟩ :=
      List.append_of_mem (List.mem_flatMap.mpr ⟨owner, howner, hnode⟩)
    unfold ListedOnce at honce
    rw [hsplit, List.pairwise_append] at honce
    refine List.find?_eq_some_iff_append.mpr ⟨?_, earlier, later, hsplit, fun other hother => ?_⟩
    · simpa using List.mem_append.mp hlists
    · have hexclusive := honce.2.2 other hother node List.mem_cons_self gid
      have hother : gid ∉ other.readerGids ++ other.writerGids := fun h => hexclusive h hlists
      simpa using hother

/-- What serves a direction before its node is known. -/
theorem serves_withNode {d : Direction} {node : Option NodeIdentity} {guid : Guid}
    {kind : EndpointKind} {type : ByteString} {qos : Qos} {n : NormalizedEndpointName} :
    d.Serves guidPrefix (withNode node (bareCandidate guid kind type qos n)) ↔
      guid.guidPrefix = guidPrefix ∧ n = ⟨text "/" ++ d.path, d.role⟩ ∧ kind = d.kind ∧
        type = d.type := by
  have hkey : participantKey guid.guidPrefix = participantKey guidPrefix ↔
      guid.guidPrefix = guidPrefix := by
    unfold participantKey
    exact Vector.toList_inj
  cases n
  simp only [Direction.Serves, withNode_participantKey, withNode_role, withNode_nativeKind,
    withNode_logicalName, withNode_wireType, bareCandidate, hkey, NormalizedEndpointName.mk.injEq]
  tauto

/-- A candidate has a node exactly where one is known, and then its name. -/
theorem withNode_identity {node : Option NodeIdentity} {identity : NodeIdentity} {guid : Guid}
    {kind : EndpointKind} {type : ByteString} {qos : Qos} {n : NormalizedEndpointName} :
    (withNode node (bareCandidate guid kind type qos n)).hasNode = true ∧
        (withNode node (bareCandidate guid kind type qos n)).nodeName = identity.1 ∧
        (withNode node (bareCandidate guid kind type qos n)).nodeNamespace = identity.2 ↔
      node = some identity := by
  cases node with
  | none => simp [withNode, bareCandidate]
  | some node =>
    simp only [withNode, true_and, Option.some.injEq]
    exact Prod.ext_iff.symm

/-- What the snapshot sees is the context's own or listed. -/
theorem seen_iff (hlinked : Linked g.toTables) (honce : ListedOnce g.toTables) {d : Direction}
    (hpath : d.path ≠ []) {identity : NodeIdentity} :
    Seen (atomicView g) guidPrefix d identity ↔
      Own g.toTables guidPrefix d identity ∨
        ∃ owner node e, Listed g guidPrefix d owner node e ∧ node.nodeName = identity.1 ∧
          node.nodeNamespace = identity.2 := by
  unfold Seen
  constructor
  · rintro ⟨c, hc, hserves, hnode⟩
    rcases mem_collect.mp hc with ⟨l, hl, hlc⟩ | ⟨e, he, hec⟩
    · left
      obtain ⟨-, n, hn, rfl⟩ := localCandidate_eq_some.mp hlc
      obtain ⟨hstart, rfl, hkind, htype⟩ := serves_withNode.mp hserves
      obtain ⟨node, hfound, hidentity⟩ := Option.map_eq_some_iff.mp (withNode_identity.mp hnode)
      obtain ⟨hname, hnamespace⟩ := Prod.ext_iff.mp hidentity
      exact ⟨l, hl, hstart, (normalize_iff hpath).mp hn, htype, hkind, node, hfound, hname,
        hnamespace⟩
    · right
      obtain ⟨e, hmem, rfl⟩ := List.mem_map.mp he
      obtain ⟨hlive, -, hshown, n, hn, rfl⟩ := remoteCandidate_eq_some.mp hec
      obtain ⟨hstart, rfl, hkind, htype⟩ := serves_withNode.mp hserves
      obtain ⟨node, hfound, hidentity⟩ := Option.map_eq_some_iff.mp (withNode_identity.mp hnode)
      obtain ⟨hname, hnamespace⟩ := Prod.ext_iff.mp hidentity
      obtain ⟨owner, howner, hin, hlists⟩ := (remoteByGid_eq_some honce).mp hfound
      refine ⟨owner, node, e, ⟨⟨?_, (normalize_iff hpath).mp hn, htype, hkind⟩, ?_, howner, hin,
        hlists⟩, hname, hnamespace⟩
      · exact (mem_presentEndpoints hlinked).mpr ⟨hmem, hstart, hlive⟩
      · exact fun hhidden => hshown (mem_localGids.mpr hhidden)
  · rintro (⟨l, hl, hstart, htopic, htype, hkind, node, hfound, hname, hnamespace⟩ |
      ⟨owner, node, e, hlisted, hname, hnamespace⟩)
    · have hn := (normalize_iff hpath).mpr htopic
      refine ⟨_, mem_collect.mpr (Or.inl ⟨l, hl, localCandidate_eq_some.mpr
        ⟨ne_metadata hn, _, hn, rfl⟩⟩), serves_withNode.mpr ⟨hstart, rfl, hkind, htype⟩,
        withNode_identity.mpr ?_⟩
      have hnode : localNode (atomicView g) l.nodeId = some (node.name, node.nodeNamespace) :=
        Option.map_eq_some_iff.mpr ⟨node, hfound, rfl⟩
      rw [hnode, hname, hnamespace]
    · obtain ⟨⟨hpresent, htopic, htype, hkind⟩, hshown, howner, hin, hlists⟩ := hlisted
      obtain ⟨hmem, hstart, hlive⟩ := (mem_presentEndpoints hlinked).mp hpresent
      have hn := (normalize_iff hpath).mpr htopic
      refine ⟨_, mem_collect.mpr (Or.inr ⟨resolve g e, List.mem_map_of_mem hmem,
        remoteCandidate_eq_some.mpr ⟨hlive, ne_metadata hn,
          fun hhidden => hshown (mem_localGids.mp hhidden), _, hn, rfl⟩⟩),
        serves_withNode.mpr ⟨hstart, rfl, hkind, htype⟩, withNode_identity.mpr ?_⟩
      have hnode : remoteNode (atomicView g) (toGid e.guid) =
          some (node.nodeName, node.nodeNamespace) :=
        Option.map_eq_some_iff.mpr
          ⟨node, (remoteByGid_eq_some honce).mpr ⟨owner, howner, hin, hlists⟩, rfl⟩
      exact hnode.trans (by rw [hname, hnamespace])

/-- The snapshot sees a server openly listed or astray. -/
theorem seesServer_iff (hlinked : Linked g.toTables) (honce : ListedOnce g.toTables)
    {path requestType responseType : ByteString} (hpath : path ≠ []) :
    SeesServer (atomicView g) guidPrefix path requestType responseType ↔
      ServedOpenly g guidPrefix ⟨path, true, requestType⟩ ⟨path, false, responseType⟩ ∨
        Stray g guidPrefix ⟨path, true, requestType⟩ ⟨path, false, responseType⟩ := by
  have hseen : ∀ (d : Direction) (identity : NodeIdentity), d.path ≠ [] →
      (Seen (atomicView g) guidPrefix d identity ↔ Own g.toTables guidPrefix d identity ∨
        ∃ owner node e, Listed g guidPrefix d owner node e ∧ node.nodeName = identity.1 ∧
          node.nodeNamespace = identity.2) :=
    fun _ _ hd => seen_iff hlinked honce hd
  unfold SeesServer
  constructor
  · rintro ⟨identity, hrequest, hresponse⟩
    rcases (hseen _ _ hpath).mp hrequest with hown | ⟨owner, node, e, hlisted, hname, hspace⟩ <;>
      rcases (hseen _ _ hpath).mp hresponse with
        hown' | ⟨owner', node', e', hlisted', hname', hspace'⟩
    · exact Or.inr (.own identity hown hown')
    · refine Or.inr (.ownFirst owner' node' e' ?_ hlisted')
      rwa [hname', hspace']
    · refine Or.inr (.ownSecond owner node e hlisted ?_)
      rwa [hname, hspace]
    · by_cases hproper : owner = owner' ∧ node = node' ∧
          Proper guidPrefix ⟨path, true, requestType⟩ owner node e ∧
            Proper guidPrefix ⟨path, false, responseType⟩ owner' node' e'
      · obtain ⟨rfl, rfl, hproper, hproper'⟩ := hproper
        exact Or.inl ⟨owner, node, ⟨e, hlisted, hproper⟩, e', hlisted', hproper'⟩
      · exact Or.inr (.listed owner owner' node node' e e' hlisted hlisted'
          (hname.trans hname'.symm) (hspace.trans hspace'.symm) hproper)
  · rintro (⟨owner, node, ⟨e, hlisted, -⟩, e', hlisted', -⟩ | hstray)
    · exact ⟨(node.nodeName, node.nodeNamespace),
        (hseen _ _ hpath).mpr (Or.inr ⟨owner, node, e, hlisted, rfl, rfl⟩),
        (hseen _ _ hpath).mpr (Or.inr ⟨owner, node, e', hlisted', rfl, rfl⟩)⟩
    · cases hstray with
      | own identity hown hown' =>
        exact ⟨identity, (hseen _ _ hpath).mpr (Or.inl hown),
          (hseen _ _ hpath).mpr (Or.inl hown')⟩
      | ownFirst owner node e hown hlisted =>
        exact ⟨_, (hseen _ _ hpath).mpr (Or.inl hown),
          (hseen _ _ hpath).mpr (Or.inr ⟨owner, node, e, hlisted, rfl, rfl⟩)⟩
      | ownSecond owner node e hlisted hown =>
        exact ⟨_, (hseen _ _ hpath).mpr (Or.inr ⟨owner, node, e, hlisted, rfl, rfl⟩),
          (hseen _ _ hpath).mpr (Or.inl hown)⟩
      | listed owner owner' node node' e e' hlisted hlisted' hname hspace =>
        exact ⟨(node.nodeName, node.nodeNamespace),
          (hseen _ _ hpath).mpr (Or.inr ⟨owner, node, e, hlisted, rfl, rfl⟩),
          (hseen _ _ hpath).mpr (Or.inr ⟨owner', node', e', hlisted', hname.symm, hspace.symm⟩)⟩

/-- An open listing is a listing. -/
theorem Served.of_openly {d d' : Direction} (h : ServedOpenly g guidPrefix d d') :
    Served g guidPrefix d d' := by
  obtain ⟨owner, node, ⟨e, hlisted, hproper⟩, e', hlisted', hproper'⟩ := h
  exact ⟨owner, hlisted.owned, node, hlisted.mem, ⟨e, hlisted.present, hproper⟩,
    e', hlisted'.present, hproper'⟩

/-- Associations are aligned where the context has no such endpoint and the
present ones are listed by uniquely named nodes of their own participant, in
the right list. -/
theorem aligned_of_tidy {d d' : Direction}
    (hforeign : ∀ l ∈ g.localEndpoints.records, l.guid.guidPrefix ≠ guidPrefix)
    (hproper : ∀ direction ∈ [d, d'], ∀ owner node e, Listed g guidPrefix direction owner node e →
      Proper guidPrefix direction owner node e)
    (hunique : ∀ owner ∈ g.remoteNodes.records, owner.guidPrefix = guidPrefix →
      ∀ node ∈ owner.nodes, ∀ node' ∈ owner.nodes, node.nodeName = node'.nodeName →
        node.nodeNamespace = node'.nodeNamespace → node = node') :
    Aligned g guidPrefix d d' := by
  have hnotOwn : ∀ d identity, ¬ Own g.toTables guidPrefix d identity :=
    fun d identity ⟨l, hl, hstart, _⟩ => hforeign l hl hstart
  have hshown : ∀ {d e}, Present g guidPrefix d e → ¬ Hidden g.toTables e.guid := by
    rintro d e ⟨hpresent, -⟩ ⟨l, hl, hguid, -⟩
    have hstart := of_decide_eq_true (List.mem_filter.mp hpresent).2
    exact hforeign l hl (by rw [hguid]; exact hstart.1)
  have hlisted : ∀ {d owner node e}, Present g guidPrefix d e → owner ∈ g.remoteNodes.records →
      node ∈ owner.nodes → Proper guidPrefix d owner node e →
        Listed g guidPrefix d owner node e := by
    intro d owner node e hpresent howner hnode hproper
    refine ⟨hpresent, hshown hpresent, howner, hnode, ?_⟩
    have hin := hproper.listed
    unfold Direction.listed at hin
    split at hin
    · exact List.mem_append_left _ hin
    · exact List.mem_append_right _ hin
  constructor
  · rintro ⟨owner, howner, node, hnode, ⟨e, he, hpe⟩, e', he', hpe'⟩
    exact Or.inl ⟨owner, node, ⟨e, hlisted he howner hnode hpe, hpe⟩, e',
      hlisted he' howner hnode hpe', hpe'⟩
  · intro hstray
    cases hstray with
    | own identity hown => exact absurd hown (hnotOwn _ _)
    | ownFirst owner node e hown => exact absurd hown (hnotOwn _ _)
    | ownSecond owner node e _ hown => exact absurd hown (hnotOwn _ _)
    | listed owner owner' node node' e e' h h' hname hspace =>
      have hp := hproper d (by simp) owner node e h
      have hp' := hproper d' (by simp) owner' node' e' h'
      obtain rfl := Records.eq_of_key h.owned h'.owned (hp.own.trans hp'.own.symm)
      obtain rfl := hunique owner h.owned hp.own node h.mem node' h'.mem hname hspace
      exact ⟨owner, h.owned, node, h.mem, ⟨e, h.present, hp⟩, e', h'.present, hp'⟩

/-- In every healthy reachable graph that lists endpoints once, availability
and snapshot agree exactly where associations are aligned. -/
theorem agree_iff (calls : List GraphCall) (g : Graph) (guidPrefix : GuidPrefix)
    (path requestType responseType : ByteString) (hrun : machine.Run .initial calls g)
    (hhealthy : g.health = .healthy) (honce : ListedOnce g.toTables) (hpath : path ≠ []) :
    Agree g guidPrefix path requestType responseType ↔
      Aligned g guidPrefix ⟨path, true, requestType⟩ ⟨path, false, responseType⟩ := by
  have hlinked := linked_run hrun
  unfold Agree
  rw [service_complete_iff hhealthy, seesServer_iff hlinked honce hpath]
  constructor
  · intro hagree
    exact ⟨hagree.mp, fun hstray => hagree.mpr (Or.inr hstray)⟩
  · intro haligned
    refine ⟨haligned.shown, ?_⟩
    rintro (hopen | hstray)
    · exact Served.of_openly hopen
    · exact haligned.backed hstray

/-- An endpoint of a sample participant. -/
def sampleGuid (entity : UInt8) : Guid := ⟨Vector.replicate 12 1, Vector.replicate 4 entity⟩

/-- What the endpoints of a sample server announce. -/
def sampleDirection (request : Bool) : Announcement :=
  ⟨if request then .reader else .writer, serviceTopicName .ros2 (text "/add") request,
    if request then text "Request" else text "Response", {}⟩

/-- A peer serves a service and lists both endpoints in one node. -/
def peerServer : List GraphCall :=
  [.applyEndpoint (sampleGuid 1) (sampleDirection true) .added,
    .applyEndpoint (sampleGuid 2) (sampleDirection false) .added,
    .applyRemoteNodes (sampleGuid 0).guidPrefix
      [⟨text "/", text "peer", [(toGid (sampleGuid 1)).data], [(toGid (sampleGuid 2)).data]⟩]]

/-- The peer's service is available and seen, so its associations are aligned. -/
theorem agree_iff_peerServer :
    ∃ g, machine.exec .initial peerServer = some g ∧
      service (sampleGuid 0).guidPrefix (serviceTopicName .ros2 (text "/add") true)
          (text "Request") (serviceTopicName .ros2 (text "/add") false) (text "Response") true g =
        .complete ∧
      SeesServer (atomicView g) (sampleGuid 0).guidPrefix (text "add") (text "Request")
        (text "Response") ∧
      Aligned g (sampleGuid 0).guidPrefix ⟨text "add", true, text "Request"⟩
        ⟨text "add", false, text "Response"⟩ := by
  have hend : (machine.exec .initial peerServer).map (fun g =>
      decide (g.health = .healthy ∧ ListedOnce g.toTables ∧
        service (sampleGuid 0).guidPrefix (serviceTopicName .ros2 (text "/add") true)
          (text "Request") (serviceTopicName .ros2 (text "/add") false) (text "Response") true g =
            .complete ∧
        Seen (atomicView g) (sampleGuid 0).guidPrefix ⟨text "add", true, text "Request"⟩
          (text "peer", text "/") ∧
        Seen (atomicView g) (sampleGuid 0).guidPrefix ⟨text "add", false, text "Response"⟩
          (text "peer", text "/"))) = some true := by decide
  obtain ⟨g, hexec, hfinal⟩ := Option.map_eq_some_iff.mp hend
  obtain ⟨hhealthy, honce, hcomplete, hrequest, hresponse⟩ := of_decide_eq_true hfinal
  have hsees : SeesServer (atomicView g) (sampleGuid 0).guidPrefix (text "add") (text "Request")
      (text "Response") := ⟨_, hrequest, hresponse⟩
  have haligned := (agree_iff peerServer g (sampleGuid 0).guidPrefix (text "add") (text "Request")
    (text "Response") (Machine.run_of_exec hexec) hhealthy honce (by decide)).mp
      (iff_of_true hcomplete hsees)
  exact ⟨g, hexec, hcomplete, hsees, haligned⟩

/-- A node of the context serves a service, and discovery reports its endpoints
too. -/
def ownServer : List GraphCall :=
  [.addLocalNode (text "self") (text "/"),
    .addLocalEndpoint (sampleGuid 1) (sampleDirection true) 1,
    .addLocalEndpoint (sampleGuid 2) (sampleDirection false) 1,
    .applyEndpoint (sampleGuid 1) (sampleDirection true) .added,
    .applyEndpoint (sampleGuid 2) (sampleDirection false) .added]

/-- The context's own service is seen in the snapshot and never available. -/
theorem ownServer_unavailable :
    ¬ ∀ calls g guidPrefix path requestType responseType, machine.Run .initial calls g →
      g.health = .healthy → ListedOnce g.toTables → path ≠ [] →
        Agree g guidPrefix path requestType responseType := by
  intro hclaim
  have hend : (machine.exec .initial ownServer).map (fun g =>
      decide (g.health = .healthy ∧ ListedOnce g.toTables ∧
        service (sampleGuid 0).guidPrefix (serviceTopicName .ros2 (text "/add") true)
          (text "Request") (serviceTopicName .ros2 (text "/add") false) (text "Response") true g =
            .incomplete ∧
        Seen (atomicView g) (sampleGuid 0).guidPrefix ⟨text "add", true, text "Request"⟩
          (text "self", text "/") ∧
        Seen (atomicView g) (sampleGuid 0).guidPrefix ⟨text "add", false, text "Response"⟩
          (text "self", text "/"))) = some true := by decide
  obtain ⟨g, hexec, hfinal⟩ := Option.map_eq_some_iff.mp hend
  obtain ⟨hhealthy, honce, hincomplete, hrequest, hresponse⟩ := of_decide_eq_true hfinal
  have hcomplete := (hclaim ownServer g (sampleGuid 0).guidPrefix (text "add") (text "Request")
    (text "Response") (Machine.run_of_exec hexec) hhealthy honce (by decide)).mpr
      ⟨_, hrequest, hresponse⟩
  exact absurd (hincomplete.symm.trans hcomplete) (by decide)

end Dmw.ServiceAvailability
