import Dmw.GraphSnapshot

/-!
# Aggregates of the graph snapshot

Lists of endpoints and the totals over them are filled by different loops. The
totals are the counts of the lists, and the list of topic endpoints has each
endpoint of the view that stands for a topic.
-/

namespace Dmw.SnapshotAggregates

open DiscoveryGraph GraphCandidates GraphNames GraphSnapshot Grouping
open Identity QosPolicies RecordVector

/-- Topic endpoints of a name and a direction. -/
def topicCount (s : Snapshot) (name : ByteString) (kind : TopicEndpointKind) : ℕ :=
  s.topicEndpoints.countP fun info => info.topicName = name ∧ info.kind = kind

/-- Service endpoints of a name and a side. -/
def serviceCount (s : Snapshot) (name : ByteString) (kind : CompositionKind) : ℕ :=
  s.serviceEndpoints.countP fun info => info.serviceName = name ∧ info.kind = kind

/-- Action endpoints of a name and a side. -/
def actionCount (s : Snapshot) (name : ByteString) (kind : CompositionKind) : ℕ :=
  s.actionEndpoints.countP fun info => info.actionName = name ∧ info.kind = kind

/-- The aggregates of a snapshot agree with its lists of endpoints. -/
structure Aggregated (s : Snapshot) : Prop where
  /-- Publishers and subscribers of a topic are counted. -/
  topics : ∀ topic ∈ s.topics,
    topic.publisherCount = topicCount s topic.topicName .publisher ∧
      topic.subscriberCount = topicCount s topic.topicName .subscriber
  /-- The types of a topic are those of its endpoints, in order. -/
  wireTypes : ∀ topic ∈ s.topics, topic.wireTypes.Pairwise (fun a b => compare a b = .lt) ∧
    ∀ type, type ∈ topic.wireTypes ↔
      ∃ info ∈ s.topicEndpoints, info.topicName = topic.topicName ∧ info.wireType = type
  /-- Servers and clients of a service are counted. -/
  services : ∀ service ∈ s.services,
    service.serverCandidateCount = serviceCount s service.serviceName .server ∧
      service.clientCandidateCount = serviceCount s service.serviceName .client
  /-- Servers and clients of an action are counted. -/
  actions : ∀ action ∈ s.actions,
    action.serverCandidateCount = actionCount s action.actionName .server ∧
      action.clientCandidateCount = actionCount s action.actionName .client
  /-- A topic with an endpoint is listed once. -/
  topicNames : ∀ info ∈ s.topicEndpoints, (s.topics.map (·.topicName)).count info.topicName = 1
  /-- A service with an endpoint is listed once. -/
  serviceNames : ∀ info ∈ s.serviceEndpoints,
    (s.services.map (·.serviceName)).count info.serviceName = 1
  /-- An action with an endpoint is listed once. -/
  actionNames : ∀ info ∈ s.actionEndpoints,
    (s.actions.map (·.actionName)).count info.actionName = 1

/-- What a public DDS name stands for. -/
@[grind =] def publicRole (mode : RuntimeMode) (ddsName : ByteString) : Option GraphEndpointRole :=
  if ddsName = graphMetadataTopicName then none
  else (normalizeEndpointName mode ddsName).map (·.role)

/-- An endpoint is registered locally for a public role. -/
def Registered (mode : RuntimeMode) (v : FollowedView) (gid : Gid) (role : GraphEndpointRole) :
    Prop :=
  ∃ e ∈ v.localEndpoints.records, toGid e.guid = gid ∧ publicRole mode e.topic = some role

/-- A live endpoint is discovered in a public role. -/
def Discovered (mode : RuntimeMode) (v : FollowedView) (gid : Gid) (role : GraphEndpointRole) :
    Prop :=
  ∃ e ∈ v.endpoints.records,
    EndpointLive e ∧ toGid e.guid = gid ∧ publicRole mode e.topic = some role

/-- A topic endpoint shows what a record says of it. -/
structure Shows (mode : RuntimeMode) (info : TopicEndpointInfo) (guid : Guid)
    (told : Announcement) : Prop where
  /-- Identity. -/
  gid : info.endpointGid = toGid guid
  /-- The name is public. -/
  isPublic : told.topic ≠ graphMetadataTopicName
  /-- It is the one of a topic. -/
  topicName : normalizeEndpointName mode told.topic = some ⟨info.topicName,.topic⟩
  /-- Direction. -/
  kind : info.kind = if told.kind = .writer then .publisher else .subscriber
  /-- Type. -/
  wireType : info.wireType = told.type
  /-- QoS. -/
  qos : info.qos = told.qos

/-- The topic endpoints of a snapshot are those of the view. -/
structure Listed (mode : RuntimeMode) (v : FollowedView) (s : Snapshot) : Prop where
  /-- An endpoint that stands for a topic is listed once, whether it is
  registered, discovered or both. A discovered one that is registered for one
  side of a service is not a topic endpoint. -/
  once : ∀ gid, Registered mode v gid .topic ∨ Discovered mode v gid .topic ∧
      ¬ Registered mode v gid .serviceRequest ∧ ¬ Registered mode v gid .serviceResponse →
    s.topicEndpoints.countP (fun info => info.endpointGid = gid) = 1
  /-- Whatever is listed is in the view. -/
  shown : ∀ info ∈ s.topicEndpoints,
    (∃ e ∈ v.localEndpoints.records, Shows mode info e.guid ⟨e.kind,e.topic,e.type,e.qos⟩) ∨
      ∃ e ∈ v.endpoints.records, EndpointLive e ∧
        Shows mode info e.guid ⟨e.kind,e.topic,e.type,e.qos⟩

variable {mode : RuntimeMode} {v : FollowedView} {gid : Gid} {name : ByteString}

/-- What is counted within a group is counted with its name. -/
theorem tally_named {α γ : Type} {key : α → ByteString} {add : γ → α → γ} {fresh : γ} (read : γ → ℕ)
    (p : α → Bool) (hadd : ∀ group a, read (add group a) = read group + if p a = true then 1 else 0)
    (hfresh : read fresh = 0) (l : List α) :
    read ((l.filter fun a => key a = name).foldl add fresh) =
      l.countP fun a => key a = name ∧ p a = true := by
  rw [foldl_tally read p hadd,hfresh,Nat.zero_add,List.countP_filter]
  refine List.countP_congr fun a _ => ?_
  simp [and_comm]

section

variable (totals : TopicAggregate) (c : EndpointCandidate)

/-- A publisher raises the number of publishers. -/
theorem count_publisherCount : (totals.count c).publisherCount =
    totals.publisherCount + if candidateIsPublisher c = true then 1 else 0 := by
  unfold TopicAggregate.count
  cases candidateIsPublisher c with
  | true => rfl
  | false => rfl

/-- Any other endpoint raises the number of subscribers. -/
theorem count_subscriberCount : (totals.count c).subscriberCount =
    totals.subscriberCount + if (!candidateIsPublisher c) = true then 1 else 0 := by
  unfold TopicAggregate.count
  cases candidateIsPublisher c with
  | true => rfl
  | false => rfl

/-- Every endpoint adds its type. -/
theorem mem_count_wireTypes (type : ByteString) :
    type ∈ (totals.count c).wireTypes ↔ type ∈ totals.wireTypes ∨ c.wireType = type := by
  change type ∈ totals.wireTypes.insert c.wireType ↔ _
  rw [Std.TreeSet.mem_insert,Std.LawfulEqCmp.compare_eq_iff_eq]
  exact or_comm

end

/-- The totals of a topic are its counts. -/
theorem mem_topicInfos {candidates : List EndpointCandidate} {topic : TopicGraphInfo}
    (h : topic ∈ topicInfos candidates) :
    topic.publisherCount = candidates.countP (fun c =>
        c.logicalName = topic.topicName ∧ candidateIsPublisher c = true) ∧
      topic.subscriberCount = candidates.countP (fun c =>
        c.logicalName = topic.topicName ∧ (!candidateIsPublisher c) = true) ∧
      topic.wireTypes.Pairwise (fun a b => compare a b = .lt) ∧
      ∀ type, type ∈ topic.wireTypes ↔
        ∃ c ∈ candidates, c.logicalName = topic.topicName ∧ c.wireType = type := by
  obtain ⟨⟨name, totals⟩, hentry, rfl⟩ := List.mem_map.mp h
  obtain ⟨-, rfl⟩ := mem_toList_groupInto.mp hentry
  refine ⟨?_,?_,Std.TreeSet.ordered_toList,fun type => ?_⟩
  · exact tally_named TopicAggregate.publisherCount _ count_publisherCount rfl _
  · exact tally_named TopicAggregate.subscriberCount _ count_subscriberCount rfl _
  · dsimp only
    rw [Std.TreeSet.mem_toList]
    refine (foldl_gather (fun totals => type ∈ totals.wireTypes) (fun c => c.wireType = type)
      (fun totals c => mem_count_wireTypes totals c type) _).trans ?_
    simp only [List.mem_filter,decide_eq_true_eq,and_assoc]
    exact or_iff_right Std.TreeSet.not_mem_emptyc

/-- The totals of a service are its counts. -/
theorem mem_serviceInfos {groups : List ServiceGroup} {service : ServiceGraphInfo}
    (h : service ∈ serviceInfos groups) :
    service.serverCandidateCount = groups.countP (fun group =>
        group.name = service.serviceName ∧ group.server.isSome = true) ∧
      service.clientCandidateCount = groups.countP (fun group =>
        group.name = service.serviceName ∧ group.client.isSome = true) := by
  obtain ⟨⟨name, totals⟩, hentry, rfl⟩ := List.mem_map.mp h
  obtain ⟨-, rfl⟩ := mem_toList_groupInto.mp hentry
  constructor
  · exact tally_named ServiceAggregate.serverCandidateCount _ (fun _ _ => rfl) rfl _
  · exact tally_named ServiceAggregate.clientCandidateCount _ (fun _ _ => rfl) rfl _

/-- The totals of an action are its counts. -/
theorem mem_actionInfos {actions : List ActionCandidate} {action : ActionGraphInfo}
    (h : action ∈ actionInfos actions) :
    action.serverCandidateCount = actions.countP (fun c =>
        c.actionName = action.actionName ∧ c.hasServer = true) ∧
      action.clientCandidateCount = actions.countP (fun c =>
        c.actionName = action.actionName ∧ c.hasClient = true) := by
  obtain ⟨⟨name, totals⟩, hentry, rfl⟩ := List.mem_map.mp h
  obtain ⟨-, rfl⟩ := mem_toList_groupInto.mp hentry
  constructor
  · exact tally_named ActionAggregate.serverCandidateCount ActionCandidate.hasServer (fun _ _ => rfl) rfl _
  · exact tally_named ActionAggregate.clientCandidateCount ActionCandidate.hasClient (fun _ _ => rfl) rfl _

/-- Each name in use is listed once. -/
theorem count_named {α γ : Type} {add : γ → α → γ} {fresh : γ} (key : α → ByteString)
    {l : List α} {a : α} (hmem : a ∈ l) :
    ((groupInto key add fresh l).toList.map Prod.fst).count (key a) = 1 := by
  rw [count_keys_groupInto]
  refine if_neg fun hnone => ?_
  have hin : a ∈ l.filter fun a' => key a' = key a :=
    List.mem_filter.mpr ⟨hmem,decide_eq_true rfl⟩
  rw [hnone] at hin
  exact absurd hin List.not_mem_nil

/-- Both sides of a service group have its name and their own kind. -/
theorem mem_sides {group : ServiceGroup} {info : ServiceEndpointInfo} :
    (group.server = some info → info.serviceName = group.name ∧ info.kind = .server) ∧
      (group.client = some info → info.serviceName = group.name ∧ info.kind = .client) := by
  constructor
  · intro h
    obtain ⟨r, w, -, -, rfl⟩ := composition_eq_some.mp h
    exact ⟨rfl,rfl⟩
  · intro h
    obtain ⟨r, w, -, -, rfl⟩ := composition_eq_some.mp h
    exact ⟨rfl,rfl⟩

/-- Both sides of an action candidate have its name and their own kind. -/
theorem mem_actionSides (c : ActionCandidate) (info : ActionEndpointInfo) :
    (actionServer c = some info → info.actionName = c.actionName ∧ info.kind = .server) ∧
      (actionClient c = some info → info.actionName = c.actionName ∧ info.kind = .client) := by
  constructor
  · intro h
    unfold actionServer at h
    split at h
    · cases h
      exact ⟨rfl,rfl⟩
    · cases h
  · intro h
    unfold actionClient at h
    split at h
    · cases h
      exact ⟨rfl,rfl⟩
    · cases h

/-- An optional element that passes a test exactly under a condition counts as one
under it. -/
theorem countP_side {α : Type} {p : α → Bool} {side : Option α} {q : Prop} [Decidable q]
    (h : ∀ a, side = some a → (p a = true ↔ q)) :
    side.toList.countP p = if decide (q ∧ side.isSome = true) = true then 1 else 0 := by
  cases side with
  | none => simp
  | some a =>
    have hp := h a rfl
    by_cases hq : q
    · simp [hq,hp.mpr hq]
    · simp [hq,hp]

/-- Two lists that are made of optional elements are counted apart. -/
theorem countP_sides {α β : Type} {p : β → Bool} (q q' : α → Prop) [DecidablePred q]
    [DecidablePred q'] {first second : α → Option β}
    (hfirst : ∀ a b, first a = some b → (p b = true ↔ q a))
    (hsecond : ∀ a b, second a = some b → (p b = true ↔ q' a)) (l : List α) :
    (l.flatMap fun a => (first a).toList ++ (second a).toList).countP p =
      l.countP (fun a => q a ∧ (first a).isSome = true) +
        l.countP (fun a => q' a ∧ (second a).isSome = true) := by
  induction l with
  | nil => rfl
  | cons a l ih =>
    rw [List.flatMap_cons,List.countP_append,List.countP_append,countP_side (hfirst a),
      countP_side (hsecond a),ih,List.countP_cons,List.countP_cons]
    omega

/-- Nothing is counted under a condition that is never met. -/
theorem countP_never {α : Type} (p : α → Prop) [DecidablePred p] (l : List α) :
    l.countP (fun a => False ∧ p a) = 0 := by
  rw [List.countP_eq_zero]
  intro a _
  simp

/-- Service endpoints are the sides of the groups that have both endpoints. -/
theorem countP_services (groups : List ServiceGroup) (name : ByteString) :
    (groups.flatMap fun group => group.server.toList ++ group.client.toList).countP
        (fun info => info.serviceName = name ∧ info.kind = .server) =
      groups.countP (fun group => group.name = name ∧ group.server.isSome = true) ∧
    (groups.flatMap fun group => group.server.toList ++ group.client.toList).countP
        (fun info => info.serviceName = name ∧ info.kind = .client) =
      groups.countP (fun group => group.name = name ∧ group.client.isSome = true) := by
  constructor
  · refine (countP_sides (fun group => group.name = name) (fun _ => False)
      (fun group info hinfo => ?_) (fun group info hinfo => ?_) groups).trans ?_
    · obtain ⟨hname, hkind⟩ := mem_sides.1 hinfo
      simp [hname,hkind]
    · obtain ⟨-, hkind⟩ := mem_sides.2 hinfo
      simp [hkind]
    · rw [countP_never,Nat.add_zero]
  · refine (countP_sides (fun _ => False) (fun group => group.name = name)
      (fun group info hinfo => ?_) (fun group info hinfo => ?_) groups).trans ?_
    · obtain ⟨-, hkind⟩ := mem_sides.1 hinfo
      simp [hkind]
    · obtain ⟨hname, hkind⟩ := mem_sides.2 hinfo
      simp [hname,hkind]
    · rw [countP_never,Nat.zero_add]

/-- Action endpoints are the complete sides of the candidates. -/
theorem countP_actions (actions : List ActionCandidate) (name : ByteString) :
    (actions.flatMap fun c => (actionServer c).toList ++ (actionClient c).toList).countP
        (fun info => info.actionName = name ∧ info.kind = .server) =
      actions.countP (fun c => c.actionName = name ∧ c.hasServer = true) ∧
    (actions.flatMap fun c => (actionServer c).toList ++ (actionClient c).toList).countP
        (fun info => info.actionName = name ∧ info.kind = .client) =
      actions.countP (fun c => c.actionName = name ∧ c.hasClient = true) := by
  have hserver : ∀ c : ActionCandidate, (actionServer c).isSome = c.hasServer := by
    intro c
    unfold actionServer
    cases c.hasServer with
    | true => rfl
    | false => rfl
  have hclient : ∀ c : ActionCandidate, (actionClient c).isSome = c.hasClient := by
    intro c
    unfold actionClient
    cases c.hasClient with
    | true => rfl
    | false => rfl
  simp only [← hserver,← hclient]
  constructor
  · refine (countP_sides (fun c => c.actionName = name) (fun _ => False)
      (fun c info hinfo => ?_) (fun c info hinfo => ?_) actions).trans ?_
    · obtain ⟨hname, hkind⟩ := (mem_actionSides c info).1 hinfo
      simp [hname,hkind]
    · obtain ⟨-, hkind⟩ := (mem_actionSides c info).2 hinfo
      simp [hkind]
    · rw [countP_never,Nat.add_zero]
  · refine (countP_sides (fun _ => False) (fun c => c.actionName = name)
      (fun c info hinfo => ?_) (fun c info hinfo => ?_) actions).trans ?_
    · obtain ⟨-, hkind⟩ := (mem_actionSides c info).1 hinfo
      simp [hkind]
    · obtain ⟨hname, hkind⟩ := (mem_actionSides c info).2 hinfo
      simp [hname,hkind]
    · rw [countP_never,Nat.zero_add]

/-- Topic endpoints show the direction of their candidates. -/
theorem topicEndpointInfo_kind (c : EndpointCandidate) :
    ((topicEndpointInfo c).kind = .publisher ↔ candidateIsPublisher c = true) ∧
      ((topicEndpointInfo c).kind = .subscriber ↔ (!candidateIsPublisher c) = true) := by
  unfold topicEndpointInfo
  dsimp only
  cases candidateIsPublisher c with
  | true => simp
  | false => simp

/-- The aggregates of an assembled snapshot agree with its lists. -/
theorem assembleSnapshot_aggregated (mode : RuntimeMode) (v : FollowedView) :
    Aggregated (assembleSnapshot mode v) where
  topics := by
    intro topic htopic
    obtain ⟨hpublishers, hsubscribers, -, -⟩ := mem_topicInfos htopic
    rw [hpublishers,hsubscribers]
    unfold topicCount assembleSnapshot
    dsimp only
    rw [List.countP_map,List.countP_map]
    constructor
    · refine List.countP_congr fun c _ => ?_
      simp only [decide_eq_true_eq,Function.comp_apply,(topicEndpointInfo_kind c).1]
      exact Iff.rfl
    · refine List.countP_congr fun c _ => ?_
      simp only [decide_eq_true_eq,Function.comp_apply,(topicEndpointInfo_kind c).2]
      exact Iff.rfl
  wireTypes := by
    intro topic htopic
    obtain ⟨-, -, hordered, htypes⟩ := mem_topicInfos htopic
    refine ⟨hordered,fun type => (htypes type).trans ?_⟩
    constructor
    · rintro ⟨c, hmem, hname, htype⟩
      exact ⟨topicEndpointInfo c,List.mem_map.mpr ⟨c,hmem,rfl⟩,hname,htype⟩
    · rintro ⟨info, hmem, hname, htype⟩
      obtain ⟨c, hc, rfl⟩ := List.mem_map.mp hmem
      exact ⟨c,hc,hname,htype⟩
  services := by
    intro service hservice
    obtain ⟨hservers, hclients⟩ := mem_serviceInfos hservice
    obtain ⟨hserver, hclient⟩ := countP_services
      ((serviceGroups mode (collectEndpointCandidates mode v)).toList.map (·.2))
        service.serviceName
    exact ⟨hservers.trans hserver.symm,hclients.trans hclient.symm⟩
  actions := by
    intro action haction
    obtain ⟨hservers, hclients⟩ := mem_actionInfos haction
    obtain ⟨hserver, hclient⟩ := countP_actions
      (composeActionCandidates mode (collectEndpointCandidates mode v)) action.actionName
    exact ⟨hservers.trans hserver.symm,hclients.trans hclient.symm⟩
  topicNames := by
    intro info hmem
    obtain ⟨c, hc, rfl⟩ := List.mem_map.mp hmem
    unfold assembleSnapshot topicInfos
    dsimp only
    rw [List.map_map]
    exact count_named EndpointCandidate.logicalName hc
  serviceNames := by
    intro info hmem
    obtain ⟨group, hgroup, hside⟩ := List.mem_flatMap.mp hmem
    have hname : info.serviceName = group.name := by
      rcases List.mem_append.mp hside with hserver | hclient
      · exact (mem_sides.1 (Option.mem_toList.mp hserver)).1
      · exact (mem_sides.2 (Option.mem_toList.mp hclient)).1
    unfold assembleSnapshot serviceInfos
    dsimp only
    rw [List.map_map,hname]
    exact count_named ServiceGroup.name hgroup
  actionNames := by
    intro info hmem
    obtain ⟨c, hc, hside⟩ := List.mem_flatMap.mp hmem
    have hname : info.actionName = c.actionName := by
      rcases List.mem_append.mp hside with hserver | hclient
      · exact ((mem_actionSides c info).1 (Option.mem_toList.mp hserver)).1
      · exact ((mem_actionSides c info).2 (Option.mem_toList.mp hclient)).1
    unfold assembleSnapshot actionInfos
    dsimp only
    rw [List.map_map,hname]
    exact count_named ActionCandidate.actionName hc

/-- The elements that a keyed list is turned into are told apart by its keys. -/
theorem nodup_filterMap {α : Type} {key : α → Guid} {f : α → Option EndpointCandidate} {l : List α}
    (hnodup : (l.map key).Nodup) (hkey : ∀ a c, f a = some c → c.gid = toGid (key a)) :
    ((l.filterMap f).map (·.gid)).Nodup := by
  induction l with
  | nil => exact List.nodup_nil
  | cons a l ih =>
    rw [List.map_cons,List.nodup_cons] at hnodup
    have hrest := ih hnodup.2
    cases hfirst : f a with
    | none =>
      rw [List.filterMap_cons_none hfirst]
      exact hrest
    | some c =>
      rw [List.filterMap_cons_some hfirst,List.map_cons,List.nodup_cons]
      refine ⟨fun hmem => ?_,hrest⟩
      obtain ⟨c', hc', hsame⟩ := List.mem_map.mp hmem
      obtain ⟨a', ha', hother⟩ := List.mem_filterMap.mp hc'
      have hgid : toGid (key a') = toGid (key a) :=
        (hkey a' c' hother).symm.trans (hsame.trans (hkey a c hfirst))
      exact hnodup.1 (List.mem_map.mpr ⟨a',ha',toGid_injective hgid⟩)

/-- No two candidates have one identity. -/
theorem collect_nodup (mode : RuntimeMode) (v : FollowedView) :
    ((collectEndpointCandidates mode v).map (·.gid)).Nodup := by
  unfold collectEndpointCandidates
  dsimp only
  rw [List.map_append]
  refine List.nodup_append.mpr ⟨?_,?_,?_⟩
  · refine nodup_filterMap v.localEndpoints.nodup fun e c hc => ?_
    obtain ⟨-, n, -, rfl⟩ := localCandidate_eq_some.mp hc
    exact withNode_gid _ _
  · refine nodup_filterMap v.endpoints.nodup fun e c hc => ?_
    obtain ⟨-, -, -, n, -, rfl⟩ := remoteCandidate_eq_some.mp hc
    exact withNode_gid _ _
  · intro gid hlocal gid' hremote heq
    obtain ⟨c, hc, rfl⟩ := List.mem_map.mp hremote
    obtain ⟨e, -, hcandidate⟩ := List.mem_filterMap.mp hc
    obtain ⟨-, -, hnot, n, -, rfl⟩ := remoteCandidate_eq_some.mp hcandidate
    have hgid : (withNode (remoteNode v (toGid e.guid))
        (bareCandidate e.guid e.kind e.type e.qos n)).gid = toGid e.guid := withNode_gid _ _
    rw [heq,hgid] at hlocal
    exact hnot hlocal

/-- When a DDS name has a public role. -/
theorem publicRole_eq_some {ddsName : ByteString} {role : GraphEndpointRole} :
    publicRole mode ddsName = some role ↔
      ddsName ≠ graphMetadataTopicName ∧
        ∃ n, normalizeEndpointName mode ddsName = some n ∧ n.role = role := by
  unfold publicRole
  by_cases hinternal : ddsName = graphMetadataTopicName
  · simp [hinternal]
  · rw [if_neg hinternal,Option.map_eq_some_iff]
    exact ⟨fun h => ⟨hinternal,h⟩,fun h => h.2⟩

/-- A registered endpoint is a candidate in its role. -/
theorem Registered.candidate {role : GraphEndpointRole} (h : Registered mode v gid role) :
    ∃ c ∈ collectEndpointCandidates mode v, c.gid = gid ∧ c.role = role := by
  obtain ⟨e, hmem, rfl, hrole⟩ := h
  obtain ⟨hinternal, n, hnormalized, rfl⟩ := publicRole_eq_some.mp hrole
  exact ⟨_,mem_collect.mpr (Or.inl ⟨e,hmem,localCandidate_eq_some.mpr
    ⟨hinternal,n,hnormalized,rfl⟩⟩),withNode_gid _ _,withNode_role _ _⟩

/-- A local candidate is registered in some role. -/
theorem registered_of_mem (h : gid ∈ localGids mode v) : ∃ role, Registered mode v gid role := by
  obtain ⟨c, hc, rfl⟩ := List.mem_map.mp h
  obtain ⟨e, hmem, hcandidate⟩ := List.mem_filterMap.mp hc
  obtain ⟨hinternal, n, hnormalized, rfl⟩ := localCandidate_eq_some.mp hcandidate
  refine ⟨n.role,e,hmem,?_,publicRole_eq_some.mpr ⟨hinternal,n,hnormalized,rfl⟩⟩
  rw [withNode_gid]
  rfl

/-- A discovered endpoint that is not registered is a candidate in its role. -/
theorem Discovered.candidate {role : GraphEndpointRole} (h : Discovered mode v gid role)
    (hlocal : gid ∉ localGids mode v) :
    ∃ c ∈ collectEndpointCandidates mode v, c.gid = gid ∧ c.role = role := by
  obtain ⟨e, hmem, hlive, rfl, hrole⟩ := h
  obtain ⟨hinternal, n, hnormalized, rfl⟩ := publicRole_eq_some.mp hrole
  exact ⟨_,mem_collect.mpr (Or.inr ⟨e,hmem,remoteCandidate_eq_some.mpr
    ⟨hlive,hinternal,hlocal,n,hnormalized,rfl⟩⟩),withNode_gid _ _,withNode_role _ _⟩

/-- An endpoint with a candidate for a topic is listed once. -/
theorem listed_once
    (h : ∃ c ∈ collectEndpointCandidates mode v, c.gid = gid ∧ c.role = .topic) :
    (assembleSnapshot mode v).topicEndpoints.countP (fun info => info.endpointGid = gid) = 1 := by
  obtain ⟨c, hmem, rfl, hrole⟩ := h
  have hc : c ∈ (collectEndpointCandidates mode v).filter fun c => c.role = .topic :=
    List.mem_filter.mpr ⟨hmem,decide_eq_true hrole⟩
  have hsublist : ((collectEndpointCandidates mode v).filter fun c => c.role = .topic).Sublist
      (collectEndpointCandidates mode v) := List.filter_sublist
  have hnodup := (collect_nodup mode v).sublist (hsublist.map (·.gid))
  have hcount := hnodup.count (a := c.gid)
  rw [if_pos (List.mem_map.mpr ⟨c,hc,rfl⟩)] at hcount
  unfold List.count at hcount
  rw [List.countP_map] at hcount
  unfold assembleSnapshot
  dsimp only
  rw [List.countP_map,← hcount]
  refine List.countP_congr fun c' _ => ?_
  simp only [Function.comp_apply,decide_eq_true_eq,beq_iff_eq]
  exact Iff.rfl

/-- What a candidate for a topic shows is what its record says. -/
theorem shows_candidate {node : Option (ByteString × ByteString)} {guid : Guid}
    (told : Announcement) {n : NormalizedEndpointName} (hinternal : told.topic ≠ graphMetadataTopicName)
    (hnormalized : normalizeEndpointName mode told.topic = some n) (hrole : n.role = .topic) :
    Shows mode (topicEndpointInfo (withNode node (bareCandidate guid told.kind told.type told.qos n)))
      guid told where
  gid := withNode_gid _ _
  isPublic := hinternal
  topicName := by
    have hname : (topicEndpointInfo (withNode node
        (bareCandidate guid told.kind told.type told.qos n))).topicName = n.logicalName :=
      withNode_logicalName _ _
    rw [hname,hnormalized,← hrole]
  kind := by
    unfold topicEndpointInfo candidateIsPublisher
    dsimp only
    rw [withNode_nativeKind]
    simp only [decide_eq_true_eq]
    rfl
  wireType := withNode_wireType _ _
  qos := withNode_qos _ _

/-- For every view, the aggregates of the snapshot agree with its lists of
endpoints, and the topic endpoints are those of the view. -/
theorem snapshot_consistent (mode : RuntimeMode) (v : FollowedView) :
    Listed mode v (assembleSnapshot mode v) ∧ Aggregated (assembleSnapshot mode v) := by
  refine ⟨⟨fun gid hgid => ?_,fun info hinfo => ?_⟩,assembleSnapshot_aggregated mode v⟩
  · rcases hgid with hregistered | ⟨hdiscovered, hrequest, hresponse⟩
    · exact listed_once hregistered.candidate
    · by_cases hlocal : gid ∈ localGids mode v
      · obtain ⟨role, hregistered⟩ := registered_of_mem hlocal
        cases role with
        | topic => exact listed_once hregistered.candidate
        | serviceRequest => exact absurd hregistered hrequest
        | serviceResponse => exact absurd hregistered hresponse
      · exact listed_once (hdiscovered.candidate hlocal)
  · obtain ⟨c, hc, rfl⟩ := List.mem_map.mp hinfo
    obtain ⟨hmem, hrole⟩ := List.mem_filter.mp hc
    have hrole' : c.role = .topic := of_decide_eq_true hrole
    rcases mem_collect.mp hmem with ⟨e, he, hcandidate⟩ | ⟨e, he, hcandidate⟩
    · obtain ⟨hinternal, n, hnormalized, rfl⟩ := localCandidate_eq_some.mp hcandidate
      rw [withNode_role] at hrole'
      exact Or.inl ⟨e,he,shows_candidate ⟨e.kind,e.topic,e.type,e.qos⟩ hinternal
        hnormalized hrole'⟩
    · obtain ⟨hlive, hinternal, -, n, hnormalized, rfl⟩ := remoteCandidate_eq_some.mp hcandidate
      rw [withNode_role] at hrole'
      exact Or.inr ⟨e,he,hlive,shows_candidate ⟨e.kind,e.topic,e.type,e.qos⟩ hinternal
        hnormalized hrole'⟩

/-- An endpoint. -/
def contested : Guid := ⟨Vector.replicate 12 1,Vector.replicate 4 1⟩

/-- An endpoint is registered for a service and discovered for a topic. -/
def contestedCalls : List GraphCall :=
  [.addLocalNode (text "n") (text "/"),
    .addLocalEndpoint contested ⟨.reader,text "rq/addRequest",text "Request",{}⟩ 1,
    .applyEndpoint contested ⟨.reader,text "rt/chatter",text "String",{}⟩ .added]

/-- A live endpoint that is discovered for a topic is not listed where it is
registered for a service. -/
theorem contested_unlisted : ¬ ∀ mode v gid,
    Registered mode v gid .topic ∨ Discovered mode v gid .topic →
      (assembleSnapshot mode v).topicEndpoints.countP (fun info => info.endpointGid = gid) = 1 := by
  intro hclaim
  have hdiscovered : Discovered .ros2 (atomicView (contestedCalls.foldl perform .initial))
      (toGid contested) .topic := by
    unfold Discovered
    decide
  have hcount : (assembleSnapshot .ros2
      (atomicView (contestedCalls.foldl perform .initial))).topicEndpoints.countP
        (fun info => info.endpointGid = toGid contested) = 0 := by decide
  have hone := hclaim .ros2 (atomicView (contestedCalls.foldl perform .initial)) (toGid contested)
    (Or.inr hdiscovered)
  rw [hcount] at hone
  cases hone

end Dmw.SnapshotAggregates
