import Dmw.GraphAnnouncements

/-!
# Departed participants

A participant that left should leave no trace in the snapshot. Its discovered
endpoints are passed over from then on, but its metadata and whatever is
registered locally under its prefix are not, so these must be gone when it
leaves and stay away.
-/

namespace Dmw.GraphDepartures

open GuardedRuns Identity QosPolicies GraphNames RecordVector DiscoveryGraph GraphCandidates
  GraphSnapshot GraphRedundancy GraphAnnouncements

/-- A view that never heard of a participant. -/
def without (guidPrefix : GuidPrefix) (v : FollowedView) : FollowedView where
  revision := v.revision
  participants := v.participants.filter fun r => r.guidPrefix ≠ guidPrefix
  endpoints := v.endpoints.filter fun e => e.guid.guidPrefix ≠ guidPrefix
  localNodes := v.localNodes
  localEndpoints := v.localEndpoints.filter fun e => e.guid.guidPrefix ≠ guidPrefix
  remoteNodes := v.remoteNodes.filter fun r => r.guidPrefix ≠ guidPrefix

/-- Identity of an endpoint of another participant. -/
def Foreign (guidPrefix : GuidPrefix) (gid : Gid) : Prop :=
  ∀ guid, toGid guid = gid → guid.guidPrefix ≠ guidPrefix

/-- The snapshot is the one without the participant, and none of its endpoints
is in it. -/
structure Traceless (mode : RuntimeMode) (guidPrefix : GuidPrefix) (v : FollowedView) : Prop where
  /-- Nodes and aggregates are the same without it. -/
  snapshot : assembleSnapshot mode v = assembleSnapshot mode (without guidPrefix v)
  /-- No topic endpoint is its own. -/
  topics : ∀ info ∈ (assembleSnapshot mode v).topicEndpoints, Foreign guidPrefix info.endpointGid
  /-- No service endpoint is its own. -/
  services : ∀ info ∈ (assembleSnapshot mode v).serviceEndpoints,
    Foreign guidPrefix info.requestEndpointGid ∧ Foreign guidPrefix info.responseEndpointGid
  /-- No action endpoint is its own. -/
  actions : ∀ info ∈ (assembleSnapshot mode v).actionEndpoints,
    ∀ gid ∈ info.endpointGids, Foreign guidPrefix gid

/-- The participant was reported as gone. -/
def Departed (t : Tables) (guidPrefix : GuidPrefix) : Prop :=
  ∃ r, t.participants.find guidPrefix = some r ∧ r.lifecycle = .removed

/-- A topic that a snapshot may show. -/
def PublicTopic (mode : RuntimeMode) (topic : ByteString) : Prop :=
  topic ≠ graphMetadataTopicName ∧ (normalizeEndpointName mode topic).isSome

/-- Nothing that a snapshot may show is held for a participant. -/
def Cleared (mode : RuntimeMode) (t : Tables) (guidPrefix : GuidPrefix) : Prop :=
  t.remoteNodes.find guidPrefix = none ∧
    ∀ e ∈ t.localEndpoints.records, e.guid.guidPrefix = guidPrefix → ¬ PublicTopic mode e.topic

/-- A participant leaves after its metadata was withdrawn and with no public
local endpoint under its prefix, and neither comes back later. -/
def LeavesCleared (mode : RuntimeMode) (g : Graph) : GraphCall → Prop
  | .applyParticipant guidPrefix .removed => Cleared mode g.toTables guidPrefix
  | .applyRemoteNodes guidPrefix nodes => Departed g.toTables guidPrefix → nodes = []
  | .addLocalEndpoint guid announced nodeId =>
    Departed g.toTables guid.guidPrefix → nodeId = 0 ∨ ¬ PublicTopic mode announced.topic
  | _ => True

/-- What passes for every candidate passes for every endpoint of the snapshot. -/
theorem endpoints_of_candidates {mode : RuntimeMode} {v : FollowedView} {P : Gid → Prop}
    (hP : ∀ c ∈ collectEndpointCandidates mode v, P c.gid) :
    (∀ info ∈ (assembleSnapshot mode v).topicEndpoints, P info.endpointGid) ∧
      (∀ info ∈ (assembleSnapshot mode v).serviceEndpoints,
        P info.requestEndpointGid ∧ P info.responseEndpointGid) ∧
      ∀ info ∈ (assembleSnapshot mode v).actionEndpoints, ∀ gid ∈ info.endpointGids, P gid := by
  refine ⟨fun info hinfo => ?_, fun info hinfo => ?_, fun info hinfo gid hgid => ?_⟩
  · obtain ⟨c, hc, rfl⟩ := List.mem_map.mp hinfo
    exact hP c (List.mem_filter.mp hc).1
  · have hlatest : ∀ {k role kind c},
        latestIn mode (collectEndpointCandidates mode v) k role kind = some c → P c.gid :=
      fun h => hP _ (List.mem_filter.mp (List.mem_of_getLast? h)).1
    obtain ⟨k, hserver | hclient⟩ := mem_serviceEndpoints.mp hinfo
    · obtain ⟨hreader, -, -, hwriter⟩ :=
        serviceGroupAt_places mode (collectEndpointCandidates mode v) k
      obtain ⟨r, w, hr, hw, rfl⟩ := composition_eq_some.mp hserver
      exact ⟨hlatest (hreader ▸ hr), hlatest (hwriter ▸ hw)⟩
    · obtain ⟨-, hwriter, hreader, -⟩ :=
        serviceGroupAt_places mode (collectEndpointCandidates mode v) k
      obtain ⟨r, w, hr, hw, rfl⟩ := composition_eq_some.mp hclient
      exact ⟨hlatest (hwriter ▸ hr), hlatest (hreader ▸ hw)⟩
  · have hplaces : ∀ k places,
        ∀ gid ∈ (((actionGroupAt mode (collectEndpointCandidates mode v) k).occupants
          places).getD []).map (·.gid), P gid := by
      intro k places gid hgid
      cases hfound : (actionGroupAt mode (collectEndpointCandidates mode v) k).occupants places with
      | none => simp [hfound] at hgid
      | some endpoints =>
        rw [hfound] at hgid
        obtain ⟨c, hc, rfl⟩ := List.mem_map.mp hgid
        obtain ⟨place, -, hplace⟩ := exists_of_forall₂ (occupants_eq_some.mp hfound) hc
        rw [actionGroupAt_find] at hplace
        obtain ⟨e, he, rfl⟩ := Option.map_eq_some_iff.mp hplace
        exact hP _ (mem_actionEndpoints.mp (List.mem_of_find?_eq_some he)).1
    simp only [assembleSnapshot, List.mem_flatMap, List.mem_append, Option.mem_toList] at hinfo
    obtain ⟨c, hc, hside⟩ := hinfo
    obtain ⟨k, -, rfl⟩ := mem_composeActionCandidates.mp hc
    rcases hside with hside | hside
    · unfold actionServer at hside
      split at hside
      · cases hside
        exact hplaces k serverPlaces gid hgid
      · cases hside
    · unfold actionClient at hside
      split at hside
      · cases hside
        exact hplaces k clientPlaces gid hgid
      · cases hside

/-- Records that yield nothing may be dropped before a collection. -/
theorem filterMap_filter {α β : Type} {f : α → Option β} {p : α → Bool} {l : List α}
    (hnone : ∀ a ∈ l, p a = false → f a = none) : (l.filter p).filterMap f = l.filterMap f := by
  induction l with
  | nil => rfl
  | cons a l ih =>
    have hrest := ih fun b hb => hnone b (List.mem_cons_of_mem _ hb)
    cases hp : p a with
    | true => rw [List.filter_cons_of_pos hp, List.filterMap_cons, List.filterMap_cons, hrest]
    | false =>
      rw [List.filter_cons_of_neg (by simp [hp]), List.filterMap_cons,
        hnone a List.mem_cons_self hp, hrest]

/-- A candidate of a local endpoint has a public topic. -/
theorem localCandidate_hidden {mode : RuntimeMode} {v : FollowedView} {e : LocalEndpointRecord}
    (hhidden : ¬ PublicTopic mode e.topic) : localCandidate mode v e = none := by
  cases hcandidate : localCandidate mode v e with
  | none => rfl
  | some c =>
    obtain ⟨htopic, n, hn, -⟩ := localCandidate_eq_some.mp hcandidate
    exact absurd ⟨htopic, by simp [hn]⟩ hhidden

/-- An endpoint that is not live is no candidate. -/
theorem remoteCandidate_departed {mode : RuntimeMode} {v : FollowedView} {gids : List Gid}
    {e : EndpointRecord (Option ParticipantRecord)} (hgone : ¬ EndpointLive e) :
    remoteCandidate mode v gids e = none := by
  cases hcandidate : remoteCandidate mode v gids e with
  | none => rfl
  | some c => exact absurd (remoteCandidate_eq_some.mp hcandidate).1 hgone

/-- A discovered endpoint of a departed participant is not live. -/
theorem not_live_of_departed {g : Graph} {guidPrefix : GuidPrefix} (hlinked : Linked g.toTables)
    (hdeparted : Departed g.toTables guidPrefix) {e : EndpointRecord (Option ParticipantRecord)}
    (he : e ∈ (atomicView g).endpoints.records) (hown : e.guid.guidPrefix = guidPrefix) :
    ¬ EndpointLive e := by
  obtain ⟨r, hr, hremoved⟩ := hdeparted
  obtain ⟨stored, hstored, rfl⟩ := List.mem_map.mp he
  have hpointer := (hlinked stored hstored).1
  have hparticipant : g.participants.find stored.participant = some r := by
    rw [hpointer]
    exact hown ▸ hr
  exact fun hlive => hlive.2 r hparticipant hremoved

/-- The candidates of a view do not come from a departed and cleared
participant. -/
theorem candidates_without {mode : RuntimeMode} {g : Graph} {guidPrefix : GuidPrefix}
    (hlinked : Linked g.toTables) (hdeparted : Departed g.toTables guidPrefix)
    (hcleared : Cleared mode g.toTables guidPrefix) :
    collectEndpointCandidates mode (atomicView g) =
      collectEndpointCandidates mode (without guidPrefix (atomicView g)) := by
  have hmetadata : (without guidPrefix (atomicView g)).remoteNodes = (atomicView g).remoteNodes := by
    apply Records.ext_records
    refine List.filter_eq_self.mpr fun r hr => ?_
    simpa using Records.find_eq_none.mp hcleared.1 r hr
  have hlocal : localCandidate mode (without guidPrefix (atomicView g)) = localCandidate mode (atomicView g) :=
    rfl
  have hremote : remoteCandidate mode (without guidPrefix (atomicView g)) =
      remoteCandidate mode (atomicView g) := by
    funext gids e
    simp only [remoteCandidate, remoteNode, remoteByGid, hmetadata]
  have hlocals : (without guidPrefix (atomicView g)).localEndpoints.records.filterMap
      (localCandidate mode (atomicView g)) =
        (atomicView g).localEndpoints.records.filterMap (localCandidate mode (atomicView g)) := by
    refine filterMap_filter fun e he hown => localCandidate_hidden ?_
    exact hcleared.2 e he (by simpa using hown)
  have hremotes : ∀ gids, (without guidPrefix (atomicView g)).endpoints.records.filterMap
      (remoteCandidate mode (atomicView g) gids) =
        (atomicView g).endpoints.records.filterMap (remoteCandidate mode (atomicView g) gids) := by
    intro gids
    refine filterMap_filter fun e he hown => remoteCandidate_departed ?_
    exact not_live_of_departed hlinked hdeparted he (by simpa using hown)
  simp only [collectEndpointCandidates, hlocal, hremote, hlocals, hremotes]

/-- A view without a participant has no candidate of it. -/
theorem candidates_foreign {mode : RuntimeMode} {guidPrefix : GuidPrefix} {v : FollowedView}
    {c : EndpointCandidate} (hc : c ∈ collectEndpointCandidates mode (without guidPrefix v)) :
    Foreign guidPrefix c.gid := by
  intro guid hguid
  rcases mem_collect.mp hc with ⟨e, he, hcandidate⟩ | ⟨e, he, hcandidate⟩
  · obtain ⟨-, n, -, rfl⟩ := localCandidate_eq_some.mp hcandidate
    rw [withNode_gid] at hguid
    rw [toGid_injective hguid]
    simpa using (List.mem_filter.mp he).2
  · obtain ⟨-, -, -, n, -, rfl⟩ := remoteCandidate_eq_some.mp hcandidate
    rw [withNode_gid] at hguid
    rw [toGid_injective hguid]
    simpa using (List.mem_filter.mp he).2

/-- A departed and cleared participant leaves no trace. -/
theorem traceless_of_cleared {mode : RuntimeMode} {g : Graph} {guidPrefix : GuidPrefix}
    (hlinked : Linked g.toTables) (hdeparted : Departed g.toTables guidPrefix)
    (hcleared : Cleared mode g.toTables guidPrefix) : Traceless mode guidPrefix (atomicView g) := by
  have hcandidates := candidates_without hlinked hdeparted hcleared
  have hnodes : nodeInfos (atomicView g) = nodeInfos (without guidPrefix (atomicView g)) := by
    have hmetadata : (without guidPrefix (atomicView g)).remoteNodes = (atomicView g).remoteNodes := by
      apply Records.ext_records
      refine List.filter_eq_self.mpr fun r hr => ?_
      simpa using Records.find_eq_none.mp hcleared.1 r hr
    simp only [nodeInfos, hmetadata]
    rfl
  have hforeign : ∀ c ∈ collectEndpointCandidates mode (atomicView g), Foreign guidPrefix c.gid := by
    intro c hc
    rw [hcandidates] at hc
    exact candidates_foreign hc
  obtain ⟨htopics, hservices, hactions⟩ := endpoints_of_candidates hforeign
  exact ⟨assembleSnapshot_congr rfl hnodes hcandidates, htopics, hservices, hactions⟩

/-- Participants never return. -/
theorem departed_effect {t : Tables} {guidPrefix : GuidPrefix} (call : GraphCall)
    (h : Departed t guidPrefix) : Departed (effect call t).1 guidPrefix := by
  obtain ⟨r, hr, hremoved⟩ := h
  have hother : ∀ {new : ParticipantRecord}, new.guidPrefix ≠ guidPrefix →
      (t.participants.put new).find guidPrefix = some r := by
    intro new hnew
    rw [Records.find_put, if_neg (Ne.symm hnew), hr]
  cases call with
  | applyParticipant p change =>
    by_cases hp : p = guidPrefix
    · subst hp
      refine ⟨r, ?_, hremoved⟩
      cases change <;> simp [effect, participantChange, hr, hremoved]
    · refine ⟨r, ?_, hremoved⟩
      simp only [effect, participantChange]
      split
      · exact hother hp
      · next participant hparticipant =>
        have hkey : participant.guidPrefix ≠ guidPrefix :=
          fun heq => hp ((Records.key_of_find hparticipant).symm.trans heq)
        repeat' split
        all_goals first | exact hr | exact hother hkey
  | applyEndpoint guid announced change =>
    refine ⟨r, ?_, hremoved⟩
    simp only [effect]
    rw [endpointChange_eq, (recordEndpoint_frame _ _ _ _ _).1]
    rcases participantFor_cases guid.guidPrefix t with ⟨r', -, heq⟩ | ⟨hnone, heq⟩ <;> rw [heq]
    · exact hr
    · refine hother fun hsame => ?_
      have hsome : t.participants.find guid.guidPrefix = some r := (show guid.guidPrefix = _ from
        hsame) ▸ hr
      rw [hnone] at hsome
      cases hsome
  | _ =>
    refine ⟨r, ?_, hremoved⟩
    rw [(effect_discovered (by simp) (by simp)).2]
    exact hr

/-- Only a report about the participant itself says that it left. -/
theorem departed_of_effect {t : Tables} {guidPrefix : GuidPrefix} {call : GraphCall}
    (h : Departed (effect call t).1 guidPrefix) :
    Departed t guidPrefix ∨ call = .applyParticipant guidPrefix .removed := by
  obtain ⟨r, hr, hremoved⟩ := h
  have hstored : ∀ {new : ParticipantRecord},
      (t.participants.put new).find guidPrefix = some r →
        new = r ∧ new.guidPrefix = guidPrefix ∨ t.participants.find guidPrefix = some r := by
    intro new hput
    rw [Records.find_put] at hput
    split at hput
    · next hkey => exact Or.inl ⟨Option.some.inj hput, hkey.symm⟩
    · exact Or.inr hput
  cases call with
  | applyParticipant p change =>
    simp only [effect, participantChange] at hr
    split at hr
    · rcases hstored hr with ⟨rfl, rfl⟩ | hold
      · exact Or.inr (by rw [← hremoved])
      · exact Or.inl ⟨r, hold, hremoved⟩
    · next participant hparticipant =>
      have hp := Records.key_of_find hparticipant
      split at hr
      · exact Or.inl ⟨r, hr, hremoved⟩
      · split at hr
        · split at hr
          · exact Or.inl ⟨r, hr, hremoved⟩
          · next hleaves _ =>
            rcases hstored hr with ⟨rfl, rfl⟩ | hold
            · exact Or.inr (by rw [hleaves.1, ← hp])
            · exact Or.inl ⟨r, hold, hremoved⟩
        · exact Or.inl ⟨r, hr, hremoved⟩
  | applyEndpoint guid announced change =>
    simp only [effect] at hr
    rw [endpointChange_eq, (recordEndpoint_frame _ _ _ _ _).1] at hr
    rcases participantFor_cases guid.guidPrefix t with ⟨r', -, heq⟩ | ⟨-, heq⟩ <;> rw [heq] at hr
    · exact Or.inl ⟨r, hr, hremoved⟩
    · rcases hstored hr with ⟨rfl, -⟩ | hold
      · cases hremoved
      · exact Or.inl ⟨r, hold, hremoved⟩
  | _ =>
    rw [(effect_discovered (by simp) (by simp)).2] at hr
    exact Or.inl ⟨r, hr, hremoved⟩

/-- An accepted report that a participant left leaves it departed. -/
theorem departed_of_report {t : Tables} {guidPrefix : GuidPrefix}
    (haccepted : (effect (.applyParticipant guidPrefix .removed) t).2 ≠ .invalid) :
    Departed (effect (.applyParticipant guidPrefix .removed) t).1 guidPrefix := by
  simp only [effect, participantChange] at haccepted ⊢
  split
  · exact ⟨⟨guidPrefix, .removed, 0⟩,
      Records.find_put_self (r := (⟨guidPrefix, .removed, 0⟩ : ParticipantRecord)), rfl⟩
  · next participant hparticipant =>
    have hp := Records.key_of_find hparticipant
    cases hlifecycle : participant.lifecycle with
    | removed => exact ⟨participant, by simp [hparticipant], hlifecycle⟩
    | added =>
      by_cases hfull : participant.generation = uint64Max
      · simp [hparticipant, hlifecycle, hfull] at haccepted
      · refine ⟨{ participant with lifecycle := .removed, generation := participant.generation + 1 },
          ?_, rfl⟩
        simp [hfull, Records.find_put, hp]

/-- Metadata of a departed participant stays withdrawn. -/
theorem find_remoteNodesChange {t : Tables} {guidPrefix p : GuidPrefix}
    {nodes : List RemoteNodeRecord} (hnone : t.remoteNodes.find guidPrefix = none)
    (hwithdrawn : p = guidPrefix → nodes = []) :
    (remoteNodesChange p nodes t).1.remoteNodes.find guidPrefix = none := by
  by_cases hp : p = guidPrefix
  · subst hp
    simp [remoteNodesChange, hnone, hwithdrawn rfl]
  · unfold remoteNodesChange
    split
    · split
      · exact hnone
      · rw [Records.find_put, if_neg (Ne.symm hp)]
        exact hnone
    · next found hfound =>
      have hkey : guidPrefix ≠ found.guidPrefix :=
        fun heq => hp ((Records.key_of_find hfound).symm.trans heq.symm)
      split
      · exact hnone
      · split
        · rw [Records.find_erase, if_neg (Ne.symm hp)]
          exact hnone
        · rw [Records.find_put, if_neg hkey]
          exact hnone

/-- What was cleared for a departed participant stays cleared. -/
theorem cleared_effect {mode : RuntimeMode} {g : Graph} {call : GraphCall}
    {guidPrefix : GuidPrefix} (hall : LeavesCleared mode g call)
    (haccepted : (effect call g.toTables).2 ≠ .invalid)
    (hdeparted : Departed g.toTables guidPrefix) (hcleared : Cleared mode g.toTables guidPrefix) :
    Cleared mode (effect call g.toTables).1 guidPrefix := by
  constructor
  · cases call with
    | applyRemoteNodes p nodes =>
      exact find_remoteNodesChange hcleared.1 fun hp => hall (hp ▸ hdeparted)
    | _ =>
      rw [effect_remoteNodes (by simp)]
      exact hcleared.1
  · intro e he hown
    cases call with
    | addLocalEndpoint guid announced nodeId =>
      by_cases hid : nodeId = 0
      · have hstay : effect (.addLocalEndpoint guid announced nodeId) g.toTables =
            (g.toTables, .unchanged) := if_pos hid
        rw [hstay] at he
        exact hcleared.2 e he hown
      · have hstep : effect (.addLocalEndpoint guid announced nodeId) g.toTables =
            localEndpointAddition guid announced nodeId g.toTables := if_neg hid
        rw [hstep] at he haccepted
        rcases mem_localEndpointAddition haccepted he with ⟨hold, -⟩ | ⟨hguid, hnew | ⟨hfound, -⟩⟩
        · exact hcleared.2 e hold hown
        · have htopic : e.topic = announced.topic := congrArg (fun r => r.1.topic) hnew
          have hleft : Departed g.toTables guid.guidPrefix := hguid ▸ hown ▸ hdeparted
          rw [htopic]
          exact (hall hleft).resolve_left hid
        · exact hcleared.2 e (Records.find_eq_some.mp hfound).1 hown
    | removeLocalEndpoint guid =>
      exact hcleared.2 e (localEndpointRemoval_localEndpoints guid _ he) hown
    | _ =>
      rw [effect_localEndpoints (by simp) (by simp)] at he
      exact hcleared.2 e he hown

/-- A report that a participant left touches nothing else. -/
theorem cleared_report {mode : RuntimeMode} {g : Graph} {guidPrefix : GuidPrefix}
    (hcleared : Cleared mode g.toTables guidPrefix) :
    Cleared mode (effect (.applyParticipant guidPrefix .removed) g.toTables).1 guidPrefix := by
  unfold Cleared
  rw [effect_remoteNodes (by simp), effect_localEndpoints (by simp) (by simp)]
  exact hcleared

/-- Every participant that was reported as gone is departed, and every
departed one is cleared. -/
structure Parted (mode : RuntimeMode) (calls : List GraphCall) (t : Tables) : Prop where
  /-- Reports are remembered. -/
  departed : ∀ guidPrefix, .applyParticipant guidPrefix .removed ∈ calls → Departed t guidPrefix
  /-- Nothing public is held for those who left. -/
  cleared : ∀ guidPrefix, Departed t guidPrefix → Cleared mode t guidPrefix

/-- A graph that stays healthy while participants leave cleared parts from
them. -/
theorem Parted.run {mode : RuntimeMode} {calls : List GraphCall} {g : Graph}
    (hrun : machine.RunWhen (LeavesCleared mode) .initial calls g)
    (hhealthy : g.health = .healthy) : Parted mode calls g.toTables := by
  induction hrun with
  | nil =>
    refine ⟨fun guidPrefix h => ?_, fun guidPrefix h => ?_⟩
    · cases h
    · obtain ⟨r, hr, -⟩ := h
      cases hr
  | @snoc calls g call _ _ hall ih =>
    obtain ⟨hbefore, haccepted, htables⟩ := perform_accepted hhealthy
    have hparted := ih hbefore
    have hnext : (machine.next g call).toTables = (effect call g.toTables).1 := htables
    rw [hnext]
    constructor
    · intro guidPrefix hmem
      rcases List.mem_append.mp hmem with hold | hnew
      · exact departed_effect call (hparted.departed guidPrefix hold)
      · obtain rfl := List.mem_singleton.mp hnew
        exact departed_of_report haccepted
    · intro guidPrefix hdeparted
      rcases departed_of_effect hdeparted with hold | rfl
      · exact cleared_effect hall haccepted hold (hparted.cleared guidPrefix hold)
      · exact cleared_report hall

/-- In a run that stays healthy and whose participants leave cleared, whoever
was reported as gone has no trace in any snapshot. -/
theorem departed_traceless (mode : RuntimeMode) (calls : List GraphCall) (g : Graph)
    (guidPrefix : GuidPrefix) (hrun : machine.RunWhen (LeavesCleared mode) .initial calls g)
    (hhealthy : g.health = .healthy) (hgone : .applyParticipant guidPrefix .removed ∈ calls) :
    Traceless mode guidPrefix (atomicView g) := by
  have hparted := Parted.run hrun hhealthy
  have hdeparted := hparted.departed guidPrefix hgone
  exact traceless_of_cleared (linked_run hrun) hdeparted (hparted.cleared guidPrefix hdeparted)

/-- A participant announces a writer and leaves without metadata. -/
def anonymous : List GraphCall :=
  [.applyEndpoint sampleWriter sampleAnnouncement .added, .applyParticipant samplePrefix .removed]

/-- A test that is enough for a participant to leave cleared. -/
def leavesCleared (g : Graph) : GraphCall → Bool
  | .applyParticipant guidPrefix .removed =>
    (g.remoteNodes.find guidPrefix).isNone ∧ g.localEndpoints.records = []
  | .applyRemoteNodes _ _ => false
  | .addLocalEndpoint _ _ _ => false
  | _ => true

/-- The test is enough. -/
theorem leavesCleared_sufficient (mode : RuntimeMode) (g : Graph) (call : GraphCall)
    (h : leavesCleared g call = true) : LeavesCleared mode g call := by
  cases call with
  | applyParticipant guidPrefix change =>
    cases change with
    | added => trivial
    | removed =>
      obtain ⟨hmetadata, hlocal⟩ := of_decide_eq_true h
      exact ⟨Option.isNone_iff_eq_none.mp hmetadata, fun e he => by simp [hlocal] at he⟩
  | applyRemoteNodes guidPrefix nodes => cases h
  | addLocalEndpoint guid announced nodeId => cases h
  | _ => trivial

/-- The law where no metadata was published. -/
theorem departed_traceless_anonymous :
    ∃ g, machine.exec .initial anonymous = some g ∧ Traceless .ros2 samplePrefix (atomicView g) := by
  have hend : (machine.exec .initial anonymous).map (fun g => decide (g.health = .healthy)) =
      some true := by decide
  obtain ⟨g, hexec, hhealthy⟩ := Option.map_eq_some_iff.mp hend
  refine ⟨g, hexec, departed_traceless .ros2 anonymous g samplePrefix ?_
    (of_decide_eq_true hhealthy) (by decide)⟩
  exact Machine.runWhen_of_exec leavesCleared (leavesCleared_sufficient .ros2) hexec (by decide)

/-- The participant publishes a node, and leaves. -/
def named : List GraphCall :=
  [.applyParticipant samplePrefix .added,
    .applyRemoteNodes samplePrefix [⟨text "/", text "talker", [], []⟩],
    .applyParticipant samplePrefix .removed]

/-- The node stays in the snapshot. -/
theorem named_remains :
    ¬ ∀ mode calls g guidPrefix, machine.Run .initial calls g → g.health = .healthy →
      .applyParticipant guidPrefix .removed ∈ calls → Traceless mode guidPrefix (atomicView g) := by
  intro hclaim
  have hend : (machine.exec .initial named).map (fun g =>
      decide (g.health = .healthy ∧
        nodeInfos (atomicView g) ≠ nodeInfos (without samplePrefix (atomicView g)))) = some true := by decide
  obtain ⟨g, hexec, hfinal⟩ := Option.map_eq_some_iff.mp hend
  obtain ⟨hhealthy, hdiffers⟩ := of_decide_eq_true hfinal
  have htraceless := hclaim .ros2 named g samplePrefix (Machine.run_of_exec hexec) hhealthy
    (by decide)
  exact hdiffers (congrArg Snapshot.nodes htraceless.snapshot)

end Dmw.GraphDepartures
