import Dmw.GraphSnapshot

/-!
# What a revision stands for

Calls that leave the revision alone leave everything public alone: at most
they count a reference of a local node. So a revision names one public
snapshot, a cursor that lags behind is noticed whenever the snapshot differs
from the one it was set at, and the intervals an event reports join up.
-/

namespace Dmw.GraphRevision

open GuardedRuns Identity GraphNames RecordVector DiscoveryGraph GraphCandidates GraphSnapshot

/-- Forget how often a node is referenced. -/
def unreferenced (node : LocalNodeRecord) : LocalNodeRecord := { node with references := 0 }

theorem unreferenced_id (node : LocalNodeRecord) : (unreferenced node).id = node.id := rfl

/-- The local nodes as far as they are public. -/
def publicNodes (t : Tables) : Records LocalNodeRecord.id :=
  t.localNodes.map unreferenced unreferenced_id

/-- Two tables agree in everything a snapshot reads. -/
structure SamePublic (t t' : Tables) : Prop where
  /-- Local nodes up to their references. -/
  localNodes : publicNodes t = publicNodes t'
  /-- Local endpoints. -/
  localEndpoints : t.localEndpoints = t'.localEndpoints
  /-- Metadata. -/
  remoteNodes : t.remoteNodes = t'.remoteNodes
  /-- Participants. -/
  participants : t.participants = t'.participants
  /-- Discovered endpoints. -/
  endpoints : t.endpoints = t'.endpoints

theorem SamePublic.refl (t : Tables) : SamePublic t t := ⟨rfl, rfl, rfl, rfl, rfl⟩

theorem SamePublic.trans {t t' t'' : Tables} (h : SamePublic t t') (h' : SamePublic t' t'') :
    SamePublic t t'' :=
  ⟨h.localNodes.trans h'.localNodes, h.localEndpoints.trans h'.localEndpoints,
    h.remoteNodes.trans h'.remoteNodes, h.participants.trans h'.participants,
    h.endpoints.trans h'.endpoints⟩

/-- Dropping a reference short of the last one is not public. -/
theorem samePublic_dropReference {t : Tables} {node : LocalNodeRecord}
    (hfound : t.localNodes.find node.id = some node) (hleft : node.references - 1 ≠ 0) :
    SamePublic t (dropReference node t) := by
  have hput : publicNodes (dropReference node t) = publicNodes t := by
    unfold dropReference publicNodes
    rw [if_neg hleft]
    exact Records.map_put_of_find unreferenced_id hfound rfl
  refine ⟨hput.symm, ?_, ?_, ?_, ?_⟩ <;> unfold dropReference <;> rw [if_neg hleft]

/-- What a report about an endpoint leaves when it reports nothing new. -/
theorem recordEndpoint_unchanged {t : Tables} {guid : Guid} {told : Announcement}
    {change : DiscoveryChange} {participant : ParticipantRecord} :
    (recordEndpoint guid told change participant t).2 = .unchanged →
      (recordEndpoint guid told change participant t).1 = t ∧
        ∃ e, t.endpoints.find guid = some e := by
  unfold recordEndpoint
  split
  · simp
  · split
    · simp
    · next found hfound =>
      split
      · simp
      · split
        · exact fun _ => ⟨rfl, found, hfound⟩
        · simp

/-- A call that reports nothing new leaves the tables alone, but for a node
reference that is not the last one. A new participant record never goes with
it: the endpoint would have been new. -/
theorem samePublic_of_unchanged {t : Tables} {call : GraphCall} (hlinked : Linked t) :
    (effect call t).2 = .unchanged → SamePublic t (effect call t).1 := by
  have hsame : ∀ {r : Tables × GraphMutation}, (r.2 = .unchanged → r.1 = t) →
      r.2 = .unchanged → SamePublic t r.1 := fun h hidle => h hidle ▸ .refl t
  cases call with
  | applyParticipant guidPrefix change =>
    apply hsame
    simp only [effect, participantChange]
    repeat' split
    all_goals simp
  | applyEndpoint guid told change =>
    apply hsame
    simp only [effect, endpointChange]
    rcases participantFor_cases guid.guidPrefix t with ⟨r, hr, heq⟩ | ⟨hnone, heq⟩
    · rw [heq]
      exact fun hidle => (recordEndpoint_unchanged hidle).1
    · rw [heq]
      intro hidle
      obtain ⟨-, e, he⟩ := recordEndpoint_unchanged hidle
      obtain ⟨hmem, rfl⟩ := Records.find_eq_some.mp he
      obtain ⟨hpointer, hknown⟩ := hlinked e hmem
      simp [hpointer, hnone] at hknown
  | applyRemoteNodes guidPrefix nodes =>
    apply hsame
    simp only [effect, remoteNodesChange]
    repeat' split
    all_goals simp
  | addLocalNode name nodeNamespace =>
    apply hsame
    simp only [effect, localNodeAddition]
    split <;> simp
  | releaseLocalNode id =>
    simp only [effect, localNodeRelease]
    split
    · exact fun _ => .refl t
    · split
      · exact fun _ => .refl t
      · next node hnode =>
        intro hidle
        have hleft : node.references - 1 ≠ 0 := by
          intro hzero
          simp [hzero] at hidle
        exact samePublic_dropReference (Records.key_of_find hnode ▸ hnode) hleft
  | addLocalEndpoint guid told nodeId =>
    apply hsame
    simp only [effect, localEndpointAddition]
    repeat' split
    all_goals simp
  | removeLocalEndpoint guid =>
    apply hsame
    simp only [effect, localEndpointRemoval]
    repeat' split
    all_goals simp

/-- Healthy runs never move the revision back, and where they leave it alone
they leave everything public alone. -/
theorem revision_run {g g' : Graph} {calls : List GraphCall} (hlinked : Linked g.toTables)
    (hrun : machine.Run g calls g') (hhealthy : g'.health = .healthy) :
    g.revision ≤ g'.revision ∧
      (g.revision = g'.revision → SamePublic g.toTables g'.toTables) := by
  induction hrun with
  | nil => exact ⟨le_rfl, fun _ => .refl _⟩
  | @snoc calls s call hprev _ _ ih =>
    obtain ⟨hbefore, hcase⟩ := perform_healthy hhealthy
    obtain ⟨hle, hsame⟩ := ih hbefore
    have hlinkedBefore : Linked s.toTables := by
      refine hprev.invariant (fun s => Linked s.toTables) hlinked fun s call hinv _ _ => ?_
      rcases perform_tables s call with htables | htables
      · exact htables ▸ hinv
      · exact htables ▸ linked_effect s.toTables call hinv
    rcases hcase with ⟨hidle, heq⟩ | ⟨-, heq⟩
    · have hstep : machine.next s call = { s with toTables := (effect call s.toTables).1 } := heq
      rw [hstep]
      exact ⟨hle, fun hrevision =>
        (hsame hrevision).trans (samePublic_of_unchanged hlinkedBefore hidle)⟩
    · have hrevision : (machine.next s call).revision = s.revision + 1 := by
        rw [show machine.next s call = perform s call from rfl, heq]
        rfl
      refine ⟨by omega, fun hequal => ?_⟩
      omega

/-- Tables that agree in public name their local nodes alike. -/
theorem find_of_samePublic {t t' : Tables} (hsame : SamePublic t t') (id : ℕ) :
    (t.localNodes.find id).map unreferenced = (t'.localNodes.find id).map unreferenced := by
  have hfind : (publicNodes t).find id = (publicNodes t').find id := by rw [hsame.localNodes]
  unfold publicNodes at hfind
  rwa [Records.find_map unreferenced_id, Records.find_map unreferenced_id] at hfind

/-- Tables that agree in public give the same nodes. -/
theorem nodeInfos_of_samePublic {g g' : Graph} (hsame : SamePublic g.toTables g'.toTables) :
    nodeInfos (atomicView g) = nodeInfos (atomicView g') := by
  have hnames : ∀ t : Tables,
      (t.localNodes.records.map fun node => (⟨node.name, node.nodeNamespace⟩ : NodeGraphInfo)) =
        (publicNodes t).records.map fun node => ⟨node.name, node.nodeNamespace⟩ := by
    intro t
    simp only [publicNodes, Records.map, List.map_map]
    rfl
  have hlocals := (hnames g.toTables).trans (hsame.localNodes ▸ (hnames g'.toTables).symm)
  unfold nodeInfos atomicView
  dsimp only
  rw [hlocals, hsame.remoteNodes]

/-- Tables that agree in public resolve their endpoints alike. -/
theorem endpoints_of_samePublic {g g' : Graph} (hsame : SamePublic g.toTables g'.toTables) :
    (atomicView g).endpoints = (atomicView g').endpoints := by
  have hresolve : resolve g = resolve g' := by
    funext e
    simp only [resolve, hsame.participants]
  apply Records.ext_records
  simp only [atomicView, Records.map, hresolve, hsame.endpoints]

/-- Tables that agree in public give the same candidates. -/
theorem candidates_of_samePublic {mode : RuntimeMode} {g g' : Graph}
    (hsame : SamePublic g.toTables g'.toTables) :
    collectEndpointCandidates mode (atomicView g) = collectEndpointCandidates mode (atomicView g') := by
  have hnode : localNode (atomicView g) = localNode (atomicView g') := by
    funext id
    have hfind := congrArg (Option.map fun node : LocalNodeRecord =>
      (node.name, node.nodeNamespace)) (find_of_samePublic hsame id)
    rw [Option.map_map, Option.map_map] at hfind
    exact hfind
  have hlocal : localCandidate mode (atomicView g) = localCandidate mode (atomicView g') := by
    funext e
    simp only [localCandidate, hnode]
  have hremote : remoteCandidate mode (atomicView g) = remoteCandidate mode (atomicView g') := by
    funext gids e
    simp only [remoteCandidate, remoteNode, remoteByGid, atomicView, hsame.remoteNodes]
  have hlocals : (atomicView g).localEndpoints = (atomicView g').localEndpoints := hsame.localEndpoints
  simp only [collectEndpointCandidates, hlocal, hremote, hlocals, endpoints_of_samePublic hsame]

/-- Tables that agree in public give the same snapshot under one revision. -/
theorem snapshot_of_samePublic (mode : RuntimeMode) {g g' : Graph}
    (hrevision : g.revision = g'.revision) (hsame : SamePublic g.toTables g'.toTables) :
    assembleSnapshot mode (atomicView g) = assembleSnapshot mode (atomicView g') :=
  assembleSnapshot_congr hrevision (nodeInfos_of_samePublic hsame) (candidates_of_samePublic hsame)

end Dmw.GraphRevision
