import Dmw.DiscoveryGraph

/-!
# References to local nodes

The record of a local node counts the facade of the node and the local
endpoints that carry its id. Any call on the graph may come in any order; a
facade is released at most once.
-/

namespace Dmw.LocalNodeReferences

open DiscoveryGraph GraphNames Identity RecordVector
open GuardedRuns (Machine)

/-- The graph, with the nodes whose facades are gone. -/
structure Shared extends Graph where
  /-- Nodes that were released. -/
  released : List ℕ

/-- A graph without nodes. -/
def Shared.initial : Shared := ⟨.initial,[]⟩

/-- Nodes that were released after a call. -/
def releasedBy (s : Shared) : GraphCall → List ℕ
  | .releaseLocalNode id =>
    if 0 < id ∧ id ≤ s.nextLocalNodeId then id :: s.released else s.released
  | _ => s.released

/-- Calls on the graph, none of which releases a node again. -/
def machine : Machine Shared GraphCall where
  enabled s call := ∀ id ∈ s.released, call ≠ .releaseLocalNode id
  next s call := ⟨perform s.toGraph call,releasedBy s call⟩
  decidableEnabled _ _ := inferInstance

/-- Facades of a node. -/
def facades (t : Tables) (released : List ℕ) (id : ℕ) : ℕ :=
  if 0 < id ∧ id ≤ t.nextLocalNodeId ∧ id ∉ released then 1 else 0

/-- Local endpoints that carry the id of a node. -/
def carriers (t : Tables) (id : ℕ) : ℕ :=
  t.localEndpoints.records.countP fun e => e.nodeId = id

/-- The references of local nodes are their facades and endpoints. -/
structure Counted (s : Shared) : Prop where
  /-- A record counts both. -/
  references : ∀ node ∈ s.localNodes.records,
    node.references = facades s.toTables s.released node.id + carriers s.toTables node.id
  /-- A node is there exactly while something refers to it. -/
  present : ∀ id, (s.localNodes.find id).isSome = true ↔
    0 < facades s.toTables s.released id + carriers s.toTables id
  /-- An endpoint belongs to a node that is there. -/
  carried : ∀ e ∈ s.localEndpoints.records, (s.localNodes.find e.nodeId).isSome = true

/-- A call that a healthy graph accepts and by which an endpoint moves to
another node. -/
def Rehomes (s : Shared) : GraphCall → Prop
  | .addLocalEndpoint guid _ nodeId =>
    s.health = .healthy ∧ s.revision ≠ uint64Max ∧ nodeId ≠ 0 ∧
      (s.localNodes.find nodeId).isSome = true ∧
        (s.localEndpoints.find guid).any (fun e => e.nodeId ≠ nodeId) = true
  | _ => False

instance (s : Shared) (call : GraphCall) : Decidable (Rehomes s call) :=
  match call with
  | .addLocalEndpoint _ _ _ => inferInstanceAs (Decidable (_ ∧ _))
  | .applyParticipant _ _ => .isFalse id
  | .applyEndpoint _ _ _ => .isFalse id
  | .applyRemoteNodes _ _ => .isFalse id
  | .addLocalNode _ _ => .isFalse id
  | .releaseLocalNode _ => .isFalse id
  | .removeLocalEndpoint _ => .isFalse id

variable {t t' : Tables} {released : List ℕ} {id : ℕ} {s : Shared} {call : GraphCall}

/-- References that are recorded of a node, none where it has no record. -/
def recorded (t : Tables) (id : ℕ) : ℕ := (t.localNodes.find id).elim 0 (·.references)

/-- What is recorded is what there is. -/
structure Balanced (t : Tables) (released : List ℕ) : Prop where
  /-- Records count facades and endpoints. -/
  references : ∀ id, recorded t id = facades t released id + carriers t id
  /-- No record is without references. -/
  positive : ∀ node ∈ t.localNodes.records, 0 < node.references
  /-- Ids are given out before they are used. -/
  issued : ∀ node ∈ t.localNodes.records, 0 < node.id ∧ node.id ≤ t.nextLocalNodeId
  /-- Only nodes with an id are released. -/
  past : ∀ id ∈ released, id ≤ t.nextLocalNodeId

/-- A node is there exactly if references are recorded. -/
theorem Balanced.isSome_iff (h : Balanced t released) :
    (t.localNodes.find id).isSome = true ↔ 0 < recorded t id := by
  unfold recorded
  cases hfound : t.localNodes.find id with
  | none => simp
  | some node =>
    have hpositive := h.positive node (Records.find_eq_some.mp hfound).1
    simpa using hpositive

/-- Balanced tables are counted. -/
theorem Balanced.counted (h : Balanced s.toTables s.released) : Counted s where
  references := by
    intro node hmem
    have hrecorded := h.references node.id
    unfold recorded at hrecorded
    rw [Records.find_key hmem] at hrecorded
    exact hrecorded
  present := by
    intro id
    rw [h.isSome_iff,h.references]
  carried := by
    intro e hmem
    rw [h.isSome_iff,h.references]
    have hcarries : 0 < carriers s.toTables e.nodeId :=
      List.countP_pos_iff.mpr ⟨e,hmem,decide_eq_true rfl⟩
    omega

/-- Nothing is recorded of an id that was not given out. -/
theorem Balanced.unissued (h : Balanced t released) (hnew : id = 0 ∨ t.nextLocalNodeId < id) :
    t.localNodes.find id = none := by
  cases hfound : t.localNodes.find id with
  | none => rfl
  | some node =>
    obtain ⟨hmem, hkey⟩ := Records.find_eq_some.mp hfound
    have hissued := h.issued node hmem
    have hsame : node.id = id := hkey
    omega

/-- A change that leaves local nodes and endpoints alone keeps the balance. -/
theorem Balanced.of_same (h : Balanced t released) (hnodes : t'.localNodes = t.localNodes)
    (hendpoints : t'.localEndpoints = t.localEndpoints)
    (hnext : t'.nextLocalNodeId = t.nextLocalNodeId) : Balanced t' released where
  references := by
    intro id
    have hreferences := h.references id
    unfold recorded facades carriers at hreferences ⊢
    rw [hnodes,hendpoints,hnext]
    exact hreferences
  positive := by
    rw [hnodes]
    exact h.positive
  issued := by
    rw [hnodes,hnext]
    exact h.issued
  past := by
    rw [hnext]
    exact h.past

/-- A reference less is recorded once a reference is dropped. -/
theorem recorded_dropReference {node : LocalNodeRecord}
    (hfound : t.localNodes.find node.id = some node) (hpositive : 0 < node.references) (id : ℕ) :
    recorded (dropReference node t) id + (if id = node.id then 1 else 0) = recorded t id := by
  unfold recorded dropReference
  by_cases hlast : node.references - 1 = 0
  · rw [if_pos hlast,Records.find_erase]
    by_cases hid : id = node.id
    · rw [if_pos hid,if_pos hid,hid,hfound]
      change 0 + 1 = node.references
      omega
    · rw [if_neg hid,if_neg hid,Nat.add_zero]
  · rw [if_neg hlast,Records.find_put]
    by_cases hid : id = node.id
    · rw [if_pos hid,if_pos hid,hid,hfound]
      change node.references - 1 + 1 = node.references
      omega
    · rw [if_neg hid,if_neg hid,Nat.add_zero]

/-- A reference that is dropped changes no other table. -/
theorem dropReference_frame (node : LocalNodeRecord) (t : Tables) :
    (dropReference node t).localEndpoints = t.localEndpoints ∧
      (dropReference node t).nextLocalNodeId = t.nextLocalNodeId := by
  unfold dropReference
  split
  · exact ⟨rfl,rfl⟩
  · exact ⟨rfl,rfl⟩

/-- Records that stay after a reference is dropped are still in use, under ids
they had before. -/
theorem dropReference_nodes {node node' : LocalNodeRecord}
    (hpositive : ∀ node ∈ t.localNodes.records, 0 < node.references)
    (hmem : node ∈ t.localNodes.records)
    (hmem' : node' ∈ (dropReference node t).localNodes.records) :
    0 < node'.references ∧ ∃ before ∈ t.localNodes.records, before.id = node'.id := by
  unfold dropReference at hmem'
  by_cases hlast : node.references - 1 = 0
  · rw [if_pos hlast] at hmem'
    have hbefore := (Records.mem_erase.mp hmem').1
    exact ⟨hpositive node' hbefore,node',hbefore,rfl⟩
  · rw [if_neg hlast] at hmem'
    rcases Records.mem_put.mp hmem' with rfl | ⟨hbefore, -⟩
    · exact ⟨Nat.pos_of_ne_zero hlast,node,hmem,rfl⟩
    · exact ⟨hpositive node' hbefore,node',hbefore,rfl⟩

/-- Dropping a reference keeps the balance if one thing less refers to the node. -/
theorem Balanced.drop {node : LocalNodeRecord} {t₀ : Tables} {released' : List ℕ}
    (h : Balanced t released) (hnodes : t₀.localNodes = t.localNodes)
    (hnext : t₀.nextLocalNodeId = t.nextLocalNodeId)
    (hfound : t.localNodes.find node.id = some node)
    (hpast : ∀ id ∈ released', id ≤ t.nextLocalNodeId)
    (hless : ∀ id, facades t released' id + carriers t₀ id + (if id = node.id then 1 else 0) =
      facades t released id + carriers t id) : Balanced (dropReference node t₀) released' := by
  have hmem := (Records.find_eq_some.mp hfound).1
  have hpositive := h.positive node hmem
  have hfound₀ : t₀.localNodes.find node.id = some node := by
    rw [hnodes]
    exact hfound
  obtain ⟨hendpoints, hnext'⟩ := dropReference_frame node t₀
  refine ⟨fun id => ?_,fun node' hmem' => ?_,fun node' hmem' => ?_,fun id hid => ?_⟩
  · have hdropped := recorded_dropReference hfound₀ hpositive id
    have hsame : recorded t₀ id = recorded t id := by
      unfold recorded
      rw [hnodes]
    have hfacades : facades (dropReference node t₀) released' id = facades t released' id := by
      unfold facades
      rw [hnext',hnext]
    have hcarriers : carriers (dropReference node t₀) id = carriers t₀ id := by
      unfold carriers
      rw [hendpoints]
    have hreferences := h.references id
    have hone := hless id
    omega
  · exact (dropReference_nodes (hnodes ▸ h.positive) (hnodes ▸ hmem) hmem').1
  · obtain ⟨-, before, hbefore, hkey⟩ :=
      dropReference_nodes (hnodes ▸ h.positive) (hnodes ▸ hmem) hmem'
    have hissued := h.issued before (hnodes ▸ hbefore)
    rw [hnext',hnext,← hkey]
    exact hissued
  · rw [hnext',hnext]
    exact hpast id hid

/-- A new node has its facade. -/
theorem Balanced.addition (h : Balanced t released) (name nodeNamespace : ByteString)
    (hvalid : (localNodeAddition name nodeNamespace t).2 ≠ .invalid) :
    Balanced (localNodeAddition name nodeNamespace t).1 released := by
  have hroom : t.nextLocalNodeId ≠ uint64Max := by
    intro hfull
    unfold localNodeAddition at hvalid
    rw [if_pos hfull] at hvalid
    exact hvalid rfl
  unfold localNodeAddition
  rw [if_neg hroom]
  have hnew := h.unissued (Or.inr (Nat.lt_succ_self t.nextLocalNodeId))
  refine ⟨fun id => ?_,fun node hmem => ?_,fun node hmem => ?_,fun id hid => ?_⟩
  · have hreferences := h.references id
    have hpast := h.past id
    unfold recorded facades carriers at hreferences ⊢
    rw [Records.find_put]
    by_cases hid : id = t.nextLocalNodeId + 1
    · rw [hid,hnew] at hreferences
      rw [if_pos hid]
      have hfresh : 0 < id ∧ id ≤ t.nextLocalNodeId + 1 ∧ id ∉ released := by
        refine ⟨by omega,by omega,fun hin => ?_⟩
        have hbound := hpast hin
        omega
      have hbefore : 0 = (if 0 < t.nextLocalNodeId + 1 ∧
          t.nextLocalNodeId + 1 ≤ t.nextLocalNodeId ∧ t.nextLocalNodeId + 1 ∉ released
            then 1 else 0) + carriers t (t.nextLocalNodeId + 1) := hreferences
      have hnone : carriers t (t.nextLocalNodeId + 1) = 0 := by omega
      rw [if_pos hfresh,hid]
      change 1 = 1 + carriers t (t.nextLocalNodeId + 1)
      rw [hnone]
    · have hrange : (0 < id ∧ id ≤ t.nextLocalNodeId + 1 ∧ id ∉ released) ↔
          (0 < id ∧ id ≤ t.nextLocalNodeId ∧ id ∉ released) := by
        constructor
        · rintro ⟨hlow, hhigh, hout⟩
          exact ⟨hlow,by omega,hout⟩
        · rintro ⟨hlow, hhigh, hout⟩
          exact ⟨hlow,by omega,hout⟩
      rw [if_neg hid,hreferences]
      simp only [hrange]
  · rcases Records.mem_put.mp hmem with rfl | ⟨hbefore, -⟩
    · exact Nat.one_pos
    · exact h.positive node hbefore
  · rcases Records.mem_put.mp hmem with rfl | ⟨hbefore, -⟩
    · exact ⟨Nat.succ_pos _,le_rfl⟩
    · have hissued := h.issued node hbefore
      exact ⟨hissued.1,hissued.2.trans (Nat.le_succ _)⟩
  · exact (h.past id hid).trans (Nat.le_succ _)

/-- A node that is released has no facade any more. -/
theorem Balanced.release (h : Balanced t released) (hid : id ≠ 0) (hout : id ∉ released) :
    Balanced (localNodeRelease id t).1
      (if 0 < id ∧ id ≤ t.nextLocalNodeId then id :: released else released) := by
  have hreferences := h.references id
  unfold localNodeRelease
  cases hfound : t.localNodes.find id with
  | none =>
    have hunissued : ¬ (0 < id ∧ id ≤ t.nextLocalNodeId) := by
      rintro ⟨hlow, hhigh⟩
      unfold recorded facades at hreferences
      rw [hfound,if_pos ⟨hlow,hhigh,hout⟩] at hreferences
      have hzero : 0 = 1 + carriers t id := hreferences
      omega
    rw [if_neg hunissued]
    exact h
  | some node =>
    obtain ⟨hmem, hkey⟩ := Records.find_eq_some.mp hfound
    have hkey' : node.id = id := hkey
    obtain ⟨hlow, hhigh⟩ := h.issued node hmem
    rw [hkey'] at hlow hhigh
    rw [if_pos ⟨hlow,hhigh⟩]
    refine h.drop rfl rfl (hkey'.symm ▸ hfound) ?_ ?_
    · intro id' hid'
      rcases List.mem_cons.mp hid' with rfl | hbefore
      · exact hhigh
      · exact h.past id' hbefore
    · intro id'
      rw [hkey']
      unfold facades
      by_cases hsame : id' = id
      · subst hsame
        have hgone : ¬ (0 < id' ∧ id' ≤ t.nextLocalNodeId ∧ id' ∉ id' :: released) :=
          fun hfacade => hfacade.2.2 List.mem_cons_self
        rw [if_neg hgone,if_pos rfl,if_pos ⟨hlow,hhigh,hout⟩]
        omega
      · have hmember : id' ∉ id :: released ↔ id' ∉ released := by
          rw [List.mem_cons,or_iff_right hsame]
        rw [if_neg hsame]
        simp only [hmember]
        omega

/-- An endpoint that is registered, anew or again for its node, is counted. -/
theorem Balanced.addEndpoint {guid : Guid} {told : Announcement} {nodeId : ℕ}
    (h : Balanced t released) (hvalid : (localEndpointAddition guid told nodeId t).2 ≠ .invalid)
    (hhome : (localEndpointAddition guid told nodeId t).2 = .changed →
      ∀ e, t.localEndpoints.find guid = some e → e.nodeId = nodeId) :
    Balanced (localEndpointAddition guid told nodeId t).1 released := by
  unfold localEndpointAddition at hvalid hhome ⊢
  cases hfound : t.localNodes.find nodeId with
  | none =>
    rw [hfound] at hvalid
    exact absurd rfl hvalid
  | some node =>
    rw [hfound] at hhome
    obtain ⟨hmem, hkey⟩ := Records.find_eq_some.mp hfound
    have hkey' : node.id = nodeId := hkey
    cases hendpoint : t.localEndpoints.find guid with
    | none =>
      have hcarriers : ∀ id, (t.localEndpoints.put
          ⟨guid,told.kind,told.topic,told.type,told.qos,nodeId⟩).records.countP
            (fun e => e.nodeId = id) = carriers t id + if nodeId = id then 1 else 0 := by
        intro id
        have hput := Records.countP_put_new
          (r := ⟨guid,told.kind,told.topic,told.type,told.qos,nodeId⟩)
          (fun e : LocalEndpointRecord => e.nodeId = id) hendpoint
        simp only [decide_eq_true_eq] at hput
        exact hput
      refine ⟨fun id => ?_,fun node' hmem' => ?_,fun node' hmem' => ?_,h.past⟩
      · have hreferences := h.references id
        change recorded _ id = facades t released id + (t.localEndpoints.put
          ⟨guid,told.kind,told.topic,told.type,told.qos,nodeId⟩).records.countP
            (fun e => e.nodeId = id)
        rw [hcarriers id]
        unfold recorded at hreferences ⊢
        rw [Records.find_put]
        by_cases hid : id = node.id
        · rw [hid,hkey',hfound] at hreferences
          rw [if_pos hid,hid,hkey',if_pos rfl]
          change node.references + 1 = _
          have hbefore : node.references = facades t released nodeId + carriers t nodeId :=
            hreferences
          omega
        · have hother : nodeId ≠ id := fun heq => hid (heq.symm.trans hkey'.symm)
          rw [if_neg hid,if_neg hother]
          exact hreferences
      · rcases Records.mem_put.mp hmem' with rfl | ⟨hbefore, -⟩
        · exact Nat.succ_pos _
        · exact h.positive node' hbefore
      · rcases Records.mem_put.mp hmem' with rfl | ⟨hbefore, -⟩
        · exact h.issued node hmem
        · exact h.issued node' hbefore
    | some found =>
      rw [hendpoint] at hhome
      by_cases hsame : found.kind = told.kind ∧ found.topic = told.topic ∧
          found.type = told.type ∧ found.nodeId = nodeId
      · simp only [if_pos hsame]
        exact h
      · simp only [if_neg hsame] at hhome ⊢
        have hnode : found.nodeId = nodeId := hhome trivial found rfl
        have hguid : found.guid = guid := Records.key_of_find hendpoint
        refine ⟨fun id => ?_,h.positive,h.issued,h.past⟩
        have hput := Records.countP_put_old
          (r := ⟨found.guid,told.kind,told.topic,told.type,told.qos,nodeId⟩)
          (fun e : LocalEndpointRecord => e.nodeId = id) (hguid.symm ▸ hendpoint)
        simp only [decide_eq_true_eq,hnode,Nat.add_right_cancel_iff] at hput
        have hreferences := h.references id
        change recorded t id = facades t released id + (t.localEndpoints.put
          ⟨found.guid,told.kind,told.topic,told.type,told.qos,nodeId⟩).records.countP
            (fun e => e.nodeId = id)
        rw [hput]
        exact hreferences

/-- An endpoint that is removed refers to its node no more. -/
theorem Balanced.removeEndpoint (h : Balanced t released) (guid : Guid) :
    Balanced (localEndpointRemoval guid t).1 released := by
  unfold localEndpointRemoval
  cases hendpoint : t.localEndpoints.find guid with
  | none => exact h
  | some found =>
    have hcarriers : ∀ id, carriers { t with localEndpoints := t.localEndpoints.erase guid } id +
        (if found.nodeId = id then 1 else 0) = carriers t id := by
      intro id
      have herase := Records.countP_erase (fun e : LocalEndpointRecord => e.nodeId = id) hendpoint
      simp only [decide_eq_true_eq] at herase
      exact herase
    have hcarried := hcarriers found.nodeId
    rw [if_pos rfl] at hcarried
    cases hfound : t.localNodes.find found.nodeId with
    | none =>
      have hreferences := h.references found.nodeId
      unfold recorded at hreferences
      rw [hfound] at hreferences
      have hzero : 0 = facades t released found.nodeId + carriers t found.nodeId := hreferences
      omega
    | some node =>
      have hkey : node.id = found.nodeId := Records.key_of_find hfound
      dsimp only
      rw [hfound]
      refine h.drop rfl rfl (hkey.symm ▸ hfound) h.past fun id => ?_
      have hone := hcarriers id
      rw [hkey]
      by_cases hid : id = found.nodeId
      · rw [if_pos hid]
        rw [if_pos hid.symm] at hone
        omega
      · rw [if_neg hid]
        rw [if_neg (Ne.symm hid)] at hone
        omega

/-- Reports about other participants leave local nodes and endpoints alone. -/
theorem effect_foreign (hnode : ∀ name nodeNamespace, call ≠ .addLocalNode name nodeNamespace)
    (hrelease : ∀ id, call ≠ .releaseLocalNode id)
    (haddition : ∀ guid told nodeId, call ≠ .addLocalEndpoint guid told nodeId)
    (hremoval : ∀ guid, call ≠ .removeLocalEndpoint guid) :
    (effect call t).1.localNodes = t.localNodes ∧
      (effect call t).1.localEndpoints = t.localEndpoints ∧
        (effect call t).1.nextLocalNodeId = t.nextLocalNodeId := by
  have hendpoints := effect_localEndpoints (t := t) haddition hremoval
  have hkept : (effect call t).1.localNodes = t.localNodes ∧
      (effect call t).1.nextLocalNodeId = t.nextLocalNodeId := by
    cases call with
    | applyParticipant guidPrefix change =>
      change (participantChange guidPrefix change t).1.localNodes = t.localNodes ∧
        (participantChange guidPrefix change t).1.nextLocalNodeId = t.nextLocalNodeId
      unfold participantChange
      repeat' split
      all_goals exact ⟨rfl,rfl⟩
    | applyEndpoint guid told change =>
      have hfor : (participantFor guid.guidPrefix t).1.localNodes = t.localNodes ∧
          (participantFor guid.guidPrefix t).1.nextLocalNodeId = t.nextLocalNodeId := by
        rcases participantFor_cases guid.guidPrefix t with ⟨r, -, heq⟩ | ⟨-, heq⟩
        · rw [heq]
          exact ⟨rfl,rfl⟩
        · rw [heq]
          exact ⟨rfl,rfl⟩
      change (endpointChange guid told change t).1.localNodes = t.localNodes ∧
        (endpointChange guid told change t).1.nextLocalNodeId = t.nextLocalNodeId
      rw [endpointChange_eq]
      unfold recordEndpoint
      repeat' split
      all_goals exact hfor
    | applyRemoteNodes guidPrefix nodes =>
      change (remoteNodesChange guidPrefix nodes t).1.localNodes = t.localNodes ∧
        (remoteNodesChange guidPrefix nodes t).1.nextLocalNodeId = t.nextLocalNodeId
      unfold remoteNodesChange
      repeat' split
      all_goals exact ⟨rfl,rfl⟩
    | addLocalNode name nodeNamespace => exact absurd rfl (hnode name nodeNamespace)
    | releaseLocalNode id => exact absurd rfl (hrelease id)
    | addLocalEndpoint guid told nodeId => exact absurd rfl (haddition guid told nodeId)
    | removeLocalEndpoint guid => exact absurd rfl (hremoval guid)
  exact ⟨hkept.1,hendpoints,hkept.2⟩

/-- Reports about other participants keep the balance. -/
theorem Balanced.foreign (h : Balanced t released)
    (hnode : ∀ name nodeNamespace, call ≠ .addLocalNode name nodeNamespace)
    (hrelease : ∀ id, call ≠ .releaseLocalNode id)
    (haddition : ∀ guid told nodeId, call ≠ .addLocalEndpoint guid told nodeId)
    (hremoval : ∀ guid, call ≠ .removeLocalEndpoint guid) :
    Balanced (effect call t).1 released := by
  obtain ⟨hnodes, hendpoints, hnext⟩ :=
    effect_foreign (t := t) hnode hrelease haddition hremoval
  exact h.of_same hnodes hendpoints hnext

/-- A graph that is healthy after a change still had a revision to give. -/
theorem perform_room {g : Graph} (hhealthy : (perform g call).health = .healthy)
    (hchanged : (effect call g.toTables).2 = .changed) : g.revision ≠ uint64Max := by
  intro hfull
  obtain ⟨hbefore, -⟩ := perform_healthy hhealthy
  rw [perform_eq] at hhealthy
  unfold mutate at hhealthy
  rw [if_neg (by simp [hbefore])] at hhealthy
  rcases heffect : effect call g.toTables with ⟨t, outcome⟩
  rw [heffect] at hchanged
  have houtcome : outcome = .changed := hchanged
  rw [heffect,houtcome] at hhealthy
  simp only [if_pos hfull] at hhealthy
  cases hhealthy

/-- A call that moves no endpoint keeps the balance. -/
theorem Balanced.next (h : Balanced s.toTables s.released) (henabled : machine.enabled s call)
    (hhome : ¬ Rehomes s call) (hhealthy : (perform s.toGraph call).health = .healthy) :
    Balanced (machine.next s call).toTables (machine.next s call).released := by
  obtain ⟨hbefore, hvalid, htables⟩ := perform_accepted hhealthy
  change Balanced (perform s.toGraph call).toTables (releasedBy s call)
  rw [htables]
  cases call with
  | applyParticipant guidPrefix change =>
    exact h.foreign (by simp) (by simp) (by simp) (by simp)
  | applyEndpoint guid told change =>
    exact h.foreign (by simp) (by simp) (by simp) (by simp)
  | applyRemoteNodes guidPrefix nodes =>
    exact h.foreign (by simp) (by simp) (by simp) (by simp)
  | addLocalNode name nodeNamespace => exact h.addition name nodeNamespace hvalid
  | releaseLocalNode id =>
    have hout : id ∉ s.released := fun hin => henabled id hin rfl
    simp only [releasedBy,effect]
    by_cases hid : id = 0
    · have hnone : ¬ (0 < id ∧ id ≤ s.nextLocalNodeId) := fun hrange => hrange.1.ne' hid
      rw [if_pos hid,if_neg hnone]
      exact h
    · rw [if_neg hid]
      exact h.release hid hout
  | addLocalEndpoint guid told nodeId =>
    have hchanged := perform_room hhealthy
    simp only [effect] at hchanged hvalid ⊢
    by_cases hid : nodeId = 0
    · rw [if_pos hid]
      exact h
    · rw [if_neg hid] at hchanged hvalid ⊢
      refine h.addEndpoint hvalid fun houtcome e hfound => ?_
      by_contra hother
      have hnode : (s.localNodes.find nodeId).isSome = true := by
        cases hfound' : s.localNodes.find nodeId with
        | none =>
          unfold localEndpointAddition at houtcome
          rw [hfound'] at houtcome
          cases houtcome
        | some node => rfl
      refine hhome ⟨hbefore,hchanged houtcome,hid,hnode,?_⟩
      rw [hfound]
      exact decide_eq_true hother
  | removeLocalEndpoint guid => exact h.removeEndpoint guid

/-- Moving an endpoint to another node spoils the count. -/
theorem rehoming_spoils (hcounted : s.health = .healthy → Counted s) (hrehomes : Rehomes s call) :
    ¬ ((machine.next s call).health = .healthy → Counted (machine.next s call)) := by
  cases call with
  | addLocalEndpoint guid told nodeId =>
    obtain ⟨hhealthy, hroom, hid, hnode, hmoves⟩ := hrehomes
    have hbefore := hcounted hhealthy
    obtain ⟨found, hfound⟩ : ∃ found, s.localEndpoints.find guid = some found := by
      cases hendpoint : s.localEndpoints.find guid with
      | none =>
        rw [hendpoint] at hmoves
        cases hmoves
      | some found => exact ⟨found,rfl⟩
    obtain ⟨node, hpresent⟩ := Option.isSome_iff_exists.mp hnode
    rw [hfound] at hmoves
    have hother : found.nodeId ≠ nodeId := of_decide_eq_true hmoves
    have hchange : effect (.addLocalEndpoint guid told nodeId) s.toTables =
        ({ s.toTables with
            localEndpoints := s.localEndpoints.put
              ⟨found.guid,told.kind,told.topic,told.type,told.qos,nodeId⟩ },.changed) := by
      simp only [effect,if_neg hid,localEndpointAddition,hpresent,hfound]
      exact if_neg fun hsame => hother hsame.2.2.2
    have hnext : perform s.toGraph (.addLocalEndpoint guid told nodeId) =
        notify { s.toGraph with
          localEndpoints := s.localEndpoints.put
            ⟨found.guid,told.kind,told.topic,told.type,told.qos,nodeId⟩
          revision := s.revision + 1 } := by
      rw [perform_eq]
      unfold mutate
      rw [if_neg fun hill => hill hhealthy,hchange]
      exact if_neg hroom
    intro hafter
    have hcounted' := hafter (by
      change (perform s.toGraph (.addLocalEndpoint guid told nodeId)).health = .healthy
      rw [hnext]
      exact hhealthy)
    have htables : (machine.next s (.addLocalEndpoint guid told nodeId)).toTables =
        { s.toTables with
          localEndpoints := s.localEndpoints.put
            ⟨found.guid,told.kind,told.topic,told.type,told.qos,nodeId⟩ } := by
      change (perform s.toGraph (.addLocalEndpoint guid told nodeId)).toTables = _
      rw [hnext]
      rfl
    -- The node that is left still counts the endpoint.
    have hguid : found.guid = guid := Records.key_of_find hfound
    obtain ⟨old, hold⟩ := Option.isSome_iff_exists.mp
      (hbefore.carried found (Records.find_eq_some.mp hfound).1)
    obtain ⟨hmem, hkey⟩ := Records.find_eq_some.mp hold
    have hkey' : old.id = found.nodeId := hkey
    have hreferences := hbefore.references old hmem
    have hreferences' := hcounted'.references old (by rw [htables]; exact hmem)
    rw [htables] at hreferences'
    have hput := Records.countP_put_old
      (r := ⟨found.guid,told.kind,told.topic,told.type,told.qos,nodeId⟩)
      (fun e : LocalEndpointRecord => e.nodeId = old.id) (hguid.symm ▸ hfound)
    simp only [decide_eq_true_eq,hkey',if_pos,if_neg (Ne.symm hother)] at hput
    have hfacades : facades { s.toTables with
        localEndpoints := s.localEndpoints.put
          ⟨found.guid,told.kind,told.topic,told.type,told.qos,nodeId⟩ }
        (machine.next s (.addLocalEndpoint guid told nodeId)).released old.id =
          facades s.toTables s.released old.id := rfl
    rw [hfacades] at hreferences'
    unfold carriers at hreferences hreferences'
    rw [hkey'] at hreferences hreferences'
    dsimp only at hreferences'
    omega
  | applyParticipant guidPrefix change => exact absurd hrehomes id
  | applyEndpoint guid told change => exact absurd hrehomes id
  | applyRemoteNodes guidPrefix nodes => exact absurd hrehomes id
  | addLocalNode name nodeNamespace => exact absurd hrehomes id
  | releaseLocalNode id' => exact absurd hrehomes id
  | removeLocalEndpoint guid => exact absurd hrehomes id

/-- A graph without nodes is balanced. -/
theorem balanced_initial : Balanced Shared.initial.toTables Shared.initial.released where
  references := by
    intro id
    have hnone : facades Shared.initial.toTables Shared.initial.released id = 0 := by
      refine if_neg fun hissued => ?_
      have hbound : id ≤ 0 := hissued.2.1
      omega
    rw [hnone]
    rfl
  positive := fun _ hmem => absurd hmem List.not_mem_nil
  issued := fun _ hmem => absurd hmem List.not_mem_nil
  past := fun _ hmem => absurd hmem List.not_mem_nil

/-- Runs that move no endpoint keep the balance while the graph is healthy. -/
theorem balanced_run {calls : List GraphCall}
    (hrun : machine.RunWhen (fun s call => ¬ Rehomes s call) .initial calls s) :
    s.health = .healthy → Balanced s.toTables s.released :=
  hrun.invariant (fun s => s.health = .healthy → Balanced s.toTables s.released)
    (fun _ => balanced_initial) fun _ _ hbalanced henabled hhome hhealthy =>
      (hbalanced (perform_accepted hhealthy).1).next henabled hhome hhealthy

/-- Throughout a run, the references of local nodes are counted correctly exactly
if no accepted call moves a local endpoint to another node. -/
theorem counted_iff (calls : List GraphCall) (s : Shared)
    (hrun : machine.Run .initial calls s) :
    machine.Always (fun s => s.health = .healthy → Counted s) .initial calls ↔
      machine.RunWhen (fun s call => ¬ Rehomes s call) .initial calls s := by
  constructor
  · intro halways
    refine hrun.of_always_kept (fun _ => trivial) (fun s call _ hcounted _ hmoves => ?_) halways
    exact rehoming_spoils hcounted (not_not.mp hmoves)
  · intro hhome
    exact hhome.always fun hrun' hhealthy => (balanced_run hrun' hhealthy).counted

/-- A local endpoint. -/
def chatter : Guid := ⟨Vector.replicate 12 1,Vector.replicate 4 1⟩

/-- What it announces. -/
def chatterAnnouncement : Announcement := ⟨.writer,text "rt/chatter",text "String",{}⟩

/-- A node is released before its endpoint, which is registered twice. -/
def outlived : List GraphCall :=
  [.addLocalNode (text "talker") (text "/"),.addLocalEndpoint chatter chatterAnnouncement 1,
    .addLocalEndpoint chatter chatterAnnouncement 1,.releaseLocalNode 1,
    .removeLocalEndpoint chatter]

/-- The references are counted throughout that run. -/
theorem counted_iff_outlived :
    machine.Always (fun s => s.health = .healthy → Counted s) .initial outlived := by
  have hend : (machine.exec .initial outlived).isSome = true := by decide +kernel
  obtain ⟨s, hexec⟩ := Option.isSome_iff_exists.mp hend
  have hhome : machine.RunWhen (fun s call => ¬ Rehomes s call) .initial outlived s :=
    Machine.runWhen_of_exec (fun s call => decide (¬ Rehomes s call))
      (fun _ _ htest => of_decide_eq_true htest) hexec (by decide +kernel)
  exact (counted_iff outlived s (Machine.run_of_exec hexec)).mpr hhome

/-- An endpoint moves to a second node, which is then released. -/
def moved : List GraphCall :=
  [.addLocalNode (text "talker") (text "/"),.addLocalNode (text "other") (text "/"),
    .addLocalEndpoint chatter chatterAnnouncement 1,
    .addLocalEndpoint chatter chatterAnnouncement 2,.releaseLocalNode 2]

/-- The second node vanishes under its endpoint, and the first one counts an
endpoint that is not its own. -/
theorem moved_miscounted : ∃ s, machine.Run .initial moved s ∧ s.health = .healthy ∧
    s.localNodes.records.map (fun node => (node.id,node.references)) = [(1,2)] ∧
      s.localEndpoints.records.map (·.nodeId) = [2] ∧ ¬ Counted s := by
  have hend : (machine.exec .initial moved).map (fun s => decide (s.health = .healthy ∧
      s.localNodes.records.map (fun node => (node.id,node.references)) = [(1,2)] ∧
        s.localEndpoints.records.map (·.nodeId) = [2])) = some true := by decide +kernel
  obtain ⟨s, hexec, hfinal⟩ := Option.map_eq_some_iff.mp hend
  obtain ⟨hhealthy, hnodes, hendpoints⟩ := of_decide_eq_true hfinal
  refine ⟨s,Machine.run_of_exec hexec,hhealthy,hnodes,hendpoints,fun hcounted => ?_⟩
  obtain ⟨e, hmem, hnode⟩ := List.mem_map.mp (hendpoints ▸ List.mem_singleton.mpr rfl :
    2 ∈ s.localEndpoints.records.map (·.nodeId))
  obtain ⟨node, hfound⟩ := Option.isSome_iff_exists.mp (hcounted.carried e hmem)
  obtain ⟨hmem', hkey⟩ := Records.find_eq_some.mp hfound
  have hid : (node.id,node.references) ∈ [(1,2)] :=
    hnodes ▸ List.mem_map.mpr ⟨node,hmem',rfl⟩
  have hone : node.id = 1 := (Prod.mk.inj (List.mem_singleton.mp hid)).1
  have htwo : node.id = 2 := hkey.trans hnode
  omega

end Dmw.LocalNodeReferences
