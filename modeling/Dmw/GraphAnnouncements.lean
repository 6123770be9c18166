import Dmw.GraphRedundancy

/-!
# The latest announcement

The record of an endpoint should be what the endpoint said last. A report is
compared with the record by kind, topic and type only, so an endpoint that
changes nothing but its QoS keeps the old one, and a local endpoint registered
without a node is not looked at.
-/

namespace Dmw.GraphAnnouncements

open GuardedRuns Identity QosPolicies GraphNames RecordVector DiscoveryGraph GraphCandidates
  GraphRedundancy

/-- What a call announces about a discovered endpoint. -/
def announcedBy (guid : Guid) : GraphCall → Option Announcement
  | .applyEndpoint guid' announced .added => if guid' = guid then some announced else none
  | _ => none

/-- What a call registers about a local endpoint, with its node. -/
def registeredBy (guid : Guid) : GraphCall → Option (Announcement × ℕ)
  | .addLocalEndpoint guid' announced nodeId =>
    if guid' = guid then some (announced, nodeId) else none
  | _ => none

/-- The most recent answer of a history. -/
def latest {α : Type} (read : GraphCall → Option α) (calls : List GraphCall) : Option α :=
  calls.reverse.findSome? read

/-- One more call answers first. -/
theorem latest_append {α : Type} (read : GraphCall → Option α) (calls : List GraphCall)
    (call : GraphCall) : latest read (calls ++ [call]) = (read call).or (latest read calls) := by
  unfold latest
  rw [List.reverse_append, List.reverse_singleton, List.singleton_append, List.findSome?_cons]
  cases read call <;> rfl

/-- What a local endpoint record was told. -/
def registration (e : LocalEndpointRecord) : Announcement × ℕ :=
  (⟨e.kind, e.topic, e.type, e.qos⟩, e.nodeId)

/-- What a view says an endpoint was told. -/
def viewed (e : EndpointRecord (Option ParticipantRecord)) : Announcement :=
  ⟨e.kind, e.topic, e.type, e.qos⟩

/-- Every live record carries the latest announcement of its endpoint, every
local one the latest registration. -/
structure HoldsLatest (calls : List GraphCall) (v : FollowedView) : Prop where
  /-- Discovered endpoints. -/
  endpoints : ∀ e ∈ v.endpoints.records, EndpointLive e →
    latest (announcedBy e.guid) calls = some (viewed e)
  /-- Local endpoints. -/
  localEndpoints : ∀ e ∈ v.localEndpoints.records,
    latest (registeredBy e.guid) calls = some (registration e)

/-- A call that repeats kind, topic and type of a record repeats its QoS too,
and no record is registered again without a node. -/
def SaysAll (g : Graph) : GraphCall → Prop
  | .applyEndpoint guid announced .added =>
    ∀ e ∈ g.endpoints.find guid,
      e.kind = announced.kind ∧ e.topic = announced.topic ∧ e.type = announced.type →
        e.qos = announced.qos
  | .addLocalEndpoint guid announced nodeId =>
    ∀ e ∈ g.localEndpoints.find guid,
      nodeId ≠ 0 ∧
        (e.kind = announced.kind ∧ e.topic = announced.topic ∧ e.type = announced.type ∧
          e.nodeId = nodeId → e.qos = announced.qos)
  | _ => True

/-- What an accepted report leaves of the endpoint records. -/
theorem mem_recordEndpoint {t : Tables} {guid : Guid} {announced : Announcement}
    {change : DiscoveryChange} {participant : ParticipantRecord}
    (haccepted : (recordEndpoint guid announced change participant t).2 ≠ .invalid)
    {e : EndpointRecord GuidPrefix}
    (he : e ∈ (recordEndpoint guid announced change participant t).1.endpoints.records) :
    e ∈ t.endpoints.records ∧ e.guid ≠ guid ∨
      e.guid = guid ∧ e.lifecycle = change ∧
        (told e = announced ∨
          t.endpoints.find guid = some e ∧ e.kind = announced.kind ∧ e.topic = announced.topic ∧
            e.type = announced.type) := by
  unfold recordEndpoint at haccepted he
  split at he
  · next hgone => simp [hgone] at haccepted
  · next hpresent =>
    rw [if_neg hpresent] at haccepted
    split at he
    · rcases Records.mem_put.mp he with rfl | hold
      · exact Or.inr ⟨rfl, rfl, Or.inl rfl⟩
      · exact Or.inl hold
    · next found hfound =>
      obtain ⟨hmem, hguid⟩ := Records.find_eq_some.mp hfound
      split at he
      · next hremoved => simp [hfound, hremoved] at haccepted
      · split at he
        · next hsame =>
          by_cases hown : e.guid = guid
          · have heq : e = found := by
              have hfinds := Records.find_key he
              rw [hown, hfound] at hfinds
              exact (Option.some.inj hfinds).symm
            subst heq
            exact Or.inr ⟨hown, hsame.2.2.2, Or.inr ⟨hfound, hsame.1, hsame.2.1, hsame.2.2.1⟩⟩
          · exact Or.inl ⟨he, hown⟩
        · rcases Records.mem_put.mp he with rfl | ⟨hold, hother⟩
          · exact Or.inr ⟨hguid, rfl, Or.inl rfl⟩
          · exact Or.inl ⟨hold, hguid ▸ hother⟩

/-- What an accepted registration leaves of the local records. -/
theorem mem_localEndpointAddition {t : Tables} {guid : Guid} {announced : Announcement}
    {nodeId : ℕ} (haccepted : (localEndpointAddition guid announced nodeId t).2 ≠ .invalid)
    {e : LocalEndpointRecord}
    (he : e ∈ (localEndpointAddition guid announced nodeId t).1.localEndpoints.records) :
    e ∈ t.localEndpoints.records ∧ e.guid ≠ guid ∨
      e.guid = guid ∧
        (registration e = (announced, nodeId) ∨
          t.localEndpoints.find guid = some e ∧ e.kind = announced.kind ∧
            e.topic = announced.topic ∧ e.type = announced.type ∧ e.nodeId = nodeId) := by
  unfold localEndpointAddition at haccepted he
  split at he
  · next hnone => simp [hnone] at haccepted
  · split at he
    · next found hfound =>
      obtain ⟨hmem, hguid⟩ := Records.find_eq_some.mp hfound
      split at he
      · next hsame =>
        by_cases hown : e.guid = guid
        · have heq : e = found := by
            have hfinds := Records.find_key he
            rw [hown, hfound] at hfinds
            exact (Option.some.inj hfinds).symm
          subst heq
          exact Or.inr ⟨hown, Or.inr ⟨hfound, hsame⟩⟩
        · exact Or.inl ⟨he, hown⟩
      · rcases Records.mem_put.mp he with rfl | ⟨hold, hother⟩
        · exact Or.inr ⟨hguid, Or.inl rfl⟩
        · exact Or.inl ⟨hold, hguid ▸ hother⟩
    · rcases Records.mem_put.mp he with rfl | hold
      · exact Or.inr ⟨rfl, Or.inl rfl⟩
      · exact Or.inl hold

/-- The tables hold what was said last. An endpoint that was withdrawn once is
never announced again. -/
structure Remembers (calls : List GraphCall) (t : Tables) : Prop where
  /-- Discovered endpoints that were not withdrawn. -/
  endpoints : ∀ e ∈ t.endpoints.records, e.lifecycle = .added →
    latest (announcedBy e.guid) calls = some (told e)
  /-- Local endpoints. -/
  localEndpoints : ∀ e ∈ t.localEndpoints.records,
    latest (registeredBy e.guid) calls = some (registration e)

/-- A call that announces nothing of an endpoint leaves the latest answer. -/
theorem latest_skip {α : Type} {read : GraphCall → Option α} {calls : List GraphCall}
    {call : GraphCall} (hnone : read call = none) :
    latest read (calls ++ [call]) = latest read calls := by
  rw [latest_append, hnone, Option.none_or]

/-- A call that announces something gives the latest answer. -/
theorem latest_answer {α : Type} {read : GraphCall → Option α} {calls : List GraphCall}
    {call : GraphCall} {answer : α} (hsome : read call = some answer) :
    latest read (calls ++ [call]) = some answer := by
  rw [latest_append, hsome, Option.some_or]

/-- A report about an endpoint that says all is remembered. -/
theorem remembers_endpoint {t : Tables} {calls : List GraphCall} {guid : Guid}
    {announced : Announcement} {change : DiscoveryChange} (h : Remembers calls t)
    (haccepted : (endpointChange guid announced change t).2 ≠ .invalid)
    (hall : change = .added → ∀ e ∈ t.endpoints.find guid,
      e.kind = announced.kind ∧ e.topic = announced.topic ∧ e.type = announced.type →
        e.qos = announced.qos) :
    ∀ e ∈ (endpointChange guid announced change t).1.endpoints.records, e.lifecycle = .added →
      latest (announcedBy e.guid) (calls ++ [.applyEndpoint guid announced change]) =
        some (told e) := by
  intro e he hadded
  have hendpoints := (participantFor_frame guid.guidPrefix t).1
  rw [endpointChange_eq] at he haccepted
  rcases mem_recordEndpoint haccepted he with ⟨hold, hother⟩ | ⟨hown, hlifecycle, hsaid⟩
  · rw [hendpoints] at hold
    have hsilent : announcedBy e.guid (.applyEndpoint guid announced change) = none := by
      cases change with
      | added => exact if_neg (Ne.symm hother)
      | removed => rfl
    rw [latest_skip hsilent]
    exact h.endpoints e hold hadded
  · obtain rfl : change = .added := hlifecycle.symm.trans hadded
    have hanswer : announcedBy e.guid (.applyEndpoint guid announced .added) = some announced :=
      if_pos hown.symm
    rw [latest_answer hanswer]
    rcases hsaid with htold | ⟨hfound, hkind, htopic, htype⟩
    · rw [htold]
    · rw [hendpoints] at hfound
      have hqos := hall rfl e hfound ⟨hkind, htopic, htype⟩
      rw [told, hkind, htopic, htype, hqos]

/-- A registration that says all is remembered. -/
theorem remembers_registration {t : Tables} {calls : List GraphCall} {guid : Guid}
    {announced : Announcement} {nodeId : ℕ} (h : Remembers calls t)
    (haccepted : (effect (.addLocalEndpoint guid announced nodeId) t).2 ≠ .invalid)
    (hall : ∀ e ∈ t.localEndpoints.find guid,
      nodeId ≠ 0 ∧
        (e.kind = announced.kind ∧ e.topic = announced.topic ∧ e.type = announced.type ∧
          e.nodeId = nodeId → e.qos = announced.qos)) :
    ∀ e ∈ (effect (.addLocalEndpoint guid announced nodeId) t).1.localEndpoints.records,
      latest (registeredBy e.guid) (calls ++ [.addLocalEndpoint guid announced nodeId]) =
        some (registration e) := by
  intro e he
  have hsilent : e.guid ≠ guid →
      registeredBy e.guid (.addLocalEndpoint guid announced nodeId) = none :=
    fun hother => if_neg (Ne.symm hother)
  by_cases hid : nodeId = 0
  · have hstay : effect (.addLocalEndpoint guid announced nodeId) t = (t, .unchanged) :=
      if_pos hid
    rw [hstay] at he
    have hother : e.guid ≠ guid := by
      intro hown
      exact (hall e (hown ▸ Records.find_key he)).1 hid
    rw [latest_skip (hsilent hother)]
    exact h.localEndpoints e he
  · have hstep : effect (.addLocalEndpoint guid announced nodeId) t =
        localEndpointAddition guid announced nodeId t := if_neg hid
    rw [hstep] at he haccepted
    rcases mem_localEndpointAddition haccepted he with ⟨hold, hother⟩ | ⟨hown, hsaid⟩
    · rw [latest_skip (hsilent hother)]
      exact h.localEndpoints e hold
    · have hanswer : registeredBy e.guid (.addLocalEndpoint guid announced nodeId) =
          some (announced, nodeId) := if_pos hown.symm
      rw [latest_answer hanswer]
      rcases hsaid with htold | ⟨hfound, hsame⟩
      · rw [htold]
      · have hqos := (hall e hfound).2 hsame
        obtain ⟨hkind, htopic, htype, hnode⟩ := hsame
        rw [registration, hkind, htopic, htype, hnode, hqos]

/-- Calls that say all keep the graph's memory. -/
theorem Remembers.step {g : Graph} {calls : List GraphCall} {call : GraphCall}
    (h : Remembers calls g.toTables) (hall : SaysAll g call)
    (hhealthy : (perform g call).health = .healthy) :
    Remembers (calls ++ [call]) (perform g call).toTables := by
  obtain ⟨-, haccepted, htables⟩ := perform_accepted hhealthy
  rw [htables]
  have hendpoints : (∀ guid announced change, call ≠ .applyEndpoint guid announced change) →
      ∀ e ∈ (effect call g.toTables).1.endpoints.records, e.lifecycle = .added →
        latest (announcedBy e.guid) (calls ++ [call]) = some (told e) := by
    intro hcall e he hadded
    have hsilent : announcedBy e.guid call = none := by
      cases call with
      | applyEndpoint guid announced change => exact absurd rfl (hcall guid announced change)
      | _ => rfl
    rw [effect_endpoints hcall] at he
    rw [latest_skip hsilent]
    exact h.endpoints e he hadded
  have hlocal : (∀ guid announced nodeId, call ≠ .addLocalEndpoint guid announced nodeId) →
      ∀ e ∈ (effect call g.toTables).1.localEndpoints.records,
        latest (registeredBy e.guid) (calls ++ [call]) = some (registration e) := by
    intro hcall e he
    have hsilent : registeredBy e.guid call = none := by
      cases call with
      | addLocalEndpoint guid announced nodeId => exact absurd rfl (hcall guid announced nodeId)
      | _ => rfl
    have hold : e ∈ g.localEndpoints.records := by
      cases call with
      | removeLocalEndpoint guid => exact localEndpointRemoval_localEndpoints guid _ he
      | addLocalEndpoint guid announced nodeId => exact absurd rfl (hcall guid announced nodeId)
      | _ => rwa [effect_localEndpoints (by simp) (by simp)] at he
    rw [latest_skip hsilent]
    exact h.localEndpoints e hold
  cases call with
  | applyEndpoint guid announced change =>
    refine ⟨remembers_endpoint h haccepted fun hadded => ?_, hlocal (by simp)⟩
    subst hadded
    exact hall
  | addLocalEndpoint guid announced nodeId =>
    exact ⟨hendpoints (by simp), remembers_registration h haccepted hall⟩
  | _ => exact ⟨hendpoints (by simp), hlocal (by simp)⟩

/-- A graph that stays healthy while every call says all remembers what was
said last. -/
theorem Remembers.run {calls : List GraphCall} {g : Graph}
    (hrun : machine.RunWhen SaysAll .initial calls g) (hhealthy : g.health = .healthy) :
    Remembers calls g.toTables := by
  induction hrun with
  | nil =>
    constructor <;> intro e he <;> simp [Graph.initial, Records.empty] at he
  | snoc hprev _ hall ih => exact (ih (perform_accepted hhealthy).1).step hall hhealthy

/-- In a run whose calls say all, every view carries the latest announcement of
each live endpoint and the latest registration of each local one. -/
theorem holds_latest (calls : List GraphCall) (g : Graph)
    (hrun : machine.RunWhen SaysAll .initial calls g) (hhealthy : g.health = .healthy) :
    HoldsLatest calls (atomicView g) := by
  have hremembers := Remembers.run hrun hhealthy
  refine ⟨fun e he hlive => ?_, hremembers.localEndpoints⟩
  obtain ⟨r, hr, rfl⟩ := List.mem_map.mp he
  refine hremembers.endpoints r hr ?_
  cases hcase : r.lifecycle with
  | added => rfl
  | removed => exact absurd hcase hlive.1

/-- The writer is announced under another type, and announced again. -/
def retyped : List GraphCall :=
  [.applyEndpoint sampleWriter sampleAnnouncement .added,
    .applyEndpoint sampleWriter { sampleAnnouncement with type := text "Int32" } .added,
    .applyEndpoint sampleWriter { sampleAnnouncement with type := text "Int32" } .added]

/-- A test that is enough for a discovered endpoint to say all. -/
def saysAll (g : Graph) : GraphCall → Bool
  | .applyEndpoint guid announced .added =>
    (g.endpoints.find guid).all fun e => e.qos = announced.qos
  | .addLocalEndpoint _ _ _ => false
  | _ => true

/-- The test is enough. -/
theorem saysAll_sufficient (g : Graph) (call : GraphCall) (h : saysAll g call = true) :
    SaysAll g call := by
  cases call with
  | applyEndpoint guid announced change =>
    cases change with
    | added =>
      intro e he _
      rw [Option.mem_def] at he
      simpa [saysAll, he] using h
    | removed => trivial
  | addLocalEndpoint guid announced nodeId => cases h
  | _ => trivial

/-- The law where the QoS stays. -/
theorem holds_latest_retyped :
    ∃ g, machine.exec .initial retyped = some g ∧ HoldsLatest retyped (atomicView g) := by
  have hend : (machine.exec .initial retyped).map (fun g => decide (g.health = .healthy)) =
      some true := by decide
  obtain ⟨g, hexec, hhealthy⟩ := Option.map_eq_some_iff.mp hend
  refine ⟨g, hexec, holds_latest retyped g ?_ (of_decide_eq_true hhealthy)⟩
  exact Machine.runWhen_of_exec saysAll saysAll_sufficient hexec (by decide)

/-- The writer is announced again with another reliability. -/
def requalified : List GraphCall :=
  [.applyEndpoint sampleWriter sampleAnnouncement .added,
    .applyEndpoint sampleWriter { sampleAnnouncement with qos := { reliability := .reliable } } .added]

/-- The view keeps the QoS of the first announcement. -/
theorem requalified_forgotten :
    ¬ ∀ calls g, machine.Run .initial calls g → g.health = .healthy →
      HoldsLatest calls (atomicView g) := by
  intro hclaim
  have hend : (machine.exec .initial requalified).map (fun g =>
      decide (g.health = .healthy ∧ ∃ e ∈ (atomicView g).endpoints.records, EndpointLive e ∧
        latest (announcedBy e.guid) requalified ≠ some (viewed e))) = some true := by decide
  obtain ⟨g, hexec, hfinal⟩ := Option.map_eq_some_iff.mp hend
  obtain ⟨hhealthy, e, he, hlive, hdiffers⟩ := of_decide_eq_true hfinal
  exact hdiffers ((hclaim requalified g (Machine.run_of_exec hexec) hhealthy).endpoints e he hlive)

end Dmw.GraphAnnouncements
