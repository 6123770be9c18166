import Dmw.GraphRevision

/-!
# Redundant discovery input

Input that tells the graph nothing it did not know should pass unnoticed. It
does, unless it withdraws what the graph has no matching withdrawn record of,
or repeats an endpoint of a departed participant.
-/

namespace Dmw.GraphRedundancy

open GuardedRuns Identity QosPolicies GraphNames RecordVector DiscoveryGraph GraphCandidates
  GraphSnapshot GraphRevision

/-- What an endpoint record was told. -/
def told (e : EndpointRecord GuidPrefix) : Announcement := ⟨e.kind, e.topic, e.type, e.qos⟩

/-- Metadata nodes stored for a participant. -/
def storedNodes (g : Graph) (guidPrefix : GuidPrefix) : List RemoteNodeRecord :=
  (g.remoteNodes.find guidPrefix).elim [] (·.nodes)

/-- Input that repeats what is stored or withdraws what is not live. -/
def Redundant (g : Graph) : GraphCall → Prop
  | .applyParticipant guidPrefix .added =>
    ∃ r, g.participants.find guidPrefix = some r ∧ r.lifecycle = .added
  | .applyParticipant guidPrefix .removed =>
    ∀ r ∈ g.participants.find guidPrefix, r.lifecycle = .removed
  | .applyEndpoint guid announced .added =>
    ∃ e, g.endpoints.find guid = some e ∧ e.lifecycle = .added ∧ told e = announced
  | .applyEndpoint guid _ .removed => g.endpoint guid ≠ .active
  | .applyRemoteNodes guidPrefix nodes => nodes = storedNodes g guidPrefix
  | _ => False

/-- Nothing moved and nobody was told. -/
structure Unnoticed (g g' : Graph) : Prop where
  /-- The revision stays. -/
  revision : g'.revision = g.revision
  /-- The same endpoints are live. -/
  endpoints : ∀ guid, g'.endpoint guid = .active ↔ g.endpoint guid = .active
  /-- The same nodes are known. -/
  nodes : nodeInfos (atomicView g') = nodeInfos (atomicView g)
  /-- No subscriber is called. -/
  notices : g'.notices = g.notices

/-- The record that redundant input would leave is there already, and the
participant it names did not depart first. -/
def Recorded (g : Graph) : GraphCall → Prop
  | .applyParticipant guidPrefix .removed => (g.participants.find guidPrefix).isSome
  | .applyEndpoint guid _ .added =>
    ∀ r ∈ g.participants.find guid.guidPrefix, r.lifecycle = .added
  | .applyEndpoint guid announced .removed =>
    ∃ e, g.endpoints.find guid = some e ∧ e.lifecycle = .removed ∧ e.kind = announced.kind ∧
      e.topic = announced.topic ∧ e.type = announced.type
  | _ => True

/-- A healthy graph announces every outcome but the idle one. -/
theorem noticed {g : Graph} {call : GraphCall} (hhealthy : g.health = .healthy)
    (hbusy : (effect call g.toTables).2 ≠ .unchanged) : (perform g call).notices ≠ g.notices := by
  rw [perform_eq]
  unfold mutate
  rw [if_neg (by simp [hhealthy])]
  rcases heffect : effect call g.toTables with ⟨t, outcome⟩
  rw [heffect] at hbusy
  cases outcome with
  | unchanged => exact absurd rfl hbusy
  | invalid => simp [notify]
  | changed =>
    dsimp only
    split <;> simp [notify]

/-- An idle call that leaves the tables alone is unnoticed. -/
theorem unnoticed {g : Graph} {call : GraphCall}
    (hidle : effect call g.toTables = (g.toTables, .unchanged)) :
    Unnoticed g (perform g call) := by
  have hsame : perform g call = g := by
    rw [perform_eq]
    unfold mutate
    split
    · rfl
    · rw [hidle]
  rw [hsame]
  exact ⟨rfl, fun _ => Iff.rfl, rfl, rfl⟩

/-- Input goes unnoticed if its effect decides so. -/
theorem unnoticed_iff {g : Graph} {call : GraphCall} {P : Prop} (hhealthy : g.health = .healthy)
    (hidle : P → effect call g.toTables = (g.toTables, .unchanged))
    (hbusy : ¬ P → (effect call g.toTables).2 ≠ .unchanged) :
    Unnoticed g (perform g call) ↔ P := by
  constructor
  · intro hquiet
    by_contra hnot
    exact noticed hhealthy (hbusy hnot) hquiet.notices
  · exact fun h => unnoticed (hidle h)

/-- A report about a participant. -/
theorem participant_unnoticed {g : Graph} {guidPrefix : GuidPrefix} {change : DiscoveryChange}
    (hhealthy : g.health = .healthy) (hredundant : Redundant g (.applyParticipant guidPrefix change)) :
    Unnoticed g (perform g (.applyParticipant guidPrefix change)) ↔
      Recorded g (.applyParticipant guidPrefix change) := by
  cases change with
  | added =>
    obtain ⟨r, hfound, hlifecycle⟩ := hredundant
    refine unnoticed_iff hhealthy (fun _ => ?_) fun hnot => absurd trivial hnot
    simp [effect, participantChange, hfound, hlifecycle]
  | removed =>
    rcases hfound : g.participants.find guidPrefix with - | r
    · refine unnoticed_iff hhealthy (fun hknown => ?_) fun _ => ?_
      · simp [Recorded, hfound] at hknown
      · simp [effect, participantChange, hfound]
    · have hgone : r.lifecycle = .removed := hredundant r hfound
      refine unnoticed_iff hhealthy (fun _ => ?_) fun hnot => ?_
      · simp [effect, participantChange, hfound, hgone]
      · simp [Recorded, hfound] at hnot

/-- The repeated announcement of an endpoint. -/
theorem announcement_unnoticed {g : Graph} {guid : Guid} {announced : Announcement}
    (hlinked : Linked g.toTables) (hhealthy : g.health = .healthy)
    (hredundant : Redundant g (.applyEndpoint guid announced .added)) :
    Unnoticed g (perform g (.applyEndpoint guid announced .added)) ↔
      Recorded g (.applyEndpoint guid announced .added) := by
  obtain ⟨e, hfound, hlifecycle, rfl⟩ := hredundant
  obtain ⟨hmem, rfl⟩ := Records.find_eq_some.mp hfound
  obtain ⟨hpointer, hknown⟩ := hlinked e hmem
  rw [hpointer] at hknown
  obtain ⟨r, hr⟩ := Option.isSome_iff_exists.mp hknown
  have hrecorded : Recorded g (.applyEndpoint e.guid (told e) .added) ↔ r.lifecycle = .added := by
    simp [Recorded, hr]
  rw [hrecorded]
  refine unnoticed_iff hhealthy (fun hpresent => ?_) fun hgone => ?_
  · simp [effect, endpointChange, participantFor, recordEndpoint, hr, hfound, hpresent,
      hlifecycle, told]
  · have hremoved : r.lifecycle = .removed := by
      cases hcase : r.lifecycle with
      | added => exact absurd hcase hgone
      | removed => rfl
    simp [effect, endpointChange, participantFor, recordEndpoint, hr, hremoved]

/-- The withdrawal of an endpoint that is not live. -/
theorem withdrawal_unnoticed {g : Graph} {guid : Guid} {announced : Announcement}
    (hlinked : Linked g.toTables) (hhealthy : g.health = .healthy) :
    Unnoticed g (perform g (.applyEndpoint guid announced .removed)) ↔
      Recorded g (.applyEndpoint guid announced .removed) := by
  rcases hfound : g.endpoints.find guid with - | e
  · refine unnoticed_iff hhealthy (fun hrecorded => ?_) fun _ => ?_
    · simp [Recorded, hfound] at hrecorded
    · -- A first sight is a change, whether or not its participant is new.
      rcases participantFor_cases guid.guidPrefix g.toTables with ⟨r, hr, heq⟩ | ⟨hnone, heq⟩ <;>
        simp [effect, endpointChange, heq, recordEndpoint, hfound]
  · obtain ⟨hmem, hguid⟩ := Records.find_eq_some.mp hfound
    obtain ⟨hpointer, hknown⟩ := hlinked e hmem
    rw [hpointer, hguid] at hknown
    obtain ⟨r, hr⟩ := Option.isSome_iff_exists.mp hknown
    have hstep : effect (.applyEndpoint guid announced .removed) g.toTables =
        recordEndpoint guid announced .removed r g.toTables := by
      simp [effect, endpointChange, participantFor, hr]
    have hrecorded : Recorded g (.applyEndpoint guid announced .removed) ↔
        e.kind = announced.kind ∧ e.topic = announced.topic ∧ e.type = announced.type ∧
          e.lifecycle = .removed := by
      simp only [Recorded, hfound, Option.some.injEq, exists_eq_left']
      tauto
    rw [hrecorded]
    refine unnoticed_iff hhealthy (fun hsame => ?_) fun hdiffers => ?_
    · rw [hstep]
      simp [recordEndpoint, hfound, hsame]
    · rw [hstep]
      simp [recordEndpoint, hfound, hdiffers]

/-- Metadata that equals the stored one. -/
theorem metadata_unnoticed {g : Graph} {guidPrefix : GuidPrefix} {nodes : List RemoteNodeRecord}
    (hredundant : Redundant g (.applyRemoteNodes guidPrefix nodes)) :
    Unnoticed g (perform g (.applyRemoteNodes guidPrefix nodes)) := by
  have hstored : nodes = storedNodes g guidPrefix := hredundant
  refine unnoticed ?_
  rcases hfound : g.remoteNodes.find guidPrefix with - | found <;>
    simp [effect, remoteNodesChange, hfound, hstored, storedNodes]

/-- Redundant input to a reachable healthy graph goes unnoticed exactly where
the record it would leave is there already, under a participant that did not
depart first. -/
theorem redundant_unnoticed_iff (calls : List GraphCall) (g : Graph) (call : GraphCall)
    (hrun : machine.Run .initial calls g) (hhealthy : g.health = .healthy)
    (hredundant : Redundant g call) : Unnoticed g (perform g call) ↔ Recorded g call := by
  have hlinked := linked_run hrun
  cases call with
  | applyParticipant guidPrefix change => exact participant_unnoticed hhealthy hredundant
  | applyEndpoint guid announced change =>
    cases change with
    | added => exact announcement_unnoticed hlinked hhealthy hredundant
    | removed => exact withdrawal_unnoticed hlinked hhealthy
  | applyRemoteNodes guidPrefix nodes =>
    exact ⟨fun _ => trivial, fun _ => metadata_unnoticed hredundant⟩
  | _ => exact hredundant.elim

/-- A participant and what one of its writers announces. -/
def samplePrefix : GuidPrefix := Vector.replicate 12 1

/-- GUID of that writer. -/
def sampleWriter : Guid := ⟨samplePrefix, Vector.replicate 4 1⟩

/-- Announcement of that writer. -/
def sampleAnnouncement : Announcement := ⟨.writer, text "rt/chatter", text "String", {}⟩

/-- A writer is announced and withdrawn. -/
def withdrawn : List GraphCall :=
  [.applyEndpoint sampleWriter sampleAnnouncement .added,
    .applyEndpoint sampleWriter sampleAnnouncement .removed]

/-- The same withdrawal a second time. -/
theorem redundant_unnoticed_iff_withdrawn :
    ∃ g, machine.exec .initial withdrawn = some g ∧
      (Unnoticed g (perform g (.applyEndpoint sampleWriter sampleAnnouncement .removed)) ↔
        Recorded g (.applyEndpoint sampleWriter sampleAnnouncement .removed)) := by
  have hend : (machine.exec .initial withdrawn).map (fun g =>
      decide (g.health = .healthy ∧ g.endpoint sampleWriter ≠ .active)) = some true := by decide
  obtain ⟨g, hexec, hfinal⟩ := Option.map_eq_some_iff.mp hend
  obtain ⟨hhealthy, hgone⟩ := of_decide_eq_true hfinal
  exact ⟨g, hexec, redundant_unnoticed_iff withdrawn g _ (Machine.run_of_exec hexec) hhealthy hgone⟩

/-- The withdrawal of an endpoint nobody announced moves the revision. -/
theorem unknown_withdrawal_noticed :
    ¬ ∀ calls g call, machine.Run .initial calls g → g.health = .healthy → Redundant g call →
      Unnoticed g (perform g call) := by
  intro hclaim
  have hgone : Graph.initial.endpoint sampleWriter ≠ .active := by decide
  have hquiet := hclaim [] .initial (.applyEndpoint sampleWriter sampleAnnouncement .removed) .nil
    rfl hgone
  have hmoved : (perform .initial (.applyEndpoint sampleWriter sampleAnnouncement .removed)).revision
      = 1 := by decide
  have hstays := hquiet.revision
  rw [hmoved] at hstays
  cases hstays

end Dmw.GraphRedundancy
