import Dmw.GraphRevision

/-!
# Views that are read while the graph changes

A view copies pointers to the records of the participants. They are followed
one endpoint after the other, after the graph mutex was released, so a
departure in between is seen by the endpoints that are still to be read and by
no others.
-/

namespace Dmw.ViewReadings

open Identity GraphNames RecordVector DiscoveryGraph GraphCandidates GraphSnapshot

/-- A view whose endpoints are being read. -/
structure Reading where
  /-- What was copied. -/
  view : GraphView GuidPrefix
  /-- Endpoints whose pointers are still to be followed. -/
  unread : List (EndpointRecord GuidPrefix)
  /-- What was behind the pointers of the others. -/
  found : Guid → Option ParticipantRecord

namespace Reading

/-- The view was copied. -/
def start (g : Graph) : Reading := ⟨GraphCandidates.view g, g.endpoints.records, fun _ => none⟩

/-- The pointer of the next endpoint is followed, to the record as it is now. -/
def next (g : Graph) (r : Reading) : Reading :=
  match r.unread with
  | [] => r
  | e :: rest =>
    { r with
      unread := rest
      found := Function.update r.found e.guid (g.participants.find e.participant) }

/-- The view as it was read. -/
def followed (r : Reading) : FollowedView := r.view.follow r.found

end Reading

/-- An endpoint of a view that is a candidate while its participant is there. -/
def Shows (mode : RuntimeMode) (v : GraphView GuidPrefix) (e : EndpointRecord GuidPrefix) : Prop :=
  e.lifecycle ≠ .removed ∧ e.topic ≠ graphMetadataTopicName ∧
    toGid e.guid ∉ localGids mode (v.follow fun _ => none) ∧
    (normalizeEndpointName mode e.topic).isSome

/-- The call takes a participant away that was there. -/
def Leaves (g : Graph) (guidPrefix : GuidPrefix) (call : GraphCall) : Prop :=
  call = .applyParticipant guidPrefix .removed ∧ g.health = .healthy ∧
    ∃ record, g.participants.find guidPrefix = some record ∧ record.lifecycle ≠ .removed ∧
      record.generation ≠ uint64Max

section

variable {mode : RuntimeMode} {g past now now' : Graph} {r : Reading} {t : Tables}
  {call : GraphCall} {guidPrefix : GuidPrefix} {record : ParticipantRecord}

/-- Only a departure changes what is stored about a participant. -/
theorem effect_participant (hknown : t.participants.find guidPrefix = some record)
    (hstays : call = .applyParticipant guidPrefix .removed →
      record.lifecycle = .removed ∨ record.generation = uint64Max) :
    (effect call t).1.participants.find guidPrefix = some record := by
  cases call with
  | applyParticipant other change =>
    by_cases hother : guidPrefix = other
    · subst hother
      simp only [effect, participantChange, hknown]
      split
      · exact hknown
      · split
        · next hdeparts =>
          obtain ⟨rfl, hthere⟩ := hdeparts
          rw [if_pos ((hstays rfl).resolve_left hthere)]
          exact hknown
        · exact hknown
    · have hput : ∀ r : ParticipantRecord, r.guidPrefix = other →
          (t.participants.put r).find guidPrefix = some record := by
        rintro r rfl
        rw [Records.find_put, if_neg hother]
        exact hknown
      simp only [effect, participantChange]
      split
      · exact hput _ rfl
      · next found hfound =>
        have hkey : found.guidPrefix = other := Records.key_of_find hfound
        repeat' split
        all_goals first
          | exact hknown
          | exact hput _ hkey
  | applyEndpoint guid told change =>
    simp only [effect, endpointChange_eq]
    rw [(recordEndpoint_frame ..).1]
    rcases participantFor_cases guid.guidPrefix t with ⟨r, -, heq⟩ | ⟨hnone, heq⟩
    · rw [heq]
      exact hknown
    · rw [heq]
      have hother : guidPrefix ≠ guid.guidPrefix := by
        rintro rfl
        rw [hnone] at hknown
        cases hknown
      change (t.participants.put _).find guidPrefix = _
      rw [Records.find_put, if_neg hother]
      exact hknown
  | _ =>
    rw [(effect_discovered (by simp) (by simp)).2]
    exact hknown

/-- So a call that takes nobody away leaves it alone. -/
theorem perform_participant (hknown : (g.participants.find guidPrefix).isSome)
    (hstays : ¬ Leaves g guidPrefix call) :
    (perform g call).participants.find guidPrefix = g.participants.find guidPrefix := by
  obtain ⟨record, hrecord⟩ := Option.isSome_iff_exists.mp hknown
  by_cases hhealthy : g.health = .healthy
  · rcases perform_tables g call with hsame | heffect
    · rw [hsame]
    · rw [heffect, hrecord]
      refine effect_participant hrecord fun hcall => ?_
      by_contra hthere
      obtain ⟨hlifecycle, hgeneration⟩ := not_or.mp hthere
      exact hstays ⟨hcall, hhealthy, record, hrecord, hlifecycle, hgeneration⟩
  · rw [perform_eq, mutate, if_pos hhealthy]

/-- A reading finds behind its pointers what was there when the view was copied:
it did so far, and so it will as things stand. -/
structure Reading.Steady (mode : RuntimeMode) (past now : Graph) (r : Reading) : Prop where
  /-- The view is that of the past graph. -/
  copied : r.view = GraphCandidates.view past
  /-- What was found. -/
  read : ∃ done, past.endpoints.records = done ++ r.unread ∧
    ∀ e ∈ done, Shows mode r.view e → r.found e.guid = past.participants.find e.participant
  /-- What would be found now. -/
  unread : ∀ e ∈ r.unread, Shows mode r.view e →
    now.participants.find e.participant = past.participants.find e.participant

/-- A new reading has found nothing yet. -/
theorem steady_start (mode : RuntimeMode) (g : Graph) : (Reading.start g).Steady mode g g where
  copied := rfl
  read := ⟨[], rfl, fun _ hmem => absurd hmem List.not_mem_nil⟩
  unread := fun _ _ _ => rfl

/-- The next pointer is followed. -/
theorem Reading.Steady.next (h : r.Steady mode past now) : (r.next now).Steady mode past now := by
  obtain ⟨done, hsplit, hdone⟩ := h.read
  unfold Reading.next
  cases hunread : r.unread with
  | nil => exact h
  | cons e rest =>
    rw [hunread] at hsplit
    refine ⟨h.copied, ⟨done ++ [e], ?_, fun e' he' hshows => ?_⟩, fun e' he' => ?_⟩
    · rw [hsplit, List.append_assoc]
      rfl
    · dsimp only
      rcases List.mem_append.mp he' with hold | hlast
      · have hnodup := past.endpoints.nodup
        rw [hsplit, List.map_append] at hnodup
        have hne : e'.guid ≠ e.guid := (List.nodup_append.mp hnodup).2.2 _
          (List.mem_map_of_mem hold) _ List.mem_cons_self
        rw [Function.update_of_ne hne]
        exact hdone e' hold hshows
      · obtain rfl := List.mem_singleton.mp hlast
        rw [Function.update_self]
        exact h.unread e' (hunread ▸ List.mem_cons_self) hshows
    · exact h.unread e' (hunread ▸ List.mem_cons_of_mem e he')

/-- The graph changes, but not behind the pointers that are still to be followed. -/
theorem Reading.Steady.later (h : r.Steady mode past now)
    (hkept : ∀ e ∈ r.unread, Shows mode r.view e →
      now'.participants.find e.participant = now.participants.find e.participant) :
    r.Steady mode past now' :=
  ⟨h.copied, h.read, fun e he hshows => (hkept e he hshows).trans (h.unread e he hshows)⟩

/-- An endpoint that a view does not show is no candidate, whatever is behind its
pointer. -/
theorem candidate_hidden {found : Guid → Option ParticipantRecord} {e : EndpointRecord GuidPrefix}
    {v : GraphView GuidPrefix} (hhidden : ¬ Shows mode v e) (p : Option ParticipantRecord) :
    remoteCandidate mode (v.follow found) (localGids mode (v.follow found))
      (withParticipant e p) = none := by
  rw [Option.eq_none_iff_forall_ne_some]
  intro c hc
  obtain ⟨hlive, htopic, hlocal, normalized, hnormalized, -⟩ := remoteCandidate_eq_some.mp hc
  exact hhidden ⟨hlive.1, htopic, hlocal, Option.isSome_iff_exists.mpr ⟨normalized, hnormalized⟩⟩

/-- Views of one graph give the same candidates when they found the same behind
the pointers that matter. -/
theorem candidates_follow {found found' : Guid → Option ParticipantRecord}
    {v : GraphView GuidPrefix} (hsame : ∀ e ∈ v.endpoints.records, Shows mode v e →
      found e.guid = found' e.guid) :
    collectEndpointCandidates mode (v.follow found) =
      collectEndpointCandidates mode (v.follow found') := by
  have hremotes : (v.follow found).endpoints.records.filterMap
      (remoteCandidate mode (v.follow found) (localGids mode (v.follow found))) =
        (v.follow found').endpoints.records.filterMap
          (remoteCandidate mode (v.follow found') (localGids mode (v.follow found'))) := by
    change (v.endpoints.records.map _).filterMap _ = (v.endpoints.records.map _).filterMap _
    rw [List.filterMap_map, List.filterMap_map]
    refine List.filterMap_congr fun e he => ?_
    simp only [Function.comp_apply]
    by_cases hshows : Shows mode v e
    · rw [hsame e he hshows]
      rfl
    · rw [candidate_hidden hshows, candidate_hidden hshows]
  exact congrArg (_ ++ ·) hremotes

/-- The pointers of an atomic view lead to the records of its graph. -/
theorem atomicView_eq (g : Graph) {found : Guid → Option ParticipantRecord}
    (hfound : ∀ e ∈ g.endpoints.records, found e.guid = g.participants.find e.participant) :
    (GraphCandidates.view g).follow found = atomicView g := by
  have hendpoints : ((GraphCandidates.view g).follow found).endpoints = (atomicView g).endpoints := by
    refine Records.ext_records (List.map_congr_left fun e he => ?_)
    rw [hfound e he]
    rfl
  exact congrArg (fun endpoints => (⟨g.revision, g.participants, endpoints, g.localNodes,
    g.localEndpoints, g.remoteNodes⟩ : FollowedView)) hendpoints

/-- A reading that has come to its end gives the snapshot that the graph had when
the view was copied. -/
theorem Reading.Steady.assembled (h : r.Steady mode past now) (hend : r.unread = []) :
    assembleSnapshot mode r.followed = assembleSnapshot mode (atomicView past) := by
  obtain ⟨done, hsplit, hdone⟩ := h.read
  rw [hend, List.append_nil] at hsplit
  -- what was behind the pointers at the time of the copy
  let behind : Guid → Option ParticipantRecord := fun guid =>
    (past.endpoints.find guid).bind fun e => past.participants.find e.participant
  have hbehind : ∀ e ∈ past.endpoints.records,
      behind e.guid = past.participants.find e.participant := by
    intro e he
    simp only [behind, Records.find_key he, Option.bind_some]
  rw [← atomicView_eq past hbehind, ← h.copied]
  refine assembleSnapshot_congr rfl rfl (candidates_follow fun e he hshows => ?_)
  rw [h.copied] at he
  have hpast : e ∈ past.endpoints.records := he
  rw [hbehind e hpast]
  exact hdone e (hsplit ▸ hpast) hshows

end

end Dmw.ViewReadings
