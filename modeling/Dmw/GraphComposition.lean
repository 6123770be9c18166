import Mathlib.Data.List.TakeWhile
import Dmw.GraphSnapshot

/-!
# Compositions and identities

Services and actions are composed under keys that run participant, name and
composition together. The participant has a fixed width, the rest is told
apart by a separator that peers may use in names. A composition mixes
identities exactly where endpoints that meet under one key fill its places, or
where the participant is cut out of a key at a separator of its own.
-/

namespace Dmw.GraphComposition

open Identity GraphNames RecordVector DiscoveryGraph GraphCandidates GraphSnapshot

/-- A service composition pairs endpoints of one participant, one name and one
composition. -/
def PairsOne (mode : RuntimeMode) (candidates : List EndpointCandidate)
    (info : ServiceEndpointInfo) : Prop :=
  ∃ request ∈ candidates, ∃ response ∈ candidates,
    request.gid = info.requestEndpointGid ∧ response.gid = info.responseEndpointGid ∧
      request.participantKey = response.participantKey ∧
      request.logicalName = response.logicalName ∧
      candidateCompositionKey mode request = candidateCompositionKey mode response

/-- An endpoint holds a place of an action. -/
def HoldsPlace (place : ActionEndpointRole × EndpointKind) (actionName : ByteString)
    (c : EndpointCandidate) : Prop :=
  classifyActionEndpoint ⟨c.logicalName, c.role⟩ = some ⟨actionName, place.1⟩ ∧
    c.nativeKind = place.2

/-- Identifiers name endpoints in all the places of one action of the
participant, in one composition. -/
def ComposesOne (mode : RuntimeMode) (candidates : List EndpointCandidate)
    (places : List (ActionEndpointRole × EndpointKind)) (gids : List Gid)
    (participantKey : ByteString) : Prop :=
  ∃ endpoints : List EndpointCandidate, ∃ actionName compositionKey,
    endpoints.map (·.gid) = gids ∧ List.Forall₂ (HoldsPlace · actionName ·) places endpoints ∧
      ∀ c ∈ endpoints, c ∈ candidates ∧ c.participantKey = participantKey ∧
        candidateCompositionKey mode c = compositionKey

/-- No composition mixes identities. -/
structure NeverMixes (mode : RuntimeMode) (v : FollowedView) : Prop where
  /-- Services. -/
  services : ∀ info ∈ (assembleSnapshot mode v).serviceEndpoints,
    PairsOne mode (collectEndpointCandidates mode v) info
  /-- Action servers. -/
  servers : ∀ c ∈ composeActionCandidates mode (collectEndpointCandidates mode v), c.hasServer →
    ComposesOne mode (collectEndpointCandidates mode v) serverPlaces c.serverGids c.participantKey
  /-- Action clients. -/
  clients : ∀ c ∈ composeActionCandidates mode (collectEndpointCandidates mode v), c.hasClient →
    ComposesOne mode (collectEndpointCandidates mode v) clientPlaces c.clientGids c.participantKey

/-- The last request endpoint and the last response endpoint under one key
have one name and one composition. -/
def ServicesApart (mode : RuntimeMode) (candidates : List EndpointCandidate)
    (requestKind responseKind : EndpointKind) : Prop :=
  ∀ k request response,
    latestIn mode candidates k .serviceRequest requestKind = some request →
      latestIn mode candidates k .serviceResponse responseKind = some response →
        request.logicalName = response.logicalName ∧
          candidateCompositionKey mode request = candidateCompositionKey mode response

/-- The first endpoints under one key, if they fill all places, have one action
name and one composition, and no separator in their participant. -/
def ActionsApart (mode : RuntimeMode) (candidates : List EndpointCandidate)
    (places : List (ActionEndpointRole × EndpointKind)) : Prop :=
  ∀ k endpoints,
    List.Forall₂ (fun place e => firstIn mode candidates k place.1 place.2 = some e)
        places endpoints →
      ∀ e ∈ endpoints, pipe ∉ e.1.participantKey ∧
        ∀ e' ∈ endpoints, e.2.actionName = e'.2.actionName ∧
          candidateCompositionKey mode e.1 = candidateCompositionKey mode e'.1

/-- What meets under a key belongs together. -/
structure KeysApart (mode : RuntimeMode) (candidates : List EndpointCandidate) : Prop where
  /-- Service servers. -/
  serviceServers : ServicesApart mode candidates .reader .writer
  /-- Service clients. -/
  serviceClients : ServicesApart mode candidates .writer .reader
  /-- Action servers. -/
  actionServers : ActionsApart mode candidates serverPlaces
  /-- Action clients. -/
  actionClients : ActionsApart mode candidates clientPlaces

/-- Participants of candidates have a fixed width. -/
theorem participantKey_length {mode : RuntimeMode} {v : FollowedView} {c : EndpointCandidate}
    (hc : c ∈ collectEndpointCandidates mode v) : c.participantKey.length = 12 := by
  obtain ⟨guid, -, hkey⟩ := candidate_guid hc
  rw [hkey, participantKey, Vector.length_toList]

/-- Endpoints that meet under a key share the participant, and what follows it. -/
theorem composedKey_eq {mode : RuntimeMode} {v : FollowedView} {c d : EndpointCandidate}
    {name name' : ByteString} (hc : c ∈ collectEndpointCandidates mode v)
    (hd : d ∈ collectEndpointCandidates mode v)
    (hkey : composedKey mode name c = composedKey mode name' d) :
    c.participantKey = d.participantKey ∧
      name ++ [pipe] ++ candidateCompositionKey mode c =
        name' ++ [pipe] ++ candidateCompositionKey mode d := by
  unfold composedKey at hkey
  simp only [List.append_assoc] at hkey ⊢
  obtain ⟨hparticipant, hrest⟩ := List.append_inj hkey
    ((participantKey_length hc).trans (participantKey_length hd).symm)
  exact ⟨hparticipant, List.append_cancel_left hrest⟩

/-- What is cut at the first separator. -/
theorem takeWhile_separator {start rest : ByteString} (hstart : pipe ∉ start) :
    (start ++ [pipe] ++ rest).takeWhile (· ≠ pipe) = start := by
  rw [List.append_assoc, List.takeWhile_append_of_pos]
  · simp
  · intro octet hoctet
    have hother : octet ≠ pipe := fun heq => hstart (heq ▸ hoctet)
    simpa using hother

/-- Names without a separator are told apart. -/
theorem composedKey_injective {mode : RuntimeMode} {v : FollowedView} {c d : EndpointCandidate}
    {name name' : ByteString} (hc : c ∈ collectEndpointCandidates mode v)
    (hd : d ∈ collectEndpointCandidates mode v) (hname : pipe ∉ name) (hname' : pipe ∉ name')
    (hkey : composedKey mode name c = composedKey mode name' d) :
    c.participantKey = d.participantKey ∧ name = name' ∧
      candidateCompositionKey mode c = candidateCompositionKey mode d := by
  obtain ⟨hparticipant, hrest⟩ := composedKey_eq hc hd hkey
  have heq := congrArg (List.takeWhile (· ≠ pipe)) hrest
  rw [takeWhile_separator hname, takeWhile_separator hname'] at heq
  subst heq
  exact ⟨hparticipant, rfl, List.append_cancel_left hrest⟩

/-- Candidates are told apart by their identifiers. -/
theorem candidate_of_gid {mode : RuntimeMode} {v : FollowedView} {c d : EndpointCandidate}
    (hc : c ∈ collectEndpointCandidates mode v) (hd : d ∈ collectEndpointCandidates mode v)
    (hgid : c.gid = d.gid) : c = d := by
  have hlocal : ∀ {e c}, e ∈ v.localEndpoints.records → localCandidate mode v e = some c →
      c.gid ∈ localGids mode v := by
    intro e c he hcandidate
    exact List.mem_map_of_mem (List.mem_filterMap.mpr ⟨e, he, hcandidate⟩)
  have hremote : ∀ {e c}, remoteCandidate mode v (localGids mode v) e = some c →
      c.gid = toGid e.guid ∧ c.gid ∉ localGids mode v := by
    intro e c hcandidate
    obtain ⟨-, -, hother, n, -, rfl⟩ := remoteCandidate_eq_some.mp hcandidate
    rw [withNode_gid]
    exact ⟨rfl, hother⟩
  rcases mem_collect.mp hc with ⟨e, he, hec⟩ | ⟨e, he, hec⟩ <;>
    rcases mem_collect.mp hd with ⟨e', he', hed⟩ | ⟨e', he', hed⟩
  · have hguid : e.guid = e'.guid := by
      obtain ⟨-, n, -, rfl⟩ := localCandidate_eq_some.mp hec
      obtain ⟨-, n', -, rfl⟩ := localCandidate_eq_some.mp hed
      rw [withNode_gid, withNode_gid] at hgid
      exact toGid_injective hgid
    obtain rfl := Records.eq_of_key he he' hguid
    exact Option.some.inj (hec.symm.trans hed)
  · exact absurd (hgid ▸ hlocal he hec) (hremote hed).2
  · exact absurd (hgid ▸ hlocal he' hed) (hremote hec).2
  · have hguid : e.guid = e'.guid := by
      apply toGid_injective
      rw [← (hremote hec).1, ← (hremote hed).1, hgid]
    obtain rfl := Records.eq_of_key he he' hguid
    exact Option.some.inj (hec.symm.trans hed)

/-- What the last endpoint under a key is. -/
theorem latestIn_spec {mode : RuntimeMode} {candidates : List EndpointCandidate} {k : ByteString}
    {role : GraphEndpointRole} {kind : EndpointKind} {c : EndpointCandidate}
    (hc : latestIn mode candidates k role kind = some c) :
    c ∈ candidates ∧ composedKey mode c.logicalName c = k ∧ c.role = role ∧
      c.nativeKind = kind := by
  obtain ⟨hmem, htest⟩ := List.mem_filter.mp (List.mem_of_getLast? hc)
  exact ⟨hmem, of_decide_eq_true htest⟩

/-- A composition of the last endpoints under a key pairs one identity exactly
where their names and compositions agree. -/
theorem pairsOne_iff {mode : RuntimeMode} {v : FollowedView} {k : ByteString} {kind : CompositionKind}
    {name : ByteString} {requestKind responseKind : EndpointKind}
    {request response : EndpointCandidate}
    (hrequest : latestIn mode (collectEndpointCandidates mode v) k .serviceRequest requestKind =
      some request)
    (hresponse : latestIn mode (collectEndpointCandidates mode v) k .serviceResponse responseKind =
      some response) :
    PairsOne mode (collectEndpointCandidates mode v)
        (serviceEndpointInfo kind name request response) ↔
      request.logicalName = response.logicalName ∧
        candidateCompositionKey mode request = candidateCompositionKey mode response := by
  obtain ⟨hr, hrkey, -, -⟩ := latestIn_spec hrequest
  obtain ⟨hw, hwkey, -, -⟩ := latestIn_spec hresponse
  constructor
  · rintro ⟨r, hrmem, w, hwmem, hrgid, hwgid, -, hname, hcomposition⟩
    obtain rfl := candidate_of_gid hrmem hr hrgid
    obtain rfl := candidate_of_gid hwmem hw hwgid
    exact ⟨hname, hcomposition⟩
  · rintro ⟨hname, hcomposition⟩
    refine ⟨request, hr, response, hw, rfl, rfl, ?_, hname, hcomposition⟩
    exact (composedKey_eq hr hw (hrkey.trans hwkey.symm)).1

/-- Services mix nothing exactly where what meets under a key belongs together. -/
theorem services_iff (mode : RuntimeMode) (v : FollowedView) :
    (∀ info ∈ (assembleSnapshot mode v).serviceEndpoints,
        PairsOne mode (collectEndpointCandidates mode v) info) ↔
      ServicesApart mode (collectEndpointCandidates mode v) .reader .writer ∧
        ServicesApart mode (collectEndpointCandidates mode v) .writer .reader := by
  have hplaces := serviceGroupAt_places mode (collectEndpointCandidates mode v)
  constructor
  · intro hpairs
    constructor
    · intro k request response hrequest hresponse
      obtain ⟨hreader, -, -, hwriter⟩ := hplaces k
      have hserver : (serviceGroupAt mode (collectEndpointCandidates mode v) k).server =
          some (serviceEndpointInfo .server _ request response) := composition_eq_some.mpr
        ⟨request, response, hreader ▸ hrequest, hwriter ▸ hresponse, rfl⟩
      exact (pairsOne_iff hrequest hresponse).mp
        (hpairs _ (mem_serviceEndpoints.mpr ⟨k, Or.inl hserver⟩))
    · intro k request response hrequest hresponse
      obtain ⟨-, hwriter, hreader, -⟩ := hplaces k
      have hclient : (serviceGroupAt mode (collectEndpointCandidates mode v) k).client =
          some (serviceEndpointInfo .client _ request response) := composition_eq_some.mpr
        ⟨request, response, hwriter ▸ hrequest, hreader ▸ hresponse, rfl⟩
      exact (pairsOne_iff hrequest hresponse).mp
        (hpairs _ (mem_serviceEndpoints.mpr ⟨k, Or.inr hclient⟩))
  · rintro ⟨hservers, hclients⟩ info hinfo
    obtain ⟨k, hserver | hclient⟩ := mem_serviceEndpoints.mp hinfo
    · obtain ⟨hreader, -, -, hwriter⟩ := hplaces k
      obtain ⟨request, response, hrequest, hresponse, rfl⟩ := composition_eq_some.mp hserver
      rw [hreader] at hrequest
      rw [hwriter] at hresponse
      exact (pairsOne_iff hrequest hresponse).mpr (hservers k _ _ hrequest hresponse)
    · obtain ⟨-, hwriter, hreader, -⟩ := hplaces k
      obtain ⟨request, response, hrequest, hresponse, rfl⟩ := composition_eq_some.mp hclient
      rw [hwriter] at hrequest
      rw [hreader] at hresponse
      exact (pairsOne_iff hrequest hresponse).mpr (hclients k _ _ hrequest hresponse)

/-- What the first action endpoint under a key is. -/
theorem firstIn_spec {mode : RuntimeMode} {candidates : List EndpointCandidate} {k : ByteString}
    {role : ActionEndpointRole} {kind : EndpointKind} {e : ActionEndpoint}
    (he : firstIn mode candidates k role kind = some e) :
    e.1 ∈ candidates ∧ actionKey mode e = k ∧ HoldsPlace (role, kind) e.2.actionName e.1 := by
  unfold firstIn at he
  obtain ⟨hmem, hclassified⟩ := mem_actionEndpoints.mp (List.mem_of_find?_eq_some he)
  have htest := List.find?_some he
  simp only [decide_eq_true_eq] at htest
  obtain ⟨hkey, rfl, rfl⟩ := htest
  exact ⟨hmem, hkey, hclassified, rfl⟩

/-- The occupants of a group are the first endpoints under its key. -/
theorem occupants_iff {mode : RuntimeMode} {candidates : List EndpointCandidate} {k : ByteString}
    {places : List (ActionEndpointRole × EndpointKind)} {occupants : List EndpointCandidate} :
    (actionGroupAt mode candidates k).occupants places = some occupants ↔
      ∃ endpoints, endpoints.map (·.1) = occupants ∧
        List.Forall₂ (fun place e => firstIn mode candidates k place.1 place.2 = some e)
          places endpoints := by
  rw [occupants_eq_some]
  constructor
  · intro hplaces
    induction hplaces with
    | nil => exact ⟨[], rfl, .nil⟩
    | cons hfirst _ ih =>
      obtain ⟨endpoints, rfl, hrest⟩ := ih
      rw [actionGroupAt_find] at hfirst
      obtain ⟨e, he, rfl⟩ := Option.map_eq_some_iff.mp hfirst
      exact ⟨e :: endpoints, rfl, .cons he hrest⟩
  · rintro ⟨endpoints, rfl, hplaces⟩
    induction hplaces with
    | nil => exact .nil
    | cons hfirst _ ih =>
      refine .cons ?_ ih
      rw [actionGroupAt_find, hfirst, Option.map_some]

/-- Endpoints filling places are all found under the key. -/
theorem mem_filled {mode : RuntimeMode} {candidates : List EndpointCandidate} {k : ByteString}
    {places : List (ActionEndpointRole × EndpointKind)} {endpoints : List ActionEndpoint}
    (hfilled : List.Forall₂ (fun place e => firstIn mode candidates k place.1 place.2 = some e)
      places endpoints) {e : ActionEndpoint} (he : e ∈ endpoints) :
    e.1 ∈ candidates ∧ actionKey mode e = k ∧
      classifyActionEndpoint ⟨e.1.logicalName, e.1.role⟩ = some e.2 := by
  obtain ⟨place, -, hfirst⟩ := exists_of_forall₂ hfilled he
  obtain ⟨hmem, hkey, -⟩ := firstIn_spec hfirst
  exact ⟨hmem, hkey, (mem_actionEndpoints.mp (List.mem_of_find?_eq_some hfirst)).2⟩

/-- Lists of candidates are told apart by their identifiers. -/
theorem candidates_of_gids {mode : RuntimeMode} {v : FollowedView} {cs ds : List EndpointCandidate}
    (hcs : ∀ c ∈ cs, c ∈ collectEndpointCandidates mode v)
    (hds : ∀ d ∈ ds, d ∈ collectEndpointCandidates mode v)
    (hgids : cs.map (·.gid) = ds.map (·.gid)) : cs = ds := by
  induction cs generalizing ds with
  | nil => exact (List.map_eq_nil_iff.mp hgids.symm).symm
  | cons c cs ih =>
    obtain ⟨d, ds', rfl, hgid, hrest⟩ := List.map_eq_cons_iff.mp hgids.symm
    have hhead := candidate_of_gid (hcs c List.mem_cons_self) (hds d List.mem_cons_self) hgid.symm
    have htail := ih (fun c hc => hcs c (List.mem_cons_of_mem _ hc))
      (fun d hd => hds d (List.mem_cons_of_mem _ hd)) hrest.symm
    rw [hhead, htail]

/-- The participant that is cut out of a key of its own. -/
theorem cut_iff {mode : RuntimeMode} {e : ActionEndpoint} :
    (actionKey mode e).takeWhile (· ≠ pipe) = e.1.participantKey ↔
      pipe ∉ e.1.participantKey := by
  constructor
  · intro hcut hmem
    rw [← hcut] at hmem
    simpa using List.mem_takeWhile_imp hmem
  · intro hplain
    unfold actionKey composedKey
    rw [List.append_assoc, List.append_assoc, List.append_assoc, ← List.append_assoc]
    exact takeWhile_separator hplain

/-- The first endpoints under a key compose one action of the participant that
is cut out of the key exactly where they belong together and the participant
has no separator. -/
theorem composesOne_iff {mode : RuntimeMode} {v : FollowedView} {k : ByteString}
    {places : List (ActionEndpointRole × EndpointKind)} {endpoints : List ActionEndpoint}
    (hfilled : List.Forall₂ (fun place e =>
      firstIn mode (collectEndpointCandidates mode v) k place.1 place.2 = some e)
      places endpoints) :
    ComposesOne mode (collectEndpointCandidates mode v) places
        ((endpoints.map (·.1)).map (·.gid)) (k.takeWhile (· ≠ pipe)) ↔
      ∀ e ∈ endpoints, pipe ∉ e.1.participantKey ∧
        ∀ e' ∈ endpoints, e.2.actionName = e'.2.actionName ∧
          candidateCompositionKey mode e.1 = candidateCompositionKey mode e'.1 := by
  have hmem := fun {e} (he : e ∈ endpoints) => mem_filled hfilled he
  constructor
  · rintro ⟨cs, actionName, compositionKey, hgids, hplaces, hone⟩
    obtain rfl : cs = endpoints.map (·.1) :=
      candidates_of_gids (fun c hc => (hone c hc).1)
        (fun c hc => by
          obtain ⟨e, he, rfl⟩ := List.mem_map.mp hc
          exact (hmem he).1) hgids
    have hnamed : ∀ e ∈ endpoints, e.2.actionName = actionName := by
      intro e he
      obtain ⟨place, -, hclassified, -⟩ :=
        exists_of_forall₂ hplaces (List.mem_map_of_mem he)
      rw [(hmem he).2.2, Option.some.injEq] at hclassified
      exact congrArg (·.actionName) hclassified
    intro e he
    obtain ⟨-, hparticipant, hcomposition⟩ := hone e.1 (List.mem_map_of_mem he)
    refine ⟨cut_iff.mp ((hmem he).2.1 ▸ hparticipant.symm), fun e' he' => ⟨?_, ?_⟩⟩
    · rw [hnamed e he, hnamed e' he']
    · exact hcomposition.trans (hone e'.1 (List.mem_map_of_mem he')).2.2.symm
  · intro hapart
    cases endpoints with
    | nil =>
      cases hfilled
      exact ⟨[], [], [], rfl, .nil, fun c hc => by cases hc⟩
    | cons first rest =>
      obtain ⟨hplain, hsame⟩ := hapart first List.mem_cons_self
      refine ⟨(first :: rest).map (·.1), first.2.actionName,
        candidateCompositionKey mode first.1, rfl, ?_, fun c hc => ?_⟩
      · rw [List.forall₂_map_right_iff]
        refine List.forall₂_iff_zip.mpr ⟨hfilled.length_eq, fun hzip => ?_⟩
        rw [(hsame _ (List.of_mem_zip hzip).2).1]
        exact (firstIn_spec (List.forall₂_zip hfilled hzip)).2.2
      · obtain ⟨e, he, rfl⟩ := List.mem_map.mp hc
        obtain ⟨hin, hkey, -⟩ := hmem he
        refine ⟨hin, ?_, (hsame e he).2.symm⟩
        rw [← hkey]
        exact (cut_iff.mpr (hapart e he).1).symm

/-- One side of the actions mixes nothing exactly where what fills its places
under a key belongs together. -/
theorem actions_iff (mode : RuntimeMode) (v : FollowedView)
    (places : List (ActionEndpointRole × EndpointKind)) (hplaces : places ≠ [])
    (has : ActionCandidate → Bool) (gids : ActionCandidate → List Gid)
    (hhas : ∀ entry, has (actionCandidate entry) = (entry.2.occupants places).isSome)
    (hgids : ∀ entry, gids (actionCandidate entry) =
      ((entry.2.occupants places).getD []).map (·.gid)) :
    (∀ c ∈ composeActionCandidates mode (collectEndpointCandidates mode v), has c →
        ComposesOne mode (collectEndpointCandidates mode v) places (gids c) c.participantKey) ↔
      ActionsApart mode (collectEndpointCandidates mode v) places := by
  have hreported : ∀ {k endpoints},
      List.Forall₂ (fun place e =>
        firstIn mode (collectEndpointCandidates mode v) k place.1 place.2 = some e)
        places endpoints →
      (actionGroupAt mode (collectEndpointCandidates mode v) k).occupants places =
        some (endpoints.map (·.1)) := fun hfilled => occupants_iff.mpr ⟨_, rfl, hfilled⟩
  constructor
  · intro hone k endpoints hfilled
    have hused : (actionEndpoints (collectEndpointCandidates mode v)).filter
        (fun e => actionKey mode e = k) ≠ [] := by
      obtain ⟨place, rest, rfl⟩ := List.exists_cons_of_ne_nil hplaces
      obtain ⟨e, endpoints, hfirst, -, rfl⟩ := List.forall₂_cons_left_iff.mp hfilled
      have hmem := List.mem_of_find?_eq_some hfirst
      exact List.ne_nil_of_mem (List.mem_filter.mpr ⟨hmem, by simpa using (firstIn_spec hfirst).2.1⟩)
    have hc := hone _ (mem_composeActionCandidates.mpr ⟨k, hused, rfl⟩)
      (by rw [hhas, hreported hfilled]; rfl)
    rw [hgids, hreported hfilled] at hc
    exact (composesOne_iff hfilled).mp hc
  · intro hapart c hc hcomplete
    obtain ⟨k, -, rfl⟩ := mem_composeActionCandidates.mp hc
    rw [hhas] at hcomplete
    obtain ⟨occupants, hoccupants⟩ := Option.isSome_iff_exists.mp hcomplete
    obtain ⟨endpoints, rfl, hfilled⟩ := occupants_iff.mp hoccupants
    rw [hgids, hoccupants]
    exact (composesOne_iff hfilled).mpr (hapart k endpoints hfilled)

/-- Composition mixes no identities exactly where the endpoints that meet under
one key belong together. -/
theorem never_mixes_iff (mode : RuntimeMode) (v : FollowedView) :
    NeverMixes mode v ↔ KeysApart mode (collectEndpointCandidates mode v) := by
  have hservices := services_iff mode v
  have hservers := actions_iff mode v serverPlaces (by simp [serverPlaces]) (·.hasServer)
    (·.serverGids) (fun _ => rfl) fun _ => rfl
  have hclients := actions_iff mode v clientPlaces (by simp [clientPlaces]) (·.hasClient)
    (·.clientGids) (fun _ => rfl) fun _ => rfl
  constructor
  · rintro ⟨hs, hv, hc⟩
    obtain ⟨hserver, hclient⟩ := hservices.mp hs
    exact ⟨hserver, hclient, hservers.mp hv, hclients.mp hc⟩
  · rintro ⟨hserver, hclient, hv, hc⟩
    exact ⟨hservices.mpr ⟨hserver, hclient⟩, hservers.mpr hv, hclients.mpr hc⟩

/-- What meets under a key belongs together where no name and no participant
contains the separator. -/
theorem keysApart_of_plain {mode : RuntimeMode} {v : FollowedView}
    (hplain : ∀ c ∈ collectEndpointCandidates mode v,
      pipe ∉ c.logicalName ∧ pipe ∉ c.participantKey) :
    KeysApart mode (collectEndpointCandidates mode v) := by
  have hservices : ∀ requestKind responseKind,
      ServicesApart mode (collectEndpointCandidates mode v) requestKind responseKind := by
    intro requestKind responseKind k request response hrequest hresponse
    obtain ⟨hr, hrkey, -, -⟩ := latestIn_spec hrequest
    obtain ⟨hw, hwkey, -, -⟩ := latestIn_spec hresponse
    exact (composedKey_injective hr hw (hplain _ hr).1 (hplain _ hw).1
      (hrkey.trans hwkey.symm)).2
  have hactions : ∀ places, ActionsApart mode (collectEndpointCandidates mode v) places := by
    intro places k endpoints hfilled e he
    have hname : ∀ e ∈ endpoints, pipe ∉ e.2.actionName := by
      intro e he hpipe
      obtain ⟨hmem, -, hclassified⟩ := mem_filled hfilled he
      exact (hplain _ hmem).1 ((classify_start hclassified).subset hpipe)
    obtain ⟨hmem, hkey, -⟩ := mem_filled hfilled he
    refine ⟨(hplain _ hmem).2, fun e' he' => ?_⟩
    obtain ⟨hmem', hkey', -⟩ := mem_filled hfilled he'
    exact (composedKey_injective hmem hmem' (hname e he) (hname e' he')
      (hkey.trans hkey'.symm)).2
  exact ⟨hservices _ _, hservices _ _, hactions _, hactions _⟩

/-- An endpoint of a sample participant. -/
def sampleEndpoint (entity : UInt8) : Guid := ⟨Vector.replicate 12 1, Vector.replicate 4 entity⟩

/-- A peer serves requests of one service in one node and answers another in
another, and the separators in its names make up the difference. -/
def shifted : List GraphCall :=
  [.applyEndpoint (sampleEndpoint 1) ⟨.reader, text "rq/aRequest", text "Request", {}⟩ .added,
    .applyEndpoint (sampleEndpoint 2) ⟨.writer, text "rr/a|bReply", text "Response", {}⟩ .added,
    .applyRemoteNodes (Vector.replicate 12 1)
      [⟨text "b|c", text "n", [(toGid (sampleEndpoint 1)).data], []⟩,
        ⟨text "c", text "n", [], [(toGid (sampleEndpoint 2)).data]⟩]]

/-- The two endpoints are paired. -/
theorem shifted_mixed : ¬ ∀ mode v, NeverMixes mode v := by
  intro hclaim
  have hmixed : ∃ info ∈
      (assembleSnapshot .ros2 (atomicView (shifted.foldl perform .initial))).serviceEndpoints,
      ∀ request ∈ collectEndpointCandidates .ros2 (atomicView (shifted.foldl perform .initial)),
        ∀ response ∈ collectEndpointCandidates .ros2 (atomicView (shifted.foldl perform .initial)),
          ¬ (request.gid = info.requestEndpointGid ∧ response.gid = info.responseEndpointGid ∧
            request.logicalName = response.logicalName) := by decide
  obtain ⟨info, hinfo, hdiffer⟩ := hmixed
  obtain ⟨request, hrequest, response, hresponse, hrgid, hwgid, -, hname, -⟩ :=
    (hclaim .ros2 _).services info hinfo
  exact hdiffer request hrequest response hresponse ⟨hrgid, hwgid, hname⟩

end Dmw.GraphComposition
