import Dmw.GraphComposition

/-!
# Action availability

A client finds an action server by searching the candidates role by role, and
the snapshot finds it by composing them. The search takes the first candidate
of a role without a look at its QoS, and the composition is named after the
last endpoint that met under its key, so either may pass over a server that is
there.
-/

namespace Dmw.ActionAvailability

open Identity QosPolicies GraphNames DiscoveryGraph GraphCandidates GraphComposition

variable {candidates : List EndpointCandidate} {names : ActionEndpointNames}
  {types : ActionEndpointTypes} {mode : RuntimeMode} {clientQos : Option ActionClientEndpointQos}

/-- Some candidate of a participant and a composition is what is required and
suits the client. -/
def Offers (candidates : List EndpointCandidate) (mode : RuntimeMode)
    (clientQos : Option ActionClientEndpointQos) (participant compositionKey : ByteString)
    (required : RequiredEndpoint) : Prop :=
  ∃ c ∈ candidates, required.Matches mode participant compositionKey c ∧
    required.suits clientQos c = true

/-- A participant and a composition offer all eight endpoints. -/
def OffersAll (candidates : List EndpointCandidate) (names : ActionEndpointNames)
    (types : ActionEndpointTypes) (mode : RuntimeMode)
    (clientQos : Option ActionClientEndpointQos) (participant compositionKey : ByteString) : Prop :=
  ∀ required ∈ requiredEndpoints names types,
    Offers candidates mode clientQos participant compositionKey required

/-- The snapshot reports a server of an action. -/
def Reported (candidates : List EndpointCandidate) (mode : RuntimeMode) (actionFqn : ByteString) :
    Prop :=
  ∃ c ∈ composeActionCandidates mode candidates, c.actionName = actionFqn ∧ c.hasServer = true

/-- The search succeeds exactly where all is offered, and what it finds for
any client is reported. -/
structure Exact (candidates : List EndpointCandidate) (names : ActionEndpointNames)
    (types : ActionEndpointTypes) (mode : RuntimeMode)
    (clientQos : Option ActionClientEndpointQos) : Prop where
  /-- The search misses nothing and invents nothing. -/
  search : hasActionServer candidates names types mode clientQos = true ↔
    ∃ participant compositionKey,
      OffersAll candidates names types mode clientQos participant compositionKey
  /-- The snapshot agrees. -/
  reports : ∀ actionFqn, deriveActionEndpointNames actionFqn = some names →
    hasActionServer candidates names types mode none = true → Reported candidates mode actionFqn

/-- A candidate that matches does not suit the client and comes before all
others that match. -/
def Shadowed (candidates : List EndpointCandidate) (mode : RuntimeMode)
    (clientQos : Option ActionClientEndpointQos) (participant compositionKey : ByteString)
    (required : RequiredEndpoint) : Prop :=
  ∃ earlier c later, candidates = earlier ++ c :: later ∧
    (∀ d ∈ earlier, ¬ required.Matches mode participant compositionKey d) ∧
      required.Matches mode participant compositionKey c ∧ required.suits clientQos c = false

/-- Every server place has an endpoint under a key. -/
def Filled (candidates : List EndpointCandidate) (mode : RuntimeMode) (k : ByteString) : Prop :=
  ∀ place ∈ serverPlaces, ∃ e ∈ actionEndpoints candidates,
    actionKey mode e = k ∧ e.2.role = place.1 ∧ e.1.nativeKind = place.2

/-- Action of the last endpoint under a key. -/
def lastAction (candidates : List EndpointCandidate) (mode : RuntimeMode) (k : ByteString) :
    Option ByteString :=
  ((actionEndpoints candidates).filter fun e => actionKey mode e = k).getLast?.map (·.2.actionName)

/-- Where all is offered, it is offered once with no endpoint shadowed, and
one filled key ends with an endpoint of the action. -/
structure Undisguised (candidates : List EndpointCandidate) (names : ActionEndpointNames)
    (types : ActionEndpointTypes) (mode : RuntimeMode)
    (clientQos : Option ActionClientEndpointQos) : Prop where
  /-- An offer is not hidden behind unsuitable endpoints. -/
  unshadowed :
    (∃ participant compositionKey,
        OffersAll candidates names types mode clientQos participant compositionKey) →
      ∃ participant compositionKey,
        OffersAll candidates names types mode clientQos participant compositionKey ∧
          ∀ required ∈ requiredEndpoints names types,
            ¬ Shadowed candidates mode clientQos participant compositionKey required
  /-- An offer to any client is not reported under another action only. -/
  unrenamed : ∀ actionFqn, deriveActionEndpointNames actionFqn = some names →
    (∃ participant compositionKey,
        OffersAll candidates names types mode none participant compositionKey) →
      ∃ k, Filled candidates mode k ∧ lastAction candidates mode k = some actionFqn

/-- An endpoint is shadowed where the search finds one that does not suit. -/
theorem shadowed_iff {participant compositionKey : ByteString} {required : RequiredEndpoint} :
    Shadowed candidates mode clientQos participant compositionKey required ↔
      ∃ c, findEndpoint candidates required mode participant compositionKey = some c ∧
        required.suits clientQos c = false := by
  unfold Shadowed findEndpoint
  constructor
  · rintro ⟨earlier, c, later, hsplit, hfirst, hmatches, hsuits⟩
    refine ⟨c, List.find?_eq_some_iff_append.mpr ⟨?_, earlier, later, hsplit, ?_⟩, hsuits⟩
    · exact decide_eq_true hmatches
    · intro d hd
      simpa using hfirst d hd
  · rintro ⟨c, hfound, hsuits⟩
    obtain ⟨hmatches, earlier, later, hsplit, hfirst⟩ := List.find?_eq_some_iff_append.mp hfound
    refine ⟨earlier, c, later, hsplit, ?_, of_decide_eq_true hmatches, hsuits⟩
    intro d hd
    simpa using hfirst d hd

/-- The search for one endpoint succeeds where one is offered and not shadowed. -/
theorem findEndpoint_any {participant compositionKey : ByteString} {required : RequiredEndpoint} :
    (findEndpoint candidates required mode participant compositionKey).any
        (required.suits clientQos) = true ↔
      Offers candidates mode clientQos participant compositionKey required ∧
        ¬ Shadowed candidates mode clientQos participant compositionKey required := by
  rw [shadowed_iff]
  cases hfound : findEndpoint candidates required mode participant compositionKey with
  | none =>
    have hnone := List.find?_eq_none.mp hfound
    simp only [Option.any_none, Bool.false_eq_true, false_iff]
    rintro ⟨⟨c, hc, hmatches, -⟩, -⟩
    exact hnone c hc (decide_eq_true hmatches)
  | some c =>
    have hmem := List.mem_of_find?_eq_some hfound
    have hmatches : required.Matches mode participant compositionKey c := by
      simpa using List.find?_some hfound
    rw [Option.any_some]
    constructor
    · intro hsuits
      refine ⟨⟨c, hmem, hmatches, hsuits⟩, ?_⟩
      rintro ⟨d, hd, hunsuited⟩
      rw [← Option.some.inj hd, hsuits] at hunsuited
      cases hunsuited
    · rintro ⟨-, hshadow⟩
      cases hsuits : required.suits clientQos c with
      | true => rfl
      | false => exact absurd ⟨c, rfl, hsuits⟩ hshadow

/-- The search in one composition succeeds where all is offered there and
nothing shadowed. -/
theorem compositionComplete_iff {participant compositionKey : ByteString} :
    actionServerCompositionComplete candidates participant names types mode compositionKey
        clientQos = true ↔
      OffersAll candidates names types mode clientQos participant compositionKey ∧
        ∀ required ∈ requiredEndpoints names types,
          ¬ Shadowed candidates mode clientQos participant compositionKey required := by
  simp only [actionServerCompositionComplete, List.all_eq_true, findEndpoint_any, OffersAll]
  exact forall₂_and

/-- The search succeeds where all is offered and nothing shadowed. -/
theorem hasActionServer_iff :
    hasActionServer candidates names types mode clientQos = true ↔
      ∃ participant compositionKey,
        OffersAll candidates names types mode clientQos participant compositionKey ∧
          ∀ required ∈ requiredEndpoints names types,
            ¬ Shadowed candidates mode clientQos participant compositionKey required := by
  simp only [hasActionServer, participantHasActionServer, List.any_eq_true, List.mem_map,
    List.mem_filter, decide_eq_true_eq, compositionComplete_iff]
  constructor
  · rintro ⟨participant, -, compositionKey, -, hall⟩
    exact ⟨participant, compositionKey, hall⟩
  · rintro ⟨participant, compositionKey, hall⟩
    -- The participant and the composition are met on any of the eight endpoints.
    obtain ⟨c, hc, hmatches, -⟩ := hall.1 _ List.mem_cons_self
    exact ⟨participant, ⟨c, hc, hmatches.1⟩, compositionKey,
      ⟨c, ⟨hc, hmatches.1⟩, hmatches.2.2.2.2.2⟩, hall⟩

/-- Without a client nothing is shadowed. -/
theorem not_shadowed {participant compositionKey : ByteString} {required : RequiredEndpoint} :
    ¬ Shadowed candidates mode none participant compositionKey required := by
  rintro ⟨earlier, c, later, -, -, -, hsuits⟩
  cases hsuits

/-- Without a client the search succeeds exactly where all is offered. -/
theorem hasActionServer_none :
    hasActionServer candidates names types mode none = true ↔
      ∃ participant compositionKey,
        OffersAll candidates names types mode none participant compositionKey := by
  rw [hasActionServer_iff]
  constructor
  · rintro ⟨participant, compositionKey, hoffers, -⟩
    exact ⟨participant, compositionKey, hoffers⟩
  · rintro ⟨participant, compositionKey, hoffers⟩
    exact ⟨participant, compositionKey, hoffers, fun _ _ => not_shadowed⟩

/-- A group is named after the last endpoint under its key. -/
theorem actionGroupAt_actionName (k : ByteString) :
    (actionGroupAt mode candidates k).actionName = (lastAction candidates mode k).getD [] := by
  unfold actionGroupAt lastAction
  induction (actionEndpoints candidates).filter (fun e => actionKey mode e = k) using
    List.reverseRecOn with
  | nil => rfl
  | append_singleton endpoints e _ =>
    rw [List.foldl_append, List.foldl_cons, List.foldl_nil, List.getLast?_append]
    rfl

/-- A place is held where some endpoint under the key claims it. -/
theorem firstIn_isSome {k : ByteString} {role : ActionEndpointRole} {kind : EndpointKind} :
    (firstIn mode candidates k role kind).isSome = true ↔
      ∃ e ∈ actionEndpoints candidates,
        actionKey mode e = k ∧ e.2.role = role ∧ e.1.nativeKind = kind := by
  rw [firstIn, List.find?_isSome]
  simp only [decide_eq_true_eq]

/-- A group has a server exactly where every server place has an endpoint. -/
theorem occupants_isSome (k : ByteString) :
    ((actionGroupAt mode candidates k).occupants serverPlaces).isSome = true ↔
      Filled candidates mode k := by
  unfold Filled
  generalize serverPlaces = places
  induction places with
  | nil => simp [ActionGroup.occupants]
  | cons place places ih =>
    have hstep : ((actionGroupAt mode candidates k).occupants (place :: places)).isSome =
        ((firstIn mode candidates k place.1 place.2).isSome &&
          ((actionGroupAt mode candidates k).occupants places).isSome) := by
      simp only [ActionGroup.occupants, List.mapM_cons, actionGroupAt_find]
      cases firstIn mode candidates k place.1 place.2 with
      | none => rfl
      | some e =>
        simp only [Option.map_some, Option.isSome_some, Bool.true_and]
        cases places.mapM fun place =>
          (firstIn mode candidates k place.1 place.2).map (·.1) <;> rfl
    rw [hstep, Bool.and_eq_true, ih, firstIn_isSome, List.forall_mem_cons]

/-- The snapshot reports a server under the name of the last endpoint of a
filled key. -/
theorem reported_iff {actionFqn : ByteString} :
    Reported candidates mode actionFqn ↔
      ∃ k, Filled candidates mode k ∧ lastAction candidates mode k = some actionFqn := by
  have hused : ∀ k, (actionEndpoints candidates).filter (fun e => actionKey mode e = k) ≠ [] ↔
      (lastAction candidates mode k).isSome = true := by
    intro k
    rw [lastAction, Option.isSome_map, List.getLast?_isSome]
  constructor
  · rintro ⟨c, hc, hname, hserver⟩
    obtain ⟨k, hmembers, rfl⟩ := mem_composeActionCandidates.mp hc
    refine ⟨k, (occupants_isSome k).mp hserver, ?_⟩
    obtain ⟨last, hlast⟩ := Option.isSome_iff_exists.mp ((hused k).mp hmembers)
    have hgroup : (actionGroupAt mode candidates k).actionName =
        (lastAction candidates mode k).getD [] := actionGroupAt_actionName k
    rw [hlast, Option.getD_some] at hgroup
    rw [hlast, ← hname]
    exact congrArg some hgroup.symm
  · rintro ⟨k, hfilled, hlast⟩
    have hmembers := (hused k).mpr (by rw [hlast]; rfl)
    have hgroup : (actionGroupAt mode candidates k).actionName =
        (lastAction candidates mode k).getD [] := actionGroupAt_actionName k
    rw [hlast, Option.getD_some] at hgroup
    exact ⟨_, mem_composeActionCandidates.mpr ⟨k, hmembers, rfl⟩, hgroup,
      (occupants_isSome k).mpr hfilled⟩

/-- Availability is exact exactly where no offer is disguised. -/
theorem exact_iff (candidates : List EndpointCandidate) (names : ActionEndpointNames)
    (types : ActionEndpointTypes) (mode : RuntimeMode)
    (clientQos : Option ActionClientEndpointQos) :
    Exact candidates names types mode clientQos ↔
      Undisguised candidates names types mode clientQos := by
  constructor
  · intro hexact
    refine ⟨fun hoffers => hasActionServer_iff.mp (hexact.search.mpr hoffers), ?_⟩
    intro actionFqn hnames hoffers
    exact reported_iff.mp (hexact.reports actionFqn hnames (hasActionServer_none.mpr hoffers))
  · intro hundisguised
    refine ⟨⟨?_, fun hoffers => hasActionServer_iff.mpr (hundisguised.unshadowed hoffers)⟩, ?_⟩
    · intro hfound
      obtain ⟨participant, compositionKey, hoffers, -⟩ := hasActionServer_iff.mp hfound
      exact ⟨participant, compositionKey, hoffers⟩
    · intro actionFqn hnames hfound
      exact reported_iff.mpr
        (hundisguised.unrenamed actionFqn hnames (hasActionServer_none.mp hfound))

/-- An offered endpoint of an action is found under the key made of its
participant, the action and its composition. -/
theorem offered_under_key {actionFqn participant compositionKey suffix : ByteString}
    {required : RequiredEndpoint} {within : ActionEndpointRole} (hstart : actionFqn ≠ [])
    (hname : required.logicalName = actionFqn ++ text "/_action/" ++ suffix)
    (hsuffix : slash ∉ suffix) (hnonempty : suffix ≠ [])
    (hrole : actionRole required.role suffix = some within)
    (hoffers : Offers candidates mode clientQos participant compositionKey required) :
    ∃ e ∈ actionEndpoints candidates,
      actionKey mode e =
          participant ++ [pipe] ++ actionFqn ++ [pipe] ++ compositionKey ∧
        e.2.role = within ∧ e.1.nativeKind = required.kind := by
  obtain ⟨c, hc, ⟨hparticipant, hkind, hcrole, hlogical, -, hcomposition⟩, -⟩ := hoffers
  have hclassified : classifyActionEndpoint ⟨c.logicalName, c.role⟩ = some ⟨actionFqn, within⟩ := by
    rw [hlogical, hname, hcrole]
    exact classify_marked hstart hsuffix hnonempty hrole
  refine ⟨(c, ⟨actionFqn, within⟩), mem_actionEndpoints.mpr ⟨hc, hclassified⟩, ?_, rfl, hkind⟩
  rw [actionKey, composedKey, hparticipant, hcomposition]

/-- Where all is offered, one key is filled. -/
theorem filled_of_offersAll {actionFqn participant compositionKey : ByteString}
    (hnames : deriveActionEndpointNames actionFqn = some names)
    (hoffers : OffersAll candidates names types mode clientQos participant compositionKey) :
    Filled candidates mode (participant ++ [pipe] ++ actionFqn ++ [pipe] ++ compositionKey) := by
  obtain ⟨hstart, rfl⟩ := derive_shape hnames
  unfold OffersAll requiredEndpoints at hoffers
  simp only [List.forall_mem_cons, List.not_mem_nil, false_implies, implies_true, and_true]
    at hoffers
  obtain ⟨hgoal, hgoal', hcancel, hcancel', hresult, hresult', hfeedback, hstatus⟩ := hoffers
  unfold Filled serverPlaces
  simp only [List.forall_mem_cons, List.not_mem_nil, false_implies, implies_true, and_true]
  have hknown : ∀ suffix ∈ [text "send_goal", text "cancel_goal", text "get_result",
      text "feedback", text "status"], slash ∉ suffix ∧ suffix ≠ [] := by decide
  simp only [List.forall_mem_cons, List.not_mem_nil, false_implies, implies_true, and_true]
    at hknown
  obtain ⟨hkgoal, hkcancel, hkresult, hkfeedback, hkstatus⟩ := hknown
  exact ⟨offered_under_key hstart rfl hkgoal.1 hkgoal.2 rfl hgoal,
    offered_under_key hstart rfl hkgoal.1 hkgoal.2 rfl hgoal',
    offered_under_key hstart rfl hkcancel.1 hkcancel.2 rfl hcancel,
    offered_under_key hstart rfl hkcancel.1 hkcancel.2 rfl hcancel',
    offered_under_key hstart rfl hkresult.1 hkresult.2 rfl hresult,
    offered_under_key hstart rfl hkresult.1 hkresult.2 rfl hresult',
    offered_under_key hstart rfl hkfeedback.1 hkfeedback.2 rfl hfeedback,
    offered_under_key hstart rfl hkstatus.1 hkstatus.2 rfl hstatus⟩

/-- An offer to any client is reported under its own action where no name and
no participant contains the separator. -/
theorem reported_of_plain {actionFqn participant compositionKey : ByteString}
    (hplain : ∀ c ∈ candidates, pipe ∉ c.logicalName ∧ pipe ∉ c.participantKey)
    (hnames : deriveActionEndpointNames actionFqn = some names)
    (hoffers : OffersAll candidates names types mode none participant compositionKey) :
    ∃ k, Filled candidates mode k ∧ lastAction candidates mode k = some actionFqn := by
  have hfilled := filled_of_offersAll hnames hoffers
  refine ⟨_, hfilled, ?_⟩
  obtain ⟨hstart, rfl⟩ := derive_shape hnames
  obtain ⟨c, hc, ⟨hparticipant, -, -, hlogical, -, -⟩, -⟩ := hoffers _ List.mem_cons_self
  have hown : pipe ∉ participant ∧ pipe ∉ actionFqn := by
    obtain ⟨hname, hkey⟩ := hplain c hc
    rw [hlogical] at hname
    refine ⟨hparticipant ▸ hkey, fun hin => hname ?_⟩
    exact List.mem_append_left _ (List.mem_append_left _ hin)
  obtain ⟨e, he, hkey, -⟩ := hfilled _ List.mem_cons_self
  have hmember : e ∈ (actionEndpoints candidates).filter fun e => actionKey mode e =
      participant ++ [pipe] ++ actionFqn ++ [pipe] ++ compositionKey :=
    List.mem_filter.mpr ⟨he, decide_eq_true hkey⟩
  obtain ⟨last, hlast⟩ := Option.isSome_iff_exists.mp
    (List.getLast?_isSome.mpr (List.ne_nil_of_mem hmember))
  rw [lastAction, hlast, Option.map_some, Option.some.injEq]
  obtain ⟨hlastMem, hlastKey⟩ := List.mem_filter.mp (List.mem_of_getLast? hlast)
  obtain ⟨hlastIn, hclassified⟩ := mem_actionEndpoints.mp hlastMem
  obtain ⟨hlastName, hlastParticipant⟩ := hplain _ hlastIn
  have hlastAction : pipe ∉ last.2.actionName :=
    fun hin => hlastName ((classify_start hclassified).subset hin)
  -- Both keys are cut at the separator, first after the participant and then after the action.
  have hcomposed := of_decide_eq_true hlastKey
  unfold actionKey composedKey at hcomposed
  simp only [List.append_assoc] at hcomposed
  have hfirst := congrArg (List.takeWhile (· ≠ pipe)) hcomposed
  rw [← List.append_assoc, ← List.append_assoc participant, takeWhile_separator hlastParticipant,
    takeWhile_separator hown.1] at hfirst
  rw [hfirst] at hcomposed
  have hsecond := congrArg (List.takeWhile (· ≠ pipe))
    (List.append_cancel_left (List.append_cancel_left hcomposed))
  rwa [← List.append_assoc, ← List.append_assoc actionFqn, takeWhile_separator hlastAction,
    takeWhile_separator hown.2] at hsecond

/-- Types of a sample action. -/
def sampleTypes : ActionEndpointTypes where
  sendGoalRequest := text "GoalRequest"
  sendGoalResponse := text "GoalResponse"
  cancelGoalRequest := text "CancelRequest"
  cancelGoalResponse := text "CancelResponse"
  getResultRequest := text "ResultRequest"
  getResultResponse := text "ResultResponse"
  feedback := text "Feedback"
  status := text "Status"

/-- Names of a sample action. -/
def sampleNames : ActionEndpointNames where
  sendGoal := text "/move/_action/send_goal"
  cancelGoal := text "/move/_action/cancel_goal"
  getResult := text "/move/_action/get_result"
  feedback := text "/move/_action/feedback"
  status := text "/move/_action/status"

/-- An endpoint of the sample participant for what a server requires. -/
def sampleOffer (qos : Qos) (entity : ℕ) (required : RequiredEndpoint) : EndpointCandidate where
  gid := toGid (sampleEndpoint entity.toUInt8)
  nativeKind := required.kind
  role := required.role
  logicalName := required.logicalName
  wireType := required.wireType
  qos := qos
  nodeName := []
  nodeNamespace := []
  hasNode := false
  participantKey := participantKey (sampleEndpoint entity.toUInt8).guidPrefix

/-- Two servers of the sample action in one participant, the first one best
effort and the second one reliable. -/
def twoServers : List EndpointCandidate :=
  let required := requiredEndpoints sampleNames sampleTypes
  required.mapIdx (sampleOffer { reliability := .bestEffort }) ++
    required.mapIdx fun i => sampleOffer { reliability := .reliable } (required.length + i)

/-- A client that reads and writes reliably. -/
def reliableClient : ActionClientEndpointQos :=
  let qos : Qos := { reliability := .reliable }
  ⟨qos, qos, qos, qos, qos, qos, qos, qos⟩

/-- The client does not find the second server behind the first. -/
theorem twoServers_missed :
    ¬ ∀ candidates names types mode clientQos, Exact candidates names types mode clientQos := by
  intro hclaim
  have hmissed : hasActionServer twoServers sampleNames sampleTypes .dds
      (some reliableClient) = false := by decide
  have hoffers : OffersAll twoServers sampleNames sampleTypes .dds (some reliableClient)
      (participantKey (sampleEndpoint 0).guidPrefix) [] := by
    unfold OffersAll Offers
    decide
  have hfound := (hclaim _ _ _ _ _).search.mpr ⟨_, _, hoffers⟩
  rw [hmissed] at hfound
  cases hfound

end Dmw.ActionAvailability
