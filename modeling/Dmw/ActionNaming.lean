import Dmw.ActionCreation

/-!
# Transport names of an action

The five names derived from an action become eight DDS names: each service has
one for either direction, each topic one of its own. A peer reads the action
and the role back from any of them.
-/

namespace Dmw.ActionNaming

open ActionCreation GraphNames

/-- Resolved DDS topic of a topic. -/
def ddsTopicName (mode : RuntimeMode) (logicalName : ByteString) : ByteString :=
  match mode with
  | .ros2 => text "rt/" ++ logicalName.drop 1
  | .dds => logicalName.drop 1

/-- A DDS name with the part of an action that it stands for. -/
structure TransportName where
  /-- Name of the DDS topic. -/
  ddsName : ByteString
  /-- What it is to the action. -/
  role : ActionEndpointRole

/-- The eight DDS names of an action. -/
def transportNames (mode : RuntimeMode) (names : ActionEndpointNames) : List TransportName :=
  [⟨serviceTopicName mode names.sendGoal true,.sendGoalRequest⟩,
    ⟨serviceTopicName mode names.sendGoal false,.sendGoalResponse⟩,
    ⟨serviceTopicName mode names.cancelGoal true,.cancelGoalRequest⟩,
    ⟨serviceTopicName mode names.cancelGoal false,.cancelGoalResponse⟩,
    ⟨serviceTopicName mode names.getResult true,.getResultRequest⟩,
    ⟨serviceTopicName mode names.getResult false,.getResultResponse⟩,
    ⟨ddsTopicName mode names.feedback,.feedback⟩,
    ⟨ddsTopicName mode names.status,.status⟩]

/-- What is read from a DDS name. -/
def readBack (mode : RuntimeMode) (ddsName : ByteString) : Option ActionEndpointClassification := do
  let endpoint ← normalizeEndpointName mode ddsName
  classifyActionEndpoint endpoint

/-- Names of actions survive the way over DDS in one mode. -/
structure RoundTrip (mode : RuntimeMode) : Prop where
  /-- Every name of an action is read as that action, in its own role. -/
  identifies : ∀ actionFqn endpoints, deriveActionEndpointNames actionFqn = some endpoints →
    ∀ name ∈ transportNames mode endpoints,
      readBack mode name.ddsName = some ⟨actionFqn,name.role⟩
  /-- Two actions have no DDS name in common. -/
  disjoint : ∀ actionFqn actionFqn' endpoints endpoints',
    deriveActionEndpointNames actionFqn = some endpoints →
      deriveActionEndpointNames actionFqn' = some endpoints' → actionFqn ≠ actionFqn' →
        ∀ name ∈ transportNames mode endpoints, ∀ name' ∈ transportNames mode endpoints',
          name.ddsName ≠ name'.ddsName
  /-- What is classified as part of an action is one of its derived names. -/
  derived : ∀ endpoint classified endpoints, classifyActionEndpoint endpoint = some classified →
    deriveActionEndpointNames classified.actionName = some endpoints →
      endpoint.logicalName ∈ names endpoints

variable {mode : RuntimeMode} {path logicalName : ByteString}

/-- Two endings of one name, the longer of which does not end with the shorter,
exclude each other. -/
theorem not_suffix {ending ending' name : ByteString} (h : ending <:+ name)
    (hlonger : ¬ ending' <:+ ending) (hshorter : ¬ ending <:+ ending') : ¬ ending' <:+ name := by
  intro h'
  rcases List.suffix_or_suffix_of_suffix h h' with hends | hends
  · exact hshorter hends
  · exact hlonger hends

/-- A name with something after its slash is long enough. -/
theorem long_enough (hpath : path ≠ []) : ¬ (text "/" ++ path).length ≤ 1 := by
  have hnonempty := List.length_pos_iff.mpr hpath
  have hone : (text "/").length = 1 := rfl
  rw [List.length_append,hone]
  omega

/-- The topic of either direction of a service is read as that direction. -/
theorem normalize_serviceTopicName (mode : RuntimeMode) (hpath : path ≠ []) (request : Bool) :
    normalizeEndpointName mode (serviceTopicName mode (text "/" ++ path) request) =
      some ⟨text "/" ++ path,if request then .serviceRequest else .serviceResponse⟩ := by
  cases mode with
  | ros2 => exact (normalize_service hpath request).mpr rfl
  | dds =>
    have hslash : (text "/" ++ path).drop 1 = path := rfl
    have hnormalized : ∀ ending : ByteString, [] <+: path ++ ending ∧ ending <:+ path ++ ending ∧
        inner (path ++ ending) 0 ending.length = path :=
      fun ending => inner_eq_iff hpath |>.mpr (List.nil_append _).symm
    cases request with
    | true =>
      obtain ⟨-, hends, hinner⟩ := hnormalized (text "_Request")
      have hinner' : inner (path ++ text "_Request") 0 8 = path := hinner
      simp only [normalizeEndpointName,serviceTopicName,nameEndsWith,hslash,if_true,
        List.isSuffixOf_iff_suffix.mpr hends,hinner',Option.bind_eq_bind,Option.bind_some,
        long_enough hpath,if_false]
    | false =>
      obtain ⟨-, hends, hinner⟩ := hnormalized (text "_Reply")
      have hinner' : inner (path ++ text "_Reply") 0 6 = path := hinner
      have hother : ¬ (text "_Request").isSuffixOf (path ++ text "_Reply") = true := by
        rw [List.isSuffixOf_iff_suffix]
        exact not_suffix hends (by decide) (by decide)
      simp only [normalizeEndpointName,serviceTopicName,nameEndsWith,hslash,if_false,hother,
        Bool.false_eq_true,List.isSuffixOf_iff_suffix.mpr hends,if_true,hinner',
        Option.bind_eq_bind,Option.bind_some,long_enough hpath]

/-- The topic of a name that does not look like a service is read as a topic. -/
theorem normalize_ddsTopicName (mode : RuntimeMode) (hpath : path ≠ [])
    (hrequest : ¬ text "_Request" <:+ path) (hreply : ¬ text "_Reply" <:+ path) :
    normalizeEndpointName mode (ddsTopicName mode (text "/" ++ path)) =
      some ⟨text "/" ++ path,.topic⟩ := by
  have hslash : (text "/" ++ path).drop 1 = path := rfl
  cases mode with
  | ros2 =>
    have hstarts : (text "rt/").isPrefixOf (text "rt/" ++ path) = true := by
      rw [List.isPrefixOf_iff_prefix]
      exact List.prefix_append _ _
    have hdrop : (text "rt/" ++ path).drop 3 = path := rfl
    simp only [normalizeEndpointName,ddsTopicName,nameStartsWith,hslash,hstarts,if_true,hdrop,
      Option.bind_eq_bind,Option.bind_some,long_enough hpath,if_false]
  | dds =>
    have hrequest' : ¬ (text "_Request").isSuffixOf path = true := by
      rw [List.isSuffixOf_iff_suffix]
      exact hrequest
    have hreply' : ¬ (text "_Reply").isSuffixOf path = true := by
      rw [List.isSuffixOf_iff_suffix]
      exact hreply
    simp only [normalizeEndpointName,ddsTopicName,nameEndsWith,hslash,hrequest',hreply',
      Bool.false_eq_true,if_false,Option.bind_eq_bind,Option.bind_some,long_enough hpath]

/-- What follows the slash of an absolute name. -/
theorem absolute_shape {name : ByteString} (h : name.head? = some slash) :
    ∃ rest, name = text "/" ++ rest := by
  cases name with
  | nil => cases h
  | cons octet rest => exact ⟨rest,congrArg (· :: rest) (Option.some.inj h)⟩

/-- An absolute name is not empty. -/
theorem absolute_nonempty (rest : ByteString) : text "/" ++ rest ≠ [] := List.cons_ne_nil _ _

/-- The names of a service of an action lead back to it. -/
theorem readBack_service {actionFqn suffix : ByteString} {role : ActionEndpointRole}
    (habsolute : actionFqn.head? = some slash) (hplain : slash ∉ suffix) (hsuffix : suffix ≠ [])
    (request : Bool) (hrole : serviceRole request suffix = some role) :
    readBack mode (serviceTopicName mode (actionFqn ++ text "/_action/" ++ suffix) request) =
      some ⟨actionFqn,role⟩ := by
  obtain ⟨rest, rfl⟩ := absolute_shape habsolute
  have hpath : rest ++ text "/_action/" ++ suffix ≠ [] := by
    intro hnil
    exact hsuffix (List.append_eq_nil_iff.mp hnil).2
  have hnormalized := normalize_serviceTopicName mode hpath request
  have hwithin : actionRole (if request then .serviceRequest else .serviceResponse) suffix =
      some role := by
    cases request with
    | true => exact hrole
    | false => exact hrole
  have hclassified := classify_marked (absolute_nonempty rest) hplain hsuffix hwithin
  rw [← List.append_assoc,← List.append_assoc] at hnormalized
  unfold readBack
  rw [hnormalized]
  exact hclassified

/-- The name of a topic of an action leads back to it. -/
theorem readBack_topic {actionFqn suffix : ByteString} {role : ActionEndpointRole}
    (habsolute : actionFqn.head? = some slash) (hplain : slash ∉ suffix) (hsuffix : suffix ≠ [])
    (hrequest : ¬ text "_Request" <:+ suffix ∧ ¬ suffix <:+ text "_Request")
    (hreply : ¬ text "_Reply" <:+ suffix ∧ ¬ suffix <:+ text "_Reply")
    (hrole : topicRole suffix = some role) :
    readBack mode (ddsTopicName mode (actionFqn ++ text "/_action/" ++ suffix)) =
      some ⟨actionFqn,role⟩ := by
  obtain ⟨rest, rfl⟩ := absolute_shape habsolute
  have hends : suffix <:+ rest ++ text "/_action/" ++ suffix := List.suffix_append _ _
  have hpath : rest ++ text "/_action/" ++ suffix ≠ [] := by
    intro hnil
    exact hsuffix (List.append_eq_nil_iff.mp hnil).2
  have hnormalized := normalize_ddsTopicName mode hpath
    (not_suffix hends hrequest.1 hrequest.2) (not_suffix hends hreply.1 hreply.2)
  have hwithin : actionRole .topic suffix = some role := hrole
  have hclassified := classify_marked (absolute_nonempty rest) hplain hsuffix hwithin
  rw [← List.append_assoc,← List.append_assoc] at hnormalized
  unfold readBack
  rw [hnormalized]
  exact hclassified

/-- A name that is accepted starts with a slash. -/
theorem derive_absolute {actionFqn : ByteString} {endpoints : ActionEndpointNames}
    (h : deriveActionEndpointNames actionFqn = some endpoints) :
    actionFqn.head? = some slash := by
  unfold deriveActionEndpointNames at h
  by_cases hshape : actionFqn.length ≤ 1 ∨ actionFqn.head? ≠ some slash ∨
      actionFqn.getLast? = some slash
  · rw [if_pos hshape] at h
    cases h
  · by_contra hrelative
    exact hshape (Or.inr (Or.inl hrelative))

/-- Every DDS name of an action is read as that action, in its own role. -/
theorem readBack_transportNames {actionFqn : ByteString} {endpoints : ActionEndpointNames}
    (h : deriveActionEndpointNames actionFqn = some endpoints) :
    ∀ name ∈ transportNames mode endpoints,
      readBack mode name.ddsName = some ⟨actionFqn,name.role⟩ := by
  have habsolute := derive_absolute h
  obtain ⟨-, rfl⟩ := derive_shape h
  have hgoal : ∀ request role, serviceRole request (text "send_goal") = some role →
      readBack mode (serviceTopicName mode
        (actionFqn ++ text "/_action/" ++ text "send_goal") request) = some ⟨actionFqn,role⟩ :=
    fun request _ hrole => readBack_service habsolute (by decide) (by decide) request hrole
  have hcancel : ∀ request role, serviceRole request (text "cancel_goal") = some role →
      readBack mode (serviceTopicName mode
        (actionFqn ++ text "/_action/" ++ text "cancel_goal") request) = some ⟨actionFqn,role⟩ :=
    fun request _ hrole => readBack_service habsolute (by decide) (by decide) request hrole
  have hresult : ∀ request role, serviceRole request (text "get_result") = some role →
      readBack mode (serviceTopicName mode
        (actionFqn ++ text "/_action/" ++ text "get_result") request) = some ⟨actionFqn,role⟩ :=
    fun request _ hrole => readBack_service habsolute (by decide) (by decide) request hrole
  have hfeedback : readBack mode (ddsTopicName mode
      (actionFqn ++ text "/_action/" ++ text "feedback")) = some ⟨actionFqn,.feedback⟩ :=
    readBack_topic habsolute (by decide) (by decide) (by decide) (by decide) (by decide)
  have hstatus : readBack mode (ddsTopicName mode
      (actionFqn ++ text "/_action/" ++ text "status")) = some ⟨actionFqn,.status⟩ :=
    readBack_topic habsolute (by decide) (by decide) (by decide) (by decide) (by decide)
  unfold transportNames
  simp only [List.forall_mem_cons,List.not_mem_nil,false_implies,implies_true,and_true]
  exact ⟨hgoal true .sendGoalRequest (by decide),hgoal false .sendGoalResponse (by decide),
    hcancel true .cancelGoalRequest (by decide),hcancel false .cancelGoalResponse (by decide),
    hresult true .getResultRequest (by decide),hresult false .getResultResponse (by decide),
    hfeedback,hstatus⟩

/-- Where some octets are found they occur. -/
theorem rfindFrom_found {value marker : ByteString} {bound position : ℕ}
    (h : rfindFrom value marker bound = some position) : marker <+: value.drop position := by
  induction bound with
  | zero =>
    rw [rfindFrom] at h
    by_cases hat : marker.isPrefixOf value = true
    · rw [if_pos hat] at h
      cases h
      exact List.isPrefixOf_iff_prefix.mp hat
    · rw [if_neg hat] at h
      cases h
  | succ bound ih =>
    rw [rfindFrom] at h
    by_cases hat : marker.isPrefixOf (value.drop (bound + 1)) = true
    · rw [if_pos hat] at h
      cases h
      exact List.isPrefixOf_iff_prefix.mp hat
    · rw [if_neg hat] at h
      exact ih h

/-- A suffix with a role is one of five. -/
theorem actionRole_suffix {role : GraphEndpointRole} {suffix : ByteString}
    {within : ActionEndpointRole} (h : actionRole role suffix = some within) :
    suffix ∈ [text "send_goal",text "cancel_goal",text "get_result",text "feedback",
      text "status"] := by
  by_contra hother
  simp only [List.mem_cons,List.not_mem_nil,or_false,not_or] at hother
  obtain ⟨hgoal, hcancel, hresult, hfeedback, hstatus⟩ := hother
  unfold actionRole at h
  by_cases htopic : role = .topic
  · rw [if_pos htopic,topicRole,if_neg hfeedback,if_neg hstatus] at h
    cases h
  · rw [if_neg htopic,serviceRole,if_neg hgoal,if_neg hcancel,if_neg hresult] at h
    cases h

/-- A classified name is the action it names, the marker and a known suffix. -/
theorem classify_shape {endpoint : NormalizedEndpointName}
    {classified : ActionEndpointClassification}
    (h : classifyActionEndpoint endpoint = some classified) :
    ∃ suffix ∈ [text "send_goal",text "cancel_goal",text "get_result",text "feedback",
      text "status"],
      endpoint.logicalName = classified.actionName ++ text "/_action/" ++ suffix := by
  simp only [classifyActionEndpoint,Option.bind_eq_bind,Option.bind_eq_some_iff] at h
  obtain ⟨position, hfound, h⟩ := h
  by_cases hzero : position = 0
  · rw [if_pos hzero] at h
    cases h
  · rw [if_neg hzero] at h
    split at h
    · cases h
    · obtain ⟨role, hrole, h⟩ := Option.bind_eq_some_iff.mp h
      cases h
      obtain ⟨rest, hrest⟩ := rfindFrom_found hfound
      have hsuffix : endpoint.logicalName.drop (position + (text "/_action/").length) = rest := by
        rw [← List.drop_drop,← hrest,List.drop_left]
      rw [hsuffix] at hrole
      refine ⟨rest,actionRole_suffix hrole,?_⟩
      rw [List.append_assoc,hrest,List.take_append_drop]

/-- In either mode, the names of actions survive the way over DDS. -/
theorem action_names_roundTrip (mode : RuntimeMode) : RoundTrip mode where
  identifies := fun _ _ h => readBack_transportNames h
  disjoint := by
    intro actionFqn actionFqn' endpoints endpoints' h h' hne name hmem name' hmem' heq
    have hread : readBack mode name.ddsName = some ⟨actionFqn,name.role⟩ :=
      readBack_transportNames h name hmem
    have hread' : readBack mode name'.ddsName = some ⟨actionFqn',name'.role⟩ :=
      readBack_transportNames h' name' hmem'
    rw [← heq,hread,Option.some.injEq,ActionEndpointClassification.mk.injEq] at hread'
    exact hne hread'.1
  derived := by
    intro endpoint classified endpoints hclassified hderived
    obtain ⟨suffix, hsuffix, hname⟩ := classify_shape hclassified
    obtain ⟨-, rfl⟩ := derive_shape hderived
    rw [hname]
    simp only [List.mem_cons,List.not_mem_nil,or_false] at hsuffix
    unfold names
    simp only [List.mem_cons,List.not_mem_nil,or_false]
    rcases hsuffix with rfl | rfl | rfl | rfl | rfl
    · exact Or.inl rfl
    · exact Or.inr (Or.inl rfl)
    · exact Or.inr (Or.inr (Or.inl rfl))
    · exact Or.inr (Or.inr (Or.inr (Or.inl rfl)))
    · exact Or.inr (Or.inr (Or.inr (Or.inr rfl)))

/-- An action whose names are derived, and read back from each of the eight. -/
theorem action_names_roundTrip_rotate :
    ∃ endpoints, deriveActionEndpointNames (text "/turtle/rotate") = some endpoints ∧
      (transportNames .ros2 endpoints).length = 8 ∧
        ∀ name ∈ transportNames .ros2 endpoints,
          readBack .ros2 name.ddsName = some ⟨text "/turtle/rotate",name.role⟩ := by
  have haccepted : (deriveActionEndpointNames (text "/turtle/rotate")).isSome = true := by decide
  obtain ⟨endpoints,hderived⟩ := Option.isSome_iff_exists.mp haccepted
  exact ⟨endpoints,hderived,rfl,(action_names_roundTrip .ros2).identifies _ endpoints hderived⟩

end Dmw.ActionNaming
