import Mathlib.Data.List.Infix
import Mathlib.Data.Nat.Notation

/-!
# Logical names of discovered endpoints

DDS transport names map back to logical names and roles, and the logical names
of the five action endpoints to the action they serve. Names are byte strings:
a peer may send any octets, and the separators below are single octets.
-/

namespace Dmw.GraphNames

/-- Octets of a string. -/
abbrev ByteString := List UInt8

/-- Octets of an ASCII literal. -/
def text (literal : String) : ByteString := literal.toList.map fun c => c.toNat.toUInt8

/-- The octet that separates name parts. -/
def slash : UInt8 := 0x2F

/-- Selects native DDS names or names compatible with ROS 2. -/
inductive RuntimeMode
  | dds
  | ros2
  deriving DecidableEq, Repr

/-- Which logical protocol one DDS endpoint belongs to. -/
inductive GraphEndpointRole
  | topic
  | serviceRequest
  | serviceResponse
  deriving DecidableEq, Repr

/-- A logical name with the role its transport name encodes. -/
structure NormalizedEndpointName where
  /-- Logical name, starting with a slash. -/
  logicalName : ByteString
  /-- Role of the endpoint. -/
  role : GraphEndpointRole
  deriving DecidableEq

/-- Roles of the endpoints of one action. -/
inductive ActionEndpointRole
  | sendGoalRequest
  | sendGoalResponse
  | cancelGoalRequest
  | cancelGoalResponse
  | getResultRequest
  | getResultResponse
  | feedback
  | status
  deriving DecidableEq, Repr

/-- The action a logical endpoint serves, and as what. -/
structure ActionEndpointClassification where
  /-- Action name. -/
  actionName : ByteString
  /-- Role within the action. -/
  role : ActionEndpointRole
  deriving DecidableEq

/-- The five fixed logical endpoint names of one action. -/
structure ActionEndpointNames where
  /-- Goal service. -/
  sendGoal : ByteString
  /-- Cancel service. -/
  cancelGoal : ByteString
  /-- Result service. -/
  getResult : ByteString
  /-- Feedback topic. -/
  feedback : ByteString
  /-- Status topic. -/
  status : ByteString
  deriving DecidableEq

/-- Whether a name begins with some octets. -/
def nameStartsWith (value start : ByteString) : Bool := start.isPrefixOf value

/-- Whether a name ends with some octets. -/
def nameEndsWith (value suffix : ByteString) : Bool := suffix.isSuffixOf value

/-- Drop the leading and trailing octets that only encode the role. -/
def inner (value : ByteString) (leading trailing : ℕ) : ByteString :=
  (value.drop leading).take (value.length - leading - trailing)

/-- Map a resolved DDS transport name back to its logical name. A name outside
the mapping of the mode, or with nothing after the slash, has none. -/
def normalizeEndpointName (mode : RuntimeMode) (ddsName : ByteString) :
    Option NormalizedEndpointName := do
  let result ←
    match mode with
    | .ros2 =>
      if nameStartsWith ddsName (text "rt/") then
        some { logicalName := text "/" ++ ddsName.drop 3, role := .topic }
      else if nameStartsWith ddsName (text "rq/") && nameEndsWith ddsName (text "Request") then
        some { logicalName := text "/" ++ inner ddsName 3 7, role := .serviceRequest }
      else if nameStartsWith ddsName (text "rr/") && nameEndsWith ddsName (text "Reply") then
        some { logicalName := text "/" ++ inner ddsName 3 5, role := .serviceResponse }
      else none
    | .dds =>
      if nameEndsWith ddsName (text "_Request") then
        some { logicalName := text "/" ++ inner ddsName 0 8, role := .serviceRequest }
      else if nameEndsWith ddsName (text "_Reply") then
        some { logicalName := text "/" ++ inner ddsName 0 6, role := .serviceResponse }
      else
        some { logicalName := text "/" ++ ddsName, role := .topic }
  if result.logicalName.length ≤ 1 then none else some result

/-- Resolved DDS topic of one direction of a service. -/
def serviceTopicName (mode : RuntimeMode) (logicalName : ByteString) (request : Bool) :
    ByteString :=
  let path := logicalName.drop 1
  match mode with
  | .ros2 =>
    (if request then text "rq/" else text "rr/") ++ path ++
      (if request then text "Request" else text "Reply")
  | .dds => path ++ (if request then text "_Request" else text "_Reply")

/-- Derive the endpoint names of one fully qualified action name. -/
def deriveActionEndpointNames (actionFqn : ByteString) : Option ActionEndpointNames :=
  if actionFqn.length ≤ 1 ∨ actionFqn.head? ≠ some slash ∨ actionFqn.getLast? = some slash then
    none
  else if text "/_action" <:+: actionFqn then none
  else
    let start := actionFqn ++ text "/_action/"
    some
      { sendGoal := start ++ text "send_goal"
        cancelGoal := start ++ text "cancel_goal"
        getResult := start ++ text "get_result"
        feedback := start ++ text "feedback"
        status := start ++ text "status" }

/-- Position of the last occurrence of some octets that starts no later than a
given one. -/
def rfindFrom (value marker : ByteString) : ℕ → Option ℕ
  | 0 => if marker.isPrefixOf value then some 0 else none
  | position + 1 =>
    if marker.isPrefixOf (value.drop (position + 1)) then some (position + 1)
    else rfindFrom value marker position

/-- Position of the last occurrence of some octets. -/
def rfind (value marker : ByteString) : Option ℕ := rfindFrom value marker value.length

/-- Role of a topic endpoint within its action. -/
def topicRole (suffix : ByteString) : Option ActionEndpointRole :=
  if suffix = text "feedback" then some .feedback
  else if suffix = text "status" then some .status
  else none

/-- Role of a service endpoint within its action. -/
def serviceRole (request : Bool) (suffix : ByteString) : Option ActionEndpointRole :=
  if suffix = text "send_goal" then
    some (if request then .sendGoalRequest else .sendGoalResponse)
  else if suffix = text "cancel_goal" then
    some (if request then .cancelGoalRequest else .cancelGoalResponse)
  else if suffix = text "get_result" then
    some (if request then .getResultRequest else .getResultResponse)
  else none

/-- Role of an endpoint within its action. -/
def actionRole (role : GraphEndpointRole) (suffix : ByteString) : Option ActionEndpointRole :=
  if role = .topic then topicRole suffix else serviceRole (role = .serviceRequest) suffix

/-- Recognize the fixed logical endpoint suffixes of an action. -/
def classifyActionEndpoint (endpoint : NormalizedEndpointName) :
    Option ActionEndpointClassification := do
  let position ← rfind endpoint.logicalName (text "/_action/")
  if position = 0 then none
  else
    let suffix := endpoint.logicalName.drop (position + (text "/_action/").length)
    if suffix = [] ∨ slash ∈ suffix then none
    else
      let role ← actionRole endpoint.role suffix
      some { actionName := endpoint.logicalName.take position, role }

/-- A search from behind passes over the positions where nothing occurs. -/
theorem rfindFrom_skip {value marker : ByteString} {position : ℕ}
    (hat : marker <+: value.drop position) (extra : ℕ)
    (hafter : ∀ i, position < i → i ≤ position + extra → ¬ marker <+: value.drop i) :
    rfindFrom value marker (position + extra) = some position := by
  induction extra with
  | zero =>
    cases position with
    | zero => simpa [rfindFrom] using hat
    | succ position => simp [rfindFrom, hat]
  | succ extra ih =>
    have hhere := hafter (position + (extra + 1)) (by omega) le_rfl
    have hrest := ih fun i hlow hhigh => hafter i hlow (by omega)
    have hstep : ¬ marker.isPrefixOf (value.drop (position + extra + 1)) = true := by
      simpa [Nat.add_assoc] using hhere
    rw [← Nat.add_assoc, rfindFrom, if_neg hstep]
    exact hrest

/-- The marker is found right before a suffix that has no slash of its own. -/
theorem rfind_marker (start suffix : ByteString) (hsuffix : slash ∉ suffix) :
    rfind (start ++ text "/_action/" ++ suffix) (text "/_action/") = some start.length := by
  have hlength : (start ++ text "/_action/" ++ suffix).length =
      start.length + (9 + suffix.length) := by
    have hmarker : (text "/_action/").length = 9 := rfl
    rw [List.length_append, List.length_append, hmarker, Nat.add_assoc]
  have hdrop : ∀ extra, (start ++ text "/_action/" ++ suffix).drop (start.length + extra) =
      (text "/_action/" ++ suffix).drop extra := by
    intro extra
    rw [List.append_assoc, List.drop_length_add_append]
  rw [rfind, hlength]
  refine rfindFrom_skip ?_ _ ?_
  · have hhere := hdrop 0
    rw [Nat.add_zero, List.drop_zero] at hhere
    rw [hhere]
    exact List.prefix_append _ _
  · intro i hlow hhigh
    obtain ⟨extra, rfl⟩ := Nat.exists_eq_add_of_lt hlow
    rw [Nat.add_assoc, hdrop]
    rintro ⟨rest, hrest⟩
    -- The last octet of a later marker would be a slash of the suffix.
    have hoctet := congrArg (fun octets : ByteString => octets[8]?) hrest
    have hlast : (text "/_action/" ++ rest)[8]? = some slash := rfl
    have hin : ((text "/_action/" ++ suffix).drop (extra + 1))[8]? = suffix[extra]? := by
      have hmarker : (text "/_action/").length = 9 := rfl
      rw [List.getElem?_drop, List.getElem?_append_right (by omega), hmarker]
      congr 1
    simp only [hlast, hin] at hoctet
    exact hsuffix (List.mem_of_getElem? hoctet.symm)

/-- Suffixes the classification knows. -/
theorem classify_marked {start suffix : ByteString} {role : GraphEndpointRole}
    {within : ActionEndpointRole} (hstart : start ≠ []) (hsuffix : slash ∉ suffix)
    (hnonempty : suffix ≠ []) (hrole : actionRole role suffix = some within) :
    classifyActionEndpoint ⟨start ++ text "/_action/" ++ suffix, role⟩ =
      some ⟨start, within⟩ := by
  have hdrop : (start ++ text "/_action/" ++ suffix).drop
      (start.length + (text "/_action/").length) = suffix := by
    rw [← List.length_append, List.drop_left]
  have htake : (start ++ text "/_action/" ++ suffix).take start.length = start := by
    rw [List.append_assoc, List.take_left]
  have hlength : start.length ≠ 0 := fun h => hstart (List.length_eq_zero_iff.mp h)
  simp only [classifyActionEndpoint, rfind_marker start suffix hsuffix, Option.bind_eq_bind,
    Option.bind_some, hlength, if_false, hdrop, hnonempty, hsuffix, or_self, hrole, htake]

/-- Derived names extend the action name by the marker and a fixed suffix. -/
theorem derive_shape {actionFqn : ByteString} {names : ActionEndpointNames}
    (hnames : deriveActionEndpointNames actionFqn = some names) :
    actionFqn ≠ [] ∧
      names =
        { sendGoal := actionFqn ++ text "/_action/" ++ text "send_goal"
          cancelGoal := actionFqn ++ text "/_action/" ++ text "cancel_goal"
          getResult := actionFqn ++ text "/_action/" ++ text "get_result"
          feedback := actionFqn ++ text "/_action/" ++ text "feedback"
          status := actionFqn ++ text "/_action/" ++ text "status" } := by
  unfold deriveActionEndpointNames at hnames
  split at hnames
  · cases hnames
  · next hshape =>
    split at hnames
    · cases hnames
    · refine ⟨?_, (Option.some.inj hnames).symm⟩
      rintro rfl
      simp at hshape

/-- An action name is the beginning of the logical names of its endpoints. -/
theorem classify_start {endpoint : NormalizedEndpointName}
    {classified : ActionEndpointClassification}
    (h : classifyActionEndpoint endpoint = some classified) :
    classified.actionName <+: endpoint.logicalName := by
  simp only [classifyActionEndpoint, Option.bind_eq_bind, Option.bind_eq_some_iff] at h
  obtain ⟨position, -, h⟩ := h
  split at h
  · cases h
  · split at h
    · cases h
    · obtain ⟨role, -, h⟩ := Option.bind_eq_some_iff.mp h
      rw [← Option.some.inj h]
      exact List.take_prefix _ _

/-- A name with a frame around something is told by the frame and what it
encloses. -/
theorem inner_eq_iff {value leading trailing path : ByteString} (hpath : path ≠ []) :
    leading <+: value ∧ trailing <:+ value ∧ inner value leading.length trailing.length = path ↔
      value = leading ++ path ++ trailing := by
  constructor
  · rintro ⟨⟨rest, rfl⟩, htrailing, hinner⟩
    have hrest : inner (leading ++ rest) leading.length trailing.length =
        rest.take (rest.length - trailing.length) := by
      rw [inner, List.drop_left, List.length_append, Nat.add_sub_cancel_left]
    rw [hrest] at hinner
    have hlong : trailing.length ≤ rest.length := by
      by_contra hshort
      have hzero : rest.length - trailing.length = 0 := by omega
      rw [hzero, List.take_zero] at hinner
      exact hpath hinner.symm
    obtain ⟨enclosed, rfl⟩ :=
      List.suffix_of_suffix_length_le htrailing (List.suffix_append leading rest) hlong
    rw [List.length_append, Nat.add_sub_cancel, List.take_left] at hinner
    rw [hinner, List.append_assoc]
  · rintro rfl
    refine ⟨?_, List.suffix_append _ _, ?_⟩
    · rw [List.append_assoc]
      exact List.prefix_append _ _
    · have hlength : path.length + trailing.length - trailing.length = path.length := by omega
      rw [inner, List.append_assoc, List.drop_left, List.length_append, Nat.add_sub_cancel_left,
        List.length_append, hlength, List.take_left]

/-- Two beginnings of one length are the same. -/
theorem start_unique {value start start' : ByteString} (hstart : start <+: value)
    (hstart' : start' <+: value) (hlength : start.length = start'.length) : start = start' :=
  (List.prefix_of_prefix_length_le hstart hstart' hlength.le).eq_of_length hlength

/-- What a ROS 2 transport name maps back to, by its beginning. -/
theorem normalize_ros2 {ddsName : ByteString} {n : NormalizedEndpointName} :
    normalizeEndpointName .ros2 ddsName = some n ↔
      1 < n.logicalName.length ∧
        (text "rt/" <+: ddsName ∧ n = ⟨text "/" ++ ddsName.drop 3, .topic⟩ ∨
          text "rq/" <+: ddsName ∧ text "Request" <:+ ddsName ∧
            n = ⟨text "/" ++ inner ddsName 3 7, .serviceRequest⟩ ∨
          text "rr/" <+: ddsName ∧ text "Reply" <:+ ddsName ∧
            n = ⟨text "/" ++ inner ddsName 3 5, .serviceResponse⟩) := by
  have hnamed : ∀ result : NormalizedEndpointName,
      (if result.logicalName.length ≤ 1 then none else some result) = some n ↔
        1 < n.logicalName.length ∧ n = result := by
    intro result
    split
    · next hshort =>
      simp only [reduceCtorEq, false_iff, not_and]
      rintro hlong rfl
      omega
    · next hlong =>
      rw [Option.some.injEq]
      constructor
      · rintro rfl
        exact ⟨by omega, rfl⟩
      · rintro ⟨-, rfl⟩
        rfl
  have hrq : text "rt/" <+: ddsName → ¬ text "rq/" <+: ddsName :=
    fun h h' => absurd (start_unique h h' (by decide)) (by decide)
  have hrr : text "rt/" <+: ddsName → ¬ text "rr/" <+: ddsName :=
    fun h h' => absurd (start_unique h h' (by decide)) (by decide)
  have hrr' : text "rq/" <+: ddsName → ¬ text "rr/" <+: ddsName :=
    fun h h' => absurd (start_unique h h' (by decide)) (by decide)
  simp only [normalizeEndpointName, nameStartsWith, nameEndsWith, Bool.and_eq_true,
    List.isPrefixOf_iff_prefix, List.isSuffixOf_iff_suffix]
  by_cases htopic : text "rt/" <+: ddsName
  · simp only [htopic, hrq htopic, hrr htopic, if_true, Option.bind_eq_bind, Option.bind_some,
      true_and, false_and, or_false]
    exact hnamed ⟨_, .topic⟩
  · by_cases hrequest : text "rq/" <+: ddsName ∧ text "Request" <:+ ddsName
    · simp only [htopic, hrequest, hrr' hrequest.1, and_self, if_true, if_false,
        Option.bind_eq_bind, Option.bind_some, true_and, false_and, or_false, false_or]
      exact hnamed ⟨_, .serviceRequest⟩
    · by_cases hresponse : text "rr/" <+: ddsName ∧ text "Reply" <:+ ddsName
      · have hrq' : ¬ text "rq/" <+: ddsName := fun h => hrr' h hresponse.1
        simp only [htopic, hrq', hresponse, and_self, if_true, if_false, Option.bind_eq_bind,
          Option.bind_some, true_and, false_and, false_or]
        exact hnamed ⟨_, .serviceResponse⟩
      · have hnone : ∀ n', ¬ (text "rq/" <+: ddsName ∧ text "Request" <:+ ddsName ∧ n = n') :=
          fun _ h => hrequest ⟨h.1, h.2.1⟩
        have hnone' : ∀ n', ¬ (text "rr/" <+: ddsName ∧ text "Reply" <:+ ddsName ∧ n = n') :=
          fun _ h => hresponse ⟨h.1, h.2.1⟩
        simp [htopic, hrequest, hresponse, hnone, hnone']

/-- A ROS 2 transport name encodes one direction of a service exactly where it
is the topic of that direction. -/
theorem normalize_service {ddsName path : ByteString} (hpath : path ≠ []) (request : Bool) :
    normalizeEndpointName .ros2 ddsName =
        some ⟨text "/" ++ path, if request then .serviceRequest else .serviceResponse⟩ ↔
      ddsName = serviceTopicName .ros2 (text "/" ++ path) request := by
  have hslash : (text "/" ++ path).drop 1 = path := rfl
  have hlong : 1 < (text "/" ++ path).length := by
    have hnonempty := List.length_pos_iff.mpr hpath
    have hone : (text "/").length = 1 := rfl
    rw [List.length_append, hone]
    omega
  have hnamed : ∀ octets, text "/" ++ path = text "/" ++ octets ↔ octets = path := fun octets =>
    ⟨fun h => (List.append_cancel_left h).symm, fun h => h ▸ rfl⟩
  simp only [normalize_ros2, serviceTopicName, hlong, true_and, NormalizedEndpointName.mk.injEq,
    hnamed, hslash]
  cases request with
  | true =>
    have hframe : text "rq/" <+: ddsName ∧ text "Request" <:+ ddsName ∧
        inner ddsName 3 7 = path ↔ ddsName = text "rq/" ++ path ++ text "Request" :=
      inner_eq_iff hpath
    simpa using hframe
  | false =>
    have hframe : text "rr/" <+: ddsName ∧ text "Reply" <:+ ddsName ∧
        inner ddsName 3 5 = path ↔ ddsName = text "rr/" ++ path ++ text "Reply" :=
      inner_eq_iff hpath
    simpa using hframe

end Dmw.GraphNames
