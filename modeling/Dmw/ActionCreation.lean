import Dmw.NameResolution

/-!
# Names of the endpoints of an action

The factories of `Node` resolve an action name, derive five names from it and
pass each of them to a factory that resolves and remaps again. What else a
factory asks for may fail at any point.
-/

namespace Dmw.ActionCreation

open Identity GraphNames NameResolution

/-- What the calls after the names are resolved answer. -/
structure Failures where
  /-- The Context is shut down. -/
  shutdown : Bool
  /-- The goal service. -/
  goal : Option Error
  /-- The cancel service. -/
  cancel : Option Error
  /-- The result service. -/
  result : Option Error
  /-- The feedback topic. -/
  feedback : Option Error
  /-- The status topic. -/
  status : Option Error
  /-- The action itself. -/
  action : Option Error

/-- An action with the logical names of its constituents. -/
structure Action where
  /-- The name of the action. -/
  logicalName : ByteString
  /-- The names of its services and topics. -/
  endpoints : ActionEndpointNames
  deriving DecidableEq

/-- What a failure lets through. -/
def barring {α : Type} (failure : Option Error) (a : α) : Result α :=
  match failure with
  | none => .ok a
  | some e => .error e

section

variable (node : NodeNames) (remaps : List RemapRule) (failure : Option Error) (name : ByteString)

/-- A factory resolves and remaps its name. -/
def createEndpoint : Result ByteString := do
  let logicalName ← resolveRemappedName node.name node.nodeNamespace remaps name
  barring failure logicalName

/-- `create_client`. -/
def createClient : Result ByteString := createEndpoint node remaps failure name

/-- `create_server`. -/
def createServer : Result ByteString := createEndpoint node remaps failure name

/-- `create_publisher`. -/
def createPublisher : Result ByteString := createEndpoint node remaps failure name

/-- `create_subscriber`. -/
def createSubscriber : Result ByteString := createEndpoint node remaps failure name

end

section

variable (node : NodeNames) (remaps : List RemapRule) (failures : Failures)
  (actionName : ByteString)

/-- The constituents of an action, with a factory for services and one for topics. -/
def createAction (service topic : Option Error → ByteString → Result ByteString) :
    Result Action := do
  let logicalName ← resolveRemappedName node.name node.nodeNamespace remaps actionName
  match deriveActionEndpointNames logicalName with
  | none => .error ⟨.invalidName,"Action name is not a valid fully qualified name"⟩
  | some names => do
    barring (if failures.shutdown then some ⟨.contextShutdown,"Context is shut down"⟩ else none) ()
    let goal ← service failures.goal names.sendGoal
    let cancel ← service failures.cancel names.cancelGoal
    let result ← service failures.result names.getResult
    let feedback ← topic failures.feedback names.feedback
    let status ← topic failures.status names.status
    barring failures.action ⟨logicalName,⟨goal,cancel,result,feedback,status⟩⟩

/-- `create_action_client`. -/
def createActionClient : Result Action :=
  createAction node remaps failures actionName (createClient node remaps)
    (createSubscriber node remaps)

/-- `create_action_server`. -/
def createActionServer (resultTimeout : ℤ) : Result Action :=
  if resultTimeout < 0 then .error ⟨.invalidArgument,"result_timeout must not be negative"⟩
  else
    createAction node remaps failures actionName (createServer node remaps)
      (createPublisher node remaps)

end

/-- The last rule that is about a name, if any, gives the name itself. -/
def Kept (node : NodeNames) (remaps : List RemapRule) (name : ByteString) : Prop :=
  LastHit (node.Hits name) node.nodeNamespace remaps name name

/-- The five names of an action. -/
def names (endpoints : ActionEndpointNames) : List ByteString :=
  [endpoints.sendGoal,endpoints.cancelGoal,endpoints.getResult,endpoints.feedback,
    endpoints.status]

section

variable {node : NodeNames} {remaps : List RemapRule} {failure : Option Error}
  {failures : Failures} {actionName name r : ByteString} {endpoints : ActionEndpointNames}
  {action : Action}

/-- A remapped name is qualified. -/
theorem remapped_qualified
    (h : resolveRemappedName node.name node.nodeNamespace remaps name = .ok r) : Qualified r := by
  rcases resolveRemappedName_cases node remaps name with ⟨herror, -⟩ | ⟨r', hok, hvalue, -, hlast⟩
  · rw [herror] at h
    cases h
  · obtain rfl := Except.ok.inj (hok.symm.trans h)
    exact hlast.qualified (resolveName_qualified node.namespace_qualified
      (resolveName_of_resolvable hvalue))

/-- A qualified name stays exactly when the last rule about it keeps it. -/
theorem remapped_iff_kept (hname : Qualified name)
    (h : resolveRemappedName node.name node.nodeNamespace remaps name = .ok r) :
    r = name ↔ Kept node remaps name := by
  rcases resolveRemappedName_cases node remaps name with ⟨herror, -⟩ | ⟨r', hok, hvalue, -, hlast⟩
  · rw [herror] at h
    cases h
  · obtain rfl := Except.ok.inj (hok.symm.trans h)
    have hsame : expanded node.nodeNamespace name = name := if_pos hname.absolute
    rw [hsame] at hlast
    constructor
    · intro heq
      rw [heq] at hlast
      exact hlast
    · exact fun hkept => lastHit_functional hlast hkept

/-- The names derived from a qualified name are qualified. -/
theorem derived_qualified (hname : Qualified name)
    (h : deriveActionEndpointNames name = some endpoints) :
    ∀ derived ∈ names endpoints, Qualified derived := by
  have hpart : ∀ part : ByteString, hasInvalidNameSyntax (text "/_action/" ++ part) = false →
      part ≠ [] → part.getLast? ≠ some slash → Qualified (name ++ text "/_action/" ++ part) := by
    intro part hclean hnil hlast
    refine ⟨?_,?_,?_⟩
    · rw [List.append_assoc, List.head?_append, hname.absolute, Option.some_or]
    · rw [List.append_assoc]
      exact clean_append hname.clean hclean fun hend => absurd hend hname.whole
    · rw [List.getLast?_append_of_ne_nil _ hnil]
      exact hlast
  obtain ⟨-, rfl⟩ := derive_shape h
  simp only [names, List.forall_mem_cons, List.not_mem_nil, false_implies, implies_true, and_true]
  exact ⟨hpart _ (by decide) (by decide) (by decide),hpart _ (by decide) (by decide) (by decide),
    hpart _ (by decide) (by decide) (by decide),hpart _ (by decide) (by decide) (by decide),
    hpart _ (by decide) (by decide) (by decide)⟩

end

section

variable {node : NodeNames} {remaps : List RemapRule} {failure : Option Error}
  {failures : Failures} {actionName name r : ByteString} {action : Action}

/-- A computation that ends had a first result. -/
theorem bind_ok {α β : Type} {x : Result α} {f : α → Result β} {b : β} (h : x >>= f = .ok b) :
    ∃ a, x = .ok a ∧ f a = .ok b := by
  cases x with
  | error e => cases h
  | ok a => exact ⟨a, rfl, h⟩

/-- A factory that succeeds has the remapped name. -/
theorem createEndpoint_ok (h : createEndpoint node remaps failure name = .ok r) :
    resolveRemappedName node.name node.nodeNamespace remaps name = .ok r := by
  obtain ⟨logicalName, hresolved, hrest⟩ := bind_ok h
  cases failure with
  | none =>
    obtain rfl := Except.ok.inj hrest
    exact hresolved
  | some e => cases hrest

/-- An action that is created has its own name remapped, and each derived name
remapped again. -/
theorem createAction_ok
    (h : createAction node remaps failures actionName (createEndpoint node remaps)
      (createEndpoint node remaps) = .ok action) :
    resolveRemappedName node.name node.nodeNamespace remaps actionName = .ok action.logicalName ∧
      ∃ derived, deriveActionEndpointNames action.logicalName = some derived ∧
        List.Forall₂ (fun name r =>
          resolveRemappedName node.name node.nodeNamespace remaps name = .ok r)
          (names derived) (names action.endpoints) := by
  obtain ⟨logicalName, hresolved, h⟩ := bind_ok h
  cases hderived : deriveActionEndpointNames logicalName with
  | none =>
    rw [hderived] at h
    cases h
  | some derived =>
    rw [hderived] at h
    obtain ⟨_, _, h⟩ := bind_ok h
    obtain ⟨goal, hgoal, h⟩ := bind_ok h
    obtain ⟨cancel, hcancel, h⟩ := bind_ok h
    obtain ⟨result, hresult, h⟩ := bind_ok h
    obtain ⟨feedback, hfeedback, h⟩ := bind_ok h
    obtain ⟨status, hstatus, h⟩ := bind_ok h
    cases haction : failures.action with
    | some e =>
      rw [haction] at h
      cases h
    | none =>
      rw [haction] at h
      obtain rfl := Except.ok.inj h
      exact ⟨hresolved, derived, hderived,
        .cons (createEndpoint_ok hgoal) (.cons (createEndpoint_ok hcancel)
          (.cons (createEndpoint_ok hresult) (.cons (createEndpoint_ok hfeedback)
            (.cons (createEndpoint_ok hstatus) .nil))))⟩

/-- Five names in their order determine the record. -/
theorem names_injective {lhs rhs : ActionEndpointNames} (h : names lhs = names rhs) : lhs = rhs := by
  obtain ⟨goal, cancel, result, feedback, status⟩ := lhs
  obtain ⟨goal', cancel', result', feedback', status'⟩ := rhs
  simp only [names, List.cons.injEq, and_true] at h
  obtain ⟨rfl, rfl, rfl, rfl, rfl⟩ := h
  rfl

/-- Remapping a list of qualified names gives the same list exactly when every
name is kept. -/
theorem remapped_eq_iff {derived remapped : List ByteString}
    (h : List.Forall₂ (fun name r =>
      resolveRemappedName node.name node.nodeNamespace remaps name = .ok r) derived remapped)
    (hqualified : ∀ name ∈ derived, Qualified name) :
    remapped = derived ↔ ∀ name ∈ derived, Kept node remaps name := by
  induction h with
  | nil => exact ⟨fun _ _ hmem => absurd hmem List.not_mem_nil, fun _ => rfl⟩
  | cons hfirst _ ih =>
    have hhead := remapped_iff_kept (hqualified _ List.mem_cons_self) hfirst
    have htail := ih fun name hmem => hqualified name (List.mem_cons_of_mem _ hmem)
    rw [List.cons.injEq, List.forall_mem_cons, hhead, htail]

/-- The constituents of an action that is created have the five names derived
from its own name exactly when no rule gives one of these another name. -/
theorem action_names_iff (node : NodeNames) (remaps : List RemapRule) (failures : Failures)
    (actionName : ByteString) (resultTimeout : ℤ) (action : Action)
    (h : createActionClient node remaps failures actionName = .ok action ∨
      createActionServer node remaps failures actionName resultTimeout = .ok action) :
    resolveRemappedName node.name node.nodeNamespace remaps actionName = .ok action.logicalName ∧
      (deriveActionEndpointNames action.logicalName = some action.endpoints ↔
        ∀ derived, deriveActionEndpointNames action.logicalName = some derived →
          ∀ name ∈ names derived, Kept node remaps name) := by
  have hcreated : createAction node remaps failures actionName (createEndpoint node remaps)
      (createEndpoint node remaps) = .ok action := by
    rcases h with hclient | hserver
    · exact hclient
    · unfold createActionServer at hserver
      split_ifs at hserver
      exact hserver
  obtain ⟨hresolved, derived, hderived, hremapped⟩ := createAction_ok hcreated
  refine ⟨hresolved, ?_⟩
  have hqualified := derived_qualified (remapped_qualified hresolved) hderived
  have hsame := remapped_eq_iff hremapped hqualified
  rw [hderived]
  constructor
  · intro heq derived' heq'
    obtain rfl := Option.some.inj heq'
    exact hsame.mp (congrArg names (Option.some.inj heq).symm)
  · intro hkept
    exact congrArg some (names_injective (hsame.mpr (hkept derived rfl))).symm

end

theorem rootNode_plain :
    text "n" ≠ [] ∧ hasInvalidNameSyntax (text "n") = false ∧ slash ∉ text "n" := by decide

theorem rootNode_normalized : normalizeNamespace [] = .ok (text "/") := rfl

/-- A node in the root namespace. -/
def rootNode : NodeNames where
  name := text "n"
  nodeNamespace := text "/"
  plain := rootNode_plain
  normalized := ⟨[], rootNode_normalized⟩

/-- Nothing fails. -/
def noFailures : Failures := ⟨false,none,none,none,none,none,none⟩

/-- A rule about the action only. -/
def renamed : List RemapRule := [⟨text "fib",text "gib"⟩]

theorem action_names_iff_renamed :
    resolveRemappedName rootNode.name rootNode.nodeNamespace renamed (text "fib") =
        .ok (text "/gib") ∧
      (deriveActionEndpointNames (text "/gib") =
          some ⟨text "/gib/_action/send_goal",text "/gib/_action/cancel_goal",
            text "/gib/_action/get_result",text "/gib/_action/feedback",
            text "/gib/_action/status"⟩ ↔
        ∀ derived, deriveActionEndpointNames (text "/gib") = some derived →
          ∀ name ∈ names derived, Kept rootNode renamed name) :=
  action_names_iff rootNode renamed noFailures (text "fib") 0
    ⟨text "/gib",text "/gib/_action/send_goal",text "/gib/_action/cancel_goal",
      text "/gib/_action/get_result",text "/gib/_action/feedback",text "/gib/_action/status"⟩
    (Or.inl (by decide +kernel))

/-- A rule about the result of another rule is applied to it. -/
theorem derived_name_remapped :
    ¬ ∀ (node : NodeNames) (remaps : List RemapRule) (actionName : ByteString) (action : Action),
      createActionClient node remaps noFailures actionName = .ok action →
      deriveActionEndpointNames action.logicalName = some action.endpoints := by
  intro hclaim
  have hnames := hclaim rootNode
    [⟨text "fib",text "gib"⟩,⟨text "/gib/_action/feedback",text "/other"⟩] (text "fib")
    ⟨text "/gib",text "/gib/_action/send_goal",text "/gib/_action/cancel_goal",
      text "/gib/_action/get_result",text "/other",text "/gib/_action/status"⟩ (by decide +kernel)
  exact absurd hnames (by decide +kernel)

end Dmw.ActionCreation
