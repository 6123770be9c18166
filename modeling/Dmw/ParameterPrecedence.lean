import Dmw.ArgumentVectors
import Dmw.ParameterConstraints

/-!
# Precedence of parameter overrides

A node takes the overrides of its Context and its own ones, selects those that
apply to it, and starts a declared parameter with one of them. Which one that
is, is compared with the order in which remap rules win.
-/

namespace Dmw.ParameterPrecedence

open ArgumentVectors GraphNames Identity NameResolution
open Parameters ParameterStore

variable {δ : Type} [FloatingPoint δ]

/-- `NodeOptions`. -/
structure NodeOptions where
  /-- `node_name`. -/
  nodeName : ByteString
  /-- `node_namespace`. -/
  nodeNamespace : ByteString
  /-- `arguments`. -/
  arguments : Arguments
  /-- `use_global_arguments`. -/
  useGlobalArguments : Bool
  /-- `allow_undeclared_parameters`. -/
  allowUndeclaredParameters : Bool

/-- A remapping that is given takes the place of a name. -/
def remapped (remapping name : ByteString) : ByteString := if remapping = [] then name else remapping

/-- The node name after both remappings. -/
def NodeOptions.name (global : Arguments) (options : NodeOptions) : ByteString :=
  remapped options.arguments.nodeNameRemap
    (if options.useGlobalArguments then remapped global.nodeNameRemap options.nodeName
      else options.nodeName)

/-- The namespace after both remappings. -/
def NodeOptions.namespace (global : Arguments) (options : NodeOptions) : ByteString :=
  remapped options.arguments.namespaceRemap
    (if options.useGlobalArguments then remapped global.namespaceRemap options.nodeNamespace
      else options.nodeNamespace)

/-- The overrides of the Context that a node takes. -/
def NodeOptions.globalOverrides (global : Arguments) (options : NodeOptions) :
    List ParameterOverride :=
  if options.useGlobalArguments then global.parameterOverrides else []

/-- The remap rules of the Context that a node takes. -/
def NodeOptions.globalRemaps (global : Arguments) (options : NodeOptions) : List RemapRule :=
  if options.useGlobalArguments then global.remaps else []

/-- `Node::Impl` as it is constructed. -/
structure CreatedNode (δ : Type) extends NodeNames where
  /-- `remaps_`. -/
  remaps : List RemapRule
  /-- `parameters_`. -/
  parameters : ParameterStoreState δ

/-- The constructor of `Node::Impl`. -/
def CreatedNode.of (names : NodeNames) (remaps : List RemapRule)
    (overrides : List ParameterOverride) (allowUndeclaredParameters : Bool) : CreatedNode δ where
  toNodeNames := names
  remaps := remaps
  parameters := .initial allowUndeclaredParameters
    (selectParameterOverrides overrides names.name names.fullyQualifiedName)

/-- `create_node`, up to the discovery graph. -/
def createNode (global : Arguments) (options : NodeOptions) : Result (CreatedNode δ) :=
  let name := options.name global
  if hplain : name ≠ [] ∧ hasInvalidNameSyntax name = false ∧ slash ∉ name then
    match hnormalized : normalizeNamespace (options.namespace global) with
    | .error e => .error e
    | .ok normalized => .ok (CreatedNode.of ⟨name,normalized,hplain,_,hnormalized⟩
        (options.globalRemaps global ++ options.arguments.remaps)
        (options.globalOverrides global ++ options.arguments.parameterOverrides)
        options.allowUndeclaredParameters)
  else .error ⟨.invalidName,"Node name contains unsupported syntax"⟩

/-- The values that overrides give to a parameter of a node, in order. -/
def given (node : NodeNames) (name : ByteString) (overrides : List ParameterOverride) :
    List (ParameterValue δ) :=
  ((selectParameterOverrides overrides node.name node.fullyQualifiedName).filter
    fun parameter => parameter.name = name).map (·.value)

/-- The node-local overrides of a parameter win over those of the Context, and
the last of them over the others. -/
structure Preferred (global : Arguments) (options : NodeOptions) (node : CreatedNode δ)
    (name : ByteString) (defaultValue : ParameterValue δ) : Prop where
  /-- The last node-local override is used. -/
  nodeLocal : ∀ value, (given node.toNodeNames name options.arguments.parameterOverrides).getLast? =
    some value → effectiveValue name defaultValue false node.parameters = value
  /-- Otherwise one of the Context is. -/
  contextLevel : given (δ := δ) node.toNodeNames name options.arguments.parameterOverrides = [] →
    given (δ := δ) node.toNodeNames name (options.globalOverrides global) ≠ [] →
      effectiveValue name defaultValue false node.parameters ∈
        given node.toNodeNames name (options.globalOverrides global)
  /-- Otherwise the default is. -/
  default : given (δ := δ) node.toNodeNames name options.arguments.parameterOverrides = [] →
    given (δ := δ) node.toNodeNames name (options.globalOverrides global) = [] →
      effectiveValue name defaultValue false node.parameters = defaultValue
  /-- A declaration uses that value. -/
  declared : ∀ descriptor parameter,
    (declare name defaultValue descriptor false node.parameters).1 = .ok parameter →
      parameter.value = effectiveValue name defaultValue false node.parameters

variable {global : Arguments} {options : NodeOptions} {node : CreatedNode δ} {name : ByteString}
  {defaultValue : ParameterValue δ}

/-- The overrides of a created node are those of its Context and then its own. -/
theorem createNode_overrides (h : createNode global options = .ok node) :
    node.parameters.overrides = selectParameterOverrides
      (options.globalOverrides global ++ options.arguments.parameterOverrides) node.name
        node.toNodeNames.fullyQualifiedName := by
  unfold createNode at h
  by_cases hplain : options.name global ≠ [] ∧
      hasInvalidNameSyntax (options.name global) = false ∧ slash ∉ options.name global
  · simp only [dif_pos hplain] at h
    split at h
    · cases h
    · cases h
      rfl
  · simp only [dif_neg hplain] at h
    cases h

/-- Overrides are selected one by one. -/
theorem given_append (node : NodeNames) (name : ByteString)
    (overrides overrides' : List ParameterOverride) :
    given (δ := δ) node name (overrides ++ overrides') =
      given node name overrides ++ given node name overrides' := by
  unfold given selectParameterOverrides
  rw [List.filterMap_append,List.filter_append,List.map_append]

/-- A declaration starts with the first override that is given. -/
theorem effectiveValue_eq (h : createNode global options = .ok node) (name : ByteString)
    (defaultValue : ParameterValue δ) :
    effectiveValue name defaultValue false node.parameters =
      (given node.toNodeNames name (options.globalOverrides global) ++
        given node.toNodeNames name options.arguments.parameterOverrides).head?.getD
          defaultValue := by
  have hgiven : given node.toNodeNames name (options.globalOverrides global) ++
      given node.toNodeNames name options.arguments.parameterOverrides =
        (node.parameters.overrides.filter fun parameter => parameter.name = name).map (·.value) := by
    rw [← given_append,createNode_overrides h]
    rfl
  unfold effectiveValue
  rw [hgiven,List.head?_map,List.head?_filter,if_neg Bool.noConfusion]
  cases node.parameters.overrides.find? fun parameter => decide (parameter.name = name) with
  | none => rfl
  | some parameter => rfl

/-- A parameter that is declared has the value its declaration starts with. -/
theorem declare_value {descriptor : ParameterDescriptor δ} {parameter : Parameter δ}
    {s : ParameterStoreState δ}
    (h : (declare name defaultValue descriptor false s).1 = .ok parameter) :
    parameter.value = effectiveValue name defaultValue false s := by
  unfold declare at h
  cases hname : validateParameterName name with
  | error e => rw [hname] at h; cases h
  | ok _ =>
    cases hdescriptor : validateDescriptor descriptor defaultValue with
    | error e => rw [hname,hdescriptor] at h; cases h
    | ok _ =>
      rw [hname,hdescriptor] at h
      by_cases hdeclared : (s.parameters.lookup name).isSome = true
      · simp only [if_pos hdeclared] at h
        cases h
      · simp only [if_neg hdeclared] at h
        unfold declareLocked at h
        by_cases htype : descriptor.dynamicTyping = false ∧
            (effectiveValue name defaultValue false s).isSet = true ∧
              defaultValue.isSet = true ∧
                (effectiveValue name defaultValue false s).type ≠ defaultValue.type
        · simp only [if_pos htype] at h
          cases h
        · simp only [if_neg htype] at h
          cases hvalue : validateValueAgainstDescriptor
              (effectiveValue name defaultValue false s) descriptor with
          | error e => rw [hvalue] at h; cases h
          | ok _ =>
            rw [hvalue] at h
            cases h
            rfl

/-- Every override that a node takes, in order. -/
abbrev allGiven (global : Arguments) (options : NodeOptions) (node : CreatedNode δ)
    (name : ByteString) : List (ParameterValue δ) :=
  given node.toNodeNames name (options.globalOverrides global) ++
    given node.toNodeNames name options.arguments.parameterOverrides

/-- A declaration follows the order of remap rules, by which the last one wins,
exactly if the first override that is given gives the value of the last. -/
theorem lastWins_iff (h : createNode global options = .ok node) (name : ByteString)
    (defaultValue : ParameterValue δ) :
    effectiveValue name defaultValue false node.parameters =
        (allGiven global options node name).getLast?.getD defaultValue ↔
      (allGiven global options node name).head? = (allGiven global options node name).getLast? := by
  rw [effectiveValue_eq h name defaultValue]
  unfold allGiven
  generalize given (δ := δ) node.toNodeNames name (options.globalOverrides global) ++
    given node.toNodeNames name options.arguments.parameterOverrides = values
  cases hlast : values.getLast? with
  | none =>
    rw [List.getLast?_eq_none_iff] at hlast
    rw [hlast]
    exact ⟨fun _ => rfl,fun _ => rfl⟩
  | some last =>
    cases values with
    | nil => cases hlast
    | cons first rest =>
      constructor
      · intro heq
        exact congrArg some heq
      · intro heq
        exact Option.some.inj heq

/-- The order of precedence is kept for a parameter exactly if no node-local
override gives it, or the first override that gives it, those of the Context
first, gives it the value of the last node-local one. -/
theorem preferred_iff (h : createNode global options = .ok node) (name : ByteString)
    (defaultValue : ParameterValue δ) :
    Preferred global options node name defaultValue ↔
      ∀ value : ParameterValue δ,
        (given node.toNodeNames name options.arguments.parameterOverrides).getLast? = some value →
          (given node.toNodeNames name (options.globalOverrides global) ++
            given node.toNodeNames name options.arguments.parameterOverrides).head? =
              some value := by
  have heffective := effectiveValue_eq h name defaultValue
  generalize hlocal : given (δ := δ) node.toNodeNames name options.arguments.parameterOverrides =
    localValues at heffective
  generalize hglobal : given (δ := δ) node.toNodeNames name (options.globalOverrides global) =
    globalValues at heffective
  constructor
  · intro hpreferred value hlast
    have hused := hpreferred.nodeLocal value (by rw [hlocal]; exact hlast)
    cases hhead : (globalValues ++ localValues).head? with
    | none =>
      rw [List.head?_eq_none_iff,List.append_eq_nil_iff] at hhead
      rw [hhead.2] at hlast
      cases hlast
    | some first =>
      rw [hhead] at heffective
      exact congrArg some (heffective.symm.trans hused)
  · intro hfirst
    refine ⟨fun value hlast => ?_,fun hnone hsome => ?_,fun hnone hnothing => ?_,
      fun descriptor parameter hdeclared => declare_value hdeclared⟩
    · rw [hlocal] at hlast
      rw [heffective,hfirst value hlast]
      rfl
    · rw [hlocal] at hnone
      rw [hglobal] at hsome ⊢
      rw [heffective,hnone,List.append_nil]
      cases globalValues with
      | nil => exact absurd rfl hsome
      | cons first rest => exact List.mem_cons_self
    · rw [hlocal] at hnone
      rw [hglobal] at hnothing
      rw [heffective,hnone,hnothing]
      rfl

/-- Arguments that set one parameter. -/
def settingUse (value : ByteString) : Arguments :=
  ⟨[],[⟨text "use",value⟩],[],[],[]⟩

/-- A node that sets the parameter that its Context sets. -/
def useOptions (value : ByteString) : NodeOptions := ⟨text "n",[],settingUse value,true,false⟩

theorem useNode_plain :
    text "n" ≠ [] ∧ hasInvalidNameSyntax (text "n") = false ∧ slash ∉ text "n" := by decide

theorem useNode_normalized : ∃ value, normalizeNamespace value = .ok (text "/") := ⟨[],rfl⟩

/-- Its names. -/
def useNames : NodeNames where
  name := text "n"
  nodeNamespace := text "/"
  plain := useNode_plain
  normalized := useNode_normalized

/-- The node that is created with these options. -/
def useNode (value : ByteString) : CreatedNode Float :=
  CreatedNode.of useNames [] [⟨text "use",text "true"⟩,⟨text "use",value⟩] false

/-- The node is created. -/
theorem useNode_created (value : ByteString) :
    createNode (settingUse (text "true")) (useOptions value) = .ok (useNode value) := rfl

/-- A node-local override that agrees with the one of the Context is kept to. -/
theorem preferred_iff_agreeing : createNode (settingUse (text "true")) (useOptions (text "true")) =
      .ok (useNode (text "true")) ∧
    Preferred (settingUse (text "true")) (useOptions (text "true")) (useNode (text "true"))
      (text "use") (.bool false) :=
  ⟨useNode_created (text "true"),
    (preferred_iff (useNode_created (text "true")) (text "use") (.bool false)).mpr
      fun _ hlast => hlast⟩

/-- A node-local override loses to one of the Context. -/
theorem contextLevel_wins : createNode (settingUse (text "true")) (useOptions (text "false")) =
      .ok (useNode (text "false")) ∧
    effectiveValue (text "use") (.bool false) false (useNode (text "false")).parameters =
      .bool true ∧
    ¬ Preferred (settingUse (text "true")) (useOptions (text "false")) (useNode (text "false"))
      (text "use") (.bool false) :=
  ⟨useNode_created (text "false"),rfl,
    fun hpreferred => by
      have hused := hpreferred.nodeLocal (.bool false) rfl
      cases hused⟩

end Dmw.ParameterPrecedence
