import Mathlib.Data.List.Chain
import Dmw.GraphNames
import Dmw.Identity

/-!
# Resolving and remapping names

Names are resolved against the namespace of a node and then remapped by the
rules of its arguments. A resolved name is fully qualified: no namespace
changes it again.
-/

namespace Dmw.NameResolution

open Identity GraphNames

/-- The octet of the home shorthand. -/
def tilde : UInt8 := 0x7E

/-- The octets of substitutions. -/
def braces : List UInt8 := [0x7B,0x7D]

/-- The octet between the scope of a rule and its source. -/
def colon : UInt8 := 0x3A

/-- Syntax that names do not have. -/
def hasInvalidNameSyntax (value : ByteString) : Bool :=
  decide (text "//" <:+: value) || value.contains tilde || braces.any value.contains

/-- A namespace starts with a slash and does not end with one. -/
def normalizeNamespace (value : ByteString) : Result ByteString :=
  if value = [] then .ok (text "/")
  else if hasInvalidNameSyntax value then
    .error ⟨.invalidName,"Namespace contains unsupported syntax"⟩
  else
    let normalized := if value.head? = some slash then value else text "/" ++ value
    if 1 < normalized.length ∧ normalized.getLast? = some slash then
      .error ⟨.invalidName,"Namespace must not have a trailing slash"⟩
    else .ok normalized

/-- The error of a name that does not resolve. -/
def unsupportedName : Error := ⟨.invalidName,"Name contains unsupported syntax"⟩

/-- An absolute name stays; a relative one gets the namespace. -/
def resolveName (nodeNamespace value : ByteString) : Result ByteString :=
  if value = [] ∨ hasInvalidNameSyntax value = true ∨ value.getLast? = some slash then
    .error unsupportedName
  else if value.head? = some slash then .ok value
  else if nodeNamespace = text "/" then .ok (text "/" ++ value)
  else .ok (nodeNamespace ++ text "/" ++ value)

/-- `RemapRule`. -/
structure RemapRule where
  /-- `from`. -/
  source : ByteString
  /-- `to`. -/
  target : ByteString

/-- The part before the first colon, and the rest; without one there is no
scope. -/
def RemapRule.parts (rule : RemapRule) : Option ByteString × ByteString :=
  if colon ∈ rule.source then
    (some (rule.source.takeWhile (· ≠ colon)),(rule.source.dropWhile (· ≠ colon)).drop 1)
  else (none,rule.source)

/-- A name without its first slash. -/
def withoutSlash (value : ByteString) : ByteString :=
  if value.head? = some slash then value.drop 1 else value

/-- The qualified node name that scopes are compared with. -/
def nodeFqn (nodeName nodeNamespace : ByteString) : ByteString :=
  if withoutSlash nodeNamespace = [] then withoutSlash nodeName
  else withoutSlash nodeNamespace ++ text "/" ++ withoutSlash nodeName

/-- Whether a scope lets a rule through. -/
def scopeAdmits (nodeName nodeNamespace : ByteString) : Option ByteString → Bool
  | none => true
  | some scope =>
    decide (withoutSlash scope = withoutSlash nodeName) ||
      decide (withoutSlash scope = nodeFqn nodeName nodeNamespace)

/-- One rule, on the result of the rules before it. -/
def applyRule (nodeName nodeNamespace original result : ByteString) (rule : RemapRule) :
    Result ByteString :=
  if scopeAdmits nodeName nodeNamespace rule.parts.1 then do
    let source ← resolveName nodeNamespace rule.parts.2
    if source = original then resolveName nodeNamespace rule.target else .ok result
  else .ok result

/-- `resolve_remapped_name`. -/
def resolveRemappedName (nodeName nodeNamespace : ByteString) (remaps : List RemapRule)
    (value : ByteString) : Result ByteString := do
  let original ← resolveName nodeNamespace value
  remaps.foldlM (applyRule nodeName nodeNamespace original) original

/-- A node has a plain name and a normalized namespace. -/
structure NodeNames where
  /-- `name_`. -/
  name : ByteString
  /-- `node_namespace_`. -/
  nodeNamespace : ByteString
  /-- The name is not empty and has no separators. -/
  plain : name ≠ [] ∧ hasInvalidNameSyntax name = false ∧ slash ∉ name
  /-- The namespace was normalized. -/
  normalized : ∃ value, normalizeNamespace value = .ok nodeNamespace

/-- `fully_qualified_name_`. -/
def NodeNames.fullyQualifiedName (node : NodeNames) : ByteString :=
  if node.nodeNamespace = text "/" then text "/" ++ node.name
  else node.nodeNamespace ++ text "/" ++ node.name

/-- A name of the graph: absolute, with parts that are not empty. -/
structure Qualified (name : ByteString) : Prop where
  /-- It starts with a slash. -/
  absolute : name.head? = some slash
  /-- It has no empty part and no shorthand. -/
  clean : hasInvalidNameSyntax name = false
  /-- It does not end with a slash. -/
  whole : name.getLast? ≠ some slash

section

variable {nodeNamespace value name r : ByteString} {e : Error}

/-- Two slashes in a row. -/
theorem doubled_iff : text "//" <:+: value ↔
    ¬ value.IsChain fun lhs rhs => ¬ (lhs = slash ∧ rhs = slash) := by
  rw [List.isChain_iff_forall_rel_of_append_cons_cons]
  constructor
  · rintro ⟨before, after, heq⟩ hchain
    have hsplit : value = before ++ slash :: slash :: after := by
      rw [← heq]
      simp [text, slash]
    exact hchain hsplit ⟨rfl, rfl⟩
  · intro hchain
    simp only [not_forall, not_not] at hchain
    obtain ⟨lhs, rhs, before, after, heq, rfl, rfl⟩ := hchain
    exact ⟨before, after, by rw [heq]; simp [text, slash]⟩

/-- Clean syntax, octet by octet. -/
theorem clean_iff : hasInvalidNameSyntax value = false ↔
    (value.IsChain fun lhs rhs => ¬ (lhs = slash ∧ rhs = slash)) ∧
      ∀ octet ∈ value, octet ≠ tilde ∧ octet ∉ braces := by
  simp only [hasInvalidNameSyntax, Bool.or_eq_false_iff, decide_eq_false_iff_not, doubled_iff,
    not_not, List.contains_eq_mem, List.any_eq_false, decide_eq_true_eq]
  constructor
  · rintro ⟨⟨hchain, htilde⟩, hbraces⟩
    refine ⟨hchain, fun octet hmem => ⟨?_, fun hbrace => hbraces octet hbrace hmem⟩⟩
    rintro rfl
    exact htilde hmem
  · rintro ⟨hchain, hplain⟩
    exact ⟨⟨hchain, fun hmem => (hplain tilde hmem).1 rfl⟩,
      fun octet hbrace hmem => (hplain octet hmem).2 hbrace⟩

/-- Clean parts make a clean whole unless two slashes meet. -/
theorem clean_append {lhs rhs : ByteString} (hlhs : hasInvalidNameSyntax lhs = false)
    (hrhs : hasInvalidNameSyntax rhs = false)
    (hseam : lhs.getLast? = some slash → rhs.head? ≠ some slash) :
    hasInvalidNameSyntax (lhs ++ rhs) = false := by
  rw [clean_iff] at hlhs hrhs ⊢
  refine ⟨List.isChain_append.mpr ⟨hlhs.1, hrhs.1, ?_⟩, fun octet hmem => ?_⟩
  · rintro x hx y hy ⟨rfl, rfl⟩
    exact hseam hx hy
  · rcases List.mem_append.mp hmem with hmem | hmem
    · exact hlhs.2 octet hmem
    · exact hrhs.2 octet hmem

theorem slash_clean : hasInvalidNameSyntax (text "/") = false := by decide

/-- What resolves. -/
def Resolvable (value : ByteString) : Prop :=
  value ≠ [] ∧ hasInvalidNameSyntax value = false ∧ value.getLast? ≠ some slash

/-- What it resolves to. -/
def expanded (nodeNamespace value : ByteString) : ByteString :=
  if value.head? = some slash then value
  else if nodeNamespace = text "/" then text "/" ++ value
  else nodeNamespace ++ text "/" ++ value

theorem resolveName_of_resolvable (h : Resolvable value) :
    resolveName nodeNamespace value = .ok (expanded nodeNamespace value) := by
  have hno : ¬ (value = [] ∨ hasInvalidNameSyntax value = true ∨
      value.getLast? = some slash) := by
    rintro (hnil | hinvalid | hlast)
    · exact h.1 hnil
    · rw [h.2.1] at hinvalid
      cases hinvalid
    · exact h.2.2 hlast
  unfold resolveName expanded
  rw [if_neg hno]
  split_ifs <;> rfl

theorem resolveName_of_not_resolvable (h : ¬ Resolvable value) :
    resolveName nodeNamespace value = .error unsupportedName := by
  refine if_pos ?_
  by_contra hno
  simp only [not_or, Bool.not_eq_true] at hno
  exact h hno

/-- A name resolves to its expansion. -/
theorem resolveName_ok_iff : resolveName nodeNamespace value = .ok r ↔
    Resolvable value ∧ r = expanded nodeNamespace value := by
  by_cases h : Resolvable value
  · rw [resolveName_of_resolvable h]
    exact ⟨fun heq => ⟨h, (Except.ok.inj heq).symm⟩, fun heq => by rw [heq.2]⟩
  · rw [resolveName_of_not_resolvable h]
    exact ⟨fun heq => (by cases heq), fun heq => absurd heq.1 h⟩

/-- It fails in one way. -/
theorem resolveName_error_iff : resolveName nodeNamespace value = .error e ↔
    ¬ Resolvable value ∧ e = unsupportedName := by
  by_cases h : Resolvable value
  · rw [resolveName_of_resolvable h]
    exact ⟨fun heq => (by cases heq), fun heq => absurd h heq.1⟩
  · rw [resolveName_of_not_resolvable h]
    exact ⟨fun heq => ⟨h, (Except.error.inj heq).symm⟩, fun heq => by rw [heq.2]⟩

/-- It fails exactly when it is not resolvable. -/
theorem fails_iff : (∃ e, resolveName nodeNamespace value = .error e) ↔ ¬ Resolvable value :=
  ⟨fun ⟨_, he⟩ => (resolveName_error_iff.mp he).1,
    fun hno => ⟨_, resolveName_of_not_resolvable hno⟩⟩

/-- A qualified name is left alone by every namespace. -/
theorem Qualified.resolveName_eq (h : Qualified name) (nodeNamespace : ByteString) :
    resolveName nodeNamespace name = .ok name := by
  refine resolveName_ok_iff.mpr ⟨⟨?_, h.clean, h.whole⟩, ?_⟩
  · rintro rfl
    exact Option.some_ne_none _ h.absolute.symm
  · rw [expanded, if_pos h.absolute]

/-- A normalized namespace is the root or qualified. -/
theorem normalizeNamespace_ok (h : normalizeNamespace value = .ok r) :
    r = text "/" ∨ Qualified r := by
  unfold normalizeNamespace at h
  dsimp only at h
  split_ifs at h with hnil hinvalid hslash htrail htrail
  · exact Or.inl (Except.ok.inj h).symm
  · obtain rfl := Except.ok.inj h
    by_cases hlong : 1 < value.length
    · exact Or.inr ⟨hslash,by simpa using hinvalid,fun hlast => htrail ⟨hlong, hlast⟩⟩
    · refine Or.inl ?_
      cases value with
      | nil => exact absurd rfl hnil
      | cons octet rest =>
        obtain rfl : octet = slash := Option.some.inj hslash
        cases rest with
        | nil => rfl
        | cons _ _ => exact absurd (by simp) hlong
  · obtain rfl := Except.ok.inj h
    refine Or.inr ⟨rfl,?_,fun hlast => htrail ⟨?_, hlast⟩⟩
    · exact clean_append slash_clean (by simpa using hinvalid) fun _ => hslash
    · cases value with
      | nil => exact absurd rfl hnil
      | cons _ _ => simp [text]

/-- A name resolved in a normalized namespace is qualified. -/
theorem resolveName_qualified (hns : nodeNamespace = text "/" ∨ Qualified nodeNamespace)
    (h : resolveName nodeNamespace value = .ok r) : Qualified r := by
  obtain ⟨⟨hnil, hclean, hwhole⟩, rfl⟩ := resolveName_ok_iff.mp h
  have hlast : ∀ start : ByteString, (start ++ value).getLast? = value.getLast? :=
    fun start => by rw [List.getLast?_append_of_ne_nil _ hnil]
  unfold expanded
  split_ifs with hslash hroot
  · exact ⟨hslash,hclean,hwhole⟩
  · refine ⟨rfl,clean_append slash_clean hclean fun _ => hslash,?_⟩
    rw [hlast]
    exact hwhole
  · have hqualified := hns.resolve_left hroot
    refine ⟨?_,?_,?_⟩
    · rw [List.append_assoc, List.head?_append, hqualified.absolute, Option.some_or]
    · rw [List.append_assoc]
      refine clean_append hqualified.clean (clean_append slash_clean hclean fun _ => hslash) ?_
      exact fun hend => absurd hend hqualified.whole
    · rw [hlast]
      exact hwhole

end

/-- A rule is for a node if it has no scope, or if its scope is the name of the
node or its qualified name, up to one leading slash. -/
def NodeNames.Addressed (node : NodeNames) (rule : RemapRule) : Prop :=
  match rule.parts.1 with
  | none => True
  | some scope =>
    withoutSlash scope = node.name ∨ withoutSlash scope = withoutSlash node.fullyQualifiedName

/-- A rule for a node is about a name. -/
def NodeNames.Hits (node : NodeNames) (original : ByteString) (rule : RemapRule) : Prop :=
  node.Addressed rule ∧ resolveName node.nodeNamespace rule.parts.2 = .ok original

/-- A rule for a node that makes every name fail, or the names it is about. -/
def NodeNames.Spoils (node : NodeNames) (original : ByteString) (rule : RemapRule) : Prop :=
  node.Addressed rule ∧ ¬ Resolvable rule.parts.2 ∨
    node.Hits original rule ∧ ¬ Resolvable rule.target

/-- The last of the rules that hit decides, with none the name stays. -/
def LastHit (hits : RemapRule → Prop) (nodeNamespace : ByteString) (rules : List RemapRule)
    (original r : ByteString) : Prop :=
  (∃ before rule after, rules = before ++ rule :: after ∧ hits rule ∧
    (∀ later ∈ after, ¬ hits later) ∧ resolveName nodeNamespace rule.target = .ok r) ∨
  (∀ rule ∈ rules, ¬ hits rule) ∧ r = original

/-- A rule is a node's own if it has no scope, or if its scope is the name of
the node or its qualified name. -/
def NodeNames.Owns (node : NodeNames) (rule : RemapRule) : Prop :=
  ∀ scope, rule.parts.1 = some scope → scope = node.name ∨ scope = node.fullyQualifiedName

/-- A rule of the node's own is about a name. -/
def NodeNames.Matches (node : NodeNames) (original : ByteString) (rule : RemapRule) : Prop :=
  node.Owns rule ∧ resolveName node.nodeNamespace rule.parts.2 = .ok original

/-- Remapping as the comment on `resolve_remapped_name` has it, where only
rules of the node's own apply. -/
structure Remapped (node : NodeNames) (rules : List RemapRule) (value : ByteString) : Prop where
  /-- The last match decides, and the result is a qualified name. -/
  decided : ∀ r, resolveRemappedName node.name node.nodeNamespace rules value = .ok r →
    (∃ original, resolveName node.nodeNamespace value = .ok original ∧
      LastHit (node.Matches original) node.nodeNamespace rules original r) ∧
    Qualified r ∧ ∀ nodeNamespace, resolveName nodeNamespace r = .ok r
  /-- There is one code for its errors. -/
  invalid : ∀ e, resolveRemappedName node.name node.nodeNamespace rules value = .error e →
    e.code = .invalidName
  /-- It fails for the name, a source that applies or a target that matches. -/
  fails : (∃ e, resolveRemappedName node.name node.nodeNamespace rules value = .error e) ↔
    ((∃ e, resolveName node.nodeNamespace value = .error e) ∨
      (∃ rule ∈ rules, node.Owns rule ∧
        ∃ e, resolveName node.nodeNamespace rule.parts.2 = .error e) ∨
      ∃ original, resolveName node.nodeNamespace value = .ok original ∧
        ∃ rule ∈ rules, node.Matches original rule ∧
          ∃ e, resolveName node.nodeNamespace rule.target = .error e)

/-- The rules let through for their spelling alone change nothing: the name or
a rule of the node's own fails anyway, or none of them fails, and where one of
them is the last to hit, the node's own rules lead to its target. -/
def Undisturbed (node : NodeNames) (rules : List RemapRule) (value : ByteString) : Prop :=
  ¬ Resolvable value ∨
  (∃ rule ∈ rules, node.Owns rule ∧ node.Spoils (expanded node.nodeNamespace value) rule) ∨
  (∀ rule ∈ rules, ¬ node.Owns rule →
    ¬ node.Spoils (expanded node.nodeNamespace value) rule) ∧
  ∀ before rule after, rules = before ++ rule :: after →
    ¬ node.Owns rule → node.Hits (expanded node.nodeNamespace value) rule →
    (∀ later ∈ after, ¬ node.Hits (expanded node.nodeNamespace value) later) →
    LastHit (node.Matches (expanded node.nodeNamespace value)) node.nodeNamespace rules
      (expanded node.nodeNamespace value) (expanded node.nodeNamespace rule.target)

section

variable {node : NodeNames} {original result r value : ByteString} {rule : RemapRule}
  {rules : List RemapRule} {e : Error}

/-- The namespace of a node is the root or qualified. -/
theorem NodeNames.namespace_qualified (node : NodeNames) :
    node.nodeNamespace = text "/" ∨ Qualified node.nodeNamespace := by
  obtain ⟨value, hvalue⟩ := node.normalized
  exact normalizeNamespace_ok hvalue

/-- A node name has no slash to drop. -/
theorem NodeNames.withoutSlash_name (node : NodeNames) : withoutSlash node.name = node.name := by
  refine if_neg fun hhead => node.plain.2.2 ?_
  exact List.mem_of_mem_head? hhead

/-- What scopes are compared with is the qualified name without its slash. -/
theorem NodeNames.nodeFqn_eq (node : NodeNames) :
    nodeFqn node.name node.nodeNamespace = withoutSlash node.fullyQualifiedName := by
  rcases node.namespace_qualified with hroot | hqualified
  · have hns : withoutSlash node.nodeNamespace = [] := by rw [hroot]; rfl
    rw [nodeFqn, if_pos hns, node.withoutSlash_name, NodeNames.fullyQualifiedName, if_pos hroot]
    rfl
  · obtain ⟨rest, hrest⟩ := List.head?_eq_some_iff.mp hqualified.absolute
    have hne : node.nodeNamespace ≠ text "/" := by
      intro hroot
      exact hqualified.whole (by rw [hroot]; rfl)
    have hns : withoutSlash node.nodeNamespace = rest := by rw [hrest]; rfl
    have hlong : rest ≠ [] := by
      rintro rfl
      exact hne hrest
    rw [nodeFqn, hns, if_neg hlong, node.withoutSlash_name, NodeNames.fullyQualifiedName,
      if_neg hne, hrest]
    rfl

/-- The rules let through are those for the node. -/
theorem scopeAdmits_iff :
    scopeAdmits node.name node.nodeNamespace rule.parts.1 = true ↔ node.Addressed rule := by
  unfold NodeNames.Addressed
  cases hscope : rule.parts.1 with
  | none => exact ⟨fun _ => trivial, fun _ => rfl⟩
  | some scope =>
    simp only [scopeAdmits, Bool.or_eq_true, decide_eq_true_eq, node.withoutSlash_name,
      node.nodeFqn_eq]

/-- A rule that spoils the name ends the loop. -/
theorem applyRule_spoils (h : node.Spoils original rule) :
    applyRule node.name node.nodeNamespace original result rule = .error unsupportedName := by
  rcases h with ⟨haddressed, hsource⟩ | ⟨⟨haddressed, hsource⟩, htarget⟩
  · rw [applyRule, if_pos (scopeAdmits_iff.mpr haddressed), resolveName_of_not_resolvable hsource]
    rfl
  · rw [applyRule, if_pos (scopeAdmits_iff.mpr haddressed), hsource]
    change (if original = original then _ else _) = _
    rw [if_pos rfl, resolveName_of_not_resolvable htarget]

/-- Any other rule that hits gives its target. -/
theorem applyRule_hits (h : node.Hits original rule) (hgood : ¬ node.Spoils original rule) :
    applyRule node.name node.nodeNamespace original result rule =
      .ok (expanded node.nodeNamespace rule.target) := by
  have htarget : Resolvable rule.target := by
    by_contra hno
    exact hgood (Or.inr ⟨h, hno⟩)
  rw [applyRule, if_pos (scopeAdmits_iff.mpr h.1), h.2]
  change (if original = original then _ else _) = _
  rw [if_pos rfl, resolveName_of_resolvable htarget]

/-- And one that does not hit leaves the result. -/
theorem applyRule_misses (h : ¬ node.Hits original rule) (hgood : ¬ node.Spoils original rule) :
    applyRule node.name node.nodeNamespace original result rule = .ok result := by
  unfold applyRule
  split_ifs with hscope
  · have haddressed := scopeAdmits_iff.mp hscope
    have hsource : Resolvable rule.parts.2 := by
      by_contra hno
      exact hgood (Or.inl ⟨haddressed, hno⟩)
    have hne : expanded node.nodeNamespace rule.parts.2 ≠ original := by
      rintro rfl
      exact h ⟨haddressed, resolveName_of_resolvable hsource⟩
    rw [resolveName_of_resolvable hsource]
    exact if_neg hne
  · rfl

/-- With a spoiling rule anywhere the loop fails. -/
theorem loop_error (hbad : ∃ rule ∈ rules, node.Spoils original rule) :
    rules.foldlM (applyRule node.name node.nodeNamespace original) result =
      .error unsupportedName := by
  induction rules generalizing result with
  | nil =>
    obtain ⟨rule, hmem, -⟩ := hbad
    exact absurd hmem List.not_mem_nil
  | cons first rest ih =>
    rw [List.foldlM_cons]
    by_cases hfirst : node.Spoils original first
    · rw [applyRule_spoils hfirst]
      rfl
    · have hrest : ∃ rule ∈ rest, node.Spoils original rule := by
        obtain ⟨rule, hmem, hrule⟩ := hbad
        rcases List.mem_cons.mp hmem with rfl | hmem
        · exact absurd hrule hfirst
        · exact ⟨rule, hmem, hrule⟩
      by_cases hhit : node.Hits original first
      · rw [applyRule_hits hhit hfirst]
        exact ih hrest
      · rw [applyRule_misses hhit hfirst]
        exact ih hrest

/-- With none it ends at the last rule that hits. -/
theorem loop_ok (result : ByteString) (hgood : ∀ rule ∈ rules, ¬ node.Spoils original rule) :
    ∃ r, rules.foldlM (applyRule node.name node.nodeNamespace original) result = .ok r ∧
      LastHit (node.Hits original) node.nodeNamespace rules result r := by
  induction rules generalizing result with
  | nil => exact ⟨result, rfl, Or.inr ⟨fun _ hmem => absurd hmem List.not_mem_nil, rfl⟩⟩
  | cons first rest ih =>
    have hfirst := hgood first List.mem_cons_self
    have hrest : ∀ rule ∈ rest, ¬ node.Spoils original rule := fun rule hmem =>
      hgood rule (List.mem_cons_of_mem _ hmem)
    rw [List.foldlM_cons]
    by_cases hhit : node.Hits original first
    · rw [applyRule_hits hhit hfirst]
      obtain ⟨r, hloop, hlast⟩ := ih (expanded node.nodeNamespace first.target) hrest
      refine ⟨r, hloop, Or.inl ?_⟩
      rcases hlast with ⟨before, rule, after, rfl, hrule, hafter, htarget⟩ | ⟨hnone, rfl⟩
      · exact ⟨first :: before, rule, after, rfl, hrule, hafter, htarget⟩
      · have htarget : Resolvable first.target := by
          by_contra hno
          exact hfirst (Or.inr ⟨hhit, hno⟩)
        exact ⟨[], first, rest, rfl, hhit, hnone, resolveName_of_resolvable htarget⟩
    · rw [applyRule_misses hhit hfirst]
      obtain ⟨r, hloop, hlast⟩ := ih result hrest
      refine ⟨r, hloop, ?_⟩
      rcases hlast with ⟨before, rule, after, rfl, hrule, hafter, htarget⟩ | ⟨hnone, rfl⟩
      · exact Or.inl ⟨first :: before, rule, after, rfl, hrule, hafter, htarget⟩
      · refine Or.inr ⟨fun rule hmem => ?_, rfl⟩
        rcases List.mem_cons.mp hmem with rfl | hmem
        · exact hhit
        · exact hnone rule hmem

/-- No hit after a last hit is an earlier one. -/
theorem lastHit_unique {hits : RemapRule → Prop} {before before' after after' : List RemapRule}
    {rule rule' : RemapRule} (heq : before ++ rule :: after = before' ++ rule' :: after')
    (hrule' : hits rule') (hafter : ∀ later ∈ after, ¬ hits later)
    (hlonger : before.length ≤ before'.length) : rule = rule' := by
  rcases List.append_eq_append_iff.mp heq with ⟨middle, rfl, hmiddle⟩ | ⟨middle, hbefore, hmiddle⟩
  · cases middle with
    | nil => exact (List.cons.inj hmiddle).1
    | cons first rest =>
      have hmem : rule' ∈ after := by
        rw [(List.cons.inj hmiddle).2]
        exact List.mem_append_right _ List.mem_cons_self
      exact absurd hrule' (hafter rule' hmem)
  · have hnil : middle = [] := by
      have hlength := congrArg List.length hbefore
      rw [List.length_append] at hlength
      exact List.eq_nil_of_length_eq_zero (by omega)
    rw [hnil] at hmiddle
    exact (List.cons.inj hmiddle).1.symm

/-- The last hit decides on one name. -/
theorem lastHit_functional {hits : RemapRule → Prop} {nodeNamespace r' : ByteString}
    (h : LastHit hits nodeNamespace rules original r)
    (h' : LastHit hits nodeNamespace rules original r') : r = r' := by
  rcases h with ⟨before, rule, after, heq, hrule, hafter, htarget⟩ | ⟨hnone, rfl⟩
  · rcases h' with ⟨before', rule', after', heq', hrule', hafter', htarget'⟩ | ⟨hnone', rfl⟩
    · have hsame : rule = rule' := by
        rcases Nat.le_total before.length before'.length with hle | hle
        · exact lastHit_unique (heq.symm.trans heq') hrule' hafter hle
        · exact (lastHit_unique (heq'.symm.trans heq) hrule hafter' hle).symm
      rw [hsame] at htarget
      exact Except.ok.inj (htarget.symm.trans htarget')
    · have hmem : rule ∈ rules := by
        rw [heq]
        exact List.mem_append_right _ List.mem_cons_self
      exact absurd hrule (hnone' rule hmem)
  · rcases h' with ⟨before', rule', after', heq', hrule', _, _⟩ | ⟨_, rfl⟩
    · have hmem : rule' ∈ rules := by
        rw [heq']
        exact List.mem_append_right _ List.mem_cons_self
      exact absurd hrule' (hnone rule' hmem)
    · rfl

/-- A last hit in a namespace of a node is qualified, like the name it started from. -/
theorem LastHit.qualified {hits : RemapRule → Prop}
    (h : LastHit hits node.nodeNamespace rules original r) (horiginal : Qualified original) :
    Qualified r := by
  rcases h with ⟨_, rule, _, _, _, _, htarget⟩ | ⟨_, rfl⟩
  · exact resolveName_qualified node.namespace_qualified htarget
  · exact horiginal

/-- Remapping fails exactly for a name, a source or a target that does not
resolve; otherwise the last rule that hits decides. -/
theorem resolveRemappedName_cases (node : NodeNames) (rules : List RemapRule)
    (value : ByteString) :
    resolveRemappedName node.name node.nodeNamespace rules value = .error unsupportedName ∧
      (¬ Resolvable value ∨
        ∃ rule ∈ rules, node.Spoils (expanded node.nodeNamespace value) rule) ∨
    ∃ r, resolveRemappedName node.name node.nodeNamespace rules value = .ok r ∧
      Resolvable value ∧
      (∀ rule ∈ rules, ¬ node.Spoils (expanded node.nodeNamespace value) rule) ∧
      LastHit (node.Hits (expanded node.nodeNamespace value)) node.nodeNamespace rules
        (expanded node.nodeNamespace value) r := by
  by_cases hvalue : Resolvable value
  · have hrun : resolveRemappedName node.name node.nodeNamespace rules value =
        rules.foldlM (applyRule node.name node.nodeNamespace (expanded node.nodeNamespace value))
          (expanded node.nodeNamespace value) := by
      rw [resolveRemappedName, resolveName_of_resolvable hvalue]
      rfl
    by_cases hbad : ∃ rule ∈ rules, node.Spoils (expanded node.nodeNamespace value) rule
    · exact Or.inl ⟨hrun.trans (loop_error hbad), Or.inr hbad⟩
    · have hgood : ∀ rule ∈ rules, ¬ node.Spoils (expanded node.nodeNamespace value) rule :=
        fun rule hmem hrule => hbad ⟨rule, hmem, hrule⟩
      obtain ⟨r, hloop, hlast⟩ := loop_ok (expanded node.nodeNamespace value) hgood
      exact Or.inr ⟨r, hrun.trans hloop, hvalue, hgood, hlast⟩
  · refine Or.inl ⟨?_, Or.inl hvalue⟩
    rw [resolveRemappedName, resolveName_of_not_resolvable hvalue]
    rfl

/-- The last rule for a node that is about the resolved name decides, never a
rule about its result; it fails with `InvalidName` exactly when the name, the
source of a rule for the node or the target of a rule that hits does not
resolve; and a result is qualified and fixed by every namespace. -/
theorem remapping_last_match (node : NodeNames) (rules : List RemapRule) (value : ByteString) :
    (∀ r, resolveRemappedName node.name node.nodeNamespace rules value = .ok r →
      (∃ original, resolveName node.nodeNamespace value = .ok original ∧
        LastHit (node.Hits original) node.nodeNamespace rules original r) ∧
      Qualified r ∧ ∀ nodeNamespace, resolveName nodeNamespace r = .ok r) ∧
    (∀ e, resolveRemappedName node.name node.nodeNamespace rules value = .error e →
      e.code = .invalidName) ∧
    ((∃ e, resolveRemappedName node.name node.nodeNamespace rules value = .error e) ↔
      ((∃ e, resolveName node.nodeNamespace value = .error e) ∨
        (∃ rule ∈ rules, node.Addressed rule ∧
          ∃ e, resolveName node.nodeNamespace rule.parts.2 = .error e) ∨
        ∃ original, resolveName node.nodeNamespace value = .ok original ∧
          ∃ rule ∈ rules, node.Hits original rule ∧
            ∃ e, resolveName node.nodeNamespace rule.target = .error e)) := by
  simp only [fails_iff]
  rcases resolveRemappedName_cases node rules value with
    ⟨herror, hreason⟩ | ⟨r, hok, hvalue, hgood, hlast⟩
  · rw [herror]
    refine ⟨fun r hr => (by cases hr), fun e he => ?_, fun _ => ?_, fun _ => ⟨_, rfl⟩⟩
    · rw [← Except.error.inj he]
      rfl
    · by_cases hvalue : Resolvable value
      · obtain ⟨rule, hmem, ⟨haddressed, hsource⟩ | ⟨hhits, htarget⟩⟩ :=
          hreason.resolve_left fun hno => hno hvalue
        · exact Or.inr (Or.inl ⟨rule, hmem, haddressed, hsource⟩)
        · exact Or.inr (Or.inr ⟨_, resolveName_of_resolvable hvalue, rule, hmem, hhits, htarget⟩)
      · exact Or.inl hvalue
  · rw [hok]
    have horiginal := @resolveName_of_resolvable node.nodeNamespace value hvalue
    refine ⟨fun r' hr => ?_, fun e he => (by cases he), fun ⟨e, he⟩ => (by cases he),
      fun hreason => ?_⟩
    · obtain rfl := Except.ok.inj hr
      have hqualified := hlast.qualified
        (resolveName_qualified node.namespace_qualified horiginal)
      exact ⟨⟨_, horiginal, hlast⟩, hqualified, hqualified.resolveName_eq⟩
    · rcases hreason with hno | ⟨rule, hmem, haddressed, hsource⟩ |
        ⟨original, hresolved, rule, hmem, hhits, htarget⟩
      · exact absurd hvalue hno
      · exact absurd (Or.inl ⟨haddressed, hsource⟩) (hgood rule hmem)
      · obtain rfl := Except.ok.inj (horiginal.symm.trans hresolved)
        exact absurd (Or.inr ⟨hhits, htarget⟩) (hgood rule hmem)

/-- The node's own rules are for it. -/
theorem NodeNames.Owns.addressed (h : node.Owns rule) : node.Addressed rule := by
  unfold NodeNames.Addressed
  cases hscope : rule.parts.1 with
  | none => exact trivial
  | some scope =>
    rcases h scope hscope with rfl | rfl
    · exact Or.inl node.withoutSlash_name
    · exact Or.inr rfl

/-- A match hits. -/
theorem NodeNames.Matches.hits (h : node.Matches original rule) : node.Hits original rule :=
  ⟨h.1.addressed, h.2⟩

/-- The last hit is the last match when it is a rule of the node's own. -/
theorem LastHit.matches
    (h : LastHit (node.Hits original) node.nodeNamespace rules original r)
    (hown : ∀ before rule after, rules = before ++ rule :: after → ¬ node.Owns rule →
      node.Hits original rule → (∀ later ∈ after, ¬ node.Hits original later) →
      LastHit (node.Matches original) node.nodeNamespace rules original
        (expanded node.nodeNamespace rule.target)) :
    LastHit (node.Matches original) node.nodeNamespace rules original r := by
  rcases h with ⟨before, rule, after, heq, hhit, hafter, htarget⟩ | ⟨hnone, rfl⟩
  · by_cases howns : node.Owns rule
    · exact Or.inl ⟨before, rule, after, heq, ⟨howns, hhit.2⟩,
        fun later hmem hlater => hafter later hmem hlater.hits, htarget⟩
    · have hlast := hown before rule after heq howns hhit hafter
      rw [← (resolveName_ok_iff.mp htarget).2] at hlast
      exact hlast
  · exact Or.inr ⟨fun rule hmem hmatch => hnone rule hmem hmatch.hits, rfl⟩

/-- Of a resolvable name, the failures as documented are a rule of the node's
own that spoils it. -/
theorem failures_iff (hvalue : Resolvable value) :
    ((∃ e, resolveName node.nodeNamespace value = .error e) ∨
      (∃ rule ∈ rules, node.Owns rule ∧
        ∃ e, resolveName node.nodeNamespace rule.parts.2 = .error e) ∨
      ∃ original, resolveName node.nodeNamespace value = .ok original ∧
        ∃ rule ∈ rules, node.Matches original rule ∧
          ∃ e, resolveName node.nodeNamespace rule.target = .error e) ↔
      ∃ rule ∈ rules, node.Owns rule ∧
        node.Spoils (expanded node.nodeNamespace value) rule := by
  simp only [fails_iff, resolveName_ok_iff]
  constructor
  · rintro (hno | ⟨rule, hmem, howns, hsource⟩ | ⟨original, ⟨-, rfl⟩, rule, hmem, hmatch, htarget⟩)
    · exact absurd hvalue hno
    · exact ⟨rule, hmem, howns, Or.inl ⟨howns.addressed, hsource⟩⟩
    · exact ⟨rule, hmem, hmatch.1, Or.inr ⟨hmatch.hits, htarget⟩⟩
  · rintro ⟨rule, hmem, howns, ⟨-, hsource⟩ | ⟨hhits, htarget⟩⟩
    · exact Or.inr (Or.inl ⟨rule, hmem, howns, hsource⟩)
    · exact Or.inr (Or.inr ⟨_, ⟨hvalue, rfl⟩, rule, hmem, ⟨howns, hhits.2⟩, htarget⟩)

/-- A spoiling rule is one of the node's own unless its scope is neither the
name nor the qualified name of the node. -/
theorem owned_of_spoils
    (hforeign : ∀ rule ∈ rules, ¬ node.Owns rule → ¬ node.Spoils original rule)
    (h : ∃ rule ∈ rules, node.Spoils original rule) :
    ∃ rule ∈ rules, node.Owns rule ∧ node.Spoils original rule := by
  obtain ⟨rule, hmem, hspoils⟩ := h
  by_cases howns : node.Owns rule
  · exact ⟨rule, hmem, howns, hspoils⟩
  · exact absurd hspoils (hforeign rule hmem howns)

/-- Remapping as documented is undisturbed. -/
theorem Remapped.undisturbed (h : Remapped node rules value) : Undisturbed node rules value := by
  by_cases hvalue : Resolvable value
  · refine Or.inr ?_
    by_cases hown : ∃ rule ∈ rules, node.Owns rule ∧
        node.Spoils (expanded node.nodeNamespace value) rule
    · exact Or.inl hown
    · refine Or.inr ?_
      rcases resolveRemappedName_cases node rules value with
        ⟨herror, -⟩ | ⟨r, hok, -, hgood, hlast⟩
      · exact absurd ((failures_iff hvalue).mp (h.fails.mp ⟨_, herror⟩)) hown
      · obtain ⟨⟨original, horiginal, hmatches⟩, -⟩ := h.decided r hok
        rw [(resolveName_ok_iff.mp horiginal).2] at hmatches
        refine ⟨fun rule hmem _ => hgood rule hmem, ?_⟩
        -- a last hit leads where the loop ends, whoever's rule it is
        intro before rule after heq _ hhit hafter
        have htarget : Resolvable rule.target := by
          by_contra hno
          exact hgood rule (heq ▸ List.mem_append_right _ List.mem_cons_self) (Or.inr ⟨hhit, hno⟩)
        have hthis : LastHit (node.Hits (expanded node.nodeNamespace value)) node.nodeNamespace
            rules (expanded node.nodeNamespace value) (expanded node.nodeNamespace rule.target) :=
          Or.inl ⟨before, rule, after, heq, hhit, hafter, resolveName_of_resolvable htarget⟩
        rw [lastHit_functional hthis hlast]
        exact hmatches
  · exact Or.inl hvalue

/-- Undisturbed, the last rule of the node's own decides. -/
theorem Undisturbed.decided (h : Undisturbed node rules value)
    (hr : resolveRemappedName node.name node.nodeNamespace rules value = .ok r) :
    ∃ original, resolveName node.nodeNamespace value = .ok original ∧
      LastHit (node.Matches original) node.nodeNamespace rules original r := by
  rcases resolveRemappedName_cases node rules value with
    ⟨herror, -⟩ | ⟨r', hok, hvalue, hgood, hlast⟩
  · rw [herror] at hr
    cases hr
  · obtain rfl := Except.ok.inj (hok.symm.trans hr)
    rcases h with hno | ⟨rule, hmem, -, hspoils⟩ | ⟨-, hown⟩
    · exact absurd hvalue hno
    · exact absurd hspoils (hgood rule hmem)
    · exact ⟨_, resolveName_of_resolvable hvalue, hlast.matches hown⟩

/-- Undisturbed, a resolvable name fails for rules of the node's own only. -/
theorem Undisturbed.fails (h : Undisturbed node rules value) (hvalue : Resolvable value) :
    (∃ e, resolveRemappedName node.name node.nodeNamespace rules value = .error e) ↔
      ∃ rule ∈ rules, node.Owns rule ∧
        node.Spoils (expanded node.nodeNamespace value) rule := by
  rcases resolveRemappedName_cases node rules value with ⟨herror, hreason⟩ | ⟨r, hok, -, hgood, -⟩
  · refine ⟨fun _ => ?_, fun _ => ⟨_, herror⟩⟩
    rcases h with hno | hown | ⟨hforeign, -⟩
    · exact absurd hvalue hno
    · exact hown
    · exact owned_of_spoils hforeign (hreason.resolve_left fun hno => hno hvalue)
  · constructor
    · rintro ⟨e, he⟩
      rw [hok] at he
      cases he
    · rintro ⟨rule, hmem, -, hspoils⟩
      exact absurd hspoils (hgood rule hmem)

/-- And remapping is as documented. -/
theorem Undisturbed.remapped (h : Undisturbed node rules value) : Remapped node rules value := by
  have hlaws := remapping_last_match node rules value
  refine ⟨fun r hr => ⟨h.decided hr, (hlaws.1 r hr).2⟩, hlaws.2.1, ?_⟩
  by_cases hvalue : Resolvable value
  · rw [failures_iff hvalue]
    exact h.fails hvalue
  · have hfails : ∃ e, resolveName node.nodeNamespace value = .error e := fails_iff.mpr hvalue
    exact ⟨fun _ => Or.inl hfails, fun _ => hlaws.2.2.mpr (Or.inl hfails)⟩

/-- Remapping is as documented exactly when the rules let through for their
spelling alone change nothing. -/
theorem remapped_iff_undisturbed (node : NodeNames) (rules : List RemapRule)
    (value : ByteString) : Remapped node rules value ↔ Undisturbed node rules value :=
  ⟨Remapped.undisturbed, Undisturbed.remapped⟩

/-- So it is when every rule let through is one of the node's own. -/
theorem remapped_of_owned (h : ∀ rule ∈ rules, node.Addressed rule → node.Owns rule) :
    Remapped node rules value := by
  refine Undisturbed.remapped (Or.inr (Or.inr ⟨?_, ?_⟩))
  · rintro rule hmem howns (⟨haddressed, -⟩ | ⟨hhits, -⟩)
    · exact howns (h rule hmem haddressed)
    · exact howns (h rule hmem hhits.1)
  · intro before rule after heq howns hhit _
    exact absurd (h rule (heq ▸ List.mem_append_right _ List.mem_cons_self) hhit.1) howns

/-- In the root namespace the rules let through are the node's own. -/
theorem NodeNames.Addressed.owns (h : node.Addressed rule)
    (hroot : node.nodeNamespace = text "/") : node.Owns rule := by
  intro scope hscope
  have hfqn : node.fullyQualifiedName = text "/" ++ node.name := if_pos hroot
  have hname : withoutSlash scope = node.name := by
    unfold NodeNames.Addressed at h
    rw [hscope, hfqn] at h
    exact h.elim id id
  unfold withoutSlash at hname
  split_ifs at hname with hslash
  · obtain ⟨rest, rfl⟩ := List.head?_eq_some_iff.mp hslash
    rw [hfqn, ← hname]
    exact Or.inr rfl
  · exact Or.inl hname

/-- So a node of the root namespace is remapped as documented. -/
theorem remapped_at_root (hroot : node.nodeNamespace = text "/") : Remapped node rules value :=
  remapped_of_owned fun _ _ h => h.owns hroot

end

/-- A node below a namespace. -/
def nodeBelow : NodeNames where
  name := text "n"
  nodeNamespace := text "/a"
  plain := by decide
  normalized := ⟨text "/a", rfl⟩

/-- A scope that is the qualified name of another node lets a rule through as
well, when that node has the same name. -/
theorem scope_of_other_node :
    ¬ ∀ (node : NodeNames) (rules : List RemapRule) (value original r : ByteString),
      resolveName node.nodeNamespace value = .ok original →
      resolveRemappedName node.name node.nodeNamespace rules value = .ok r →
      LastHit (fun rule =>
        (∀ scope, rule.parts.1 = some scope →
          scope = node.name ∨ scope = node.fullyQualifiedName) ∧
        resolveName node.nodeNamespace rule.parts.2 = .ok original)
        node.nodeNamespace rules original r := by
  intro hclaim
  have hlast := hclaim nodeBelow [⟨text "/n:x",text "y"⟩] (text "x") (text "/a/x") (text "/a/y")
    (by decide) (by decide)
  have hscope : ¬ (text "/n" = nodeBelow.name ∨ text "/n" = nodeBelow.fullyQualifiedName) := by
    decide
  rcases hlast with ⟨before, rule, after, heq, hhits, _, _⟩ | ⟨_, hsame⟩
  · have hrule : rule = ⟨text "/n:x",text "y"⟩ := by
      have hmem : rule ∈ [(⟨text "/n:x",text "y"⟩ : RemapRule)] := by
        rw [heq]
        exact List.mem_append_right _ List.mem_cons_self
      exact List.mem_singleton.mp hmem
    rw [hrule] at hhits
    exact hscope (hhits.1 (text "/n") (by decide))
  · exact absurd hsame (by decide)

end Dmw.NameResolution
