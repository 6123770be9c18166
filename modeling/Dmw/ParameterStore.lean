import Dmw.GuardedRuns
import Dmw.KeyedTable
import Dmw.Parameters

/-!
# The parameter store

Node-local parameter state: declared values with their descriptors, the
overrides given at start, and the changes since they were last taken. Every
operation checks its whole input before it changes anything.
-/

namespace Dmw.ParameterStore

open GuardedRuns KeyedTable Identity GraphNames Parameters

variable {δ : Type} [FloatingPoint δ]

/-- A declared parameter. -/
structure StoredParameter (δ : Type) where
  /-- Current value. -/
  value : ParameterValue δ
  /-- Declared constraints. -/
  descriptor : ParameterDescriptor δ

/-- State behind the store mutex. -/
structure ParameterStoreState (δ : Type) where
  /-- Assignments may declare implicitly. -/
  allowUndeclaredParameters : Bool
  /-- Values that take the place of declared defaults. -/
  overrides : List (Parameter δ)
  /-- Declared parameters. -/
  parameters : Table ByteString (StoredParameter δ)
  /-- Changes since they were last taken. -/
  pendingChanges : ParameterChangeSet δ

/-- A store without parameters. -/
def ParameterStoreState.initial (allowUndeclaredParameters : Bool)
    (overrides : List (Parameter δ)) : ParameterStoreState δ where
  allowUndeclaredParameters := allowUndeclaredParameters
  overrides := overrides
  parameters := ∅
  pendingChanges := {}

/-- Check one integer range. -/
def validateIntegerRange (range : IntegerRange) : Result Unit :=
  if range.fromValue > range.toValue then
    .error ⟨.invalidArgument, "Integer range has from_value > to_value"⟩
  else .ok ()

/-- Check one floating-point range. -/
def validateFloatingPointRange (range : FloatingPointRange δ) : Result Unit :=
  if !FloatingPoint.lessEqual range.fromValue range.toValue then
    .error ⟨.invalidArgument, "Floating point range has from_value > to_value"⟩
  else if FloatingPoint.less range.step FloatingPoint.zero ||
      !FloatingPoint.isFinite range.step && !FloatingPoint.equal range.step FloatingPoint.zero then
    .error ⟨.invalidArgument, "Floating point range step must be zero or a finite positive value"⟩
  else .ok ()

/-- Check a descriptor against the default it is declared with. -/
def validateDescriptor (descriptor : ParameterDescriptor δ) (directValue : ParameterValue δ) :
    Result Unit := do
  descriptor.integerRanges.forM validateIntegerRange
  descriptor.floatingPointRanges.forM validateFloatingPointRange
  if descriptor.dynamicTyping = false ∧ directValue.isSet = false then
    .error ⟨.invalidArgument, "Fixed-type parameter requires a typed default value"⟩
  else .ok ()

/-- Check a number against the ranges of its kind, if there are any. -/
def validateValueAgainstDescriptor (value : ParameterValue δ)
    (descriptor : ParameterDescriptor δ) : Result Unit :=
  match value with
  | .integer integer =>
    if descriptor.integerRanges ≠ [] ∧
        descriptor.integerRanges.any (integerValueIsAcceptable integer) = false then
      .error ⟨.invalidArgument, "Integer parameter value is outside its range"⟩
    else .ok ()
  | .double floating =>
    if descriptor.floatingPointRanges ≠ [] ∧
        descriptor.floatingPointRanges.any (doubleValueIsAcceptable floating) = false then
      .error ⟨.invalidArgument, "Floating point parameter value is outside its range"⟩
    else .ok ()
  | _ => .ok ()

/-- Check one assignment against the stored parameter, if there is one. -/
def validateAssignment (name : ByteString) (value : ParameterValue δ) (implicitDeclare : Bool)
    (s : ParameterStoreState δ) : Result Unit := do
  validateParameterName name
  match s.parameters.lookup name with
  | none =>
    if s.allowUndeclaredParameters = false ∧ implicitDeclare = false then
      .error ⟨.notFound, "Parameter is not declared"⟩
    else .ok ()
  | some found =>
    if found.descriptor.readOnly then .error ⟨.invalidState, "Parameter is read-only"⟩
    else if found.descriptor.dynamicTyping = false ∧ found.value.isSet = true ∧
        found.value.type ≠ value.type then
      .error ⟨.invalidArgument, "Parameter value type does not match its declaration"⟩
    else validateValueAgainstDescriptor value found.descriptor

/-- Check the names of a request, the ones seen before included. -/
def validateNamesFrom (seen : List ByteString) : List (Parameter δ) → Result Unit
  | [] => .ok ()
  | parameter :: rest => do
    validateParameterName parameter.name
    if parameter.name ∈ seen then
      .error ⟨.invalidArgument, "Duplicate parameter name in one request"⟩
    else validateNamesFrom (parameter.name :: seen) rest

/-- Check the names of a request. -/
def validateNameAndDuplicates (parameters : List (Parameter δ)) : Result Unit :=
  validateNamesFrom [] parameters

/-- The value a declaration starts with. -/
def effectiveValue (name : ByteString) (defaultValue : ParameterValue δ) (ignoreOverride : Bool)
    (s : ParameterStoreState δ) : ParameterValue δ :=
  if ignoreOverride then defaultValue
  else
    match s.overrides.find? fun override => override.name = name with
    | none => defaultValue
    | some override => override.value

/-- Store a new parameter. -/
def declareLocked (name : ByteString) (defaultValue : ParameterValue δ)
    (descriptor : ParameterDescriptor δ) (ignoreOverride : Bool) (s : ParameterStoreState δ) :
    Result (Parameter δ) × ParameterStoreState δ :=
  let effective := effectiveValue name defaultValue ignoreOverride s
  if descriptor.dynamicTyping = false ∧ effective.isSet = true ∧ defaultValue.isSet = true ∧
      effective.type ≠ defaultValue.type then
    (.error ⟨.invalidArgument, "Parameter override type does not match the declared type"⟩, s)
  else
    match validateValueAgainstDescriptor effective descriptor with
    | .error error => (.error error, s)
    | .ok () =>
      (.ok ⟨name, effective⟩,
        { s with parameters := s.parameters.insert name ⟨effective, descriptor⟩ })

/-- Declare one parameter. -/
def declare (name : ByteString) (defaultValue : ParameterValue δ)
    (descriptor : ParameterDescriptor δ) (ignoreOverride : Bool) (s : ParameterStoreState δ) :
    Result (Parameter δ) × ParameterStoreState δ :=
  match validateParameterName name with
  | .error error => (.error error, s)
  | .ok () =>
    match validateDescriptor descriptor defaultValue with
    | .error error => (.error error, s)
    | .ok () =>
      if (s.parameters.lookup name).isSome then
        (.error ⟨.alreadyExists, "Parameter is already declared"⟩, s)
      else
        match declareLocked name defaultValue descriptor ignoreOverride s with
        | (.error error, s') => (.error error, s')
        | (.ok declared, s') =>
          (.ok declared,
            { s' with
              pendingChanges :=
                { s'.pendingChanges with
                  newParameters := s'.pendingChanges.newParameters ++ [declared] } })

/-- Undeclare one parameter. -/
def undeclare (name : ByteString) (s : ParameterStoreState δ) :
    Result Unit × ParameterStoreState δ :=
  match validateParameterName name with
  | .error error => (.error error, s)
  | .ok () =>
    match s.parameters.lookup name with
    | none => (.error ⟨.notFound, "Parameter is not declared"⟩, s)
    | some found =>
      (.ok (),
        { s with
          parameters := s.parameters.erase name
          pendingChanges :=
            { s.pendingChanges with
              deletedParameters := s.pendingChanges.deletedParameters ++ [⟨name, found.value⟩] } })

/-- Check a whole request. -/
def validate (parameters : List (Parameter δ)) (s : ParameterStoreState δ) : Result Unit := do
  validateNameAndDuplicates parameters
  parameters.forM fun parameter => validateAssignment parameter.name parameter.value false s

/-- Apply one checked assignment to the candidate and its delta. -/
def commitOne (candidate : Table ByteString (StoredParameter δ) × ParameterChangeSet δ)
    (parameter : Parameter δ) : Table ByteString (StoredParameter δ) × ParameterChangeSet δ :=
  let (parameters, delta) := candidate
  match parameters.lookup parameter.name with
  | none =>
    (parameters.insert parameter.name ⟨parameter.value, {}⟩,
      { delta with newParameters := delta.newParameters ++ [parameter] })
  | some found =>
    if found.value.equal parameter.value then (parameters, delta)
    else
      (parameters.insert parameter.name { found with value := parameter.value },
        { delta with changedParameters := delta.changedParameters ++ [parameter] })

/-- Assign a whole request or nothing. -/
def setAtomically (parameters : List (Parameter δ)) (s : ParameterStoreState δ) :
    Result (ParameterChangeSet δ) × ParameterStoreState δ :=
  match validateNameAndDuplicates parameters with
  | .error error => (.error error, s)
  | .ok () =>
    match parameters.forM fun parameter =>
        validateAssignment parameter.name parameter.value false s with
    | .error error => (.error error, s)
    | .ok () =>
      let (candidate, delta) := parameters.foldl commitOne (s.parameters, {})
      (.ok delta,
        { s with
          parameters := candidate
          pendingChanges :=
            { newParameters := s.pendingChanges.newParameters ++ delta.newParameters
              changedParameters := s.pendingChanges.changedParameters ++ delta.changedParameters
              deletedParameters := s.pendingChanges.deletedParameters } })

/-- Return and clear the pending changes. -/
def takeChanges (s : ParameterStoreState δ) :
    Result (ParameterChangeSet δ) × ParameterStoreState δ :=
  (.ok s.pendingChanges, { s with pendingChanges := {} })

/-- A call that may change the store. -/
inductive StoreCall (δ : Type)
  | declare (name : ByteString) (defaultValue : ParameterValue δ)
    (descriptor : ParameterDescriptor δ) (ignoreOverride : Bool)
  | undeclare (name : ByteString)
  | setAtomically (parameters : List (Parameter δ))
  | takeChanges

/-- Perform one call. -/
def perform (s : ParameterStoreState δ) : StoreCall δ → ParameterStoreState δ
  | .declare name defaultValue descriptor ignoreOverride =>
    (declare name defaultValue descriptor ignoreOverride s).2
  | .undeclare name => (undeclare name s).2
  | .setAtomically parameters => (setAtomically parameters s).2
  | .takeChanges => (takeChanges s).2

/-- The store as a machine. Every call may come at any time. -/
def machine : Machine (ParameterStoreState δ) (StoreCall δ) where
  enabled _ _ := True
  next := perform
  decidableEnabled _ _ := .isTrue trivial

omit [FloatingPoint δ] in
/-- A check of a list passes where it passes for every element. -/
theorem forM_ok {α : Type} {check : α → Result Unit} {l : List α} :
    l.forM check = .ok () ↔ ∀ a ∈ l, check a = .ok () := by
  induction l with
  | nil => simp [pure, Except.pure]
  | cons a l ih =>
    rw [List.forall_mem_cons, ← ih]
    have hstep : (a :: l).forM check = check a >>= fun _ => l.forM check := rfl
    rw [hstep]
    cases check a with
    | error e => simp [bind, Except.bind]
    | ok u => simp [bind, Except.bind]

omit [FloatingPoint δ] in
/-- The names of a request pass where they are well formed and distinct from one
another and from the ones seen before. -/
theorem validateNamesFrom_ok {seen : List ByteString} {parameters : List (Parameter δ)} :
    validateNamesFrom seen parameters = .ok () ↔
      (∀ p ∈ parameters, validateParameterName p.name = .ok ()) ∧
        (parameters.map (·.name)).Nodup ∧ ∀ p ∈ parameters, p.name ∉ seen := by
  induction parameters generalizing seen with
  | nil => simp [validateNamesFrom]
  | cons p rest ih =>
    rw [validateNamesFrom]
    cases hname : validateParameterName p.name with
    | error e => simp [bind, Except.bind, hname]
    | ok u =>
      by_cases hseen : p.name ∈ seen
      · simp [bind, Except.bind, hseen]
      · have hrest : (∀ q ∈ rest, q.name ∉ p.name :: seen) ↔
            p.name ∉ rest.map (·.name) ∧ ∀ q ∈ rest, q.name ∉ seen := by
          simp only [List.mem_cons, not_or, List.mem_map, not_exists, not_and]
          exact forall₂_and
        simp only [bind, Except.bind, hseen, if_false, ih, hrest]
        rw [List.forall_mem_cons, List.forall_mem_cons, List.map_cons, List.nodup_cons]
        simp only [hname, hseen, not_false_eq_true, true_and]
        tauto

/-- What a checked assignment leaves under its name. -/
def assigned (found : Option (StoredParameter δ)) (parameter : Parameter δ) : StoredParameter δ :=
  match found with
  | none => ⟨parameter.value, {}⟩
  | some found =>
    if found.value.equal parameter.value then found else { found with value := parameter.value }

/-- The assignment of a name in a request. -/
def requested (name : ByteString) (parameters : List (Parameter δ)) : Option (Parameter δ) :=
  parameters.find? fun p => p.name = name

/-- Names that were not there. -/
def isNew (table : Table ByteString (StoredParameter δ)) (parameter : Parameter δ) : Bool :=
  (table.lookup parameter.name).isNone

/-- Names whose value compares different. -/
def isChanged (table : Table ByteString (StoredParameter δ)) (parameter : Parameter δ) : Bool :=
  (table.lookup parameter.name).any fun found => !found.value.equal parameter.value

/-- One assignment touches its own name only. -/
theorem lookup_commitOne (table : Table ByteString (StoredParameter δ))
    (delta : ParameterChangeSet δ) (parameter : Parameter δ) (name : ByteString) :
    (commitOne (table, delta) parameter).1.lookup name =
      if name = parameter.name then some (assigned (table.lookup name) parameter)
      else table.lookup name := by
  simp only [commitOne, assigned]
  by_cases hname : name = parameter.name
  · subst hname
    rw [if_pos rfl]
    cases hfound : table.lookup parameter.name with
    | none => simp
    | some found =>
      dsimp only
      split
      · exact hfound
      · simp
  · rw [if_neg hname]
    cases hfound : table.lookup parameter.name with
    | none => exact AList.lookup_insert_ne hname
    | some found =>
      dsimp only
      split
      · rfl
      · exact AList.lookup_insert_ne hname

/-- One assignment is recorded as new, as changed, or not at all. -/
theorem delta_commitOne (table : Table ByteString (StoredParameter δ))
    (delta : ParameterChangeSet δ) (parameter : Parameter δ) :
    (commitOne (table, delta) parameter).2 =
      { newParameters := delta.newParameters ++ [parameter].filter (isNew table)
        changedParameters := delta.changedParameters ++ [parameter].filter (isChanged table)
        deletedParameters := delta.deletedParameters } := by
  simp only [commitOne]
  cases hfound : table.lookup parameter.name with
  | none => simp [isNew, isChanged, hfound]
  | some found =>
    dsimp only
    cases hequal : found.value.equal parameter.value with
    | true => simp [isNew, isChanged, hfound, hequal]
    | false => simp [isNew, isChanged, hfound, hequal]

/-- Distinct assignments each see the table as it was. -/
theorem foldl_commitOne {parameters : List (Parameter δ)}
    (hdistinct : (parameters.map (·.name)).Nodup) (table : Table ByteString (StoredParameter δ))
    (delta : ParameterChangeSet δ) :
    (∀ name, (parameters.foldl commitOne (table, delta)).1.lookup name =
        match requested name parameters with
        | none => table.lookup name
        | some p => some (assigned (table.lookup name) p)) ∧
      (parameters.foldl commitOne (table, delta)).2 =
        { newParameters := delta.newParameters ++ parameters.filter (isNew table)
          changedParameters := delta.changedParameters ++ parameters.filter (isChanged table)
          deletedParameters := delta.deletedParameters } := by
  induction parameters generalizing table delta with
  | nil => exact ⟨fun name => rfl, by simp⟩
  | cons p rest ih =>
    obtain ⟨habsent, hrest⟩ := List.nodup_cons.mp hdistinct
    have hone := lookup_commitOne table delta p
    obtain ⟨hlookup, hdelta⟩ :=
      ih hrest (commitOne (table, delta) p).1 (commitOne (table, delta) p).2
    rw [List.foldl_cons]
    constructor
    · intro name
      rw [hlookup, hone, requested, requested, List.find?_cons]
      by_cases hname : name = p.name
      · subst hname
        have hnone : rest.find? (fun q => q.name = p.name) = none := by
          rw [List.find?_eq_none]
          intro q hq heq
          exact habsent (List.mem_map.mpr ⟨q, hq, of_decide_eq_true heq⟩)
        simp [hnone]
      · simp [hname, Ne.symm hname]
    · have hsame : ∀ q ∈ rest, (commitOne (table, delta) p).1.lookup q.name =
          table.lookup q.name := by
        intro q hq
        rw [hone, if_neg]
        intro heq
        exact habsent (List.mem_map.mpr ⟨q, hq, heq⟩)
      have hnew : rest.filter (isNew (commitOne (table, delta) p).1) =
          rest.filter (isNew table) :=
        List.filter_congr fun q hq => by rw [isNew, isNew, hsame q hq]
      have hchanged : rest.filter (isChanged (commitOne (table, delta) p).1) =
          rest.filter (isChanged table) :=
        List.filter_congr fun q hq => by rw [isChanged, isChanged, hsame q hq]
      have hcons : ∀ test : Parameter δ → Bool, (p :: rest).filter test =
          [p].filter test ++ rest.filter test := fun test => List.filter_append [p] rest
      rw [hdelta, hnew, hchanged, delta_commitOne, hcons, hcons]
      simp only [List.append_assoc]

/-- What a successful atomic assignment has checked and done. -/
structure Committed (parameters : List (Parameter δ)) (s : ParameterStoreState δ)
    (delta : ParameterChangeSet δ) (s' : ParameterStoreState δ) : Prop where
  /-- No name is assigned twice. -/
  distinct : (parameters.map (·.name)).Nodup
  /-- Every assignment passed its check. -/
  checked : ∀ p ∈ parameters, validateAssignment p.name p.value false s = .ok ()
  /-- Requested names have their assignment, the others are left. -/
  lookup : ∀ name, s'.parameters.lookup name =
    match requested name parameters with
    | none => s.parameters.lookup name
    | some p => some (assigned (s.parameters.lookup name) p)
  /-- The delta. -/
  delta_eq : delta =
    { newParameters := parameters.filter (isNew s.parameters)
      changedParameters := parameters.filter (isChanged s.parameters) }
  /-- The pending changes grow by the delta. -/
  pending : s'.pendingChanges =
    { newParameters := s.pendingChanges.newParameters ++ delta.newParameters
      changedParameters := s.pendingChanges.changedParameters ++ delta.changedParameters
      deletedParameters := s.pendingChanges.deletedParameters }
  /-- The settings are left. -/
  settings : s'.allowUndeclaredParameters = s.allowUndeclaredParameters ∧
    s'.overrides = s.overrides

/-- An atomic assignment does what its validation says: all or nothing. -/
theorem setAtomically_cases (parameters : List (Parameter δ)) (s : ParameterStoreState δ) :
    (∃ error, validate parameters s = .error error ∧
        setAtomically parameters s = (.error error, s)) ∨
      validate parameters s = .ok () ∧ ∃ delta s', setAtomically parameters s = (.ok delta, s') ∧
        Committed parameters s delta s' := by
  unfold validate setAtomically
  cases hnames : validateNameAndDuplicates parameters with
  | error error => exact Or.inl ⟨error, rfl, rfl⟩
  | ok u =>
    simp only [bind, Except.bind]
    cases hchecked : parameters.forM fun p => validateAssignment p.name p.value false s with
    | error error => exact Or.inl ⟨error, rfl, rfl⟩
    | ok u =>
      refine Or.inr ⟨rfl, _, _, rfl, ?_⟩
      obtain ⟨-, hdistinct, -⟩ := validateNamesFrom_ok.mp hnames
      obtain ⟨hlookup, hdelta⟩ := foldl_commitOne hdistinct s.parameters {}
      simp only [List.nil_append] at hdelta
      exact ⟨hdistinct, forM_ok.mp hchecked, hlookup, hdelta, rfl, rfl, rfl⟩

/-- What a successful declaration has checked. -/
structure Declarable (name : ByteString) (defaultValue : ParameterValue δ)
    (descriptor : ParameterDescriptor δ) (effective : ParameterValue δ)
    (s : ParameterStoreState δ) : Prop where
  /-- The name is well formed. -/
  named : validateParameterName name = .ok ()
  /-- The descriptor is, for this default. -/
  described : validateDescriptor descriptor defaultValue = .ok ()
  /-- The name is free. -/
  absent : s.parameters.lookup name = none
  /-- An override keeps a fixed type. -/
  typed : descriptor.dynamicTyping = false → effective.isSet = true → defaultValue.isSet = true →
    effective.type = defaultValue.type
  /-- The value is in range. -/
  ranged : validateValueAgainstDescriptor effective descriptor = .ok ()

/-- A declaration fails without a trace or stores and records one parameter. -/
theorem declare_cases (name : ByteString) (defaultValue : ParameterValue δ)
    (descriptor : ParameterDescriptor δ) (ignoreOverride : Bool) (s : ParameterStoreState δ) :
    (∃ error, declare name defaultValue descriptor ignoreOverride s = (.error error, s)) ∨
      Declarable name defaultValue descriptor (effectiveValue name defaultValue ignoreOverride s) s ∧
        declare name defaultValue descriptor ignoreOverride s =
          (.ok ⟨name, effectiveValue name defaultValue ignoreOverride s⟩,
            { s with
              parameters := s.parameters.insert name
                ⟨effectiveValue name defaultValue ignoreOverride s, descriptor⟩
              pendingChanges :=
                { s.pendingChanges with
                  newParameters := s.pendingChanges.newParameters ++
                    [⟨name, effectiveValue name defaultValue ignoreOverride s⟩] } }) := by
  unfold declare declareLocked
  cases hname : validateParameterName name with
  | error error => exact Or.inl ⟨error, rfl⟩
  | ok u =>
    cases hdescriptor : validateDescriptor descriptor defaultValue with
    | error error => exact Or.inl ⟨error, rfl⟩
    | ok u =>
      dsimp only
      split
      · exact Or.inl ⟨_, rfl⟩
      · next habsent =>
        split
        · next error s' heq =>
          left
          split at heq
          · exact ⟨_, by rw [← (Prod.mk.inj heq).1, ← (Prod.mk.inj heq).2]⟩
          · split at heq
            · exact ⟨_, by rw [← (Prod.mk.inj heq).1, ← (Prod.mk.inj heq).2]⟩
            · cases (Prod.mk.inj heq).1
        · next declared s' heq =>
          right
          split at heq
          · cases (Prod.mk.inj heq).1
          · next htyped =>
            split at heq
            · cases (Prod.mk.inj heq).1
            · next hranged =>
              obtain ⟨hdeclared, rfl⟩ := Prod.mk.inj heq
              obtain rfl := Except.ok.inj hdeclared
              refine ⟨⟨hname, hdescriptor, by simpa using habsent, ?_, hranged⟩, rfl⟩
              intro hfixed hset hdefault
              exact Classical.byContradiction fun hne => htyped ⟨hfixed, hset, hdefault, hne⟩

omit [FloatingPoint δ] in
/-- Undeclaring fails without a trace or drops and records one parameter. -/
theorem undeclare_cases (name : ByteString) (s : ParameterStoreState δ) :
    (∃ error, undeclare name s = (.error error, s)) ∨
      ∃ found, s.parameters.lookup name = some found ∧ undeclare name s =
        (.ok (),
          { s with
            parameters := s.parameters.erase name
            pendingChanges :=
              { s.pendingChanges with
                deletedParameters :=
                  s.pendingChanges.deletedParameters ++ [⟨name, found.value⟩] } }) := by
  unfold undeclare
  cases validateParameterName name with
  | error error => exact Or.inl ⟨error, rfl⟩
  | ok u =>
    cases hfound : s.parameters.lookup name with
    | none => exact Or.inl ⟨_, rfl⟩
    | some found => exact Or.inr ⟨found, rfl, rfl⟩

omit [FloatingPoint δ] in
/-- The part of some changes that is about one name. -/
def changesOf (name : ByteString) (changes : ParameterChangeSet δ) : ParameterChangeSet δ where
  newParameters := changes.newParameters.filter fun p => p.name = name
  changedParameters := changes.changedParameters.filter fun p => p.name = name
  deletedParameters := changes.deletedParameters.filter fun p => p.name = name

/-- What a call may do to one name: leave it, declare it explicitly or
implicitly, assign it, or undeclare it. -/
inductive NameEffect (call : StoreCall δ) (name : ByteString) (s s' : ParameterStoreState δ) : Prop
  /-- Nothing happens to the name, nor to its pending changes unless they are
  taken. -/
  | left (hlookup : s'.parameters.lookup name = s.parameters.lookup name)
    (hpending : call ≠ .takeChanges →
      changesOf name s'.pendingChanges = changesOf name s.pendingChanges)
  /-- The name is declared. -/
  | declared (defaultValue : ParameterValue δ) (descriptor : ParameterDescriptor δ)
    (ignoreOverride : Bool) (hcall : call = .declare name defaultValue descriptor ignoreOverride)
    (hdeclarable : Declarable name defaultValue descriptor
      (effectiveValue name defaultValue ignoreOverride s) s)
    (hlookup : s'.parameters.lookup name =
      some ⟨effectiveValue name defaultValue ignoreOverride s, descriptor⟩)
    (hpending : changesOf name s'.pendingChanges =
      { changesOf name s.pendingChanges with
        newParameters := (changesOf name s.pendingChanges).newParameters ++
          [⟨name, effectiveValue name defaultValue ignoreOverride s⟩] })
  /-- The name is declared by its first assignment. -/
  | declaredImplicitly (parameters : List (Parameter δ)) (value : ParameterValue δ)
    (hcall : call = .setAtomically parameters)
    (hrequested : requested name parameters = some ⟨name, value⟩)
    (hchecked : validateAssignment name value false s = .ok ())
    (habsent : s.parameters.lookup name = none)
    (hlookup : s'.parameters.lookup name = some ⟨value, {}⟩)
    (hpending : changesOf name s'.pendingChanges =
      { changesOf name s.pendingChanges with
        newParameters := (changesOf name s.pendingChanges).newParameters ++ [⟨name, value⟩] })
  /-- The name is assigned a different value. -/
  | assigned (parameters : List (Parameter δ)) (found : StoredParameter δ)
    (value : ParameterValue δ) (hcall : call = .setAtomically parameters)
    (hchecked : validateAssignment name value false s = .ok ())
    (hfound : s.parameters.lookup name = some found)
    (hlookup : s'.parameters.lookup name = some { found with value := value })
    (hpending : changesOf name s'.pendingChanges =
      { changesOf name s.pendingChanges with
        changedParameters :=
          (changesOf name s.pendingChanges).changedParameters ++ [⟨name, value⟩] })
  /-- The name is undeclared. -/
  | removed (found : StoredParameter δ) (hcall : call = .undeclare name)
    (hfound : s.parameters.lookup name = some found)
    (hlookup : s'.parameters.lookup name = none)
    (hpending : changesOf name s'.pendingChanges =
      { changesOf name s.pendingChanges with
        deletedParameters :=
          (changesOf name s.pendingChanges).deletedParameters ++ [⟨name, found.value⟩] })

omit [FloatingPoint δ] in
/-- A requested name has its own assignment. -/
theorem requested_of_mem {parameters : List (Parameter δ)}
    (hdistinct : (parameters.map (·.name)).Nodup) {p : Parameter δ} (hp : p ∈ parameters) :
    requested p.name parameters = some p := by
  unfold requested
  cases hfound : parameters.find? (fun q => q.name = p.name) with
  | none => simpa using List.find?_eq_none.mp hfound p hp
  | some q =>
    have hname : q.name = p.name := by simpa using List.find?_some hfound
    rw [List.inj_on_of_nodup_map hdistinct (List.mem_of_find?_eq_some hfound) hp hname]

omit [FloatingPoint δ] in
/-- A name that is not requested has no assignment. -/
theorem requested_eq_none {parameters : List (Parameter δ)} {name : ByteString}
    (habsent : name ∉ parameters.map (·.name)) : requested name parameters = none := by
  refine List.find?_eq_none.mpr fun q hq heq => habsent ?_
  exact List.mem_map.mpr ⟨q, hq, of_decide_eq_true heq⟩

omit [FloatingPoint δ] in
/-- What an assignment of a name is. -/
theorem requested_eq_some {parameters : List (Parameter δ)} {name : ByteString} {p : Parameter δ}
    (h : requested name parameters = some p) : p ∈ parameters ∧ p.name = name :=
  ⟨List.mem_of_find?_eq_some h, by simpa using List.find?_some h⟩

omit [FloatingPoint δ] in
/-- A request without duplicates has one assignment of a name or none. -/
theorem filter_name {parameters : List (Parameter δ)}
    (hdistinct : (parameters.map (·.name)).Nodup) (name : ByteString) :
    parameters.filter (fun p => p.name = name) = (requested name parameters).toList := by
  induction parameters with
  | nil => rfl
  | cons p rest ih =>
    obtain ⟨habsent, hrest⟩ := List.nodup_cons.mp hdistinct
    rw [List.filter_cons, ih hrest, requested, requested, List.find?_cons]
    by_cases hname : p.name = name
    · subst hname
      have hnone := requested_eq_none habsent
      rw [requested] at hnone
      simp [hnone]
    · simp [hname]

omit [FloatingPoint δ] in
/-- A test keeps the one assignment of a name or drops it. -/
theorem filter_requested {parameters : List (Parameter δ)}
    (hdistinct : (parameters.map (·.name)).Nodup) (name : ByteString) (test : Parameter δ → Bool) :
    (parameters.filter test).filter (fun p => p.name = name) =
      ((requested name parameters).filter test).toList := by
  rw [List.filter_comm, filter_name hdistinct, Option.toList_filter]

/-- What a commit adds to the pending changes of one name. -/
theorem Committed.changesOf {parameters : List (Parameter δ)} {s s' : ParameterStoreState δ}
    {delta : ParameterChangeSet δ} (h : Committed parameters s delta s') (name : ByteString) :
    ParameterStore.changesOf name s'.pendingChanges =
      { newParameters := (ParameterStore.changesOf name s.pendingChanges).newParameters ++
          ((requested name parameters).filter (isNew s.parameters)).toList
        changedParameters := (ParameterStore.changesOf name s.pendingChanges).changedParameters ++
          ((requested name parameters).filter (isChanged s.parameters)).toList
        deletedParameters := (ParameterStore.changesOf name s.pendingChanges).deletedParameters } := by
  rw [h.pending, h.delta_eq]
  simp only [ParameterStore.changesOf, List.filter_append, filter_requested h.distinct]

/-- Every call has one of these effects on every name. -/
theorem perform_effect (s : ParameterStoreState δ) (call : StoreCall δ) (name : ByteString) :
    NameEffect call name s (perform s call) := by
  cases call with
  | declare name' defaultValue descriptor ignoreOverride =>
    simp only [perform]
    rcases declare_cases name' defaultValue descriptor ignoreOverride s with
      ⟨error, heq⟩ | ⟨hdeclarable, heq⟩
    · rw [heq]
      exact .left rfl fun _ => rfl
    · rw [heq]
      by_cases hname : name' = name
      · subst hname
        refine .declared defaultValue descriptor ignoreOverride rfl hdeclarable ?_ ?_
        · exact AList.lookup_insert _
        · simp [changesOf]
      · refine .left (AList.lookup_insert_ne (Ne.symm hname)) fun _ => ?_
        simp [changesOf, hname]
  | undeclare name' =>
    simp only [perform]
    rcases undeclare_cases name' s with ⟨error, heq⟩ | ⟨found, hfound, heq⟩
    · rw [heq]
      exact .left rfl fun _ => rfl
    · rw [heq]
      by_cases hname : name' = name
      · subst hname
        refine .removed found rfl hfound ?_ ?_
        · exact AList.lookup_erase _ _
        · simp [changesOf]
      · refine .left (AList.lookup_erase_ne (Ne.symm hname)) fun _ => ?_
        simp [changesOf, hname]
  | setAtomically parameters =>
    simp only [perform]
    rcases setAtomically_cases parameters s with ⟨error, -, heq⟩ | ⟨-, delta, s', heq, hcommitted⟩
    · rw [heq]
      exact .left rfl fun _ => rfl
    · rw [heq]
      have hlookup := hcommitted.lookup name
      have hpending := hcommitted.changesOf name
      cases hrequested : requested name parameters with
      | none =>
        rw [hrequested] at hlookup hpending
        refine .left hlookup fun _ => ?_
        simpa using hpending
      | some p =>
        obtain ⟨hmem, rfl⟩ := requested_eq_some hrequested
        have hchecked := hcommitted.checked p hmem
        rw [hrequested] at hlookup hpending
        cases hfound : s.parameters.lookup p.name with
        | none =>
          refine .declaredImplicitly parameters p.value rfl hrequested hchecked hfound ?_ ?_
          · rw [hlookup, hfound]
            rfl
          · simpa [isNew, isChanged, hfound, Option.filter] using hpending
        | some found =>
          cases hequal : found.value.equal p.value with
          | true =>
            refine .left ?_ fun _ => ?_
            · rw [hlookup, hfound]
              simp [assigned, hequal]
            · simpa [isNew, isChanged, hfound, hequal, Option.filter] using hpending
          | false =>
            refine .assigned parameters found p.value rfl hchecked hfound ?_ ?_
            · rw [hlookup, hfound]
              simp [assigned, hequal]
            · simpa [isNew, isChanged, hfound, hequal, Option.filter] using hpending
  | takeChanges => exact .left rfl fun h => absurd rfl h

end Dmw.ParameterStore
