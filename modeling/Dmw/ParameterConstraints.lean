import Dmw.ParameterStore

/-!
# Declared constraints

A parameter keeps what was declared about it for as long as it stays declared,
whichever of the two paths its values take into the store. A parameter that is
declared by its first assignment may start without a value; its type is that of
the first value it gets.
-/

namespace Dmw.ParameterConstraints

open GuardedRuns KeyedTable Identity GraphNames Parameters ParameterStore

variable {δ : Type} [FloatingPoint δ]

/-- The name is still declared after the call. -/
def Stays (name : ByteString) (s : ParameterStoreState δ) (call : StoreCall δ) : Prop :=
  ((perform s call).parameters.lookup name).isSome = true

/-- A run throughout which the name stays declared. -/
abbrev Lasts (name : ByteString) (s : ParameterStoreState δ) (calls : List (StoreCall δ))
    (s' : ParameterStoreState δ) : Prop := machine.RunWhen (Stays name) s calls s'

omit [FloatingPoint δ] in
/-- The default a call declares a name with. An assignment that declares a name
declares it with the assigned value. -/
def declaredDefault (name : ByteString) : StoreCall δ → Option (ParameterValue δ)
  | .declare name' defaultValue _ _ => if name' = name then some defaultValue else none
  | .setAtomically parameters => (requested name parameters).map (·.value)
  | _ => none

omit [FloatingPoint δ] in
/-- The descriptor a call declares names with. -/
def declaredDescriptor : StoreCall δ → ParameterDescriptor δ
  | .declare _ _ descriptor _ => descriptor
  | _ => {}

/-- What holds of a parameter at some moment of its life, given the call and the
value it was born with and an earlier moment. -/
structure Constrained (name : ByteString) (call : StoreCall δ)
    (born earlier current : StoredParameter δ) : Prop where
  /-- The name is well formed. -/
  named : validateParameterName name = .ok ()
  /-- The descriptor is the declared one. -/
  described : current.descriptor = declaredDescriptor call
  /-- A read-only value is the one committed at declaration. -/
  constant : current.descriptor.readOnly = true → current.value = born.value
  /-- A fixed type is that of the declared default. -/
  typed : current.descriptor.dynamicTyping = false → ∀ defaultValue,
    declaredDefault name call = some defaultValue → defaultValue.isSet = true →
      current.value.type = defaultValue.type
  /-- A fixed type never changes again once there is a value. -/
  settled : current.descriptor.dynamicTyping = false → earlier.value.isSet = true →
    current.value.type = earlier.value.type
  /-- An integer is on the grid of one of the ranges, if there are any. -/
  ranged : ∀ integer, current.value = .integer integer → current.descriptor.integerRanges ≠ [] →
    ∃ range ∈ current.descriptor.integerRanges, OnGrid integer range

/-- A literal is always a value. -/
theorem parseParameterLiteral_isSet (literal : ByteString) :
    (parseParameterLiteral literal : ParameterValue δ).isSet = true := by
  unfold parseParameterLiteral
  repeat' split
  all_goals rfl

/-- Selected overrides are values. -/
theorem selectParameterOverrides_isSet {overrides : List ParameterOverride}
    {nodeName fullyQualifiedName : ByteString} {p : Parameter δ}
    (hp : p ∈ selectParameterOverrides overrides nodeName fullyQualifiedName) :
    p.value.isSet = true := by
  obtain ⟨override, -, hselected⟩ := List.mem_filterMap.mp hp
  unfold selectOverride at hselected
  split at hselected
  · rw [← Option.some.inj hselected]
    exact parseParameterLiteral_isSet _
  · dsimp only at hselected
    split at hselected
    · cases hselected
    · rw [← Option.some.inj hselected]
      exact parseParameterLiteral_isSet _

/-- No call changes the settings. -/
theorem overrides_perform (s : ParameterStoreState δ) (call : StoreCall δ) :
    (perform s call).overrides = s.overrides := by
  cases call with
  | declare name defaultValue descriptor ignoreOverride =>
    simp only [perform]
    rcases declare_cases name defaultValue descriptor ignoreOverride s with
      ⟨error, heq⟩ | ⟨-, heq⟩ <;> rw [heq]
  | undeclare name =>
    simp only [perform]
    rcases undeclare_cases name s with ⟨error, heq⟩ | ⟨found, -, heq⟩ <;> rw [heq]
  | setAtomically parameters =>
    simp only [perform]
    rcases setAtomically_cases parameters s with ⟨error, -, heq⟩ | ⟨-, delta, s', heq, hcommitted⟩
    · rw [heq]
    · rw [heq]
      exact hcommitted.settings.2
  | takeChanges => rfl

/-- What the check of an assignment to a declared name means. -/
theorem validateAssignment_found {name : ByteString} {value : ParameterValue δ}
    {s : ParameterStoreState δ} {found : StoredParameter δ}
    (hfound : s.parameters.lookup name = some found)
    (h : validateAssignment name value false s = .ok ()) :
    found.descriptor.readOnly = false ∧
      (found.descriptor.dynamicTyping = false → found.value.isSet = true →
        found.value.type = value.type) ∧
      validateValueAgainstDescriptor value found.descriptor = .ok () := by
  unfold validateAssignment at h
  cases hname : validateParameterName name with
  | error error => simp [hname, bind, Except.bind] at h
  | ok u =>
    simp only [hname, bind, Except.bind, hfound] at h
    split at h
    · cases h
    · next hwritable =>
      split at h
      · cases h
      · next htyped =>
        refine ⟨by simpa using hwritable, fun hfixed hset => ?_, h⟩
        exact Classical.byContradiction fun hne => htyped ⟨hfixed, hset, hne⟩

/-- The check of an assignment includes its name. -/
theorem validateAssignment_name {name : ByteString} {value : ParameterValue δ}
    {s : ParameterStoreState δ} (h : validateAssignment name value false s = .ok ()) :
    validateParameterName name = .ok () := by
  unfold validateAssignment at h
  cases hname : validateParameterName name with
  | error error => simp [hname, bind, Except.bind] at h
  | ok u => rfl

/-- Every stored parameter has a well-formed name and a value in range. -/
def WellStored (s : ParameterStoreState δ) : Prop :=
  ∀ name stored, s.parameters.lookup name = some stored →
    validateParameterName name = .ok () ∧
      validateValueAgainstDescriptor stored.value stored.descriptor = .ok ()

/-- Without ranges every value is in range. -/
theorem validateValue_default (value : ParameterValue δ) :
    validateValueAgainstDescriptor value {} = .ok () := by
  unfold validateValueAgainstDescriptor
  cases value <;> simp

/-- Every call keeps the stored parameters well. -/
theorem wellStored_perform {s : ParameterStoreState δ} (call : StoreCall δ) (h : WellStored s) :
    WellStored (perform s call) := by
  intro name stored hstored
  cases perform_effect s call name with
  | left hlookup => exact h name stored (hlookup ▸ hstored)
  | declared defaultValue descriptor ignoreOverride hcall hdeclarable hlookup =>
    rw [hlookup] at hstored
    obtain rfl := Option.some.inj hstored
    exact ⟨hdeclarable.named, hdeclarable.ranged⟩
  | declaredImplicitly parameters value hcall hrequested hchecked habsent hlookup =>
    rw [hlookup] at hstored
    obtain rfl := Option.some.inj hstored
    exact ⟨validateAssignment_name hchecked, validateValue_default value⟩
  | assigned parameters found value hcall hchecked hfound hlookup =>
    rw [hlookup] at hstored
    obtain rfl := Option.some.inj hstored
    exact ⟨validateAssignment_name hchecked, (validateAssignment_found hfound hchecked).2.2⟩
  | removed found hcall hfound hlookup =>
    rw [hlookup] at hstored
    cases hstored

/-- An integer in range is on the grid of one of the ranges. -/
theorem onGrid_of_validateValue {integer : Int64} {descriptor : ParameterDescriptor δ}
    (h : validateValueAgainstDescriptor (.integer integer) descriptor = .ok ())
    (hranges : descriptor.integerRanges ≠ []) :
    ∃ range ∈ descriptor.integerRanges, OnGrid integer range := by
  unfold validateValueAgainstDescriptor at h
  dsimp only at h
  split at h
  · cases h
  · next haccepted =>
    have hany : descriptor.integerRanges.any (integerValueIsAcceptable integer) = true := by
      by_contra hnone
      exact haccepted ⟨hranges, by simpa using hnone⟩
    obtain ⟨range, hmem, hrange⟩ := List.any_eq_true.mp hany
    exact ⟨range, hmem, integerValueIsAcceptable_iff.mp hrange⟩

/-- What a later moment of a life keeps of an earlier one. -/
structure Keeps (earlier current : StoredParameter δ) : Prop where
  /-- The descriptor. -/
  described : current.descriptor = earlier.descriptor
  /-- A read-only value. -/
  constant : earlier.descriptor.readOnly = true → current.value = earlier.value
  /-- A fixed type, once there is a value. -/
  settled : earlier.descriptor.dynamicTyping = false → earlier.value.isSet = true →
    current.value.type = earlier.value.type

omit [FloatingPoint δ] in
/-- A type tells whether there is a value. -/
theorem isSet_congr {value value' : ParameterValue δ} (h : value.type = value'.type) :
    value.isSet = value'.isSet := by
  unfold ParameterValue.isSet
  rw [h]

omit [FloatingPoint δ] in
/-- Keeping is transitive. -/
theorem Keeps.trans {first second third : StoredParameter δ} (h : Keeps first second)
    (h' : Keeps second third) : Keeps first third where
  described := h'.described.trans h.described
  constant hconstant := by
    have hsecond := h.constant hconstant
    rw [← h.described] at hconstant
    exact (h'.constant hconstant).trans hsecond
  settled hfixed hset := by
    have htype := h.settled hfixed hset
    rw [← h.described] at hfixed
    rw [← isSet_congr htype] at hset
    exact (h'.settled hfixed hset).trans htype

/-- A call that leaves the name declared keeps what was declared. -/
theorem keeps_perform {s : ParameterStoreState δ} {call : StoreCall δ} {name : ByteString}
    {earlier current : StoredParameter δ} (hearlier : s.parameters.lookup name = some earlier)
    (hcurrent : (perform s call).parameters.lookup name = some current) :
    Keeps earlier current := by
  cases perform_effect s call name with
  | left hlookup =>
    rw [hlookup, hearlier] at hcurrent
    obtain rfl := Option.some.inj hcurrent
    exact ⟨rfl, fun _ => rfl, fun _ _ => rfl⟩
  | declared defaultValue descriptor ignoreOverride hcall hdeclarable =>
    rw [hdeclarable.absent] at hearlier
    cases hearlier
  | declaredImplicitly parameters value hcall hrequested hchecked habsent =>
    rw [habsent] at hearlier
    cases hearlier
  | assigned parameters found value hcall hchecked hfound hlookup =>
    rw [hfound] at hearlier
    obtain rfl := Option.some.inj hearlier
    rw [hlookup] at hcurrent
    obtain rfl := Option.some.inj hcurrent
    obtain ⟨hwritable, htyped, -⟩ := validateAssignment_found hfound hchecked
    refine ⟨rfl, fun hconstant => ?_, fun hfixed hset => (htyped hfixed hset).symm⟩
    rw [hwritable] at hconstant
    cases hconstant
  | removed found hcall hfound hlookup =>
    rw [hlookup] at hcurrent
    cases hcurrent

/-- A name that lasts is declared at the end. -/
theorem lasts_declared {s s' : ParameterStoreState δ} {calls : List (StoreCall δ)}
    {name : ByteString} (hlife : Lasts name s calls s')
    (hdeclared : (s.parameters.lookup name).isSome = true) :
    (s'.parameters.lookup name).isSome = true := by
  cases hlife with
  | nil => exact hdeclared
  | snoc _ _ hstays => exact hstays

/-- A whole life keeps what was declared. -/
theorem keeps_lasts {s s' : ParameterStoreState δ} {calls : List (StoreCall δ)}
    {name : ByteString} {earlier current : StoredParameter δ} (hlife : Lasts name s calls s')
    (hearlier : s.parameters.lookup name = some earlier)
    (hcurrent : s'.parameters.lookup name = some current) : Keeps earlier current := by
  induction hlife generalizing current with
  | nil =>
    rw [hearlier] at hcurrent
    obtain rfl := Option.some.inj hcurrent
    exact ⟨rfl, fun _ => rfl, fun _ _ => rfl⟩
  | snoc hprev _ _ ih =>
    have hdeclared := lasts_declared hprev (by rw [hearlier]; rfl)
    obtain ⟨between, hbetween⟩ := Option.isSome_iff_exists.mp hdeclared
    exact (ih hbetween).trans (keeps_perform hbetween hcurrent)

/-- Overrides of a reachable store are the ones it started with. -/
theorem overrides_run {s₀ s : ParameterStoreState δ} {calls : List (StoreCall δ)}
    {ok : ParameterStoreState δ → StoreCall δ → Prop} (hrun : machine.RunWhen ok s₀ calls s) :
    s.overrides = s₀.overrides :=
  hrun.invariant (fun s => s.overrides = s₀.overrides) rfl
    fun s call heq _ _ => (overrides_perform s call).trans heq

/-- Stored parameters of a reachable store are well. -/
theorem wellStored_run {s₀ s : ParameterStoreState δ} {calls : List (StoreCall δ)}
    {ok : ParameterStoreState δ → StoreCall δ → Prop} (hrun : machine.RunWhen ok s₀ calls s)
    (h : WellStored s₀) : WellStored s :=
  hrun.invariant WellStored h fun _ call hstored _ _ => wellStored_perform call hstored

/-- A store without parameters is well. -/
theorem wellStored_initial (allowUndeclaredParameters : Bool) (overrides : List (Parameter δ)) :
    WellStored (.initial allowUndeclaredParameters overrides) := by
  intro name stored hstored
  cases hstored

/-- A value that a declaration with a fixed type starts with has that type. -/
theorem effectiveValue_type {name : ByteString} {defaultValue : ParameterValue δ}
    {descriptor : ParameterDescriptor δ} {ignoreOverride : Bool} {s : ParameterStoreState δ}
    (hoverrides : ∀ p ∈ s.overrides, p.value.isSet = true)
    (hdeclarable : Declarable name defaultValue descriptor
      (effectiveValue name defaultValue ignoreOverride s) s)
    (hfixed : descriptor.dynamicTyping = false) (hdefault : defaultValue.isSet = true) :
    (effectiveValue name defaultValue ignoreOverride s).type = defaultValue.type := by
  refine hdeclarable.typed hfixed ?_ hdefault
  unfold effectiveValue
  split
  · exact hdefault
  · cases hfound : s.overrides.find? fun override => override.name = name with
    | none => exact hdefault
    | some override => exact hoverrides override (List.mem_of_find?_eq_some hfound)

/-- What a name is born with. -/
theorem born_of_perform {s : ParameterStoreState δ} {call : StoreCall δ} {name : ByteString}
    {born : StoredParameter δ} (hoverrides : ∀ p ∈ s.overrides, p.value.isSet = true)
    (habsent : s.parameters.lookup name = none)
    (hborn : (perform s call).parameters.lookup name = some born) :
    born.descriptor = declaredDescriptor call ∧
      (born.descriptor.dynamicTyping = false → ∀ defaultValue,
        declaredDefault name call = some defaultValue → defaultValue.isSet = true →
          born.value.type = defaultValue.type) := by
  cases perform_effect s call name with
  | left hlookup =>
    rw [hlookup, habsent] at hborn
    cases hborn
  | declared defaultValue descriptor ignoreOverride hcall hdeclarable hlookup =>
    subst hcall
    rw [hlookup] at hborn
    obtain rfl := Option.some.inj hborn
    refine ⟨rfl, fun hfixed defaultValue' hdefault hset => ?_⟩
    rw [declaredDefault, if_pos rfl] at hdefault
    obtain rfl := Option.some.inj hdefault
    exact effectiveValue_type hoverrides hdeclarable hfixed hset
  | declaredImplicitly parameters value hcall hrequested hchecked habsent' hlookup =>
    subst hcall
    rw [hlookup] at hborn
    obtain rfl := Option.some.inj hborn
    refine ⟨rfl, fun hfixed defaultValue hdefault hset => ?_⟩
    rw [declaredDefault, hrequested] at hdefault
    obtain rfl := Option.some.inj hdefault
    rfl
  | assigned parameters found value hcall hchecked hfound =>
    rw [habsent] at hfound
    cases hfound
  | removed found hcall hfound =>
    rw [habsent] at hfound
    cases hfound

/-- Every declared parameter of a reachable store was born in the run and stayed
declared since. -/
theorem exists_birth {allowUndeclaredParameters : Bool} {overrides : List (Parameter δ)}
    {calls : List (StoreCall δ)} {s : ParameterStoreState δ} {name : ByteString}
    (hrun : machine.Run (.initial allowUndeclaredParameters overrides) calls s)
    (hdeclared : (s.parameters.lookup name).isSome = true) :
    ∃ before call later s₀, calls = before ++ call :: later ∧
      machine.Run (.initial allowUndeclaredParameters overrides) before s₀ ∧
        s₀.parameters.lookup name = none ∧ Lasts name (perform s₀ call) later s ∧
          ((perform s₀ call).parameters.lookup name).isSome = true := by
  induction hrun with
  | nil => cases hdeclared
  | @snoc es s e hprev hen _ ih =>
    by_cases hbefore : (s.parameters.lookup name).isSome = true
    · obtain ⟨before, call, later, s₀, rfl, hrun₀, habsent, hlife, hborn⟩ := ih hbefore
      refine ⟨before, call, later ++ [e], s₀, by simp, hrun₀, habsent, ?_, hborn⟩
      exact .snoc hlife hen hdeclared
    · exact ⟨es, e, [], s, rfl, hprev, by simpa using hbefore, .nil, hdeclared⟩

/-- From its declaration on and as long as it stays declared, a parameter is
constrained as declared. -/
theorem declared_constrained (allowUndeclaredParameters : Bool)
    (overrides : List ParameterOverride) (nodeName fullyQualifiedName name : ByteString)
    (calls later last : List (StoreCall δ)) (call : StoreCall δ) (s s' s'' : ParameterStoreState δ)
    (born earlier current : StoredParameter δ)
    (hrun : machine.Run (.initial allowUndeclaredParameters
      (selectParameterOverrides overrides nodeName fullyQualifiedName)) calls s)
    (habsent : s.parameters.lookup name = none)
    (hborn : (perform s call).parameters.lookup name = some born)
    (hlife : Lasts name (perform s call) later s')
    (hearlier : s'.parameters.lookup name = some earlier) (hrest : Lasts name s' last s'')
    (hcurrent : s''.parameters.lookup name = some current) :
    Constrained name call born earlier current := by
  have hoverrides : ∀ p ∈ s.overrides, p.value.isSet = true := by
    rw [overrides_run hrun]
    exact fun p hp => selectParameterOverrides_isSet hp
  obtain ⟨hdescriptor, htype⟩ := born_of_perform hoverrides habsent hborn
  have hwhole := keeps_lasts (hlife.append hrest) hborn hcurrent
  have hlate := keeps_lasts hrest hearlier hcurrent
  have hwell := wellStored_run hrest (wellStored_run hlife
    (wellStored_perform call (wellStored_run hrun (wellStored_initial _ _)))) name current hcurrent
  refine ⟨hwell.1, hwhole.described.trans hdescriptor, ?_, ?_, ?_, ?_⟩
  · intro hconstant
    rw [hwhole.described] at hconstant
    exact hwhole.constant hconstant
  · intro hfixed defaultValue hdefault hset
    rw [hwhole.described] at hfixed
    have hborntype := htype hfixed defaultValue hdefault hset
    rw [← isSet_congr hborntype] at hset
    exact (hwhole.settled hfixed hset).trans hborntype
  · intro hfixed hset
    rw [hlate.described] at hfixed
    exact hlate.settled hfixed hset
  · intro integer hvalue hranges
    have hranged := hwell.2
    rw [hvalue] at hranged
    exact onGrid_of_validateValue hranged hranges

/-- The platform's numbers, with no literal read as one of them. -/
instance platformFloat : FloatingPoint Float where
  equal a b := a == b
  less a b := a < b
  lessEqual a b := a ≤ b
  plus a b := a + b
  minus a b := a - b
  quotient a b := a / b
  round := Float.round
  fabs := Float.abs
  isNan := Float.isNaN
  isFinite := Float.isFinite
  zero := 0.0
  epsilon := 1e-9
  strtod _ := (0.0, 0)

/-- Declare an even speed. -/
def declareSpeed : StoreCall Float :=
  .declare (text "speed") (.integer 4) { integerRanges := [⟨0, 10, 2⟩] } false

/-- Raise the speed. -/
def raiseSpeed : StoreCall Float := .setAtomically [⟨text "speed", .integer 6⟩]

/-- The speed is declared and raised. -/
theorem declared_constrained_speed :
    ∃ born current, Constrained (text "speed") declareSpeed born born current ∧
      current.value = .integer 6 := by
  have hborn : ((perform (.initial false []) declareSpeed).parameters.lookup
      (text "speed")).isSome = true := by decide
  have hcurrent : ∃ current, (perform (perform (.initial false []) declareSpeed)
      raiseSpeed).parameters.lookup (text "speed") = some current ∧
        current.value = .integer 6 := ⟨_, rfl, rfl⟩
  obtain ⟨born, hborn⟩ := Option.isSome_iff_exists.mp hborn
  obtain ⟨current, hcurrent, hvalue⟩ := hcurrent
  have hrest : Lasts (text "speed") (perform (.initial false []) declareSpeed) [raiseSpeed]
      (perform (perform (.initial false []) declareSpeed) raiseSpeed) :=
    .snoc .nil trivial (by rw [Stays, hcurrent]; rfl)
  exact ⟨born, current, declared_constrained false [] [] [] (text "speed") [] [] [raiseSpeed]
    declareSpeed (.initial false []) _ _ born born current .nil rfl hborn .nil hborn hrest
    hcurrent, hvalue⟩

/-- Declare a parameter by an assignment without a value. -/
def assignUnset : StoreCall Float := .setAtomically [⟨text "x", .notSet⟩]

/-- Assign it an integer. -/
def assignOne : StoreCall Float := .setAtomically [⟨text "x", .integer 1⟩]

/-- The type is fixed and changes from none to integer. -/
theorem unset_typed :
    ¬ ∀ (allowUndeclaredParameters : Bool) (overrides : List ParameterOverride)
      (nodeName fullyQualifiedName name : ByteString) (calls later : List (StoreCall Float))
      (call : StoreCall Float) (s s' : ParameterStoreState Float)
      (current : StoredParameter Float),
      machine.Run (.initial allowUndeclaredParameters
        (selectParameterOverrides overrides nodeName fullyQualifiedName)) calls s →
      s.parameters.lookup name = none → Lasts name s (call :: later) s' →
      s'.parameters.lookup name = some current → current.descriptor.dynamicTyping = false →
      ∀ defaultValue, declaredDefault name call = some defaultValue →
        current.value.type = defaultValue.type := by
  intro hclaim
  have hfirst : Stays (text "x") (.initial true []) assignUnset := rfl
  have hsecond : Stays (text "x") (perform (.initial true []) assignUnset) assignOne := rfl
  have hlife : Lasts (text "x") (.initial true []) [assignUnset, assignOne]
      (perform (perform (.initial true []) assignUnset) assignOne) :=
    .snoc (.snoc .nil trivial hfirst) trivial hsecond
  have htyped := hclaim true [] [] [] (text "x") [] [assignOne] assignUnset (.initial true []) _
    ⟨.integer 1, {}⟩ .nil rfl hlife rfl rfl .notSet rfl
  cases htyped

end Dmw.ParameterConstraints
