import Dmw.ParameterConstraints

/-!
# What a change set tells

The pending changes keep declarations, changes and deletions apart, each in
order, and forget how they interleave. For one name they tell whether it ends
up declared; they tell its value too unless it was both changed and deleted.
-/

namespace Dmw.ParameterChanges

open GuardedRuns KeyedTable Identity GraphNames Parameters ParameterStore ParameterConstraints

section OneName

variable {V : Type} {start now : Option V} {new changed deleted : List V}

/-- What three records of one name tell about its value now, given its value at
the start. -/
structure Told (start now : Option V) (new changed deleted : List V) : Prop where
  /-- Declarations and deletions alternate. -/
  count : now.isSome.toNat + deleted.length = start.isSome.toNat + new.length
  /-- Without a deletion the last change counts, then the declaration. -/
  undeleted : deleted = [] → now = changed.getLast?.or (new.getLast?.or start)
  /-- Without a change the last declaration counts. -/
  unchanged : changed = [] → now.isSome = true → now = new.getLast?.or start

/-- Before anything is recorded the value is the one at the start. -/
theorem Told.nil (start : Option V) : Told start start [] [] [] where
  count := rfl
  undeleted _ := rfl
  unchanged _ _ := rfl

/-- A declaration is recorded. -/
theorem Told.declare (h : Told start none new changed deleted) (v : V) :
    Told start (some v) (new ++ [v]) changed deleted where
  count := by
    have hcount := h.count
    simp only [Option.isSome_none, Bool.toNat_false, Option.isSome_some, Bool.toNat_true,
      List.length_append, List.length_singleton] at hcount ⊢
    omega
  undeleted hdeleted := by
    have hnone := h.undeleted hdeleted
    have hchanged : changed.getLast? = none := by
      cases hlast : changed.getLast? with
      | none => rfl
      | some w =>
        rw [hlast] at hnone
        cases hnone
    rw [hchanged, List.getLast?_append]
    rfl
  unchanged _ _ := by
    rw [List.getLast?_append]
    rfl

/-- A change is recorded. -/
theorem Told.assign {w : V} (h : Told start (some w) new changed deleted) (v : V) :
    Told start (some v) new (changed ++ [v]) deleted where
  count := h.count
  undeleted _ := by
    rw [List.getLast?_append]
    rfl
  unchanged hchanged := by simp at hchanged

/-- A deletion is recorded. -/
theorem Told.remove {w : V} (h : Told start (some w) new changed deleted) :
    Told start none new changed (deleted ++ [w]) where
  count := by
    have hcount := h.count
    simp only [Option.isSome_none, Bool.toNat_false, Option.isSome_some, Bool.toNat_true,
      List.length_append, List.length_singleton] at hcount ⊢
    omega
  undeleted hdeleted := by simp at hdeleted
  unchanged _ hsome := by cases hsome

/-- The records tell whether the name is declared. -/
theorem Told.declared_unique {now' : Option V} (h : Told start now new changed deleted)
    (h' : Told start now' new changed deleted) : now.isSome = now'.isSome := by
  have hcount := h.count
  have hcount' := h'.count
  cases hnow : now.isSome <;> cases hnow' : now'.isSome
  · rfl
  · simp only [hnow, hnow', Bool.toNat_false, Bool.toNat_true] at hcount hcount'
    omega
  · simp only [hnow, hnow', Bool.toNat_false, Bool.toNat_true] at hcount hcount'
    omega
  · rfl

/-- Without a deletion or without a change they tell the value. -/
theorem Told.value_unique {now' : Option V} (h : Told start now new changed deleted)
    (h' : Told start now' new changed deleted) (honly : deleted = [] ∨ changed = []) :
    now = now' := by
  rcases honly with hdeleted | hchanged
  · rw [h.undeleted hdeleted, h'.undeleted hdeleted]
  · have hsame := h.declared_unique h'
    cases hnow : now.isSome with
    | false =>
      rw [hnow] at hsame
      rw [Option.isSome_eq_false_iff, Option.isNone_iff_eq_none] at hnow
      have hnone := hsame.symm
      rw [Option.isSome_eq_false_iff, Option.isNone_iff_eq_none] at hnone
      rw [hnow, hnone]
    | true =>
      rw [hnow] at hsame
      rw [h.unchanged hchanged hnow, h'.unchanged hchanged hsame.symm]

end OneName

variable {δ : Type} [FloatingPoint δ]

/-- Value of a name, if it is declared. -/
def valueOf (s : ParameterStoreState δ) (name : ByteString) : Option (ParameterValue δ) :=
  (s.parameters.lookup name).map (·.value)

/-- What the pending changes of a store tell about one name. -/
def ToldOf (name : ByteString) (start : Option (ParameterValue δ)) (s : ParameterStoreState δ) :
    Prop :=
  Told start (valueOf s name) ((changesOf name s.pendingChanges).newParameters.map (·.value))
    ((changesOf name s.pendingChanges).changedParameters.map (·.value))
    ((changesOf name s.pendingChanges).deletedParameters.map (·.value))

/-- Every call but the taking of changes records what it does to a name. -/
theorem toldOf_perform {name : ByteString} {start : Option (ParameterValue δ)}
    {s : ParameterStoreState δ} {call : StoreCall δ} (h : ToldOf name start s)
    (hcall : call ≠ .takeChanges) : ToldOf name start (perform s call) := by
  unfold ToldOf valueOf at h ⊢
  cases perform_effect s call name with
  | left hlookup hpending =>
    rw [hlookup, hpending hcall]
    exact h
  | declared defaultValue descriptor ignoreOverride _ hdeclarable hlookup hpending =>
    rw [hlookup, hpending]
    rw [hdeclarable.absent] at h
    simp only [List.map_append]
    exact h.declare _
  | declaredImplicitly parameters value _ _ _ habsent hlookup hpending =>
    rw [hlookup, hpending]
    rw [habsent] at h
    simp only [List.map_append]
    exact h.declare _
  | assigned parameters found value _ _ hfound hlookup hpending =>
    rw [hlookup, hpending]
    rw [hfound] at h
    simp only [List.map_append]
    exact h.assign _
  | removed found _ hfound hlookup hpending =>
    rw [hlookup, hpending]
    rw [hfound] at h
    simp only [List.map_append]
    exact h.remove

/-- A run that takes no changes. -/
abbrev Untaken (s : ParameterStoreState δ) (calls : List (StoreCall δ))
    (s' : ParameterStoreState δ) : Prop :=
  machine.RunWhen (fun _ call => call ≠ .takeChanges) s calls s'

/-- What was recorded in a run tells what it did. -/
theorem toldOf_run {name : ByteString} {s s' : ParameterStoreState δ} {calls : List (StoreCall δ)}
    (hempty : s.pendingChanges = {}) (hrun : Untaken s calls s') :
    ToldOf name (valueOf s name) s' := by
  refine hrun.invariant (fun s' => ToldOf name (valueOf s name) s') ?_
    fun s' call htold _ hcall => toldOf_perform htold hcall
  unfold ToldOf
  rw [hempty]
  exact .nil _

/-- Names among some parameters. -/
def names (parameters : List (Parameter δ)) : List ByteString := parameters.map (·.name)

omit [FloatingPoint δ] in
/-- A name that is not listed has no part in a list. -/
theorem filter_name_eq_nil {parameters : List (Parameter δ)} {name : ByteString}
    (habsent : name ∉ names parameters) :
    (parameters.filter fun p => p.name = name).map (·.value) = [] := by
  rw [List.map_eq_nil_iff, List.filter_eq_nil_iff]
  intro p hp heq
  exact habsent (List.mem_map.mpr ⟨p, hp, of_decide_eq_true heq⟩)

/-- From equal values and without pending changes, runs that end with the same
changes declare the same names, and give the same value to every name that is
not both changed and deleted. -/
theorem changes_tell (s₁ s₂ t₁ t₂ : ParameterStoreState δ) (calls₁ calls₂ : List (StoreCall δ))
    (changes : ParameterChangeSet δ) (hstart : valueOf s₁ = valueOf s₂)
    (hempty₁ : s₁.pendingChanges = {}) (hempty₂ : s₂.pendingChanges = {})
    (hrun₁ : Untaken s₁ calls₁ t₁) (hrun₂ : Untaken s₂ calls₂ t₂)
    (htaken₁ : (takeChanges t₁).1 = .ok changes) (htaken₂ : (takeChanges t₂).1 = .ok changes)
    (name : ByteString) :
    (valueOf (takeChanges t₁).2 name).isSome = (valueOf (takeChanges t₂).2 name).isSome ∧
      (¬ (name ∈ names changes.changedParameters ∧ name ∈ names changes.deletedParameters) →
        valueOf (takeChanges t₁).2 name = valueOf (takeChanges t₂).2 name) := by
  have htold₁ : ToldOf name (valueOf s₁ name) t₁ := toldOf_run hempty₁ hrun₁
  have htold₂ : ToldOf name (valueOf s₂ name) t₂ := toldOf_run hempty₂ hrun₂
  unfold ToldOf at htold₁ htold₂
  rw [Except.ok.inj htaken₁] at htold₁
  rw [Except.ok.inj htaken₂, ← hstart] at htold₂
  refine ⟨htold₁.declared_unique htold₂, fun honly => htold₁.value_unique htold₂ ?_⟩
  by_cases hdeleted : name ∈ names changes.deletedParameters
  · exact Or.inr (filter_name_eq_nil fun hchanged => honly ⟨hchanged, hdeleted⟩)
  · exact Or.inl (filter_name_eq_nil hdeleted)

/-- An empty store that is observed. -/
def emptyStore : ParameterStoreState Float := .initial false []

/-- Declare a parameter with a value. -/
def declareX (value : Int64) : StoreCall Float := .declare (text "x") (.integer value) {} false

/-- Assign it a value. -/
def assignX (value : Int64) : StoreCall Float := .setAtomically [⟨text "x", .integer value⟩]

/-- Undeclare it. -/
def undeclareX : StoreCall Float := .undeclare (text "x")

/-- Calls that take no changes run one after the other. -/
theorem untaken_foldl (s : ParameterStoreState δ) {calls : List (StoreCall δ)}
    (hcalls : ∀ call ∈ calls, call ≠ .takeChanges) : Untaken s calls (calls.foldl perform s) := by
  induction calls using List.reverseRecOn with
  | nil => exact .nil
  | append_singleton calls call ih =>
    have hprev := ih fun c hc => hcalls c (List.mem_append_left _ hc)
    have hlast := hcalls call (List.mem_append_right _ List.mem_cons_self)
    rw [List.foldl_append]
    exact .snoc hprev trivial hlast

/-- An assignment without effect is not told. -/
theorem changes_tell_assignX :
    ∃ changes : ParameterChangeSet Float,
      (valueOf (takeChanges ([declareX 1, assignX 2].foldl perform emptyStore)).2
          (text "x")).isSome =
        (valueOf (takeChanges ([declareX 1, assignX 1, assignX 2].foldl perform emptyStore)).2
          (text "x")).isSome ∧
      (¬ (text "x" ∈ names changes.changedParameters ∧
          text "x" ∈ names changes.deletedParameters) →
        valueOf (takeChanges ([declareX 1, assignX 2].foldl perform emptyStore)).2 (text "x") =
          valueOf (takeChanges ([declareX 1, assignX 1, assignX 2].foldl perform emptyStore)).2
            (text "x")) := by
  refine ⟨⟨[⟨text "x", .integer 1⟩], [⟨text "x", .integer 2⟩], []⟩, ?_⟩
  have hfirst : Untaken emptyStore [declareX 1, assignX 2] _ :=
    untaken_foldl emptyStore (by simp [declareX, assignX])
  have hsecond : Untaken emptyStore [declareX 1, assignX 1, assignX 2] _ :=
    untaken_foldl emptyStore (by simp [declareX, assignX])
  exact changes_tell emptyStore emptyStore _ _ _ _ _ rfl rfl rfl hfirst hsecond rfl rfl (text "x")

/-- The parameter is changed twice, deleted and declared again. -/
def changedFirst : List (StoreCall Float) :=
  [declareX 2, assignX 1, assignX 2, undeclareX, declareX 3]

/-- It is deleted and declared again and then changed twice. -/
def deletedFirst : List (StoreCall Float) :=
  [declareX 2, undeclareX, declareX 3, assignX 1, assignX 2]

/-- Changes before and after a second declaration are told alike. -/
theorem changes_ambiguous :
    ¬ ∀ (s₁ s₂ t₁ t₂ : ParameterStoreState Float) (calls₁ calls₂ : List (StoreCall Float))
      (changes : ParameterChangeSet Float), valueOf s₁ = valueOf s₂ →
      s₁.pendingChanges = {} → s₂.pendingChanges = {} → Untaken s₁ calls₁ t₁ →
      Untaken s₂ calls₂ t₂ → (takeChanges t₁).1 = .ok changes →
      (takeChanges t₂).1 = .ok changes →
        valueOf (takeChanges t₁).2 = valueOf (takeChanges t₂).2 := by
  intro hclaim
  have hfirst : Untaken emptyStore changedFirst (changedFirst.foldl perform emptyStore) :=
    untaken_foldl emptyStore (by simp [changedFirst, declareX, assignX, undeclareX])
  have hsecond : Untaken emptyStore deletedFirst (deletedFirst.foldl perform emptyStore) :=
    untaken_foldl emptyStore (by simp [deletedFirst, declareX, assignX, undeclareX])
  have hthree : valueOf (changedFirst.foldl perform emptyStore) (text "x") =
      some (.integer 3) := rfl
  have htwo : valueOf (deletedFirst.foldl perform emptyStore) (text "x") =
      some (.integer 2) := rfl
  have hsame := congrFun (hclaim emptyStore emptyStore _ _ _ _
    ⟨[⟨text "x", .integer 2⟩, ⟨text "x", .integer 3⟩],
      [⟨text "x", .integer 1⟩, ⟨text "x", .integer 2⟩], [⟨text "x", .integer 2⟩]⟩
    rfl rfl rfl hfirst hsecond rfl rfl) (text "x")
  have habsurd : some (ParameterValue.integer 3 : ParameterValue Float) = some (.integer 2) :=
    hthree.symm.trans (hsame.trans htwo)
  simp at habsurd

end Dmw.ParameterChanges
