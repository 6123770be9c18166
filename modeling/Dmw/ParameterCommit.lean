import Dmw.ParameterStore

/-!
# Atomic assignment of parameters

A request is assigned as a whole or not at all. It succeeds exactly where its
validation does; it then leaves the requested values, touches nothing else, and
reports what was declared and what was changed, in the order of the request.
-/

namespace Dmw.ParameterCommit

open KeyedTable Identity GraphNames Parameters ParameterStore

variable {δ : Type} [FloatingPoint δ]

/-- A value is the requested one, or compares equal to it. -/
def HasValue (value requestedValue : ParameterValue δ) : Prop :=
  value = requestedValue ∨ value.equal requestedValue = true

/-- What a successful request does. -/
structure Succeeded (parameters : List (Parameter δ)) (s : ParameterStoreState δ)
    (delta : ParameterChangeSet δ) (s' : ParameterStoreState δ) : Prop where
  /-- No name is requested twice. -/
  once : (parameters.map (·.name)).Nodup
  /-- Every requested value is there. -/
  values : ∀ p ∈ parameters, ∃ stored, s'.parameters.lookup p.name = some stored ∧
    HasValue stored.value p.value
  /-- Other parameters are left. -/
  others : ∀ name, name ∉ parameters.map (·.name) →
    s'.parameters.lookup name = s.parameters.lookup name
  /-- Descriptors are left. -/
  descriptors : ∀ name found, s.parameters.lookup name = some found →
    ∃ stored, s'.parameters.lookup name = some stored ∧ stored.descriptor = found.descriptor
  /-- Names that were not there are new, in the order of the request. -/
  new : delta.newParameters = parameters.filter fun p => (s.parameters.lookup p.name).isNone
  /-- Names whose value differed are changed, in the order of the request. -/
  changed : delta.changedParameters = parameters.filter fun p =>
    (s.parameters.lookup p.name).any fun found => !found.value.equal p.value
  /-- Nothing is deleted. -/
  deleted : delta.deletedParameters = []
  /-- The pending changes grow by the delta. -/
  pending : s'.pendingChanges =
    { newParameters := s.pendingChanges.newParameters ++ delta.newParameters
      changedParameters := s.pendingChanges.changedParameters ++ delta.changedParameters
      deletedParameters := s.pendingChanges.deletedParameters ++ delta.deletedParameters }
  /-- The settings are left. -/
  settings : s'.allowUndeclaredParameters = s.allowUndeclaredParameters ∧
    s'.overrides = s.overrides

/-- A request is assigned as a whole or not at all. -/
structure Atomic (parameters : List (Parameter δ)) (s : ParameterStoreState δ) : Prop where
  /-- It fails exactly where its validation fails, with the same error. -/
  fails_iff : ∀ error, (setAtomically parameters s).1 = .error error ↔
    validate parameters s = .error error
  /-- A failure leaves the store as it was. -/
  failed : ∀ error, (setAtomically parameters s).1 = .error error →
    (setAtomically parameters s).2 = s
  /-- A success does all of it. -/
  succeeded : ∀ delta, (setAtomically parameters s).1 = .ok delta →
    Succeeded parameters s delta (setAtomically parameters s).2

/-- An assignment leaves the requested value. -/
theorem hasValue_assigned (found : Option (StoredParameter δ)) (p : Parameter δ) :
    HasValue (assigned found p).value p.value := by
  unfold assigned
  cases found with
  | none => exact Or.inl rfl
  | some found =>
    dsimp only
    split
    · next hequal => exact Or.inr hequal
    · exact Or.inl rfl

/-- An assignment keeps the descriptor. -/
theorem assigned_descriptor (found : StoredParameter δ) (p : Parameter δ) :
    (assigned (some found) p).descriptor = found.descriptor := by
  simp only [assigned]
  split <;> rfl

/-- A commit does what a successful request has to. -/
theorem succeeded_of_committed {parameters : List (Parameter δ)} {s s' : ParameterStoreState δ}
    {delta : ParameterChangeSet δ} (h : Committed parameters s delta s') :
    Succeeded parameters s delta s' where
  once := h.distinct
  values := by
    intro p hp
    have hlookup := h.lookup p.name
    rw [requested_of_mem h.distinct hp] at hlookup
    exact ⟨_, hlookup, hasValue_assigned _ p⟩
  others := by
    intro name habsent
    have hlookup := h.lookup name
    rwa [requested_eq_none habsent] at hlookup
  descriptors := by
    intro name found hfound
    have hlookup := h.lookup name
    rw [hfound] at hlookup
    cases hrequested : requested name parameters with
    | none =>
      rw [hrequested] at hlookup
      exact ⟨found, hlookup, rfl⟩
    | some p =>
      rw [hrequested] at hlookup
      exact ⟨_, hlookup, assigned_descriptor found p⟩
  new := by
    rw [h.delta_eq]
    rfl
  changed := by
    rw [h.delta_eq]
    rfl
  deleted := by rw [h.delta_eq]
  pending := by
    rw [h.pending, h.delta_eq, List.append_nil]
  settings := h.settings

/-- Every request is atomic, in every state of the store. -/
theorem setAtomically_atomic (parameters : List (Parameter δ)) (s : ParameterStoreState δ) :
    Atomic parameters s := by
  rcases setAtomically_cases parameters s with
    ⟨error, hvalidate, hset⟩ | ⟨hvalidate, delta, s', hset, hcommitted⟩
  · constructor
    · intro error'
      rw [hset, hvalidate]
      simp only [Except.error.injEq]
    · intro error' _
      rw [hset]
    · intro delta hok
      rw [hset] at hok
      cases hok
  · constructor
    · intro error
      rw [hset, hvalidate]
      simp only [reduceCtorEq]
    · intro error herror
      rw [hset] at herror
      cases herror
    · intro delta' hok
      rw [hset] at hok ⊢
      obtain rfl := Except.ok.inj hok
      exact succeeded_of_committed hcommitted

end Dmw.ParameterCommit
