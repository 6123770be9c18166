import Mathlib.Data.List.Basic
import Mathlib.Logic.Function.Basic
import Mathlib.Tactic.Common

/-!
# Handing coalesced triggers to batches

Sources count their triggers; a consumer takes all triggers of a source at
once and notes the source's subscription in the batch it assembles, which it
later delivers or throws away. A trigger is handed over safely if no batch is
thrown away while it stands for the only trace of one, and if nobody takes a
trigger in the name of an outdated subscription.
-/

namespace Dmw.TriggerHandoff

universe u v w

/-- Trigger counters, subscriptions and the batches under assembly. -/
structure State (γ : Type u) (ρ : Type v) (τ : Type w) where
  /-- Triggers of a source so far. -/
  raised : γ → ℕ
  /-- Triggers taken so far. -/
  taken : γ → ℕ
  /-- Current subscription of a source. -/
  holder : γ → Option ρ
  /-- The source is shutting down. -/
  muted : γ → Bool
  /-- A trigger under the current subscription has not been delivered. -/
  owed : γ → Bool
  /-- Subscriptions in the batch of a consumer. -/
  batch : τ → List ρ

section

variable {γ : Type u} {ρ : Type v} {τ : Type w}

/-- A trace of a trigger: it was not taken, or a batch carries it. -/
def Traced (s : State γ ρ τ) (g : γ) (r : ρ) : Prop :=
  s.raised g ≠ s.taken g ∨ ∃ t, r ∈ s.batch t

/-- What every safe step keeps. -/
structure Inv (s : State γ ρ τ) : Prop where
  /-- Only triggers that were raised are taken. -/
  ordered : ∀ g, s.taken g ≤ s.raised g
  /-- What is owed has left a trace. -/
  traced : ∀ g r, s.holder g = some r → s.muted g = false → s.owed g = true → Traced s g r

/-- A batch that grows keeps every trace. -/
theorem Traced.grow [DecidableEq τ] {s : State γ ρ τ} {g : γ} {r : ρ} (h : Traced s g r) (t : τ)
    (r' : ρ) :
    Traced {s with batch := Function.update s.batch t (s.batch t ++ [r'])} g r := by
  refine h.imp_right fun ⟨u, hmem⟩ => ⟨u, ?_⟩
  by_cases hu : u = t
  · subst hu
    simp [hmem]
  · simpa [Function.update_of_ne hu] using hmem

end

section

variable {γ : Type u} {ρ : Type v} {τ : Type w} [DecidableEq γ] [DecidableEq ρ] [DecidableEq τ]
  {s s' : State γ ρ τ}

/-- What a delivery settles. -/
def settle (s : State γ ρ τ) (t : τ) : γ → Bool :=
  fun g => s.owed g && !(s.holder g).any (· ∈ s.batch t)

/-- Safe steps. Taking and throwing away depend on the subscriptions. -/
inductive Step (s : State γ ρ τ) : State γ ρ τ → Prop
  | stutter : Step s s
  | raise (g : γ) : Step s {s with
      raised := Function.update s.raised g (s.raised g+1)
      owed := Function.update s.owed g true}
  | take (t : τ) (g : γ) (r : ρ) (n : ℕ) : n ≤ s.raised g →
      (∀ r', s.holder g = some r' → r' = r ∨ s.muted g = true ∨ s.raised g ≠ n) →
      Step s {s with
        taken := Function.update s.taken g n
        batch := Function.update s.batch t (s.batch t ++ [r])}
  | extend (t : τ) (r : ρ) :
      Step s {s with batch := Function.update s.batch t (s.batch t ++ [r])}
  | deliver (t : τ) : Step s {s with
      owed := settle s t
      batch := Function.update s.batch t []}
  | discard (t : τ) :
      (∀ g r, s.holder g = some r → r ∈ s.batch t → s.muted g = true ∨ s.raised g ≠ s.taken g) →
      Step s {s with batch := Function.update s.batch t []}
  | subscribe (g : γ) (r : Option ρ) : Step s {s with
      holder := Function.update s.holder g r
      owed := Function.update s.owed g (decide (s.raised g ≠ s.taken g))}
  | unsubscribe (g : γ) : Step s {s with holder := Function.update s.holder g none}
  | mute (g : γ) : Step s {s with muted := Function.update s.muted g true}

/-- Every safe step keeps the invariant. -/
theorem Inv.step (h : Inv s) (hstep : Step s s') : Inv s' := by
  cases hstep with
  | stutter => exact h
  | raise g =>
    refine ⟨fun g' => ?_, fun g' r hr hm ho => ?_⟩
    · have := h.ordered g'
      by_cases hg : g' = g
      · subst hg
        simp only [Function.update_self]
        omega
      · simpa [Function.update_of_ne hg] using this
    · by_cases hg : g' = g
      · subst hg
        have := h.ordered g'
        left
        simp only [Function.update_self]
        omega
      · simp only [Function.update_of_ne hg] at ho
        simpa [Traced, Function.update_of_ne hg] using h.traced g' r hr hm ho
  | take t g r n hn hholder =>
    refine ⟨fun g' => ?_, fun g' r' hr hm ho => ?_⟩
    · by_cases hg : g' = g
      · subst hg
        simpa using hn
      · simpa [Function.update_of_ne hg] using h.ordered g'
    · by_cases hg : g' = g
      · subst hg
        rcases hholder r' hr with rfl | hmuted | hagain
        · exact Or.inr ⟨t, by simp⟩
        · rw [show s.muted g' = false from hm] at hmuted
          cases hmuted
        · exact Or.inl (by simpa using hagain)
      · rcases (h.traced g' r' hr hm ho).grow t r with hraised | hbatch
        · exact Or.inl (by simpa [Function.update_of_ne hg] using hraised)
        · exact Or.inr hbatch
  | extend t r => exact ⟨h.ordered, fun g' r' hr hm ho => (h.traced g' r' hr hm ho).grow t r⟩
  | deliver t =>
    refine ⟨h.ordered, fun g r hr hm ho => ?_⟩
    simp only [settle, Bool.and_eq_true, Bool.not_eq_true', show s.holder g = some r from hr,
      Option.any_some, decide_eq_false_iff_not] at ho
    refine (h.traced g r hr hm ho.1).imp_right fun ⟨u, hmem⟩ => ⟨u, ?_⟩
    have hu : u ≠ t := by
      rintro rfl
      exact ho.2 hmem
    simpa [Function.update_of_ne hu] using hmem
  | discard t hsafe =>
    refine ⟨h.ordered, fun g r hr hm ho => ?_⟩
    rcases h.traced g r hr hm ho with hraised | ⟨u, hmem⟩
    · exact Or.inl hraised
    · by_cases hu : u = t
      · subst hu
        rcases hsafe g r hr hmem with hmuted | hraised
        · rw [show s.muted g = false from hm] at hmuted
          cases hmuted
        · exact Or.inl hraised
      · exact Or.inr ⟨u, by simpa [Function.update_of_ne hu] using hmem⟩
  | subscribe g r =>
    refine ⟨h.ordered, fun g' r' hr hm ho => ?_⟩
    by_cases hg : g' = g
    · subst hg
      exact Or.inl (by simpa using ho)
    · simp only [Function.update_of_ne hg] at hr ho
      exact h.traced g' r' hr hm ho
  | unsubscribe g =>
    refine ⟨h.ordered, fun g' r hr hm ho => ?_⟩
    by_cases hg : g' = g
    · subst hg
      simp at hr
    · simp only [Function.update_of_ne hg] at hr
      exact h.traced g' r hr hm ho
  | mute g =>
    refine ⟨h.ordered, fun g' r hr hm ho => ?_⟩
    by_cases hg : g' = g
    · subst hg
      simp at hm
    · simp only [Function.update_of_ne hg] at hm
      exact h.traced g' r hr hm ho

end

end Dmw.TriggerHandoff
