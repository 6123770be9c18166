import Mathlib.Data.List.Basic

/-!
# Automata over a joint history

One history records what happened to many keys. A partial automaton reads the
entries about one key and skips the others; it gets stuck on an entry out of
order. A history it reads to the end is orderly for that key.
-/

namespace Dmw.KeyedHistory

universe u v w

/-- A partial automaton for the entries about one key. -/
structure Automaton (κ : Type u) (ε : Type v) (σ : Type w) where
  /-- The key an entry is about, if any. -/
  about : ε → Option κ
  /-- One step; `none` is an entry out of order. -/
  next : σ → ε → Option σ

namespace Automaton

variable {κ : Type u} {ε : Type v} {σ : Type w} [DecidableEq κ]

/-- The state for one key after a joint history. -/
@[grind =] def after (m : Automaton κ ε σ) (k : κ) (s : σ) : List ε → Option σ
  | [] => some s
  | e :: rest =>
    if m.about e = some k then (m.next s e).bind fun s' => after m k s' rest
    else after m k s rest

variable {m : Automaton κ ε σ} {k : κ} {s s' : σ}

/-- A history may be cut anywhere. -/
theorem after_append (first second : List ε) :
    m.after k s (first ++ second) = (m.after k s first).bind fun s' => m.after k s' second := by
  induction first generalizing s with
  | nil => rfl
  | cons e first ih =>
    simp only [List.cons_append, after]
    split
    · cases m.next s e with
      | none => rfl
      | some s' => exact ih
    · exact ih

/-- Entries about other keys leave the state as it is. -/
theorem after_others {history : List ε} (hothers : ∀ e ∈ history, m.about e ≠ some k) :
    m.after k s history = some s := by
  induction history with
  | nil => rfl
  | cons e history ih =>
    rw [after, if_neg (hothers e (by simp))]
    exact ih fun e' he' => hothers e' (by simp [he'])

/-- An entry about the key takes one step. -/
theorem after_single {e : ε} (habout : m.about e = some k) : m.after k s [e] = m.next s e := by
  rw [after, if_pos habout]
  cases m.next s e <;> rfl

/-- Of one entry for each of several keys, only the key's own takes a step. -/
theorem after_map {f : κ → ε} (hf : ∀ k, m.about (f k) = some k) {keys : List κ}
    (hnodup : keys.Nodup) :
    m.after k s (keys.map f) = if k ∈ keys then m.next s (f k) else some s := by
  induction keys with
  | nil => rfl
  | cons first rest ih =>
    obtain ⟨hfirst, hrest⟩ := List.nodup_cons.mp hnodup
    by_cases hk : first = k
    · subst hk
      have hothers : ∀ e ∈ rest.map f, m.about e ≠ some first := by
        intro e he
        obtain ⟨other, hother, rfl⟩ := List.mem_map.mp he
        rw [hf]
        rintro ⟨⟩
        exact hfirst hother
      rw [List.map_cons, after, if_pos (hf first), if_pos (by simp)]
      cases m.next s (f first) with
      | none => rfl
      | some s' => exact after_others hothers
    · have habout : m.about (f first) ≠ some k := by
        rw [hf]
        simpa using hk
      rw [List.map_cons, after, if_neg habout, ih hrest]
      simp [Ne.symm hk]

/-- An orderly history is orderly up to any entry about the key, which then
takes its step. -/
theorem after_cut {first rest : List ε} {e : ε} (habout : m.about e = some k)
    (h : m.after k s (first ++ e :: rest) = some s') :
    ∃ before next, m.after k s first = some before ∧ m.next before e = some next ∧
      m.after k next rest = some s' := by
  rw [after_append, Option.bind_eq_some_iff] at h
  obtain ⟨before, hfirst, hrest⟩ := h
  rw [after, if_pos habout, Option.bind_eq_some_iff] at hrest
  obtain ⟨next, hnext, hrest⟩ := hrest
  exact ⟨before, next, hfirst, hnext, hrest⟩

/-- A state is the initial one, or was entered by the last entry about the key. -/
theorem after_last {history : List ε} (h : m.after k s history = some s') :
    (s' = s ∧ ∀ e ∈ history, m.about e ≠ some k) ∨
      ∃ first last rest before, history = first ++ last :: rest ∧ m.about last = some k ∧
        (∀ e ∈ rest, m.about e ≠ some k) ∧ m.after k s first = some before ∧
        m.next before last = some s' := by
  induction history generalizing s with
  | nil =>
    simp only [after, Option.some.injEq] at h
    exact Or.inl ⟨h.symm, nofun⟩
  | cons e history ih =>
    rw [after] at h
    split at h
    · next habout =>
      obtain ⟨s₁, hnext, hrest⟩ := Option.bind_eq_some_iff.mp h
      rcases ih hrest with ⟨rfl, hquiet⟩ | ⟨first, last, rest, before, rfl, hlast, hafter, hfirst, hbefore⟩
      · exact Or.inr ⟨[], e, history, s, rfl, habout, hquiet, rfl, hnext⟩
      · refine Or.inr ⟨e :: first, last, rest, before, rfl, hlast, hafter, ?_, hbefore⟩
        rw [after, if_pos habout, hnext]
        exact hfirst
    · next habout =>
      rcases ih h with ⟨rfl, hquiet⟩ | ⟨first, last, rest, before, rfl, hlast, hafter, hfirst, hbefore⟩
      · refine Or.inl ⟨rfl, fun e' he' => ?_⟩
        rcases List.mem_cons.mp he' with rfl | he'
        · exact habout
        · exact hquiet e' he'
      · refine Or.inr ⟨e :: first, last, rest, before, rfl, hlast, hafter, ?_, hbefore⟩
        rw [after, if_neg habout]
        exact hfirst

/-- A state that changed was first left by the earliest entry about the key. -/
theorem after_first {history : List ε} (h : m.after k s history = some s') (hne : s' ≠ s) :
    ∃ first e rest middle, history = first ++ e :: rest ∧ m.about e = some k ∧
      m.next s e = some middle ∧ m.after k middle rest = some s' := by
  induction history with
  | nil =>
    simp only [after, Option.some.injEq] at h
    exact absurd h.symm hne
  | cons e history ih =>
    rw [after] at h
    split at h
    · next habout =>
      obtain ⟨middle, hnext, hrest⟩ := Option.bind_eq_some_iff.mp h
      exact ⟨[], e, history, middle, rfl, habout, hnext, hrest⟩
    · obtain ⟨first, e', rest, middle, rfl, habout, hnext, hrest⟩ := ih h
      exact ⟨e :: first, e', rest, middle, rfl, habout, hnext, hrest⟩

end Automaton

end Dmw.KeyedHistory
