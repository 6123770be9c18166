import Mathlib.Data.List.Basic

/-!
# Sequences with separators

A sequence is the parts between its separators, put together again. Cutting it
after some of its parts leaves a sequence of these parts, and what was cut off
starts with a separator.
-/

namespace Dmw.Separators

universe u

variable {α : Type u}

/-- An element before the first part is before the whole. -/
theorem intercalate_cons_head (separator : List α) (x : α) (part : List α)
    (parts : List (List α)) : separator.intercalate ((x :: part) :: parts) =
      x :: separator.intercalate (part :: parts) := by
  cases parts <;> simp

variable [DecidableEq α]

/-- There is one part more than there are separators. -/
theorem length_splitOn (separator : α) (l : List α) :
    (l.splitOn separator).length = l.count separator + 1 := by
  induction l with
  | nil => rfl
  | cons x rest ih =>
    rw [List.splitOn_cons_eq_if_modifyHead,List.count_cons]
    by_cases hx : x = separator
    · simp [hx,ih]
    · simp [hx,ih]

/-- No part has a separator in it. -/
theorem notMem_of_mem_splitOn {separator : α} {l part : List α}
    (hpart : part ∈ l.splitOn separator) : separator ∉ part := by
  induction l generalizing part with
  | nil =>
    obtain rfl := List.mem_singleton.mp hpart
    exact List.not_mem_nil
  | cons x rest ih =>
    rw [List.splitOn_cons_eq_if_modifyHead] at hpart
    by_cases hx : x = separator
    · simp only [hx,beq_self_eq_true,if_true] at hpart
      rcases List.mem_cons.mp hpart with rfl | hpart
      · exact List.not_mem_nil
      · exact ih hpart
    · simp only [beq_iff_eq,hx,if_false] at hpart
      cases hparts : rest.splitOn separator with
      | nil => exact absurd hparts (List.splitOn_ne_nil _ _)
      | cons first parts =>
        rw [hparts,List.modifyHead_cons] at hpart
        rcases List.mem_cons.mp hpart with rfl | hpart
        · have hfirst := ih (hparts ▸ List.mem_cons_self)
          intro hmem
          rcases List.mem_cons.mp hmem with heq | hmem
          · exact hx heq.symm
          · exact hfirst hmem
        · exact ih (hparts ▸ List.mem_cons_of_mem _ hpart)

/-- The first parts of a sequence. -/
def truncate (separator : α) (parts : ℕ) (l : List α) : List α :=
  [separator].intercalate ((l.splitOn separator).take parts)

/-- A truncation has as many parts as were asked for. -/
theorem splitOn_truncate (separator : α) {parts : ℕ} (hparts : 0 < parts) (l : List α) :
    (truncate separator parts l).splitOn separator = (l.splitOn separator).take parts := by
  refine List.splitOn_intercalate separator ?_ ?_
  · exact fun part hpart => notMem_of_mem_splitOn (List.mem_of_mem_take hpart)
  · intro hnil
    rcases List.take_eq_nil_iff.mp hnil with hzero | hempty
    · omega
    · exact List.splitOn_ne_nil _ _ hempty

/-- After a truncation a separator follows and the other parts. -/
theorem truncate_append {separator : α} {parts : ℕ} {l : List α} (hparts : 0 < parts)
    (hmore : parts < (l.splitOn separator).length) :
    l = truncate separator parts l ++ separator ::
      [separator].intercalate ((l.splitOn separator).drop parts) := by
  have hhead : (l.splitOn separator).take parts ≠ [] := by
    rw [← List.length_pos_iff_ne_nil,List.length_take]
    omega
  have htail : (l.splitOn separator).drop parts ≠ [] := by
    rw [← List.length_pos_iff_ne_nil,List.length_drop]
    omega
  have hjoin : ∀ first second : List (List α), first ≠ [] → second ≠ [] →
      [separator].intercalate (first ++ second) =
        [separator].intercalate first ++ separator :: [separator].intercalate second := by
    intro first second hfirst hsecond
    induction first with
    | nil => exact absurd rfl hfirst
    | cons part first ih =>
      cases first with
      | nil =>
        obtain ⟨next, second, rfl⟩ := List.exists_cons_of_ne_nil hsecond
        simp
      | cons part' first =>
        have hrest := ih (by simp)
        simp only [List.cons_append,List.intercalate_cons_cons] at hrest ⊢
        rw [hrest]
        simp
  have hwhole := hjoin _ _ hhead htail
  rw [List.take_append_drop,List.intercalate_splitOn] at hwhole
  exact hwhole

end Dmw.Separators
