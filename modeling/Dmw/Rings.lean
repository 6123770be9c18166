import Mathlib.Data.List.Range
import Mathlib.Logic.Function.Basic

/-!
# Rings over a fixed array

A ring keeps its elements in a fixed number of cells, from the head on and
around the end of the array. A full ring has no room: whoever appends must know
that it is not full. Read from the head, a ring is a list, and then appending
and taking are what they are for lists.
-/

namespace Dmw.Rings

universe u

variable {α : Type u} {n : ℕ}

/-- Elements in `n` cells. -/
structure Ring (α : Type u) (n : ℕ) where
  /-- The array. -/
  cells : Fin n → α
  /-- Cell of the first element. -/
  head : Fin n
  /-- Number of elements. -/
  count : ℕ

namespace Ring

/-- Cell so many places behind the head. -/
def cell (r : Ring α n) (k : ℕ) : Fin n := ⟨(r.head+k) % n, Nat.mod_lt _ r.head.pos⟩

/-- The element at the head, if there is one. -/
def peek (r : Ring α n) : Option α := if r.count = 0 then none else some (r.cells r.head)

/-- Append an element. -/
def push (r : Ring α n) (x : α) : Ring α n :=
  {r with cells := Function.update r.cells (r.cell r.count) x, count := r.count+1}

/-- Take the element at the head. -/
def pop (r : Ring α n) : Ring α n := {r with head := r.cell 1, count := r.count-1}

/-- The elements from the head on. -/
def toList (r : Ring α n) : List α := (List.range r.count).map fun k => r.cells (r.cell k)

@[simp] theorem length_toList (r : Ring α n) : r.toList.length = r.count := by simp [toList]

/-- The head is the cell no place behind it. -/
theorem cell_zero (r : Ring α n) : r.cell 0 = r.head :=
  Fin.ext (Nat.mod_eq_of_lt r.head.isLt)

/-- Less than one turn apart, two places are two cells. -/
theorem cell_ne (r : Ring α n) {j k : ℕ} (hjk : j < k) (hk : k < n) : r.cell j ≠ r.cell k := by
  intro heq
  have hmod : (r.head+j) % n = (r.head+k) % n := congrArg Fin.val heq
  have hhead := r.head.isLt
  by_cases hj : r.head+j < n
  · rw [Nat.mod_eq_of_lt hj] at hmod
    by_cases hk' : r.head+k < n
    · rw [Nat.mod_eq_of_lt hk'] at hmod
      omega
    · rw [Nat.mod_eq_sub_mod (by omega), Nat.mod_eq_of_lt (by omega)] at hmod
      omega
  · rw [Nat.mod_eq_sub_mod (by omega), Nat.mod_eq_of_lt (by omega),
      Nat.mod_eq_sub_mod (by omega), Nat.mod_eq_of_lt (by omega)] at hmod
    omega

/-- An element appended to a ring with room comes last. -/
theorem toList_push {r : Ring α n} (hroom : r.count < n) (x : α) :
    (r.push x).toList = r.toList ++ [x] := by
  have hold : ∀ k ∈ List.range r.count, (r.push x).cells ((r.push x).cell k) =
      r.cells (r.cell k) := by
    intro k hk
    exact Function.update_of_ne (r.cell_ne (List.mem_range.mp hk) hroom) _ _
  have hnew : (r.push x).cells ((r.push x).cell r.count) = x := Function.update_self _ _ _
  have hcount : (r.push x).count = r.count+1 := rfl
  simp only [toList, hcount, List.range_succ, List.map_append, List.map_cons, List.map_nil, hnew]
  rw [List.map_congr_left hold]

/-- The element at the head comes first. -/
theorem toList_eq_cons {r : Ring α n} (hcount : r.count ≠ 0) :
    r.toList = r.cells r.head :: r.pop.toList := by
  obtain ⟨m, hm⟩ := Nat.exists_eq_succ_of_ne_zero hcount
  have hnext : ∀ k, r.pop.cell k = r.cell (k+1) := by
    intro k
    apply Fin.ext
    show ((r.head+1) % n + k) % n = (r.head+(k+1)) % n
    rw [Nat.mod_add_mod]
    congr 1
    omega
  have hpop : r.pop.count = m := by simp [pop, hm]
  simp only [toList, hm, hpop, List.range_succ_eq_map, List.map_cons, List.map_map, cell_zero]
  congr 1
  apply List.map_congr_left
  intro k _
  exact congrArg r.cells (hnext k).symm

/-- An empty ring reads as the empty list. -/
theorem toList_eq_nil {r : Ring α n} (hcount : r.count = 0) : r.toList = [] := by
  simp [toList, hcount]

/-- What is at the head is what the list begins with. -/
theorem peek_eq (r : Ring α n) : r.peek = r.toList.head? := by
  by_cases hcount : r.count = 0
  · rw [toList_eq_nil hcount, peek, if_pos hcount]
    rfl
  · rw [toList_eq_cons hcount, peek, if_neg hcount]
    rfl

end Ring

end Dmw.Rings
