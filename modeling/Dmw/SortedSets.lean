import Mathlib.Data.List.Basic
import Mathlib.Order.Defs.Unbundled
import Mathlib.Tactic.Tauto

/-!
# Ordered sets

Finite sets kept as strictly increasing lists, so that their elements come in
order and each comes once.
-/

namespace Dmw.SortedSets

universe u

/-- A strictly increasing list. -/
structure SortedSet (α : Type u) [LT α] where
  /-- The elements in order. -/
  elements : List α
  /-- Each is below the ones after it. -/
  increasing : elements.Pairwise (· < ·)

variable {α : Type u} [LT α]

instance : EmptyCollection (SortedSet α) := ⟨⟨[],.nil⟩⟩

instance : Membership α (SortedSet α) := ⟨fun s x => x ∈ s.elements⟩

variable [DecidableLT α]

/-- Insert an element before the first one that is not below it. -/
def insertInto (x : α) : List α → List α
  | [] => [x]
  | y :: rest => if y < x then y :: insertInto x rest else if x < y then x :: y :: rest else y :: rest

variable [Std.Trichotomous (α := α) (· < ·)]

/-- The list then has the element beside the ones it had. -/
theorem mem_insertInto {x y : α} {l : List α} : y ∈ insertInto x l ↔ y = x ∨ y ∈ l := by
  induction l with
  | nil => simp [insertInto]
  | cons z rest ih =>
    unfold insertInto
    by_cases hbelow : z < x
    · rw [if_pos hbelow,List.mem_cons,ih,List.mem_cons]
      tauto
    · rw [if_neg hbelow]
      by_cases habove : x < z
      · rw [if_pos habove,List.mem_cons]
      · have hsame : x = z := Std.Trichotomous.trichotomous (r := (· < ·)) x z habove hbelow
        rw [if_neg habove,hsame,List.mem_cons]
        tauto

variable [IsTrans α (· < ·)]

/-- The list stays increasing. -/
theorem insertInto_increasing (x : α) {l : List α} (h : l.Pairwise (· < ·)) :
    (insertInto x l).Pairwise (· < ·) := by
  induction l with
  | nil => exact List.pairwise_singleton _ _
  | cons y rest ih =>
    obtain ⟨hfirst, hrest⟩ := List.pairwise_cons.mp h
    unfold insertInto
    by_cases hbelow : y < x
    · rw [if_pos hbelow]
      refine List.pairwise_cons.mpr ⟨?_,ih hrest⟩
      intro z hz
      rcases mem_insertInto.mp hz with rfl | hz
      · exact hbelow
      · exact hfirst z hz
    · rw [if_neg hbelow]
      by_cases habove : x < y
      · rw [if_pos habove]
        refine List.pairwise_cons.mpr ⟨?_,h⟩
        intro z hz
        rcases List.mem_cons.mp hz with rfl | hz
        · exact habove
        · exact IsTrans.trans x y z habove (hfirst z hz)
      · rw [if_neg habove]
        exact h

/-- Insertion of an element. -/
def SortedSet.insert (x : α) (s : SortedSet α) : SortedSet α :=
  ⟨insertInto x s.elements,insertInto_increasing x s.increasing⟩

/-- The set then has the element beside the ones it had. -/
theorem mem_insert {x y : α} {s : SortedSet α} : y ∈ s.insert x ↔ y = x ∨ y ∈ s :=
  mem_insertInto

end Dmw.SortedSets
