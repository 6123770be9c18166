import Mathlib.Data.List.Induction
import Std.Data.TreeMap.Lemmas

/-!
# Grouping into an ordered map

A loop that adds each element of a list to the group of its key. The groups
come out in key order, and the group of a key has met exactly the elements
with that key, in their order in the list.
-/

namespace Dmw.Grouping

open Std

universe u v w

variable {κ : Type u} {α : Type v} {γ : Type w} [Ord κ]

/-- Add every element to the group of its key, created on first use. -/
def groupInto (key : α → κ) (add : γ → α → γ) (fresh : γ) (elements : List α) : TreeMap κ γ :=
  elements.foldl
    (fun groups a => groups.alter (key a) fun group => some (add (group.getD fresh) a)) ∅

variable [TransOrd κ] [LawfulEqOrd κ] [DecidableEq κ]
variable {key : α → κ} {add : γ → α → γ} {fresh : γ}

/-- The group of a key, if any element has it. -/
def groupOf (key : α → κ) (add : γ → α → γ) (fresh : γ) (elements : List α) (k : κ) : Option γ :=
  if elements.filter (fun a => key a = k) = [] then none
  else some ((elements.filter fun a => key a = k).foldl add fresh)

omit [TransOrd κ] [LawfulEqOrd κ] [Ord κ] in
/-- One more element reaches the group of its own key and no other. -/
theorem groupOf_append_singleton (elements : List α) (a : α) (k : κ) :
    groupOf key add fresh (elements ++ [a]) k =
      if key a = k then some (add ((groupOf key add fresh elements k).getD fresh) a)
      else groupOf key add fresh elements k := by
  unfold groupOf
  by_cases hk : key a = k
  · have hmembers : (elements ++ [a]).filter (fun a => key a = k) =
        elements.filter (fun a => key a = k) ++ [a] := by
      simp [List.filter_append, hk]
    rw [hmembers, if_neg (by simp), if_pos hk, List.foldl_append, List.foldl_cons, List.foldl_nil]
    split
    · next hnone => simp [hnone]
    · rfl
  · have hmembers : (elements ++ [a]).filter (fun a => key a = k) =
        elements.filter (fun a => key a = k) := by
      simp [List.filter_append, hk]
    rw [hmembers, if_neg hk]

/-- Looking a key up finds its group. -/
theorem getElem?_groupInto (elements : List α) (k : κ) :
    (groupInto key add fresh elements)[k]? = groupOf key add fresh elements k := by
  induction elements using List.reverseRecOn with
  | nil => simp [groupInto, groupOf]
  | append_singleton elements a ih =>
    rw [groupOf_append_singleton, ← ih, groupInto, List.foldl_append, List.foldl_cons,
      List.foldl_nil, ← groupInto, TreeMap.getElem?_alter]
    by_cases hk : key a = k
    · subst hk
      simp
    · have hcompare : compare (key a) k ≠ .eq := fun h => hk (compare_eq_iff_eq.mp h)
      rw [if_neg hcompare, if_neg hk]

/-- What the iteration over the groups meets. -/
theorem mem_toList_groupInto {elements : List α} {k : κ} {group : γ} :
    (k, group) ∈ (groupInto key add fresh elements).toList ↔
      elements.filter (fun a => key a = k) ≠ [] ∧
        group = (elements.filter fun a => key a = k).foldl add fresh := by
  rw [TreeMap.mem_toList_iff_getElem?_eq_some, getElem?_groupInto]
  unfold groupOf
  split
  · next hnone => simp [hnone]
  · next hsome =>
    rw [Option.some.injEq]
    exact ⟨fun h => ⟨hsome, h.symm⟩, fun h => h.2.symm⟩

/-- The keys of the groups are the keys of the elements, each once. -/
theorem count_keys_groupInto [BEq κ] [LawfulBEq κ] (elements : List α) (k : κ) :
    ((groupInto key add fresh elements).toList.map Prod.fst).count k =
      if elements.filter (fun a => key a = k) = [] then 0 else 1 := by
  have hkeys := TreeMap.map_fst_toList_eq_keys (t := groupInto key add fresh elements)
  have hnodup : ((groupInto key add fresh elements).toList.map Prod.fst).Nodup := by
    rw [hkeys]
    exact TreeMap.nodup_keys
  by_cases hnone : elements.filter (fun a => key a = k) = []
  · rw [if_pos hnone]
    refine List.count_eq_zero.mpr fun hmem => ?_
    obtain ⟨⟨k', group⟩, hentry, rfl⟩ := List.mem_map.mp hmem
    exact (Iff.mp mem_toList_groupInto hentry).1 hnone
  · rw [if_neg hnone]
    rw [hnodup.count]
    exact if_pos (List.mem_map.mpr ⟨(k,_),Iff.mpr mem_toList_groupInto ⟨hnone,rfl⟩,rfl⟩)

omit [TransOrd κ] [LawfulEqOrd κ] [DecidableEq κ] [Ord κ] in
/-- A total that some elements raise by one counts these elements. -/
theorem foldl_tally (read : γ → ℕ) (p : α → Bool)
    (hadd : ∀ group a, read (add group a) = read group + if p a = true then 1 else 0)
    (elements : List α) : read (elements.foldl add fresh) = read fresh + elements.countP p := by
  induction elements using List.reverseRecOn with
  | nil => rfl
  | append_singleton elements a ih =>
    rw [List.foldl_append,List.foldl_cons,List.foldl_nil,hadd,ih,List.countP_append,
      List.countP_singleton,Nat.add_assoc]

omit [TransOrd κ] [LawfulEqOrd κ] [DecidableEq κ] [Ord κ] in
/-- What elements add to a group, and nothing takes away, the group has in the end. -/
theorem foldl_gather (holds : γ → Prop) (adds : α → Prop)
    (hadd : ∀ group a, holds (add group a) ↔ holds group ∨ adds a) (elements : List α) :
    holds (elements.foldl add fresh) ↔ holds fresh ∨ ∃ a ∈ elements, adds a := by
  induction elements using List.reverseRecOn with
  | nil => simp
  | append_singleton elements a ih =>
    rw [List.foldl_append,List.foldl_cons,List.foldl_nil,hadd,ih]
    simp only [List.mem_append,List.mem_singleton,or_and_right,exists_or,exists_eq_left]
    exact or_assoc

/-- Remember the latest element that passes a test. -/
def keepLatest (p : α → Bool) (kept : Option α) (a : α) : Option α := if p a then some a else kept

/-- The latest element that passes. -/
theorem foldl_keepLatest (p : α → Bool) (elements : List α) :
    elements.foldl (keepLatest p) none = (elements.filter p).getLast? := by
  induction elements using List.reverseRecOn with
  | nil => rfl
  | append_singleton elements a ih =>
    rw [List.foldl_append, List.foldl_cons, List.foldl_nil, ih, List.filter_append, keepLatest]
    cases hp : p a with
    | true => simp [hp]
    | false => simp [hp]

end Dmw.Grouping
