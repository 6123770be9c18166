import Mathlib.Data.Set.Card
import Mathlib.Logic.Equiv.Set

/-!
# Counters that count

A counter is right if it shows how many indices of an unbounded family satisfy
a predicate. One index more, one less and a move within a family of parties
that each stand somewhere have one rule each.
-/

namespace Dmw.Counting

universe u v

variable {ι : Type u} {π : Type v} {P Q : ι → Prop} {i : ι} {n : ℕ}

/-- Exactly `n` indices satisfy the predicate. -/
def Counts (P : ι → Prop) (n : ℕ) : Prop := {i | P i}.encard = n

/-- Nothing is counted where nothing satisfies the predicate. -/
theorem Counts.none (h : ∀ i, ¬ P i) : Counts P 0 := by
  have hempty : {i | P i} = ∅ := Set.eq_empty_iff_forall_notMem.mpr h
  simp [Counts, hempty]

/-- A counter at zero excludes every index. -/
theorem Counts.not_of_zero (h : Counts P 0) (i : ι) : ¬ P i := by
  intro hi
  have hempty : {i | P i} = ∅ := Set.encard_eq_zero.mp h
  have hmem : i ∈ {i | P i} := hi
  rw [hempty] at hmem
  exact hmem

/-- A counted index keeps the counter positive. -/
theorem Counts.pos (h : Counts P n) (hi : P i) : 0 < n := by
  cases n with
  | zero => exact absurd hi (Counts.not_of_zero h i)
  | succ n => exact Nat.succ_pos n

/-- The counter depends on nothing but the selected indices. -/
theorem Counts.congr (h : Counts P n) (hsame : ∀ i, Q i ↔ P i) : Counts Q n := by
  have heq : {i | Q i} = {i | P i} := Set.ext hsame
  rw [Counts, heq]
  exact h

/-- One index more. -/
theorem Counts.insert (h : Counts P n) (hi : ¬ P i) (hnew : ∀ j, Q j ↔ j = i ∨ P j) :
    Counts Q (n+1) := by
  have heq : {j | Q j} = Insert.insert i {j | P j} := Set.ext hnew
  have hnot : i ∉ {j | P j} := hi
  rw [Counts, heq, Set.encard_insert_of_notMem hnot, h]
  rfl

/-- One index less. -/
theorem Counts.remove (h : Counts P n) (hi : P i) (hrest : ∀ j, Q j ↔ j ≠ i ∧ P j) :
    Counts Q (n-1) := by
  have hmem : i ∈ {j | P j} := hi
  have heq : {j | Q j} = {j | P j} \ {i} := by
    ext j
    rw [Set.mem_ofPred_eq, hrest j, and_comm]
    rfl
  have hcount := Set.encard_sdiff_singleton_add_one hmem
  rw [← heq, h] at hcount
  have hpos := h.pos hi
  have hsplit : (n : ℕ∞) = ((n-1 : ℕ) : ℕ∞) + 1 := by
    have hnat : n = (n-1)+1 := by omega
    exact_mod_cast hnat
  rw [hsplit] at hcount
  exact WithTop.add_right_cancel ENat.one_ne_top hcount

/-- With more than one counted party there is another one. -/
theorem Counts.another (h : Counts P n) (hmany : 1 < n) (i : ι) : ∃ j, j ≠ i ∧ P j := by
  by_contra hnone
  have hsub : {j | P j} ⊆ {i} := by
    intro j hj
    by_contra hne
    exact hnone ⟨j, hne, hj⟩
  have hle := Set.encard_le_encard hsub
  rw [h, Set.encard_singleton] at hle
  have hnat : n ≤ 1 := by exact_mod_cast hle
  omega

/-- The only counted party. -/
theorem Counts.unique {j : ι} (h : Counts P 1) (hi : P i) (hj : P j) : i = j := by
  by_contra hne
  have hsub : ({i,j} : Set ι) ⊆ {k | P k} := by
    intro k hk
    rcases hk with rfl | hk
    · exact hi
    · exact hk ▸ hj
  have hle := Set.encard_le_encard hsub
  rw [h, Set.encard_pair hne] at hle
  have hnat : 2 ≤ 1 := by exact_mod_cast hle
  omega

/-- Those counted and not of one kind are the rest. -/
theorem Counts.without {m : ℕ} (h : Counts P n) (hkind : Counts (fun i => P i ∧ Q i) m) :
    Counts (fun i => P i ∧ ¬ Q i) (n-m) := by
  have hsub : {i | P i ∧ Q i} ⊆ {i | P i} := fun i hi => hi.1
  have hdiff : {i | P i ∧ ¬ Q i} = {i | P i} \ {i | P i ∧ Q i} := by
    ext i
    constructor
    · intro hi
      exact ⟨hi.1, fun hboth => hi.2 hboth.2⟩
    · intro hi
      exact ⟨hi.1, fun hq => hi.2 ⟨hi.1, hq⟩⟩
  have hcount := Set.encard_sdiff_add_encard_of_subset hsub
  rw [← hdiff, hkind, h] at hcount
  have hle : m ≤ n := by
    have hmono := Set.encard_le_encard hsub
    rw [h, hkind] at hmono
    exact_mod_cast hmono
  have hsplit : (n : ℕ∞) = ((n-m : ℕ) : ℕ∞) + m := by
    have hnat : n = (n-m)+m := by omega
    exact_mod_cast hnat
  rw [hsplit] at hcount
  exact WithTop.add_right_cancel (ENat.natCast_ne_top m) hcount

/-- Where every index is counted, the counter shows their number. -/
theorem Counts.card [Fintype ι] (h : Counts P n) (hall : ∀ i, P i) : n = Fintype.card ι := by
  have huniv : {i | P i} = Set.univ := Set.eq_univ_of_forall hall
  rw [Counts, huniv, Set.encard_univ, ENat.card_eq_coe_fintype_card] at h
  exact_mod_cast h.symm

section

variable [DecidableEq ι] {f : ι → π} {R : π → Prop} {p : π}

/-- A party comes to stand where it is counted. -/
theorem Counts.enter (h : Counts (fun j => R (f j)) n) (hfrom : ¬ R (f i)) (hto : R p) :
    Counts (fun j => R (Function.update f i p j)) (n+1) := by
  refine Counts.insert h hfrom fun j => ?_
  by_cases hj : j = i
  · subst hj
    simp [hto]
  · simp [hj]

/-- A party ceases to stand where it is counted. -/
theorem Counts.leave (h : Counts (fun j => R (f j)) n) (hfrom : R (f i)) (hto : ¬ R p) :
    Counts (fun j => R (Function.update f i p j)) (n-1) := by
  refine Counts.remove h hfrom fun j => ?_
  by_cases hj : j = i
  · subst hj
    simp [hto]
  · simp [hj]

/-- A party moves without being counted differently. -/
theorem Counts.move (h : Counts (fun j => R (f j)) n) (hsame : R p ↔ R (f i)) :
    Counts (fun j => R (Function.update f i p j)) n := by
  refine Counts.congr h fun j => ?_
  by_cases hj : j = i
  · subst hj
    simp [hsame]
  · simp [hj]

/-- A party moves, and the counter with it. -/
theorem Counts.shift [DecidablePred R] {n' : ℕ} (h : Counts (fun j => R (f j)) n)
    (hcount : n' + (if R (f i) then 1 else 0) = n + if R p then 1 else 0) :
    Counts (fun j => R (Function.update f i p j)) n' := by
  by_cases hfrom : R (f i)
  · by_cases hto : R p
    · rw [if_pos hfrom, if_pos hto] at hcount
      rw [Nat.add_right_cancel hcount]
      exact h.move (iff_of_true hto hfrom)
    · rw [if_pos hfrom, if_neg hto] at hcount
      rw [show n' = n-1 by omega]
      exact h.leave hfrom hto
  · by_cases hto : R p
    · rw [if_neg hfrom, if_pos hto] at hcount
      rw [show n' = n+1 by omega]
      exact h.enter hfrom hto
    · rw [if_neg hfrom, if_neg hto] at hcount
      rw [show n' = n by omega]
      exact h.move (iff_of_false hto hfrom)

/-- Two parties change places. -/
theorem Counts.swap {i' : ι} (h : Counts (fun j => R (f j)) n) (hne : i' ≠ i) :
    Counts (fun j => R (Function.update (Function.update f i (f i')) i' (f i) j)) n := by
  have hswap : Function.update (Function.update f i (f i')) i' (f i) = f ∘ Equiv.swap i i' := by
    funext j
    rcases eq_or_ne j i' with rfl | hj'
    · simp
    · rcases eq_or_ne j i with rfl | hj
      · simp [hj']
      · simp [hj, hj', Equiv.swap_apply_of_ne_of_ne hj hj']
  rw [hswap]
  have himage : {j | R ((f ∘ Equiv.swap i i') j)} = Set.image (Equiv.swap i i') {j | R (f j)} := by
    rw [Equiv.image_eq_preimage_symm]
    rfl
  rw [Counts, himage, (Equiv.injective _).encard_image]
  exact h

end

end Dmw.Counting
