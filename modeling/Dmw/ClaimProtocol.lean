import Mathlib.Data.List.Pairwise
import Mathlib.Logic.Function.Basic
import Mathlib.Tactic.Common

/-!
# Exclusive claims on table entries

A table admits entries under reusable keys and numbers each admission with a
fresh ticket. Threads claim an entry, may publish one result for it, and then
erase it or give it back; every claim is closed by a final hand-back that acts
on whatever entry the key has by then, and entries may be withdrawn under
their owners. If nobody claims a key that another thread still works on, each
ticket is published at most once and a dropped ticket is never published.
-/

namespace Dmw.ClaimProtocol

universe u v

/-- What one thread is doing with one key and ticket. -/
inductive Role (κ : Type v)
  | free
  /-- The claim is held and nothing was published. -/
  | holding (k : κ) (n : ℕ)
  /-- The entry is about to be erased. -/
  | erasing (k : κ) (n : ℕ)
  /-- The final hand-back is outstanding. -/
  | closing (k : κ) (n : ℕ)
  /-- The thread dropped an unclaimed entry and has not reported it. -/
  | dropped (k : κ) (n : ℕ)

/-- The key and ticket a thread works on, from its claim to its hand-back. -/
def Role.working {κ : Type v} : Role κ → Option (κ × ℕ)
  | .holding k n | .erasing k n | .closing k n => some (k,n)
  | _ => none

/-- The key and ticket a thread still owns. -/
def Role.owned {κ : Type v} : Role κ → Option (κ × ℕ)
  | .holding k n | .erasing k n => some (k,n)
  | _ => none

/-- Recorded facts about a ticket. -/
inductive Note (κ : Type v)
  | published (k : κ) (n : ℕ)
  | dropped (k : κ) (n : ℕ)

/-- Claim table, threads and notes. -/
structure State (τ : Type u) (κ : Type v) where
  /-- Whether an entry is claimed, and its ticket. -/
  entry : κ → Option (Bool × ℕ)
  /-- The next ticket. -/
  issued : ℕ
  /-- Work of every thread. -/
  role : τ → Role κ
  /-- Notes in order. -/
  notes : List (Note κ)

section

variable {τ : Type u} {κ : Type v}

/-- The ticket was issued and the table no longer holds it. -/
def Gone (s : State τ κ) (k : κ) (n : ℕ) : Prop := n < s.issued ∧ ∀ b, s.entry k ≠ some (b,n)

/-- The entry is claimed under the ticket, or was withdrawn. -/
def Kept (s : State τ κ) (k : κ) (n : ℕ) : Prop := s.entry k = some (true,n) ∨ Gone s k n

/-- After a ticket is published or dropped it may not be published again. -/
def Note.admits : Note κ → Note κ → Prop
  | .published k n, later => later ≠ .published k n
  | .dropped k n, later => later ≠ .published k n

/-- What every orderly run keeps. -/
structure Inv (s : State τ κ) : Prop where
  /-- One worker for each key. -/
  exclusive : ∀ t u k n m, (s.role t).working = some (k,n) → (s.role u).working = some (k,m) → t = u
  /-- An owner's entry is claimed under its ticket, unless it was withdrawn. -/
  owned : ∀ t k n, (s.role t).owned = some (k,n) → Kept s k n
  /-- Stored tickets were issued. -/
  fresh : ∀ k b n, s.entry k = some (b,n) → n < s.issued
  /-- A dropped entry stays gone. -/
  dropped : ∀ t k n, s.role t = .dropped k n → Gone s k n
  /-- A noted ticket is being erased or is gone. -/
  published : ∀ k n, .published k n ∈ s.notes → (∃ t, s.role t = .erasing k n) ∨ Gone s k n
  /-- A ticket noted as dropped is gone. -/
  noted : ∀ k n, .dropped k n ∈ s.notes → Gone s k n
  /-- A held ticket is in no note and about to be in none but its owner's. -/
  unspoiled : ∀ t k n, s.role t = .holding k n →
    .published k n ∉ s.notes ∧ .dropped k n ∉ s.notes ∧ ∀ u, s.role u ≠ .dropped k n
  /-- The notes respect the order. -/
  order : s.notes.Pairwise Note.admits

variable {s : State τ κ}

/-- An empty table with idle threads satisfies it. -/
theorem Inv.initial (issued : ℕ) : Inv (⟨fun _ => none,issued,fun _ => .free,[]⟩ : State τ κ) where
  exclusive := by simp [Role.working]
  owned := by simp [Role.owned]
  fresh := by simp
  dropped := by simp
  published := by simp
  noted := by simp
  unspoiled := by simp
  order := .nil

theorem Role.working_of_owned {r : Role κ} {k : κ} {n : ℕ} (h : r.owned = some (k,n)) :
    r.working = some (k,n) := by
  cases r with
  | free => cases h
  | holding => exact h
  | erasing => exact h
  | closing => cases h
  | dropped => cases h

/-- Two threads never work on the same key, so the owner's key is another one. -/
theorem Inv.owned_elsewhere (h : Inv s) {t t' : τ} {k k' : κ} {n n' : ℕ} (hne : t ≠ t')
    (hwork : (s.role t').working = some (k',n')) (hown : (s.role t).owned = some (k,n)) :
    k ≠ k' := by
  rintro rfl
  exact hne (h.exclusive t t' k n n' (Role.working_of_owned hown) hwork)

/-- An unclaimed entry has no owner under its ticket. -/
theorem Inv.unclaimed_unowned (h : Inv s) {k : κ} {n : ℕ} (hentry : s.entry k = some (false,n))
    (t : τ) : (s.role t).owned ≠ some (k,n) := by
  intro hown
  rcases h.owned t k n hown with hclaimed | hgone
  · rw [hentry] at hclaimed
    cases hclaimed
  · exact hgone.2 false hentry

/-- The ticket of an owner was issued. -/
theorem Inv.owned_issued (h : Inv s) {t : τ} {k : κ} {n : ℕ}
    (hown : (s.role t).owned = some (k,n)) : n < s.issued := by
  rcases h.owned t k n hown with hclaimed | hgone
  · exact h.fresh k true n hclaimed
  · exact hgone.1

end

section

variable {τ : Type u} {κ : Type v} [DecidableEq τ] [DecidableEq κ] {s s' : State τ κ}

/-- The table with an entry, if there still is one, back to unclaimed. -/
def unclaim (entry : κ → Option (Bool × ℕ)) (k : κ) : κ → Option (Bool × ℕ) :=
  Function.update entry k ((entry k).map fun e => (false,e.2))

/-- Steps of the protocol. Only a claim depends on what other threads do. -/
inductive Step (s : State τ κ) : State τ κ → Prop
  | stutter : Step s s
  | enlist (k : κ) : s.entry k = none →
      Step s {s with
        entry := Function.update s.entry k (some (false,s.issued))
        issued := s.issued+1}
  | withdraw (k : κ) : Step s {s with entry := Function.update s.entry k none}
  | drop (t : τ) (k : κ) (n : ℕ) : s.role t = .free → s.entry k = some (false,n) →
      Step s {s with
        entry := Function.update s.entry k none
        role := Function.update s.role t (.dropped k n)}
  | report (t : τ) (k : κ) (n : ℕ) : s.role t = .dropped k n →
      Step s {s with
        role := Function.update s.role t .free
        notes := s.notes ++ [.dropped k n]}
  | claim (t : τ) (k : κ) (n : ℕ) : s.role t = .free → s.entry k = some (false,n) →
      (∀ u m, (s.role u).working ≠ some (k,m)) →
      Step s {s with
        entry := Function.update s.entry k (some (true,n))
        role := Function.update s.role t (.holding k n)}
  | publish (t : τ) (k : κ) (n : ℕ) : s.role t = .holding k n →
      Step s {s with
        role := Function.update s.role t (.erasing k n)
        notes := s.notes ++ [.published k n]}
  | concede (t : τ) (k : κ) (n : ℕ) : s.role t = .holding k n →
      Step s {s with role := Function.update s.role t (.erasing k n)}
  | abandon (t : τ) (k : κ) (n : ℕ) : s.role t = .holding k n →
      Step s {s with role := Function.update s.role t (.closing k n)}
  | giveBack (t : τ) (k : κ) (n : ℕ) : s.role t = .holding k n →
      Step s {s with
        entry := unclaim s.entry k
        role := Function.update s.role t (.closing k n)}
  | erase (t : τ) (k : κ) (n : ℕ) : s.role t = .erasing k n →
      Step s {s with
        entry := Function.update s.entry k none
        role := Function.update s.role t (.closing k n)}
  | close (t : τ) (k : κ) (n : ℕ) : s.role t = .closing k n →
      Step s {s with
        entry := unclaim s.entry k
        role := Function.update s.role t .free}

theorem unclaim_eq_some {entry : κ → Option (Bool × ℕ)} {k k' : κ} {b : Bool} {n : ℕ}
    (h : unclaim entry k k' = some (b,n)) : ∃ b', entry k' = some (b',n) := by
  unfold unclaim at h
  by_cases hk : k' = k
  · subst hk
    simp only [Function.update_self, Option.map_eq_some_iff, Prod.mk.injEq] at h
    obtain ⟨e, he, _, rfl⟩ := h
    exact ⟨e.1, he⟩
  · rw [Function.update_of_ne hk] at h
    exact ⟨b, h⟩

/-- A step issues tickets in order and brings no gone ticket back. -/
theorem Gone.step {k : κ} {n : ℕ} (hgone : Gone s k n) (hstep : Step s s') : Gone s' k n := by
  obtain ⟨hlt, hno⟩ := hgone
  have herased : ∀ k' b, Function.update s.entry k' none k ≠ some (b,n) := by
    intro k' b
    by_cases hk : k = k'
    · simp [hk]
    · rw [Function.update_of_ne hk]
      exact hno b
  have hunclaimed : ∀ k' b, unclaim s.entry k' k ≠ some (b,n) := by
    intro k' b h
    obtain ⟨b', hb'⟩ := unclaim_eq_some h
    exact hno b' hb'
  cases hstep with
  | stutter => exact ⟨hlt, hno⟩
  | enlist k' hnone =>
    refine ⟨Nat.lt_succ_of_lt hlt, fun b => ?_⟩
    by_cases hk : k = k'
    · subst hk
      simp only [Function.update_self, ne_eq, Option.some.injEq, Prod.mk.injEq, not_and]
      intro _ heq
      exact absurd hlt (by omega)
    · simp only [Function.update_of_ne hk]
      exact hno b
  | withdraw k' => exact ⟨hlt, herased k'⟩
  | drop t k' m _ _ => exact ⟨hlt, herased k'⟩
  | report t k' m _ => exact ⟨hlt, hno⟩
  | claim t k' m _ hm _ =>
    refine ⟨hlt, fun b => ?_⟩
    by_cases hk : k = k'
    · subst hk
      simp only [Function.update_self, ne_eq, Option.some.injEq, Prod.mk.injEq, not_and]
      rintro _ rfl
      exact hno false hm
    · simp only [Function.update_of_ne hk]
      exact hno b
  | publish t k' m _ => exact ⟨hlt, hno⟩
  | concede t k' m _ => exact ⟨hlt, hno⟩
  | abandon t k' m _ => exact ⟨hlt, hno⟩
  | giveBack t k' m _ => exact ⟨hlt, hunclaimed k'⟩
  | erase t k' m _ => exact ⟨hlt, herased k'⟩
  | close t k' m _ => exact ⟨hlt, hunclaimed k'⟩

theorem Inv.exclusive_step (h : Inv s) (hstep : Step s s') (t u : τ) (k : κ) (n m : ℕ)
    (ht : (s'.role t).working = some (k,n)) (hu : (s'.role u).working = some (k,m)) : t = u := by
  have hex := h.exclusive
  cases hstep with
  | _ => grind [Function.update_apply, Role.working]

/-- A step of another thread leaves an owner its entry, or withdraws it. -/
theorem Inv.kept_step (h : Inv s) (hstep : Step s s') {t : τ} {k : κ} {n : ℕ}
    (hown : (s.role t).owned = some (k,n)) (hown' : (s'.role t).owned = some (k,n)) :
    Kept s' k n := by
  rcases h.owned t k n hown with hclaimed | hgone
  · have hlt := h.fresh k true n hclaimed
    have hother := @Inv.owned_elsewhere τ κ s h t
    cases hstep with
    | withdraw k' =>
      by_cases hk : k = k'
      · subst hk
        exact Or.inr ⟨hlt, fun b => by simp⟩
      · exact Or.inl (by simpa [Function.update_of_ne hk] using hclaimed)
    | giveBack t' k' n' hrole =>
      have htt : t ≠ t' := by
        rintro rfl
        simp [Role.owned] at hown'
      exact Or.inl (by
        rw [← hclaimed]
        exact Function.update_of_ne (hother htt (by rw [hrole]; rfl) hown) _ _)
    | erase t' k' n' hrole =>
      have htt : t ≠ t' := by
        rintro rfl
        simp [Role.owned] at hown'
      exact Or.inl (by
        rw [← hclaimed]
        exact Function.update_of_ne (hother htt (by rw [hrole]; rfl) hown) _ _)
    | close t' k' n' hrole =>
      have htt : t ≠ t' := by
        rintro rfl
        simp [Role.owned] at hown'
      exact Or.inl (by
        rw [← hclaimed]
        exact Function.update_of_ne (hother htt (by rw [hrole]; rfl) hown) _ _)
    | _ => exact Or.inl (by grind [Function.update_apply])
  · exact Or.inr (hgone.step hstep)

theorem Inv.owned_step (h : Inv s) (hstep : Step s s') (t : τ) (k : κ) (n : ℕ)
    (ht : (s'.role t).owned = some (k,n)) : Kept s' k n := by
  by_cases hold : (s.role t).owned = some (k,n)
  · exact h.kept_step hstep hold ht
  · cases hstep with
    | claim t' k' n' hfree hentry hnone =>
      have heq : t = t' := by grind [Function.update_apply]
      subst heq
      obtain ⟨rfl, rfl⟩ : k' = k ∧ n' = n := by simpa [Role.owned] using ht
      exact Or.inl (by simp)
    | _ => grind [Function.update_apply, Role.owned]

theorem Inv.fresh_step (h : Inv s) (hstep : Step s s') (k : κ) (b : Bool) (n : ℕ)
    (hentry : s'.entry k = some (b,n)) : n < s'.issued := by
  have hf := h.fresh
  have hun := @unclaim_eq_some κ _ s.entry
  cases hstep with
  | enlist k' hnone => grind [Function.update_apply]
  | giveBack t' k' n' hrole =>
    obtain ⟨b', hb'⟩ := hun hentry
    exact hf k b' n hb'
  | close t' k' n' hrole =>
    obtain ⟨b', hb'⟩ := hun hentry
    exact hf k b' n hb'
  | _ => grind [Function.update_apply]

theorem Inv.dropped_step (h : Inv s) (hstep : Step s s') (t : τ) (k : κ) (n : ℕ)
    (hrole : s'.role t = .dropped k n) : Gone s' k n := by
  by_cases hold : s.role t = .dropped k n
  · exact (h.dropped t k n hold).step hstep
  · have hf := h.fresh
    cases hstep with
    | drop t' k' n' hfree hentry =>
      have ht : t = t' := by grind [Function.update_apply]
      subst ht
      obtain ⟨rfl, rfl⟩ : k' = k ∧ n' = n := by simpa using hrole
      exact ⟨hf k' false n' hentry, fun b => by simp⟩
    | _ => grind [Function.update_apply]

theorem Inv.published_step (h : Inv s) (hstep : Step s s') (k : κ) (n : ℕ)
    (hnote : .published k n ∈ s'.notes) : (∃ t, s'.role t = .erasing k n) ∨ Gone s' k n := by
  by_cases hold : .published k n ∈ s.notes
  · rcases h.published k n hold with ⟨t, ht⟩ | hgone
    · have hlt := h.owned_issued (show (s.role t).owned = some (k,n) by rw [ht]; rfl)
      cases hstep with
      | erase t' k' n' hrole =>
        by_cases htt : t' = t
        · subst htt
          obtain ⟨rfl, rfl⟩ : k' = k ∧ n' = n := by simpa [hrole] using ht
          exact Or.inr ⟨hlt, fun b => by simp⟩
        · exact Or.inl ⟨t, by simpa [Function.update_of_ne (Ne.symm htt)] using ht⟩
      | _ => exact Or.inl ⟨t, by grind [Function.update_apply]⟩
    · exact Or.inr (hgone.step hstep)
  · cases hstep with
    | publish t k' n' hrole =>
      have heq : k = k' ∧ n = n' := by simpa [hold] using hnote
      obtain ⟨rfl, rfl⟩ := heq
      exact Or.inl ⟨t, by simp⟩
    | report => simp [hold] at hnote
    | _ => exact absurd hnote hold

theorem Inv.noted_step (h : Inv s) (hstep : Step s s') (k : κ) (n : ℕ)
    (hnote : .dropped k n ∈ s'.notes) : Gone s' k n := by
  by_cases hold : .dropped k n ∈ s.notes
  · exact (h.noted k n hold).step hstep
  · cases hstep with
    | report t k' n' hrole =>
      have heq : k = k' ∧ n = n' := by simpa [hold] using hnote
      obtain ⟨rfl, rfl⟩ := heq
      exact h.dropped t k n hrole
    | publish => simp [hold] at hnote
    | _ => exact absurd hnote hold

theorem Inv.unspoiled_step (h : Inv s) (hstep : Step s s') (t : τ) (k : κ) (n : ℕ)
    (hrole : s'.role t = .holding k n) :
    .published k n ∉ s'.notes ∧ .dropped k n ∉ s'.notes ∧ ∀ u, s'.role u ≠ .dropped k n := by
  have hold := h.unspoiled t k n
  cases hstep with
  | drop t' k' n' hfree hentry =>
    have hunowned := h.unclaimed_unowned hentry
    grind [Function.update_apply, Role.owned]
  | report t' k' n' hdropped => grind [Function.update_apply]
  | claim t' k' n' hfree hentry hnone =>
    by_cases htt : t = t'
    · subst htt
      obtain ⟨rfl, rfl⟩ : k' = k ∧ n' = n := by simpa using hrole
      have hstored : ¬ Gone s k' n' := fun hgone => hgone.2 false hentry
      refine ⟨fun hnote => ?_, fun hnote => hstored (h.noted k' n' hnote), fun u hu => ?_⟩
      · rcases h.published k' n' hnote with ⟨u, hu⟩ | hgone
        · exact hnone u n' (by rw [hu]; rfl)
        · exact hstored hgone
      · exact hstored (h.dropped u k' n' (by grind [Function.update_apply]))
    · grind [Function.update_apply]
  | publish t' k' n' hholding =>
    have htt : t ≠ t' := by
      rintro rfl
      simp at hrole
    have hholds : s.role t = .holding k n := by
      simpa only [Function.update_of_ne htt] using hrole
    have hk : k ≠ k' :=
      h.owned_elsewhere htt (congrArg Role.working hholding) (congrArg Role.owned hholds)
    grind [Function.update_apply]
  | _ => grind [Function.update_apply]

theorem Inv.order_step (h : Inv s) (hstep : Step s s') : s'.notes.Pairwise Note.admits := by
  cases hstep with
  | publish t k n hrole =>
    refine List.pairwise_append.mpr ⟨h.order, List.pairwise_singleton .., ?_⟩
    intro note hnote later hlater
    obtain rfl := List.mem_singleton.mp hlater
    obtain ⟨hpublished, hdropped, _⟩ := h.unspoiled t k n hrole
    cases note with
    | published k' m =>
      rintro ⟨rfl, rfl⟩
      exact hpublished hnote
    | dropped k' m =>
      rintro ⟨rfl, rfl⟩
      exact hdropped hnote
  | report t k n hrole =>
    refine List.pairwise_append.mpr ⟨h.order, List.pairwise_singleton .., ?_⟩
    intro note hnote later hlater
    obtain rfl := List.mem_singleton.mp hlater
    cases note <;> simp [Note.admits]
  | _ => exact h.order

/-- Every step keeps the invariant. -/
theorem Inv.step (h : Inv s) (hstep : Step s s') : Inv s' where
  exclusive := h.exclusive_step hstep
  owned := h.owned_step hstep
  fresh := h.fresh_step hstep
  dropped := h.dropped_step hstep
  published := h.published_step hstep
  noted := h.noted_step hstep
  unspoiled := h.unspoiled_step hstep
  order := h.order_step hstep

/-- Tickets are never taken back. -/
theorem issued_step (hstep : Step s s') : s.issued ≤ s'.issued := by
  cases hstep with
  | enlist k hnone => exact Nat.le_succ _
  | _ => exact Nat.le_refl _

/-- A hand-back leaves every entry under its ticket. -/
theorem unclaim_of_some {entry : κ → Option (Bool × ℕ)} {k k' : κ} {b : Bool} {n : ℕ}
    (h : entry k' = some (b,n)) : ∃ b', unclaim entry k k' = some (b',n) := by
  unfold unclaim
  by_cases hk : k' = k
  · subst hk
    exact ⟨false, by simp [h]⟩
  · exact ⟨b, by rwa [Function.update_of_ne hk]⟩

/-- An entry keeps its ticket while it is there. -/
theorem ticket_step (hstep : Step s s') {k : κ} {b : Bool} {n : ℕ} (h : s.entry k = some (b,n)) :
    s'.entry k = none ∨ ∃ b', s'.entry k = some (b',n) := by
  cases hstep with
  | giveBack t k' m hrole => exact Or.inr (unclaim_of_some h)
  | close t k' m hrole => exact Or.inr (unclaim_of_some h)
  | _ => grind [Function.update_apply]

/-- Every owner's entry is claimed under its ticket; none was withdrawn. -/
def Held (s : State τ κ) : Prop :=
  ∀ t k n, (s.role t).owned = some (k,n) → s.entry k = some (true,n)

/-- Nothing but a withdrawal takes an entry from its owner. -/
theorem Held.step (hheld : Held s) (h : Inv s) (hstep : Step s s')
    (hkept : ∀ t k n, (s.role t).owned = some (k,n) → (s'.role t).owned = some (k,n) →
      s'.entry k ≠ none) : Held s' := by
  intro t k n hown
  rcases (h.step hstep).owned t k n hown with hclaimed | hgone
  · exact hclaimed
  · by_cases hold : (s.role t).owned = some (k,n)
    · rcases ticket_step hstep (hheld t k n hold) with hnone | ⟨b, hentry⟩
      · exact absurd hnone (hkept t k n hold hown)
      · exact absurd hentry (hgone.2 b)
    · cases hstep with
      | claim t' k' n' hfree hentry hnone =>
        have heq : t = t' := by grind [Function.update_apply]
        subst heq
        obtain ⟨rfl, rfl⟩ : k' = k ∧ n' = n := by simpa [Role.owned] using hown
        simp
      | _ => grind [Function.update_apply, Role.owned]

end

end Dmw.ClaimProtocol
