import Mathlib.Data.List.Nodup
import Mathlib.Logic.Function.Basic

/-!
# Things and their places

Things are kept in lists, one for every place. They are nowhere twice as long as
each thing enters once and then only goes from place to place; and no thing is
lost on the way.
-/

namespace Dmw.Whereabouts

universe u v

variable {π : Type u} {ι : Type v} {content : π → List ι} {p q : π} {i j : ι}

/-- No thing is at two places, nor twice at one. -/
structure Separate (content : π → List ι) : Prop where
  /-- A thing is at a place once. -/
  nodup : ∀ p, (content p).Nodup
  /-- A thing is at one place. -/
  place : ∀ p q i, i ∈ content p → i ∈ content q → p = q

/-- The thing is somewhere. -/
def Kept (content : π → List ι) (i : ι) : Prop := ∃ p, i ∈ content p

/-- Every thing satisfies what is asked of things at its place. -/
def Everywhere (Q : π → ι → Prop) (content : π → List ι) : Prop := ∀ p, ∀ i ∈ content p, Q p i

/-- Where nothing is, nothing is twice. -/
theorem Separate.empty : Separate (fun _ : π => ([] : List ι)) :=
  ⟨fun _ => List.nodup_nil,fun _ _ _ h => absurd h List.not_mem_nil⟩

variable [DecidableEq π]

/-- A thing comes in at a place. -/
def enter (q : π) (i : ι) (content : π → List ι) : π → List ι :=
  Function.update content q (content q ++ [i])

/-- Some things of one place go to another, and the others stay. -/
def transfer (p q : π) (stay go : List ι) (content : π → List ι) : π → List ι :=
  Function.update (Function.update content p stay) q (content q ++ go)

/-- What is where after a thing came in. -/
theorem mem_enter {p : π} : j ∈ enter q i content p ↔ j ∈ content p ∨ p = q ∧ j = i := by
  unfold enter
  by_cases hp : p = q
  · rw [hp,Function.update_self]
    simp
  · rw [Function.update_of_ne hp]
    simp [hp]

/-- What is where after some things moved. -/
theorem mem_transfer {r : π} {stay go : List ι} (hpq : p ≠ q) :
    j ∈ transfer p q stay go content r ↔
      (if r = p then j ∈ stay else j ∈ content r ∨ r = q ∧ j ∈ go) := by
  unfold transfer
  by_cases hq : r = q
  · have hp : r ≠ p := fun hp => hpq (hp.symm.trans hq)
    rw [hq,Function.update_self,if_neg (hq ▸ hp),List.mem_append]
    simp
  · rw [Function.update_of_ne hq]
    by_cases hp : r = p
    · rw [hp,Function.update_self,if_pos rfl]
    · rw [Function.update_of_ne hp,if_neg hp]
      simp [hq]

/-- A new thing comes in. -/
theorem Separate.enter (h : Separate content) (hnew : ¬ Kept content i) :
    Separate (enter q i content) := by
  have hnone : ∀ p, i ∉ content p := fun p hp => hnew ⟨p,hp⟩
  constructor
  · intro p
    unfold Whereabouts.enter
    by_cases hp : p = q
    · rw [hp,Function.update_self]
      have hnodup := h.nodup q
      have hfresh := hnone q
      grind [List.nodup_append]
    · rw [Function.update_of_ne hp]
      exact h.nodup p
  · intro p p' j hj hj'
    rw [mem_enter] at hj hj'
    rcases hj with hj | ⟨hp, hji⟩
    · rcases hj' with hj' | ⟨hp', hji⟩
      · exact h.place p p' j hj hj'
      · exact absurd (hji ▸ hj) (hnone p)
    · rcases hj' with hj' | ⟨hp', _⟩
      · exact absurd (hji ▸ hj') (hnone p')
      · rw [hp,hp']

/-- Things go from place to place. -/
theorem Separate.transfer (h : Separate content) (hpq : p ≠ q) {stay go : List ι}
    (hsplit : content p = stay ++ go ∨ content p = go ++ stay ∨
      (∃ keep : ι → Bool, stay = (content p).filter keep ∧
        go = (content p).filter fun i => !keep i)) :
    Separate (transfer p q stay go content) := by
  have hnodup := h.nodup p
  have hparts : stay.Nodup ∧ go.Nodup ∧ (∀ i ∈ stay, i ∈ content p) ∧
      (∀ i ∈ go, i ∈ content p) ∧ ∀ i ∈ stay, i ∉ go := by
    rcases hsplit with hsplit | hsplit | ⟨keep, hstay, hgo⟩
    · rw [hsplit] at hnodup ⊢
      grind [List.nodup_append]
    · rw [hsplit] at hnodup ⊢
      grind [List.nodup_append]
    · rw [hstay,hgo]
      refine ⟨hnodup.filter _,hnodup.filter _,?_,?_,?_⟩ <;> grind
  obtain ⟨hstay, hgo, hstaysub, hgosub, hapart⟩ := hparts
  constructor
  · intro r
    unfold Whereabouts.transfer
    by_cases hq : r = q
    · rw [hq,Function.update_self]
      have hq' := h.nodup q
      have hfar : ∀ i ∈ content q, i ∉ go := fun i hi hi' => hpq (h.place p q i (hgosub i hi') hi)
      grind [List.nodup_append]
    · rw [Function.update_of_ne hq]
      by_cases hp : r = p
      · rw [hp,Function.update_self]
        exact hstay
      · rw [Function.update_of_ne hp]
        exact h.nodup r
  · intro r r' j hj hj'
    rw [mem_transfer hpq] at hj hj'
    have hplace := h.place
    grind

/-- Nothing is lost by a move. -/
theorem kept_transfer (hpq : p ≠ q) {stay go : List ι}
    (hsplit : ∀ i, i ∈ content p ↔ i ∈ stay ∨ i ∈ go) :
    Kept (transfer p q stay go content) i ↔ Kept content i := by
  unfold Kept
  constructor
  · intro ⟨r, hr⟩
    rw [mem_transfer hpq] at hr
    by_cases hp : r = p
    · rw [if_pos hp] at hr
      exact ⟨p,(hsplit i).mpr (.inl hr)⟩
    · rw [if_neg hp] at hr
      rcases hr with hr | ⟨_, hr⟩
      · exact ⟨r,hr⟩
      · exact ⟨p,(hsplit i).mpr (.inr hr)⟩
  · intro ⟨r, hr⟩
    by_cases hp : r = p
    · rw [hp] at hr
      rcases (hsplit i).mp hr with hr | hr
      · exact ⟨p,(mem_transfer hpq).mpr (by rw [if_pos rfl]; exact hr)⟩
      · exact ⟨q,(mem_transfer hpq).mpr (by rw [if_neg hpq.symm]; exact .inr ⟨rfl,hr⟩)⟩
    · exact ⟨r,(mem_transfer hpq).mpr (by rw [if_neg hp]; exact .inl hr)⟩

/-- Only the new thing comes in. -/
theorem kept_enter : Kept (enter q i content) j ↔ Kept content j ∨ j = i := by
  unfold Kept
  simp only [mem_enter]
  grind

/-- What is asked of things stays true as a thing comes in. -/
theorem Everywhere.enter {Q : π → ι → Prop} (h : Everywhere Q content) (hq : Q q i) :
    Everywhere Q (enter q i content) := by
  intro p j hj
  rcases mem_enter.mp hj with hj | ⟨hp, hji⟩
  · exact h p j hj
  · rw [hp,hji]
    exact hq

/-- What is asked of things stays true as they move. -/
theorem Everywhere.transfer {Q : π → ι → Prop} (h : Everywhere Q content) (hpq : p ≠ q)
    {stay go : List ι} (hstay : ∀ i ∈ stay, i ∈ content p) (hgo : ∀ i ∈ go, Q q i) :
    Everywhere Q (transfer p q stay go content) := by
  intro r j hj
  rw [mem_transfer hpq] at hj
  by_cases hp : r = p
  · rw [if_pos hp] at hj
    rw [hp]
    exact h p j (hstay j hj)
  · rw [if_neg hp] at hj
    rcases hj with hj | ⟨hr, hj⟩
    · exact h r j hj
    · rw [hr]
      exact hgo j hj

end Dmw.Whereabouts
