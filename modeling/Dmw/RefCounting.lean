import Dmw.Counting

/-!
# Reference-counted registries

Entries of a registry are made, shared and retired by parties that work outside
of its lock in between: one party makes an entry, any number hold it once it is
made, and the last holder retires it. An entry whose making or retiring ended
without a certain outcome is kept as an orphan. The counter of every entry shows
how many parties hold it.
-/

namespace Dmw.RefCounting

open Counting

universe u v

/-- Life of an entry. -/
inductive EntryPhase
  | creating
  | active
  | retiring
  | orphaned
  deriving DecidableEq, Repr

/-- Phase and counter of an entry. -/
structure Entry where
  /-- Where it is in its life. -/
  phase : EntryPhase
  /-- Number of holders. -/
  count : ℕ
  deriving DecidableEq

/-- What a party is to the registry. -/
inductive Role (κ : Type u)
  | none
  /-- It makes the entry. -/
  | creator (key : κ)
  /-- It holds the entry. -/
  | holder (key : κ)
  /-- It retires the entry. -/
  | remover (key : κ)
  deriving DecidableEq

/-- What a party does with the entry of a key: the entry and its role before
and after. -/
inductive Step {κ : Type u} (key : κ) : Option Entry → Option Entry → Role κ → Role κ → Prop
  /-- There is no entry, and it begins to make one. -/
  | reserve : Step key none (some ⟨.creating,0⟩) .none (.creator key)
  /-- It joins the holders. -/
  | share {n : ℕ} : Step key (some ⟨.active,n⟩) (some ⟨.active,n+1⟩) .none (.holder key)
  /-- It has made the entry and holds it. -/
  | activate : Step key (some ⟨.creating,0⟩) (some ⟨.active,1⟩) (.creator key) (.holder key)
  /-- It has made nothing. -/
  | abandon : Step key (some ⟨.creating,0⟩) none (.creator key) .none
  /-- Nobody knows what it has made. -/
  | orphanCreation :
    Step key (some ⟨.creating,0⟩) (some ⟨.orphaned,0⟩) (.creator key) .none
  /-- It leaves other holders behind. -/
  | leave {n : ℕ} : Step key (some ⟨.active,n+2⟩) (some ⟨.active,n+1⟩) (.holder key) .none
  /-- It was the last holder. -/
  | retire : Step key (some ⟨.active,1⟩) (some ⟨.retiring,0⟩) (.holder key) (.remover key)
  /-- It has retired the entry. -/
  | remove : Step key (some ⟨.retiring,0⟩) none (.remover key) .none
  /-- Nobody knows whether it has. -/
  | orphanRemoval :
    Step key (some ⟨.retiring,0⟩) (some ⟨.orphaned,0⟩) (.remover key) .none

/-- Number of holders that an entry shows. -/
def holders : Option Entry → ℕ
  | none => 0
  | some entry => entry.count

/-- Number of parties at work on an entry in some phase. -/
def workers (phase : EntryPhase) : Option Entry → ℕ
  | none => 0
  | some entry => if entry.phase = phase then 1 else 0

/-- Entries are held exactly while they are active. -/
def Proper : Option Entry → Prop
  | none => True
  | some entry => entry.phase = .active ↔ 0 < entry.count

/-- Entries and parties agree. -/
structure Sound {ι : Type u} {κ : Type v} (entries : κ → Option Entry) (role : ι → Role κ) :
    Prop where
  /-- Every entry being made has one maker, the others have none. -/
  creators : ∀ k, Counts (fun i => role i = .creator k) (workers .creating (entries k))
  /-- Counters count. -/
  holders : ∀ k, Counts (fun i => role i = .holder k) (holders (entries k))
  /-- Every entry being retired has one party that does it, the others have none. -/
  removers : ∀ k, Counts (fun i => role i = .remover k) (workers .retiring (entries k))
  /-- What is held is active. -/
  proper : ∀ k, Proper (entries k)

section

variable {ι : Type u} {κ : Type v} {entries : κ → Option Entry} {role : ι → Role κ} {i : ι} {k : κ}

/-- An empty registry that no party knows. -/
theorem Sound.empty : Sound (fun _ : κ => none) (fun _ : ι => .none) where
  creators := fun _ => .none fun _ hrole => nomatch hrole
  holders := fun _ => .none fun _ hrole => nomatch hrole
  removers := fun _ => .none fun _ hrole => nomatch hrole
  proper := fun _ => trivial

/-- A held entry is active. -/
theorem Sound.held (h : Sound entries role) (hrole : role i = .holder k) :
    ∃ n, entries k = some ⟨.active,n+1⟩ := by
  have hpos := (h.holders k).pos hrole
  have hproper := h.proper k
  cases hentry : entries k with
  | none =>
    rw [hentry] at hpos
    exact absurd hpos (Nat.lt_irrefl 0)
  | some entry =>
    rw [hentry] at hpos hproper
    obtain ⟨phase, count⟩ := entry
    have hphase : phase = .active := hproper.mpr hpos
    have hcount : 0 < count := hpos
    obtain ⟨n, hn⟩ := Nat.exists_eq_succ_of_ne_zero (Nat.pos_iff_ne_zero.mp hcount)
    exact ⟨n, by rw [hphase, hn]⟩

/-- An entry at work shows no holders. -/
theorem Sound.at_work (h : Sound entries role) {phase : EntryPhase} (hphase : phase ≠ .active)
    (hworker : 0 < workers phase (entries k)) : entries k = some ⟨phase,0⟩ := by
  have hproper := h.proper k
  cases hentry : entries k with
  | none =>
    rw [hentry] at hworker
    exact absurd hworker (Nat.lt_irrefl 0)
  | some entry =>
    rw [hentry] at hworker hproper
    obtain ⟨phase', count⟩ := entry
    have hsame : phase' = phase := by
      by_contra hne
      simp [workers, hne] at hworker
    subst hsame
    have hzero : count = 0 := by
      by_contra hne
      exact hphase (hproper.mpr (Nat.pos_iff_ne_zero.mpr hne))
    rw [hzero]

/-- An entry that somebody makes. -/
theorem Sound.made (h : Sound entries role) (hrole : role i = .creator k) :
    entries k = some ⟨.creating,0⟩ :=
  h.at_work (by simp) ((h.creators k).pos hrole)

/-- An entry that somebody retires. -/
theorem Sound.retired (h : Sound entries role) (hrole : role i = .remover k) :
    entries k = some ⟨.retiring,0⟩ :=
  h.at_work (by simp) ((h.removers k).pos hrole)

/-- One party makes an entry. -/
theorem Sound.creator_unique (h : Sound entries role) {j : ι} (hi : role i = .creator k)
    (hj : role j = .creator k) : i = j := by
  have hone := h.creators k
  rw [h.made hi] at hone
  exact hone.unique hi hj

/-- One party retires an entry. -/
theorem Sound.remover_unique (h : Sound entries role) {j : ι} (hi : role i = .remover k)
    (hj : role j = .remover k) : i = j := by
  have hone := h.removers k
  rw [h.retired hi] at hone
  exact hone.unique hi hj

/-- Nobody holds an entry that shows no holders. -/
theorem Sound.unheld (h : Sound entries role) (hzero : RefCounting.holders (entries k) = 0) :
    role i ≠ .holder k := by
  have hcount := h.holders k
  rw [hzero] at hcount
  exact hcount.not_of_zero i

/-- An active entry counts its holders. -/
theorem Sound.counts (h : Sound entries role) {entry : Entry} (hentry : entries k = some entry) :
    Counts (fun i => role i = .holder k) entry.count := by
  have hcount := h.holders k
  rw [hentry] at hcount
  exact hcount

/-- Every step of a party keeps the agreement. -/
theorem Sound.step [DecidableEq ι] [DecidableEq κ] (h : Sound entries role) {entry : Option Entry}
    {after : Role κ} (hstep : Step k (entries k) entry (role i) after) :
    Sound (Function.update entries k entry) (Function.update role i after) := by
  have hfamily : ∀ (make : κ → Role κ) (shown : Option Entry → ℕ),
      (∀ k, Counts (fun j => role j = make k) (shown (entries k))) →
      (∀ k', k' ≠ k → role i ≠ make k' ∧ after ≠ make k') →
      shown entry + (if role i = make k then 1 else 0) =
        shown (entries k) + (if after = make k then 1 else 0) →
      ∀ k', Counts (fun j => Function.update role i after j = make k')
        (shown (Function.update entries k entry k')) := by
    intro make shown hcounts hothers hcount k'
    by_cases hk : k' = k
    · subst hk
      rw [Function.update_self]
      exact Counts.shift (R := fun r => r = make k') (hcounts k') hcount
    · rw [Function.update_of_ne hk]
      obtain ⟨hbefore, hafter⟩ := hothers k' hk
      exact Counts.move (R := fun r => r = make k') (hcounts k') (iff_of_false hafter hbefore)
  have hothers : ∀ k', k' ≠ k →
      (role i ≠ .creator k' ∧ after ≠ .creator k') ∧ (role i ≠ .holder k' ∧ after ≠ .holder k') ∧
        role i ≠ .remover k' ∧ after ≠ .remover k' := by
    intro k' hk
    have hne : k ≠ k' := fun heq => hk heq.symm
    generalize role i = before at hstep ⊢
    generalize entries k = old at hstep
    cases hstep <;> simp [hne]
  refine ⟨hfamily .creator (workers .creating) h.creators (fun k' hk => (hothers k' hk).1) ?_,
    hfamily .holder RefCounting.holders h.holders (fun k' hk => (hothers k' hk).2.1) ?_,
    hfamily .remover (workers .retiring) h.removers (fun k' hk => (hothers k' hk).2.2) ?_,
    fun k' => ?_⟩
  · generalize role i = before at hstep ⊢
    generalize entries k = old at hstep ⊢
    cases hstep <;> simp [workers]
  · generalize role i = before at hstep ⊢
    generalize entries k = old at hstep ⊢
    cases hstep <;> simp [RefCounting.holders]
  · generalize role i = before at hstep ⊢
    generalize entries k = old at hstep ⊢
    cases hstep <;> simp [workers]
  · by_cases hk : k' = k
    · subst hk
      rw [Function.update_self]
      have hproper := h.proper k'
      generalize role i = before at hstep
      generalize entries k' = old at hstep hproper
      cases hstep <;> simp_all [Proper]
    · rw [Function.update_of_ne hk]
      exact h.proper k'

/-- A party moves within its role. -/
theorem Sound.stay [DecidableEq ι] (h : Sound entries role) :
    Sound entries (Function.update role i (role i)) := by
  rw [Function.update_eq_self]
  exact h

end

end Dmw.RefCounting
