import Dmw.KeyedTable
import Dmw.RecordVector
import Mathlib.Data.Finset.Basic

/-!
# Replies that come early or late

A reply may come before it is known which party asked under its key, and again
after that party had its answer. An early reply is staged with the parties it
may be for, and dropped with the last of them. A key that was answered is
remembered for a while, in a list of bounded length.
-/

namespace Dmw.ReplyStaging

open KeyedTable KeyedTable.Table RecordVector RecordVector.Records

variable {κ ρ : Type*} [DecidableEq κ]

/-- A reply and the parties it may be for. -/
structure Staged (ρ : Type*) where
  /-- The reply. -/
  response : ρ
  /-- Who may have asked for it. -/
  candidates : Finset ℕ

/-- Staged replies under their keys. -/
abbrev Staging (κ ρ : Type*) := Table κ (Staged ρ)

/-- One party is out of the question. -/
def Staged.without (party : ℕ) (staged : Staged ρ) : Staged ρ :=
  { staged with candidates := staged.candidates.erase party }

/-- The reply is still for somebody if it is not for this party. -/
def Staged.outlives (party : ℕ) (staged : Staged ρ) : Bool :=
  party ∉ staged.candidates ∨ (staged.candidates.erase party).Nonempty

/-- Take a party out of every entry; entries for nobody else are dropped. -/
def retire (party : ℕ) (early : Staging κ ρ) : Staging κ ρ :=
  mapValues (Staged.without party) (filter (fun _ staged => staged.outlives party) early)

/-- What is left under a key. -/
theorem lookup_retire (party : ℕ) (early : Staging κ ρ) (key : κ) :
    (retire party early).lookup key =
      ((early.lookup key).filter (Staged.outlives party)).map (Staged.without party) := by
  unfold retire
  rw [lookup_mapValues,lookup_filter]

/-- Every staged reply is for somebody, and only for parties in a given set. -/
def Covered (parties : Finset ℕ) (early : Staging κ ρ) : Prop :=
  ∀ key staged, early.lookup key = some staged →
    staged.candidates.Nonempty ∧ staged.candidates ⊆ parties

/-- No staged reply is for nobody. -/
theorem Covered.empty (parties : Finset ℕ) : Covered parties (∅ : Staging κ ρ) := by
  intro key staged hlookup
  rw [AList.lookup_empty] at hlookup
  cases hlookup

/-- More parties may be asking. -/
theorem Covered.mono {parties parties' : Finset ℕ} {early : Staging κ ρ} (h : Covered parties early)
    (hsub : parties ⊆ parties') : Covered parties' early := by
  intro key staged hlookup
  have hcovered := h key staged hlookup
  exact ⟨hcovered.1,hcovered.2.trans hsub⟩

/-- Dropping a reply leaves the others. -/
theorem Covered.erase {parties : Finset ℕ} {early : Staging κ ρ} (h : Covered parties early)
    (key : κ) : Covered parties (early.erase key) := by
  intro other staged hlookup
  by_cases heq : other = key
  · rw [heq,AList.lookup_erase] at hlookup
    cases hlookup
  · rw [AList.lookup_erase_ne heq] at hlookup
    exact h other staged hlookup

/-- A reply may be staged for parties of the set. -/
theorem Covered.insert {parties : Finset ℕ} {early : Staging κ ρ} (h : Covered parties early)
    (key : κ) {staged : Staged ρ} (hsome : staged.candidates.Nonempty)
    (hsub : staged.candidates ⊆ parties) : Covered parties (early.insert key staged) := by
  intro other staged' hlookup
  by_cases heq : other = key
  · rw [heq,AList.lookup_insert] at hlookup
    cases hlookup
    exact ⟨hsome,hsub⟩
  · rw [AList.lookup_insert_ne heq] at hlookup
    exact h other staged' hlookup

/-- After a party retired, no staged reply is for it, and none for nobody. -/
theorem Covered.retire {parties : Finset ℕ} {early : Staging κ ρ} (h : Covered parties early)
    (party : ℕ) : Covered (parties.erase party) (retire party early) := by
  intro key staged hlookup
  rw [lookup_retire,Option.map_eq_some_iff] at hlookup
  obtain ⟨old, hold, rfl⟩ := hlookup
  obtain ⟨hfound, houtlives⟩ := Option.filter_eq_some_iff.mp hold
  obtain ⟨hsome, hsub⟩ := h key old hfound
  constructor
  · have hcase : party ∉ old.candidates ∨ (old.candidates.erase party).Nonempty :=
      of_decide_eq_true houtlives
    cases hcase with
    | inl habsent =>
      change (old.candidates.erase party).Nonempty
      rw [Finset.erase_eq_of_notMem habsent]
      exact hsome
    | inr hrest => exact hrest
  · exact Finset.erase_subset_erase party hsub

/-- A reply stays as long as one of its parties does. -/
theorem retire_keeps {early : Staging κ ρ} {key : κ} {staged : Staged ρ}
    (hlookup : early.lookup key = some staged) {party other : ℕ} (hother : other ∈ staged.candidates)
    (hne : other ≠ party) :
    (retire party early).lookup key = some (staged.without party) ∧
      other ∈ (staged.without party).candidates := by
  have hleft : other ∈ staged.candidates.erase party := Finset.mem_erase.mpr ⟨hne,hother⟩
  have houtlives : staged.outlives party = true := decide_eq_true (Or.inr ⟨other,hleft⟩)
  constructor
  · rw [lookup_retire,hlookup]
    have hkept : (some staged).filter (Staged.outlives party) = some staged :=
      Option.filter_eq_some_iff.mpr ⟨rfl,houtlives⟩
    rw [hkept]
    rfl
  · exact hleft

/-- What is left was staged before, with the same reply. -/
theorem retire_origin {early : Staging κ ρ} {key : κ} {staged : Staged ρ} {party : ℕ}
    (hlookup : (retire party early).lookup key = some staged) :
    ∃ old, early.lookup key = some old ∧ old.response = staged.response := by
  rw [lookup_retire,Option.map_eq_some_iff] at hlookup
  obtain ⟨old, hold, rfl⟩ := hlookup
  exact ⟨old,(Option.filter_eq_some_iff.mp hold).1,rfl⟩

/-- A key that was answered, and until when this is remembered. -/
structure Tombstone (κ : Type*) where
  /-- The key. -/
  key : κ
  /-- When it may be forgotten. -/
  expiry : ℕ

/-- Answered keys, oldest first. -/
abbrev Tombstones (κ : Type*) := Records (Tombstone.key (κ := κ))

/-- Forget the oldest keys while they expired. -/
def purge (now : ℕ) (tombstones : Tombstones κ) : Tombstones κ where
  records := tombstones.records.dropWhile fun tombstone => tombstone.expiry ≤ now
  nodup := tombstones.nodup.sublist ((List.dropWhile_sublist _).map _)

/-- Forget the oldest key. -/
def popOldest (tombstones : Tombstones κ) : Tombstones κ where
  records := tombstones.records.tail
  nodup := tombstones.nodup.sublist ((List.tail_sublist _).map _)

/-- Remember a key, and make room for it if need be. -/
def tombstone (capacity lifetime now : ℕ) (key : κ) (tombstones : Tombstones κ) : Tombstones κ :=
  let current := purge now tombstones
  if (current.find key).isSome then current
  else
    (if current.records.length = capacity then popOldest current else current).put
      ⟨key,now + lifetime⟩

/-- The key is remembered and did not expire. -/
def remembered (now : ℕ) (key : κ) (tombstones : Tombstones κ) : Bool :=
  (tombstones.find key).any fun tombstone => now < tombstone.expiry

/-- No other key is remembered anew. -/
theorem tombstone_other {capacity lifetime now : ℕ} {key other : κ} {tombstones : Tombstones κ}
    (h : ((tombstone capacity lifetime now key tombstones).find other).isSome) :
    other = key ∨ (tombstones.find other).isSome := by
  have hsub : ∀ kept : Tombstones κ, kept.records.Sublist tombstones.records →
      (kept.find other).isSome → (tombstones.find other).isSome := by
    intro kept hkept hsome
    obtain ⟨record, hrecord⟩ := Option.isSome_iff_exists.mp hsome
    obtain ⟨hmem, rfl⟩ := find_eq_some.mp hrecord
    rw [find_key (hkept.subset hmem)]
    rfl
  have hpurge : (purge now tombstones).records.Sublist tombstones.records :=
    List.dropWhile_sublist _
  have hroom : (if (purge now tombstones).records.length = capacity then
      popOldest (purge now tombstones) else purge now tombstones).records.Sublist
        tombstones.records := by
    split
    · exact (List.tail_sublist _).trans hpurge
    · exact hpurge
  unfold tombstone at h
  dsimp only at h
  split at h
  · exact Or.inr (hsub _ hpurge h)
  · by_cases heq : other = key
    · exact Or.inl heq
    · rw [find_put,if_neg heq] at h
      exact Or.inr (hsub _ hroom h)

end Dmw.ReplyStaging
