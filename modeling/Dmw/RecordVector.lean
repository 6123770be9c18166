import Mathlib.Data.List.Basic
import Mathlib.Data.List.Nodup

/-!
# Vectors of records

A vector whose records are told apart by a key and searched from the front.
New records go to the end, a changed one stays in its place. The keys are
distinct by construction, so the order never decides what a search finds.
-/

namespace Dmw.RecordVector

universe u v

/-- Records with distinct keys, in the order of their insertion. -/
structure Records {κ : Type u} {ρ : Type v} (key : ρ → κ) where
  /-- The records, oldest first. -/
  records : List ρ
  /-- No two records share a key. -/
  nodup : (records.map key).Nodup

namespace Records

variable {κ : Type u} {ρ : Type v} {key : ρ → κ} [DecidableEq κ]

/-- No records. -/
def empty : Records key := ⟨[],List.nodup_nil⟩

/-- The record of a key. -/
@[grind =] def find (k : κ) (rs : Records key) : Option ρ := rs.records.find? fun r => key r = k

/-- Store a record: in the place of the one with its key, else at the end. -/
@[grind =] def put (r : ρ) (rs : Records key) : Records key :=
  if (rs.find (key r)).isSome then
    { records := rs.records.map fun r' => if key r' = key r then r else r'
      nodup := by
        have hkeys : (rs.records.map fun r' => if key r' = key r then r else r').map key =
            rs.records.map key := by
          rw [List.map_map]
          refine List.map_congr_left fun r' _ => ?_
          by_cases hr : key r' = key r <;> simp [hr]
        rw [hkeys]
        exact rs.nodup }
  else if habsent : key r ∈ rs.records.map key then rs
  else
    { records := rs.records ++ [r]
      nodup := by
        rw [List.map_append, List.map_singleton]
        exact List.nodup_append.mpr ⟨rs.nodup, List.nodup_singleton _, fun a ha b hb heq =>
          habsent (List.mem_singleton.mp hb ▸ heq ▸ ha)⟩ }

/-- Drop the record of a key. -/
def erase (k : κ) (rs : Records key) : Records key where
  records := rs.records.filter fun r => key r ≠ k
  nodup := rs.nodup.sublist (List.filter_sublist.map key)

/-- Keep the records that pass a test. -/
def filter (p : ρ → Bool) (rs : Records key) : Records key where
  records := rs.records.filter p
  nodup := rs.nodup.sublist (List.filter_sublist.map key)

omit [DecidableEq κ] in
/-- Rewrite every record without touching its key. -/
@[grind =] def map {ρ' : Type*} {key' : ρ' → κ} (f : ρ → ρ') (hkey : ∀ r, key' (f r) = key r)
    (rs : Records key) : Records key' where
  records := rs.records.map f
  nodup := by
    have hkeys : key' ∘ f = key := funext hkey
    rw [List.map_map, hkeys]
    exact rs.nodup

variable {rs : Records key} {k : κ} {r : ρ}

omit [DecidableEq κ] in
/-- Records are equal if their vectors are. -/
theorem ext_records {rs rs' : Records key} (h : rs.records = rs'.records) : rs = rs' := by
  cases rs
  cases rs'
  cases h
  rfl

/-- A search finds the one record with the key. -/
theorem find_eq_some : rs.find k = some r ↔ r ∈ rs.records ∧ key r = k := by
  constructor
  · intro h
    exact ⟨List.mem_of_find?_eq_some h, by simpa using List.find?_some h⟩
  · rintro ⟨hmem, rfl⟩
    cases hfound : rs.find (key r) with
    | none => simpa using List.find?_eq_none.mp hfound r hmem
    | some r' =>
      have hkey : key r' = key r := by simpa using List.find?_some hfound
      rw [List.inj_on_of_nodup_map rs.nodup (List.mem_of_find?_eq_some hfound) hmem hkey]

/-- A search fails where no record has the key. -/
theorem find_eq_none : rs.find k = none ↔ ∀ r ∈ rs.records, key r ≠ k := by
  simp [find]

/-- Every record is found under its own key. -/
theorem find_key (hmem : r ∈ rs.records) : rs.find (key r) = some r :=
  Iff.mpr find_eq_some ⟨hmem, rfl⟩

/-- What is found has the key. -/
theorem key_of_find (h : rs.find k = some r) : key r = k := (Iff.mp find_eq_some h).2

omit [DecidableEq κ] in
/-- Records are told apart by their keys. -/
theorem eq_of_key {r' : ρ} (hmem : r ∈ rs.records) (hmem' : r' ∈ rs.records)
    (hkey : key r = key r') : r = r' :=
  List.inj_on_of_nodup_map rs.nodup hmem hmem' hkey

/-- A stored record replaces the one with its key. -/
theorem mem_put {r' : ρ} :
    r' ∈ (rs.put r).records ↔ r' = r ∨ r' ∈ rs.records ∧ key r' ≠ key r := by
  unfold put
  split
  · next hfound =>
    obtain ⟨old, hold⟩ := Option.isSome_iff_exists.mp hfound
    obtain ⟨hmem, hkey⟩ := Iff.mp find_eq_some hold
    simp only [List.mem_map]
    constructor
    · rintro ⟨x, hx, rfl⟩
      by_cases hr : key x = key r
      · exact Or.inl (if_pos hr)
      · rw [if_neg hr]
        exact Or.inr ⟨hx, hr⟩
    · rintro (rfl | ⟨hx, hr⟩)
      · exact ⟨old, hmem, if_pos hkey⟩
      · exact ⟨r', hx, if_neg hr⟩
  · next hfound =>
    have hnone : ∀ x ∈ rs.records, key x ≠ key r := Iff.mp find_eq_none (by simpa using hfound)
    have habsent : key r ∉ rs.records.map key := by
      intro hin
      obtain ⟨x, hx, heq⟩ := List.mem_map.mp hin
      exact hnone x hx heq
    rw [dif_neg habsent]
    simp only [List.mem_append, List.mem_singleton]
    constructor
    · rintro (hx | rfl)
      · exact Or.inr ⟨hx, hnone r' hx⟩
      · exact Or.inl rfl
    · rintro (rfl | ⟨hx, -⟩)
      · exact Or.inr rfl
      · exact Or.inl hx

/-- A search after a store. -/
theorem find_put : (rs.put r).find k = if k = key r then some r else rs.find k := by
  split
  · next hk =>
    subst hk
    exact Iff.mpr find_eq_some ⟨Iff.mpr mem_put (Or.inl rfl), rfl⟩
  · next hk =>
    ext r'
    rw [find_eq_some, find_eq_some, mem_put]
    constructor
    · rintro ⟨rfl | ⟨hmem, -⟩, hkey⟩
      · exact absurd hkey.symm hk
      · exact ⟨hmem, hkey⟩
    · rintro ⟨hmem, rfl⟩
      exact ⟨Or.inr ⟨hmem, hk⟩, rfl⟩

@[simp] theorem find_put_self : (rs.put r).find (key r) = some r := by simp [find_put]

/-- Dropping a record leaves the others. -/
theorem mem_erase : r ∈ (rs.erase k).records ↔ r ∈ rs.records ∧ key r ≠ k := by
  simp [erase]

/-- A search after dropping a record. -/
theorem find_erase {k' : κ} : (rs.erase k').find k = if k = k' then none else rs.find k := by
  split
  · next hk =>
    subst hk
    exact Iff.mpr find_eq_none fun r hr => (Iff.mp mem_erase hr).2
  · next hk =>
    ext r
    rw [find_eq_some, find_eq_some, mem_erase]
    constructor
    · rintro ⟨⟨hmem, -⟩, hkey⟩
      exact ⟨hmem, hkey⟩
    · rintro ⟨hmem, rfl⟩
      exact ⟨⟨hmem, hk⟩, rfl⟩

/-- A search after a rewrite finds the rewritten record. -/
theorem find_map {ρ' : Type*} {key' : ρ' → κ} {f : ρ → ρ'} (hkey : ∀ r, key' (f r) = key r) :
    (rs.map f hkey).find k = (rs.find k).map f := by
  have htest : ((fun r' => decide (key' r' = k)) ∘ f) = fun r => decide (key r = k) := by
    funext r
    simp [hkey]
  simp only [find, map, List.find?_map, htest]

/-- A store that the rewrite forgets leaves no trace after it. -/
theorem map_put_of_find {ρ' : Type*} {key' : ρ' → κ} {f : ρ → ρ'}
    (hkey : ∀ r, key' (f r) = key r) {old : ρ} (hfound : rs.find (key r) = some old)
    (hforget : f old = f r) : (rs.put r).map f hkey = rs.map f hkey := by
  apply ext_records
  have hput : (rs.put r).records = rs.records.map fun r' => if key r' = key r then r else r' := by
    unfold put
    rw [if_pos (by simp [hfound])]
  simp only [map, hput, List.map_map]
  refine List.map_congr_left fun r' hmem => ?_
  obtain ⟨hold, holdkey⟩ := Iff.mp find_eq_some hfound
  rw [Function.comp_apply]
  split
  · next hsame =>
    rw [← hforget, eq_of_key hmem hold (hsame.trans holdkey.symm)]
  · rfl

/-- The record that is found divides the others. -/
theorem split_of_find (h : rs.find k = some r) :
    ∃ before after, rs.records = before ++ r :: after ∧
      ∀ r' ∈ before ++ after, key r' ≠ k := by
  obtain ⟨hmem, hkey⟩ := Iff.mp find_eq_some h
  obtain ⟨before, after, hsplit⟩ := List.append_of_mem hmem
  refine ⟨before,after,hsplit,fun r' hmem' heq => ?_⟩
  have hnodup := rs.nodup
  rw [hsplit,List.map_append,List.map_cons] at hnodup
  have hrest := (List.nodup_cons.mp (List.perm_middle.nodup_iff.mp hnodup)).1
  rw [← List.map_append] at hrest
  exact hrest (List.mem_map.mpr ⟨r',hmem',heq.trans hkey.symm⟩)

/-- A new record counts once. -/
theorem countP_put_new (p : ρ → Bool) (h : rs.find (key r) = none) :
    (rs.put r).records.countP p = rs.records.countP p + if p r = true then 1 else 0 := by
  have habsent : key r ∉ rs.records.map key := by
    intro hin
    obtain ⟨x, hx, heq⟩ := List.mem_map.mp hin
    exact Iff.mp find_eq_none h x hx heq
  have hput : (rs.put r).records = rs.records ++ [r] := by
    unfold put
    rw [if_neg (by simp [h]),dif_neg habsent]
  rw [hput,List.countP_append,List.countP_singleton]

/-- A changed record counts in the place of the old one. -/
theorem countP_put_old (p : ρ → Bool) {old : ρ} (h : rs.find (key r) = some old) :
    (rs.put r).records.countP p + (if p old = true then 1 else 0) =
      rs.records.countP p + if p r = true then 1 else 0 := by
  obtain ⟨before, after, hsplit, hothers⟩ := split_of_find h
  have hkeep : ∀ part : List ρ, (∀ r' ∈ part, key r' ≠ key r) →
      (part.map fun r' => if key r' = key r then r else r') = part := by
    intro part hpart
    exact (List.map_congr_left fun r' hmem => if_neg (hpart r' hmem)).trans (List.map_id _)
  have hput : (rs.put r).records = before ++ r :: after := by
    unfold put
    rw [if_pos (by simp [h])]
    dsimp only
    rw [hsplit,List.map_append,List.map_cons,
      hkeep before fun r' hmem => hothers r' (List.mem_append_left _ hmem),
      hkeep after fun r' hmem => hothers r' (List.mem_append_right _ hmem),
      if_pos (key_of_find h)]
  rw [hput,hsplit,List.countP_append,List.countP_append,List.countP_cons,List.countP_cons]
  omega

/-- A record that is dropped does not count any more. -/
theorem countP_erase (p : ρ → Bool) (h : rs.find k = some r) :
    (rs.erase k).records.countP p + (if p r = true then 1 else 0) = rs.records.countP p := by
  obtain ⟨before, after, hsplit, hothers⟩ := split_of_find h
  have hkeep : ∀ part : List ρ, (∀ r' ∈ part, key r' ≠ k) →
      (part.filter fun r' => decide (key r' ≠ k)) = part := by
    intro part hpart
    exact List.filter_eq_self.mpr fun r' hmem => decide_eq_true (hpart r' hmem)
  have hgone : (r :: after).filter (fun r' => decide (key r' ≠ k)) =
      after.filter fun r' => decide (key r' ≠ k) :=
    List.filter_cons_of_neg (by simp [key_of_find h])
  have herase : (rs.erase k).records = before ++ after := by
    unfold erase
    dsimp only
    rw [hsplit,List.filter_append,hgone,
      hkeep before fun r' hmem => hothers r' (List.mem_append_left _ hmem),
      hkeep after fun r' hmem => hothers r' (List.mem_append_right _ hmem)]
  rw [herase,hsplit,List.countP_append,List.countP_append,List.countP_cons]
  omega

end Records

end Dmw.RecordVector
