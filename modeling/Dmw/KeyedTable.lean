import Mathlib.Data.List.AList

/-!
# Keyed tables

Association tables over Mathlib's duplicate-free association lists. The keys
stay distinct by construction. Besides lookup, insertion and erasure this adds
what an unordered map of records needs: its size, in-place update, filtering
and an update of every record.
-/

namespace Dmw.KeyedTable

universe u v

/-- Finite map with distinct keys; the entry order carries no meaning. -/
abbrev Table (κ : Type u) (ν : Type v) := AList (fun _ : κ => ν)

namespace Table

variable {κ : Type u} {ν : Type v}

/-- Number of stored entries. -/
def size (t : Table κ ν) : ℕ := t.entries.length

/-- The size counts the distinct keys. -/
theorem size_eq_keys (t : Table κ ν) : size t = t.keys.length := by
  simp [size, AList.keys, List.keys]

/-- Keep exactly the entries that satisfy a test. -/
def filter (p : κ → ν → Bool) (t : Table κ ν) : Table κ ν where
  entries := t.entries.filter fun e => p e.1 e.2
  nodupKeys := t.nodupKeys.sublist List.filter_sublist

/-- Update every record in place. -/
def mapValues (f : ν → ν) (t : Table κ ν) : Table κ ν where
  entries := t.entries.map fun e => ⟨e.1, f e.2⟩
  nodupKeys := by
    have hkeys : (t.entries.map fun e => (⟨e.1, f e.2⟩ : Sigma fun _ : κ => ν)).keys =
        t.entries.keys := by
      simp [List.keys]
    rw [List.NodupKeys, hkeys]
    exact t.nodupKeys

/-- The stored records, in the order of the entries. -/
def values (t : Table κ ν) : List ν := t.entries.map (·.2)

/-- A present key makes the table non-empty. -/
theorem size_pos_of_mem {k : κ} {t : Table κ ν} (hk : k ∈ t) : 0 < size t := by
  rw [size_eq_keys]
  exact List.length_pos_of_mem (AList.mem_keys.mp hk)

variable [DecidableEq κ]

/-- Update the record stored under a key, if any. -/
def modify (k : κ) (f : ν → ν) (t : Table κ ν) : Table κ ν :=
  match t.lookup k with
  | none => t
  | some v => t.insert k (f v)

/-- Erasing a present key removes one entry, erasing an absent one none. -/
theorem size_erase (k : κ) (t : Table κ ν) :
    size (t.erase k) = if k ∈ t then size t - 1 else size t := by
  rw [size_eq_keys, size_eq_keys, AList.keys_erase]
  split
  · next hk => exact List.length_erase_of_mem (AList.mem_keys.mp hk)
  · next hk => rw [List.erase_of_not_mem (fun h => hk (AList.mem_keys.mpr h))]

/-- Insertion of a new key adds one entry. -/
theorem size_insert_of_notMem {k : κ} {v : ν} {t : Table κ ν} (hk : k ∉ t) :
    size (t.insert k v) = size t + 1 := by
  rw [size_eq_keys, size_eq_keys, AList.keys_insert,
    List.erase_of_not_mem (fun h => hk (AList.mem_keys.mpr h)), List.length_cons]

/-- In-place update keeps the number of entries. -/
@[simp] theorem size_modify (k : κ) (f : ν → ν) (t : Table κ ν) :
    size (modify k f t) = size t := by
  unfold modify
  split
  · rfl
  · next v hv =>
    have hk : k ∈ t := AList.lookup_isSome.mp (by simp [hv])
    have hpos := size_pos_of_mem hk
    rw [size_eq_keys, AList.keys_insert, List.length_cons,
      List.length_erase_of_mem (AList.mem_keys.mp hk), ← size_eq_keys]
    omega

@[simp] theorem lookup_modify_self (k : κ) (f : ν → ν) (t : Table κ ν) :
    (modify k f t).lookup k = (t.lookup k).map f := by
  unfold modify
  cases hv : t.lookup k <;> simp [hv]

@[simp] theorem lookup_modify_ne {k k' : κ} (hne : k' ≠ k) (f : ν → ν) (t : Table κ ν) :
    (modify k f t).lookup k' = t.lookup k' := by
  unfold modify
  cases hv : t.lookup k <;> simp [AList.lookup_insert_ne hne]

/-- Lookup after filtering tests the stored record. -/
theorem lookup_filter (p : κ → ν → Bool) (t : Table κ ν) (k : κ) :
    (filter p t).lookup k = (t.lookup k).filter (p k) := by
  ext v
  have hf := AList.mem_lookup_iff (a := k) (b := v) (s := filter p t)
  have ht := AList.mem_lookup_iff (a := k) (b := v) (s := t)
  simp only [Option.mem_def] at hf ht
  rw [hf, Option.filter_eq_some_iff, ht]
  simp [filter]

@[simp] theorem lookup_mapValues (f : ν → ν) (t : Table κ ν) (k : κ) :
    (mapValues f t).lookup k = (t.lookup k).map f := by
  ext v
  have hf := AList.mem_lookup_iff (a := k) (b := v) (s := mapValues f t)
  simp only [Option.mem_def] at hf
  rw [hf, Option.map_eq_some_iff]
  constructor
  · intro h
    obtain ⟨e, he, heq⟩ := List.mem_map.mp h
    cases heq
    exact ⟨e.2, AList.mem_lookup_iff.mpr he, rfl⟩
  · rintro ⟨w, hw, rfl⟩
    exact List.mem_map.mpr ⟨⟨k, w⟩, AList.mem_lookup_iff.mp hw, rfl⟩

/-- Every entry is found under its own key. -/
theorem lookup_of_mem_entries {t : Table κ ν} {e : Sigma fun _ : κ => ν} (he : e ∈ t.entries) :
    t.lookup e.1 = some e.2 := AList.mem_lookup_iff.mpr he

/-- Lookup finds only entries. -/
theorem mem_entries_of_lookup {t : Table κ ν} {k : κ} {v : ν} (h : t.lookup k = some v) :
    (⟨k, v⟩ : Sigma fun _ : κ => ν) ∈ t.entries := AList.mem_lookup_iff.mp h

/-- Exactly the records that are found under some key are stored. -/
theorem mem_values {t : Table κ ν} {v : ν} : v ∈ values t ↔ ∃ k, t.lookup k = some v := by
  constructor
  · intro hv
    obtain ⟨e, he, rfl⟩ := List.mem_map.mp hv
    exact ⟨e.1, lookup_of_mem_entries he⟩
  · rintro ⟨k, hk⟩
    exact List.mem_map.mpr ⟨⟨k, v⟩, mem_entries_of_lookup hk, rfl⟩

/-- A record that is found under one key only is stored once. -/
theorem nodup_values {t : Table κ ν}
    (hkey : ∀ k k' v, t.lookup k = some v → t.lookup k' = some v → k = k') : (values t).Nodup := by
  refine List.Nodup.map_on ?_ (List.NodupKeys.nodup t.nodupKeys)
  intro e he e' he' hvalue
  have hlookup := lookup_of_mem_entries he
  have hlookup' := lookup_of_mem_entries he'
  rw [← hvalue] at hlookup'
  exact Sigma.ext (hkey _ _ _ hlookup hlookup') (heq_of_eq hvalue)

end Table

end Dmw.KeyedTable
