import Dmw.OutboundProgress
import Dmw.ServiceClient

/-!
# What the tables of a Client say

The pending map names the calls whose send is reconciled, the staged responses
wait for calls whose send is not, and what a Future was completed with was
received under the RequestId of its own call. Each of these relations is kept
by what a step changes of it.
-/

namespace Dmw.ServiceClient

open GuardedRuns KeyedTable KeyedTable.Table ReplyStaging RecordVector.Records OutboundRequests

variable {κ ρ : Type} [DecidableEq κ]

/-- `_pending` maps exactly the reconciled calls that are outstanding. -/
structure Calls (operations : Table ℕ (Operation κ)) (pending : Table κ ℕ)
    (sentBy : κ → Option ℕ) : Prop where
  /-- Both directions. -/
  pending : ∀ requestId operation, pending.lookup requestId = some operation ↔
    ∃ record, operations.lookup operation = some record ∧ record.sendReconciled = true ∧
      record.requestId = some requestId
  /-- An operation has its RequestId once its send is reconciled. -/
  identified : ∀ operation record, operations.lookup operation = some record →
    record.sendReconciled = record.requestId.isSome
  /-- This is the RequestId that its send returned. -/
  owned : ∀ operation record requestId, operations.lookup operation = some record →
    record.requestId = some requestId → sentBy requestId = some operation

namespace Calls

variable {operations operations' : Table ℕ (Operation κ)} {pending : Table κ ℕ}
  {sentBy sentBy' : κ → Option ℕ} {operation : ℕ} {requestId : κ}

/-- Nothing is outstanding. -/
theorem of_none (hnone : ∀ operation, operations.lookup operation = none)
    (sentBy : κ → Option ℕ) : Calls operations (∅ : Table κ ℕ) sentBy where
  pending := fun requestId operation => by
    rw [AList.lookup_empty]
    constructor
    · intro h
      cases h
    · intro h
      obtain ⟨record, hlookup, _⟩ := h
      cases (hnone operation).symm.trans hlookup
  identified := fun operation _ hlookup => by cases (hnone operation).symm.trans hlookup
  owned := fun operation _ _ hlookup => by cases (hnone operation).symm.trans hlookup

/-- More RequestIds were sent. -/
theorem mono (h : Calls operations pending sentBy)
    (hsent : ∀ requestId operation, sentBy requestId = some operation →
      sentBy' requestId = some operation) : Calls operations pending sentBy' where
  pending := h.pending
  identified := h.identified
  owned := fun operation record requestId hlookup hid =>
    hsent requestId operation (h.owned operation record requestId hlookup hid)

/-- An operation that is not reconciled has no RequestId yet. -/
theorem unidentified (h : Calls operations pending sentBy) {record : Operation κ}
    (hlookup : operations.lookup operation = some record) (hnot : record.sendReconciled = false) :
    record.requestId = none := by
  have hsame := h.identified operation record hlookup
  rw [hnot] at hsame
  cases hid : record.requestId with
  | none => rfl
  | some requestId =>
    rw [hid] at hsame
    cases hsame

/-- A call is pending under the RequestId of its send. -/
theorem sender (h : Calls operations pending sentBy)
    (hpending : pending.lookup requestId = some operation) : sentBy requestId = some operation := by
  obtain ⟨record, hlookup, _, hid⟩ := (h.pending requestId operation).mp hpending
  exact h.owned operation record requestId hlookup hid

/-- An operation that is not reconciled may come or go. -/
theorem unreconciled (h : Calls operations pending sentBy)
    (hothers : ∀ other, other ≠ operation → operations'.lookup other = operations.lookup other)
    (hwas : ∀ record, operations.lookup operation = some record → record.sendReconciled = false)
    (his : ∀ record, operations'.lookup operation = some record →
      record.sendReconciled = false ∧ record.requestId = none) : Calls operations' pending sentBy where
  pending := by
    intro id other
    rw [h.pending]
    by_cases heq : other = operation
    · rw [heq]
      constructor
      · intro hsome
        obtain ⟨record, hlookup, hreconciled, _⟩ := hsome
        rw [hwas record hlookup] at hreconciled
        cases hreconciled
      · intro hsome
        obtain ⟨record, hlookup, hreconciled, _⟩ := hsome
        rw [(his record hlookup).1] at hreconciled
        cases hreconciled
    · rw [hothers other heq]
  identified := by
    intro other record hlookup
    by_cases heq : other = operation
    · rw [heq] at hlookup
      rw [(his record hlookup).1,(his record hlookup).2]
      rfl
    · rw [hothers other heq] at hlookup
      exact h.identified other record hlookup
  owned := by
    intro other record id hlookup hid
    by_cases heq : other = operation
    · rw [heq] at hlookup
      rw [(his record hlookup).2] at hid
      cases hid
    · rw [hothers other heq] at hlookup
      exact h.owned other record id hlookup hid

/-- A reconciled operation goes with its entry. -/
theorem erase (h : Calls operations pending sentBy) (hsender : sentBy requestId = some operation)
    (hown : ∀ record id, operations.lookup operation = some record → record.requestId = some id →
      id = requestId) :
    Calls (operations.erase operation) (pending.erase requestId) sentBy where
  pending := by
    intro id other
    by_cases hid : id = requestId
    · rw [hid,AList.lookup_erase]
      constructor
      · intro hnone
        cases hnone
      · intro hsome
        obtain ⟨record, hlookup, _, hid'⟩ := hsome
        have hne : other ≠ operation := by
          intro heq
          rw [heq,AList.lookup_erase] at hlookup
          cases hlookup
        rw [AList.lookup_erase_ne hne] at hlookup
        have hother := h.owned other record requestId hlookup hid'
        rw [hsender] at hother
        cases hother
        exact absurd rfl hne
    · rw [AList.lookup_erase_ne hid,h.pending]
      by_cases heq : other = operation
      · rw [heq,AList.lookup_erase]
        constructor
        · intro hsome
          obtain ⟨record, hlookup, _, hid'⟩ := hsome
          exact absurd (hown record id hlookup hid') hid
        · intro hsome
          obtain ⟨record, hlookup, _⟩ := hsome
          cases hlookup
      · rw [AList.lookup_erase_ne heq]
  identified := by
    intro other record hlookup
    by_cases heq : other = operation
    · rw [heq,AList.lookup_erase] at hlookup
      cases hlookup
    · rw [AList.lookup_erase_ne heq] at hlookup
      exact h.identified other record hlookup
  owned := by
    intro other record id hlookup hid
    by_cases heq : other = operation
    · rw [heq,AList.lookup_erase] at hlookup
      cases hlookup
    · rw [AList.lookup_erase_ne heq] at hlookup
      exact h.owned other record id hlookup hid

/-- A send is reconciled, and its call is outstanding. -/
theorem register (h : Calls operations pending sentBy) (hsender : sentBy requestId = some operation)
    (hothers : ∀ other, other ≠ operation → operations'.lookup other = operations.lookup other)
    (hwas : ∀ record, operations.lookup operation = some record → record.sendReconciled = false)
    (his : operations'.lookup operation = some ⟨some requestId,true⟩) :
    Calls operations' (pending.insert requestId operation) sentBy where
  pending := by
    intro id other
    by_cases hid : id = requestId
    · rw [hid,AList.lookup_insert]
      constructor
      · intro hsome
        cases hsome
        exact ⟨_,his,rfl,rfl⟩
      · intro hsome
        obtain ⟨record, hlookup, _, hid'⟩ := hsome
        by_cases heq : other = operation
        · rw [heq]
        · rw [hothers other heq] at hlookup
          have hother := h.owned other record requestId hlookup hid'
          rw [hsender] at hother
          cases hother
          exact absurd rfl heq
    · rw [AList.lookup_insert_ne hid,h.pending]
      by_cases heq : other = operation
      · rw [heq,his]
        constructor
        · intro hsome
          obtain ⟨record, hlookup, hreconciled, _⟩ := hsome
          rw [hwas record hlookup] at hreconciled
          cases hreconciled
        · intro hsome
          obtain ⟨record, hlookup, _, hid'⟩ := hsome
          cases hlookup
          cases hid'
          exact absurd rfl hid
      · rw [hothers other heq]
  identified := by
    intro other record hlookup
    by_cases heq : other = operation
    · rw [heq,his] at hlookup
      cases hlookup
      rfl
    · rw [hothers other heq] at hlookup
      exact h.identified other record hlookup
  owned := by
    intro other record id hlookup hid
    by_cases heq : other = operation
    · rw [heq,his] at hlookup
      cases hlookup
      cases hid
      rw [heq]
      exact hsender
    · rw [hothers other heq] at hlookup
      exact h.owned other record id hlookup hid

end Calls

/-- Staged responses wait for calls whose send is not reconciled. -/
structure Waiting (operations : Table ℕ (Operation κ)) (futures : ℕ → FutureState ρ)
    (unreconciled : Finset ℕ) (early : Staging κ ρ) : Prop where
  /-- Candidates are calls whose send is not reconciled. -/
  candidates : ∀ operation ∈ unreconciled, ∃ record,
    operations.lookup operation = some record ∧ record.sendReconciled = false
  /-- A call that waits for its completion is a candidate. -/
  waits : ∀ operation record, operations.lookup operation = some record →
    record.sendReconciled = false → (futures operation).done = false → operation ∈ unreconciled
  /-- Each staged response has candidates, and only such ones. -/
  covered : Covered unreconciled early

namespace Waiting

variable {operations operations' : Table ℕ (Operation κ)} {futures futures' : ℕ → FutureState ρ}
  {unreconciled : Finset ℕ} {early early' : Staging κ ρ} {operation : ℕ}

/-- Nobody waits. -/
theorem of_none (hnone : ∀ operation, operations.lookup operation = none)
    (futures : ℕ → FutureState ρ) : Waiting operations futures ∅ (∅ : Staging κ ρ) where
  candidates := fun _ hmem => absurd hmem (Finset.notMem_empty _)
  waits := fun operation _ hlookup => by cases (hnone operation).symm.trans hlookup
  covered := .empty _

/-- Futures only end. -/
theorem mono (h : Waiting operations futures unreconciled early)
    (hfutures : ∀ operation, (futures' operation).done = false → (futures operation).done = false) :
    Waiting operations futures' unreconciled early where
  candidates := h.candidates
  waits := fun operation record hlookup hnot hpending =>
    h.waits operation record hlookup hnot (hfutures operation hpending)
  covered := h.covered

/-- Staged responses may be dropped. -/
theorem of_covered (h : Waiting operations futures unreconciled early)
    (hcovered : Covered unreconciled early') : Waiting operations futures unreconciled early' where
  candidates := h.candidates
  waits := h.waits
  covered := hcovered

/-- A call is made. -/
theorem add (h : Waiting operations futures unreconciled early)
    (hothers : ∀ other, other ≠ operation → operations'.lookup other = operations.lookup other)
    (his : ∃ record, operations'.lookup operation = some record ∧ record.sendReconciled = false) :
    Waiting operations' futures (insert operation unreconciled) early where
  candidates := by
    intro other hmem
    by_cases heq : other = operation
    · rw [heq]
      exact his
    · rw [hothers other heq]
      exact h.candidates other ((Finset.mem_insert.mp hmem).resolve_left heq)
  waits := by
    intro other record hlookup hnot hpending
    by_cases heq : other = operation
    · exact Finset.mem_insert.mpr (Or.inl heq)
    · rw [hothers other heq] at hlookup
      exact Finset.mem_insert_of_mem (h.waits other record hlookup hnot hpending)
  covered := h.covered.mono (Finset.subset_insert _ _)

/-- A call is no candidate any more: it is gone, reconciled, or its Future has
ended. -/
theorem retire (h : Waiting operations futures unreconciled early)
    (hothers : ∀ other, other ≠ operation → operations'.lookup other = operations.lookup other)
    (hown : ∀ record, operations'.lookup operation = some record → record.sendReconciled = false →
      (futures' operation).done = true)
    (hfutures : ∀ operation, (futures' operation).done = false → (futures operation).done = false)
    (hcovered : Covered unreconciled early') :
    Waiting operations' futures' (unreconciled.erase operation)
      (ReplyStaging.retire operation early') where
  candidates := by
    intro other hmem
    obtain ⟨hne, hin⟩ := Finset.mem_erase.mp hmem
    rw [hothers other hne]
    exact h.candidates other hin
  waits := by
    intro other record hlookup hnot hpending
    by_cases heq : other = operation
    · rw [heq] at hlookup hpending
      rw [hown record hlookup hnot] at hpending
      cases hpending
    · rw [hothers other heq] at hlookup
      exact Finset.mem_erase.mpr
        ⟨heq,h.waits other record hlookup hnot (hfutures other hpending)⟩
  covered := hcovered.retire operation

/-- An operation that was reconciled goes. -/
theorem drop (h : Waiting operations futures unreconciled early)
    (hwas : ∀ record, operations.lookup operation = some record → record.sendReconciled = true) :
    Waiting (operations.erase operation) futures unreconciled early where
  candidates := by
    intro other hmem
    obtain ⟨record, hlookup, hnot⟩ := h.candidates other hmem
    have hne : other ≠ operation := by
      intro heq
      rw [heq] at hlookup
      rw [hwas record hlookup] at hnot
      cases hnot
    exact ⟨record,(AList.lookup_erase_ne hne).trans hlookup,hnot⟩
  waits := by
    intro other record hlookup hnot hpending
    by_cases heq : other = operation
    · rw [heq,AList.lookup_erase] at hlookup
      cases hlookup
    · rw [AList.lookup_erase_ne heq] at hlookup
      exact h.waits other record hlookup hnot hpending
  covered := h.covered

end Waiting

end Dmw.ServiceClient
