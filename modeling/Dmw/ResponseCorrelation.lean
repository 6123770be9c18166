import Dmw.ResponseTables

/-!
# Responses reach their own Futures

In every run of a Client its tables agree with the operations of its executor,
so no step of the owner misses an entry, and a Future is completed only with a
response to its own request. A response that comes before its send is
reconciled is handed over then, unless the Client closes or held a response
with that RequestId already.
-/

namespace Dmw.ServiceClient

open GuardedRuns GuardedRuns.Machine KeyedTable KeyedTable.Table ReplyStaging RecordVector.Records
  OutboundRequests

variable {κ ρ : Type} [DecidableEq κ]

/-- What was received explains the results, and what was sent the tombstones. -/
structure History (out : Outbound κ ρ) (t : ClientTables κ ρ) : Prop where
  /-- Tombstones are for RequestIds whose send is reconciled. -/
  buried : ∀ requestId, (t.tombstones.find requestId).isSome →
    ∃ operation, out.sentBy requestId = some operation ∧ out.jobs operation = .acknowledged
  /-- A result was received under the RequestId of its call. -/
  results : ∀ operation response, out.futures operation = .result response →
    ∃ requestId, out.sentBy requestId = some operation ∧ (requestId,response) ∈ t.received
  /-- So was a staged response. -/
  staged : ∀ requestId staged, t.early.lookup requestId = some staged →
    (requestId,staged.response) ∈ t.received

/-- New tombstones, results and staged responses are accounted for. -/
theorem History.later {out out' : Outbound κ ρ} {t t' : ClientTables κ ρ} (h : History out t)
    (hlater : Later out out') (hreceived : ∀ response ∈ t.received, response ∈ t'.received)
    (hburied : ∀ requestId, (t'.tombstones.find requestId).isSome →
      (t.tombstones.find requestId).isSome ∨ ∃ operation,
        out'.sentBy requestId = some operation ∧ out'.jobs operation = .acknowledged)
    (hresults : ∀ operation response, out'.futures operation = .result response →
      out.futures operation = .result response ∨ ∃ requestId,
        out'.sentBy requestId = some operation ∧ (requestId,response) ∈ t'.received)
    (hstaged : ∀ requestId staged, t'.early.lookup requestId = some staged →
      (∃ old, t.early.lookup requestId = some old ∧ old.response = staged.response) ∨
        (requestId,staged.response) ∈ t'.received) : History out' t' where
  buried := fun requestId hsome => by
    cases hburied requestId hsome with
    | inr hnew => exact hnew
    | inl hold =>
      obtain ⟨operation, hby, hover⟩ := h.buried requestId hold
      exact ⟨operation,hlater.sent _ _ hby,hlater.acknowledged _ hover⟩
  results := fun operation response hresult => by
    cases hresults operation response hresult with
    | inr hnew => exact hnew
    | inl hold =>
      obtain ⟨requestId, hby, hmem⟩ := h.results operation response hold
      exact ⟨requestId,hlater.sent _ _ hby,hreceived _ hmem⟩
  staged := fun requestId staged hlookup => by
    cases hstaged requestId staged hlookup with
    | inr hnew => exact hnew
    | inl hold =>
      obtain ⟨old, hfound, hsame⟩ := hold
      rw [← hsame]
      exact hreceived _ (h.staged requestId old hfound)

/-- The tables of a Client agree with its executor. -/
structure Consistent (s : Client κ ρ) : Prop where
  /-- The executor is sound. -/
  sound : Sound s.out
  /-- The pending map is exact. -/
  calls : Calls s.out.operations s.tables.pending s.out.sentBy
  /-- Staged responses wait for somebody. -/
  waiting : Waiting s.out.operations s.out.futures s.tables.unreconciled s.tables.early
  /-- Nothing came from nowhere. -/
  history : History s.out s.tables
  /-- Done callbacks are queued with an outcome. -/
  notified : Notified s.out

theorem History.initial (out : Outbound κ ρ)
    (hnone : ∀ operation response, out.futures operation ≠ .result response) :
    History out (ClientTables.initial κ ρ) where
  buried := fun _ hsome => by cases hsome
  results := fun operation response hresult => absurd hresult (hnone operation response)
  staged := fun _ _ hlookup => by cases hlookup

theorem Consistent.initial : Consistent (initial κ ρ) where
  sound := .initial
  calls := .of_none (fun _ => AList.lookup_empty _) _
  waiting := .of_none (fun _ => AList.lookup_empty _) _
  history := .initial _ fun _ _ h => by cases h
  notified := fun _ hmem => by cases hmem

/-- The executor goes on beside the tables of the client. -/
theorem Consistent.of_out {s : Client κ ρ} (h : Consistent s) {out : Outbound κ ρ}
    (closing : Option Cause) (hsound : Sound out) (hlater : Later s.out out)
    (hoperations : out.operations = s.out.operations)
    (hresults : ∀ operation response, out.futures operation = .result response →
      s.out.futures operation = .result response) :
    Consistent ⟨out,closing,s.tables⟩ where
  sound := hsound
  calls := by
    change Calls out.operations s.tables.pending out.sentBy
    rw [hoperations]
    exact h.calls.mono hlater.sent
  waiting := by
    change Waiting out.operations out.futures s.tables.unreconciled s.tables.early
    rw [hoperations]
    exact h.waiting.mono fun _ hpending => hlater.pending hpending
  history := h.history.later hlater (fun _ hmem => hmem) (fun _ hsome => Or.inl hsome)
    (fun operation response hresult => Or.inl (hresults operation response hresult))
    fun _ staged hlookup => Or.inl ⟨staged,hlookup,rfl⟩
  notified := h.notified.later hlater

/-- An operation that is not reconciled goes, and its Future ends with what was
received under its RequestId, or otherwise. -/
theorem Consistent.away {s t : Client κ ρ} (h : Consistent s) (operation : ℕ)
    (hsound : Sound t.out) (hlater : Later s.out t.out)
    (hothers : ∀ other, other ≠ operation →
      t.out.operations.lookup other = s.out.operations.lookup other)
    (hwas : ∀ record, s.out.operations.lookup operation = some record →
      record.sendReconciled = false)
    (hgone : t.out.operations.lookup operation = none) {early : Staging κ ρ}
    (hsub : ∀ requestId staged, early.lookup requestId = some staged →
      s.tables.early.lookup requestId = some staged)
    (htables : t.tables = { s.tables with
      unreconciled := s.tables.unreconciled.erase operation
      early := retire operation early
      tombstones := t.tables.tombstones })
    (hburied : ∀ requestId, (t.tables.tombstones.find requestId).isSome →
      (s.tables.tombstones.find requestId).isSome ∨ ∃ operation,
        t.out.sentBy requestId = some operation ∧ t.out.jobs operation = .acknowledged)
    (hresults : ∀ operation response, t.out.futures operation = .result response →
      s.out.futures operation = .result response ∨ ∃ requestId,
        t.out.sentBy requestId = some operation ∧ (requestId,response) ∈ s.tables.received) :
    Consistent t where
  sound := hsound
  calls := by
    rw [htables]
    refine (h.calls.mono hlater.sent).unreconciled hothers hwas fun record hlookup => ?_
    rw [hgone] at hlookup
    cases hlookup
  waiting := by
    rw [htables]
    refine h.waiting.retire hothers (fun record hlookup _ => ?_)
      (fun _ hpending => hlater.pending hpending) fun requestId staged hlookup =>
        h.waiting.covered requestId staged (hsub requestId staged hlookup)
    rw [hgone] at hlookup
    cases hlookup
  history := by
    refine h.history.later hlater ?_ hburied ?_ fun requestId staged hlookup => Or.inl ?_
    · rw [htables]
      exact fun _ hmem => hmem
    · rw [htables]
      exact hresults
    · rw [htables] at hlookup
      obtain ⟨old, hold, hsame⟩ := retire_origin hlookup
      exact ⟨old,hsub requestId old hold,hsame⟩
  notified := h.notified.later hlater

/-- What `_send_committed` does with a completion. -/
inductive Committed (now operation : ℕ) (completion : Completion κ) (s : Client κ ρ) :
    Except StepError Bool × Client κ ρ → Prop
  /-- The send failed. -/
  | failed (code : ℕ) : Committed now operation completion s
      (.ok false,⟨s.out.finish operation (.exception (.native code)),s.closing,
        s.tables.retireCandidate operation⟩)
  /-- Nothing was sent. -/
  | skipped : Committed now operation completion s
      (.ok false,⟨s.out,s.closing,s.tables.retireCandidate operation⟩)
  /-- Nobody waits for the response any more. -/
  | late (requestId : κ) (outcome : FutureState ρ) (hid : completion.requestId = some requestId)
      (hdone : outcome.done = true) (hnone : ∀ response, outcome ≠ .result response) :
      Committed now operation completion s
        (.ok false,⟨(s.out.finish operation outcome).identify operation requestId,s.closing,
          ({ s.tables with early := s.tables.early.erase requestId }.bury now
            requestId).retireCandidate operation⟩)
  /-- The response is there already. -/
  | answered (requestId : κ) (staged : Staged ρ) (hid : completion.requestId = some requestId)
      (hstaged : s.tables.early.lookup requestId = some staged) :
      Committed now operation completion s
        (.ok false,⟨(s.out.identify operation requestId).finish operation (.result staged.response),
          s.closing,({ s.tables with early := s.tables.early.erase requestId }.bury now
            requestId).retireCandidate operation⟩)
  /-- The response is still to come. -/
  | registered (requestId : κ) (hid : completion.requestId = some requestId)
      (hpending : (s.out.futures operation).done = false) :
      Committed now operation completion s
        (.ok true,⟨s.out.identify operation requestId,s.closing,
          { s.tables with
            early := s.tables.early.erase requestId
            pending := s.tables.pending.insert requestId operation }.retireCandidate operation⟩)

/-- `_send_committed` has five outcomes. -/
theorem sendCommitted_cases (now operation : ℕ) (completion : Completion κ) (s : Client κ ρ) :
    Committed now operation completion s (sendCommitted now operation completion s) := by
  unfold sendCommitted
  cases completion.error with
  | some code => exact .failed code
  | none =>
    cases hid : completion.requestId with
    | none => exact .skipped
    | some requestId =>
      dsimp only
      split
      · exact .skipped
      · cases hclosing : s.closing with
        | some cause =>
          simp only [Option.isSome_some,or_true,if_true]
          rw [← hclosing]
          exact .late requestId _ hid rfl fun _ heq => by cases heq
        | none =>
          have hfuture : (s.out.identify operation requestId).futures = s.out.futures := rfl
          dsimp only
          by_cases hdone : (s.out.futures operation).done = true
          · rw [hfuture,if_pos (Or.inl hdone),← hclosing]
            have hlate : Committed now operation completion s _ := .late requestId .canceled hid rfl
              fun _ heq => by cases heq
            rw [Outbound.finish_of_done hdone] at hlate
            exact hlate
          · rw [hfuture,Option.isSome_none,if_neg (not_or.mpr ⟨hdone,Bool.false_ne_true⟩),← hclosing]
            cases hstaged : s.tables.early.lookup requestId with
            | some staged => exact .answered requestId staged hid hstaged
            | none => exact .registered requestId hid (Bool.eq_false_iff.mpr hdone)

/-- A completion touches its own operation only. -/
theorem sendCommitted_touches {s : Client κ ρ} (h : Sound s.out) {operation : ℕ}
    {record : Operation κ} {completion : Completion κ}
    (hlookup : s.out.operations.lookup operation = some record)
    (hcompleted : (s.out.jobs operation).completion = some completion) (now : ℕ) :
    Touches operation s.out (sendCommitted now operation completion s).2.out := by
  have hsame := Touches.refl h hcompleted
  have hlt := h.known operation record hlookup
  have hcommitted := sendCommitted_cases now operation completion s
  generalize sendCommitted now operation completion s = outcome at hcommitted ⊢
  cases hcommitted with
  | failed code => exact hsame.finish hlt _
  | skipped => exact hsame
  | late requestId ending => exact (hsame.finish hlt ending).identify requestId
  | answered requestId staged => exact (hsame.identify requestId).finish hlt _
  | registered requestId => exact hsame.identify requestId

/-- A completion takes nothing back. -/
theorem sendCommitted_later (now operation : ℕ) (completion : Completion κ) (s : Client κ ρ) :
    Later s.out (sendCommitted now operation completion s).2.out := by
  have hcommitted := sendCommitted_cases now operation completion s
  generalize sendCommitted now operation completion s = outcome at hcommitted ⊢
  cases hcommitted with
  | failed code => exact .finish _ _ rfl
  | skipped => exact .refl _
  | late requestId ending _ hdone => exact (Later.finish _ _ hdone).trans (.identify _ _ _)
  | answered requestId staged => exact (Later.identify _ _ _).trans (.finish _ _ rfl)
  | registered requestId => exact .identify _ _ _

/-- A call is made, or refused. -/
theorem Consistent.submit {s : Client κ ρ} (h : Consistent s) (kind : RequestKind)
    (admission : Admission) : Consistent (OutboundRequests.submit clientCallee kind admission s) := by
  have hsound : Sound (OutboundRequests.submit clientCallee kind admission s).out :=
    h.sound.submit kind admission
  have hlater : Later s.out (OutboundRequests.submit clientCallee kind admission s).out :=
    .submit h.sound kind admission
  have hnone := h.sound.lookup_next
  have hwas : ∀ record, s.out.operations.lookup s.out.nextOperation = some record →
      record.sendReconciled = false := by
    intro record hlookup
    rw [hnone] at hlookup
    cases hlookup
  have hinsert : ∀ other, other ≠ s.out.nextOperation →
      (s.out.operations.insert s.out.nextOperation {}).lookup other =
        s.out.operations.lookup other := fun other hne => AList.lookup_insert_ne hne
  have hadded := h.waiting.add hinsert ⟨{},AList.lookup_insert _,rfl⟩
  cases admission with
  | enqueued =>
    constructor
    · exact hsound
    · refine h.calls.unreconciled hinsert hwas fun record hlookup => ?_
      change (s.out.operations.insert s.out.nextOperation {}).lookup _ = some record at hlookup
      rw [AList.lookup_insert] at hlookup
      cases hlookup
      exact ⟨rfl,rfl⟩
    · exact hadded
    · exact h.history.later hlater (fun _ hmem => hmem) (fun _ hsome => Or.inl hsome)
        (fun _ _ hresult => Or.inl hresult) fun _ staged hlookup => Or.inl ⟨staged,hlookup,rfl⟩
    · exact h.notified.later hlater
  | failed callbackAdded code =>
    have hothers : ∀ other, other ≠ s.out.nextOperation →
        ((s.out.operations.insert s.out.nextOperation {}).erase s.out.nextOperation).lookup other =
          (s.out.operations.insert s.out.nextOperation {}).lookup other :=
      fun other hne => AList.lookup_erase_ne hne
    have hgone : ((s.out.operations.insert s.out.nextOperation {}).erase
        s.out.nextOperation).lookup s.out.nextOperation = none := AList.lookup_erase _ _
    constructor
    · exact hsound
    · refine h.calls.unreconciled (fun other hne => (hothers other hne).trans (hinsert other hne))
        hwas fun record hlookup => ?_
      cases hgone.symm.trans hlookup
    · refine hadded.retire hothers (fun record hlookup _ => ?_)
        (fun _ hpending => hlater.pending hpending) hadded.covered
      cases hgone.symm.trans hlookup
    · refine h.history.later hlater (fun _ hmem => hmem) (fun _ hsome => Or.inl hsome)
        (fun operation response hresult => ?_) fun _ staged hlookup =>
          Or.inl (retire_origin hlookup)
      change Function.update s.out.futures s.out.nextOperation _ operation = _ at hresult
      by_cases heq : operation = s.out.nextOperation
      · rw [heq,Function.update_self] at hresult
        cases hresult
      · rw [Function.update_of_ne heq] at hresult
        exact Or.inl hresult
    · exact h.notified.later hlater

/-- Where a tombstone comes from. -/
theorem bury_find {t : ClientTables κ ρ} {now : ℕ} {requestId other : κ}
    (hsome : ((t.bury now requestId).tombstones.find other).isSome) :
    other = requestId ∨ (t.tombstones.find other).isSome := tombstone_other hsome

/-- An operation is forgotten: a reconciled one is dropped, the Future of
another one ends. -/
theorem Consistent.forgotten {s t : Client κ ρ} (h : Consistent s) (now : ℕ) {operation : ℕ}
    {record : Operation κ} (hlookup : s.out.operations.lookup operation = some record)
    (hsound : Sound t.out) (hlater : Later s.out t.out)
    (hoperations : t.out.operations = if record.sendReconciled then s.out.operations.erase operation
      else s.out.operations)
    (hended : record.sendReconciled = false → (t.out.futures operation).done = true)
    (hresults : ∀ operation response, t.out.futures operation = .result response →
      s.out.futures operation = .result response)
    (htables : t.tables = s.tables.forget now operation record) : Consistent t := by
  cases hreconciled : record.sendReconciled with
  | false =>
    have hid := h.calls.unidentified hlookup hreconciled
    have hforget : t.tables = s.tables.retireCandidate operation := by
      rw [htables]
      unfold ClientTables.forget
      rw [hid]
    rw [hreconciled,if_neg Bool.false_ne_true] at hoperations
    constructor
    · exact hsound
    · rw [hforget,hoperations]
      exact h.calls.mono hlater.sent
    · rw [hforget,hoperations]
      exact h.waiting.retire (fun _ _ => rfl) (fun _ _ _ => hended hreconciled)
        (fun _ hpending => hlater.pending hpending) h.waiting.covered
    · rw [hforget]
      exact h.history.later hlater (fun _ hmem => hmem) (fun _ hsome => Or.inl hsome)
        (fun operation response hresult => Or.inl (hresults operation response hresult))
        fun _ _ hfound => Or.inl (retire_origin hfound)
    · exact h.notified.later hlater
  | true =>
    obtain ⟨requestId, hid⟩ : ∃ requestId, record.requestId = some requestId :=
      Option.isSome_iff_exists.mp ((h.calls.identified operation record hlookup).symm.trans hreconciled)
    have hby := h.calls.owned operation record requestId hlookup hid
    have hforget : t.tables = (({ s.tables with
        pending := s.tables.pending.erase requestId
        early := s.tables.early.erase requestId }).bury now requestId).retireCandidate operation := by
      rw [htables]
      unfold ClientTables.forget
      rw [hid]
    rw [hreconciled,if_pos rfl] at hoperations
    constructor
    · exact hsound
    · rw [hforget,hoperations]
      refine (h.calls.erase hby fun other id hother hid' => ?_).mono hlater.sent
      rw [hlookup] at hother
      cases hother
      rw [hid] at hid'
      cases hid'
      rfl
    · rw [hforget,hoperations]
      refine h.waiting.retire (fun other hne => AList.lookup_erase_ne hne) (fun record' hgone _ => ?_)
        (fun _ hpending => hlater.pending hpending) (h.waiting.covered.erase requestId)
      rw [AList.lookup_erase] at hgone
      cases hgone
    · rw [hforget]
      refine h.history.later hlater (fun _ hmem => hmem) (fun other hsome => ?_)
        (fun operation response hresult => Or.inl (hresults operation response hresult))
        fun other staged hfound => Or.inl ?_
      · cases bury_find hsome with
        | inr hold => exact Or.inl hold
        | inl heq =>
          have hover := h.sound.reconciled operation record hlookup hreconciled
          rw [heq]
          exact Or.inr ⟨operation,hlater.sent _ _ hby,hlater.acknowledged _ hover⟩
      · obtain ⟨old, hold, hsame⟩ := retire_origin hfound
        by_cases heq : other = requestId
        · rw [heq] at hold
          change (s.tables.early.erase requestId).lookup requestId = _ at hold
          rw [AList.lookup_erase] at hold
          cases hold
        · change (s.tables.early.erase requestId).lookup other = _ at hold
          rw [AList.lookup_erase_ne heq] at hold
          exact ⟨old,hold,hsame⟩
    · exact h.notified.later hlater

/-- One operation is canceled because the client ends. -/
theorem Consistent.cancelOne {s : Client κ ρ} (h : Consistent s) (now : ℕ) (cause : Cause)
    {operation : ℕ} {record : Operation κ}
    (hlookup : s.out.operations.lookup operation = some record) :
    Consistent (OutboundRequests.cancelOne clientCallee now cause operation record s) := by
  have hout : (OutboundRequests.cancelOne clientCallee now cause operation record s).out = _ :=
    cancelOne_out now cause operation record
  refine h.forgotten now hlookup (h.sound.cancelOne now cause hlookup)
    (.cancelOne s now cause operation record) ?_ (fun _ => ?_) (fun other response hresult => ?_) ?_
  · rw [hout,Outbound.finish_operations]
    split <;> rfl
  · rw [hout]
    exact Outbound.finish_done operation rfl
  · rw [hout] at hresult
    have hbefore := Outbound.finish_no_result (fun _ heq => by cases heq) hresult
    split at hbefore
    · exact hbefore
    · exact hbefore
  · unfold OutboundRequests.cancelOne cancelOperation Requests.withOut
    dsimp only
    split <;> rfl

theorem Consistent.cancelEntityOperations {s : Client κ ρ} (h : Consistent s) (now : ℕ)
    (cause : Cause) :
    Consistent (OutboundRequests.cancelEntityOperations clientCallee now cause s) :=
  cancelEntityOperations_induction (motive := Consistent) h
    fun _ _ _ ht hlookup => ht.cancelOne now cause hlookup

/-- A done callback runs: its Future has an outcome. -/
theorem Consistent.operationTerminal {s : Client κ ρ} (h : Consistent s) (now operation : ℕ)
    (hended : (s.out.futures operation).done = true) :
    Consistent (OutboundRequests.operationTerminal clientCallee now operation s) := by
  have hsound : Sound (OutboundRequests.operationTerminal clientCallee now operation s).out :=
    h.sound.operationTerminal now operation
  have hlater : Later s.out (OutboundRequests.operationTerminal clientCallee now operation s).out :=
    .operationTerminal s now operation
  unfold OutboundRequests.operationTerminal at hsound hlater ⊢
  cases hlookup : s.out.operations.lookup operation with
  | none => exact h
  | some record =>
    rw [hlookup] at hsound hlater
    refine h.forgotten now hlookup hsound hlater ?_ (fun _ => ?_) (fun other response hresult => ?_) ?_
    · unfold cancelOperation Requests.withOut
      dsimp only
      split <;> rfl
    · rw [hlater.ended operation hended]
      exact hended
    · unfold cancelOperation Requests.withOut at hresult
      dsimp only at hresult
      split at hresult
      · exact hresult
      · exact hresult
    · unfold cancelOperation Requests.withOut
      dsimp only
      split <;> rfl

/-- A completion is handled. -/
theorem Consistent.drain {s : Client κ ρ} (h : Consistent s) (now : ℕ) {operation : ℕ}
    {completion : Completion κ}
    (hcompleted : (s.out.jobs operation).completion = some completion) :
    Consistent (drainCompletion clientCallee now operation completion s).2 := by
  have hjob := Job.eq_completed hcompleted
  obtain ⟨record, hlookup, hnot⟩ := (h.sound.held operation).mp (by rw [hjob]; rfl)
  have hsound : Sound (settle operation (sendCommitted now operation completion s).1
      (sendCommitted now operation completion s).2).2.out :=
    h.sound.settle hcompleted (sendCommitted_touches h.sound hlookup hcompleted now) _
  have hlater : Later s.out (settle operation (sendCommitted now operation completion s).1
      (sendCommitted now operation completion s).2).2.out :=
    (sendCommitted_later now operation completion s).trans (.settle _ _ _)
  have hwas : ∀ other, s.out.operations.lookup operation = some other →
      other.sendReconciled = false := by
    intro other hother
    rw [hlookup] at hother
    cases hother
    exact hnot
  have herase : ∀ (requestId other : κ) (staged : Staged ρ),
      (s.tables.early.erase requestId).lookup other = some staged →
        s.tables.early.lookup other = some staged := by
    intro requestId other staged hfound
    by_cases heq : other = requestId
    · rw [heq,AList.lookup_erase] at hfound
      cases hfound
    · rw [AList.lookup_erase_ne heq] at hfound
      exact hfound
  have hself : ∀ out : Outbound κ ρ, (out.acknowledge operation).jobs operation = .acknowledged :=
    fun _ => Function.update_self _ _ _
  unfold drainCompletion
  rw [hlookup]
  change Consistent (settle operation (sendCommitted now operation completion s).1
    (sendCommitted now operation completion s).2).2
  have hcommitted := sendCommitted_cases now operation completion s
  generalize sendCommitted now operation completion s = outcome at hcommitted hsound hlater ⊢
  cases hcommitted with
  | failed code =>
    refine h.away operation hsound hlater (fun other hne => ?_) hwas (AList.lookup_erase _ _)
      (fun _ _ hfound => hfound) rfl (fun _ hsome => Or.inl hsome) fun other response hresult =>
        Or.inl (Outbound.finish_no_result (fun _ heq => by cases heq) hresult)
    refine (AList.lookup_erase_ne hne).trans ?_
    exact congrArg (AList.lookup other) (Outbound.finish_operations _ _)
  | skipped =>
    exact h.away operation hsound hlater (fun other hne => AList.lookup_erase_ne hne) hwas
      (AList.lookup_erase _ _) (fun _ _ hfound => hfound) rfl (fun _ hsome => Or.inl hsome)
      fun _ _ hresult => Or.inl hresult
  | late requestId ending hid hdone hnone =>
    refine h.away operation hsound hlater (fun other hne => ?_) hwas (AList.lookup_erase _ _)
      (herase requestId) rfl (fun other hsome => ?_) fun other response hresult =>
        Or.inl (Outbound.finish_no_result hnone hresult)
    · refine (AList.lookup_erase_ne hne).trans ((lookup_modify_ne hne _ _).trans ?_)
      exact congrArg (AList.lookup other) (Outbound.finish_operations _ _)
    · cases bury_find hsome with
      | inr hold => exact Or.inl hold
      | inl heq =>
        have hby := h.sound.returned operation completion requestId hcompleted hid
        rw [heq]
        exact Or.inr ⟨operation,hlater.sent _ _ hby,hself _⟩
  | answered requestId staged hid hstaged =>
    have hby := hlater.sent _ _ (h.sound.returned operation completion requestId hcompleted hid)
    refine h.away operation hsound hlater (fun other hne => ?_) hwas (AList.lookup_erase _ _)
      (herase requestId) rfl (fun other hsome => ?_) fun other response hresult => ?_
    · refine (AList.lookup_erase_ne hne).trans ?_
      refine (congrArg (AList.lookup other) (Outbound.finish_operations _ _)).trans ?_
      exact lookup_modify_ne hne _ _
    · cases bury_find hsome with
      | inr hold => exact Or.inl hold
      | inl heq =>
        rw [heq]
        exact Or.inr ⟨operation,hby,hself _⟩
    · cases Outbound.finish_result hresult with
      | inl hold => exact Or.inl hold
      | inr hnew =>
        cases hnew.2
        rw [hnew.1]
        exact Or.inr ⟨requestId,hby,h.history.staged requestId staged hstaged⟩
  | registered requestId hid hpending =>
    have hby := hlater.sent _ _ (h.sound.returned operation completion requestId hcompleted hid)
    have hothers : ∀ other, other ≠ operation →
        (modify operation (fun record => { record with sendReconciled := true })
          (s.out.identify operation requestId).operations).lookup other =
            s.out.operations.lookup other :=
      fun other hne => (lookup_modify_ne hne _ _).trans (lookup_modify_ne hne _ _)
    have hown : (modify operation (fun record => { record with sendReconciled := true })
        (s.out.identify operation requestId).operations).lookup operation =
          some ⟨some requestId,true⟩ := by
      change (modify operation _ (modify operation _ s.out.operations)).lookup operation = _
      rw [lookup_modify_self,lookup_modify_self,hlookup]
      rfl
    constructor
    · exact hsound
    · exact (h.calls.mono hlater.sent).register hby hothers hwas hown
    · refine h.waiting.retire hothers (fun other hfound hnot' => ?_)
        (fun _ hopen => hlater.pending hopen) (h.waiting.covered.erase requestId)
      cases hown.symm.trans hfound
      cases hnot'
    · refine h.history.later hlater (fun _ hmem => hmem) (fun _ hsome => Or.inl hsome)
        (fun _ _ hresult => Or.inl hresult) fun other staged hfound => Or.inl ?_
      obtain ⟨old, hold, hsame⟩ := retire_origin hfound
      exact ⟨old,herase requestId other old hold,hsame⟩
    · exact h.notified.later hlater

/-- The tables of the client change beside the executor. -/
theorem Consistent.of_history {s : Client κ ρ} (h : Consistent s) {early : Staging κ ρ}
    (tombstones : Tombstones κ) {received : List (κ × ρ)}
    (hcovered : Covered s.tables.unreconciled early)
    (hburied : ∀ requestId, (tombstones.find requestId).isSome →
      (s.tables.tombstones.find requestId).isSome)
    (hstaged : ∀ requestId staged, early.lookup requestId = some staged →
      s.tables.early.lookup requestId = some staged ∨ (requestId,staged.response) ∈ received)
    (hreceived : ∀ response ∈ s.tables.received, response ∈ received) :
    Consistent { s with
      tables := { s.tables with early := early, tombstones := tombstones, received := received } } where
  sound := h.sound
  calls := h.calls
  waiting := h.waiting.of_covered hcovered
  history := h.history.later (.refl _) hreceived (fun _ hsome => Or.inl (hburied _ hsome))
    (fun _ _ hresult => Or.inl hresult) fun requestId staged hlookup => by
      cases hstaged requestId staged hlookup with
      | inl hold => exact Or.inl ⟨staged,hold,rfl⟩
      | inr hnew => exact Or.inr hnew
  notified := h.notified

/-- Every candidate has its operation. -/
theorem Consistent.candidates_found {s : Client κ ρ} (h : Consistent s) :
    ¬ ∃ operation ∈ s.tables.unreconciled, s.out.operations.lookup operation = none := by
  intro hmissing
  obtain ⟨operation, hmem, hnone⟩ := hmissing
  obtain ⟨record, hlookup, _⟩ := h.waiting.candidates operation hmem
  rw [hnone] at hlookup
  cases hlookup

/-- A response is staged, dropped, or closes the client. -/
theorem Consistent.stageResponse {s : Client κ ρ} (h : Consistent s) (now : ℕ) {requestId : κ}
    {response : ρ} (hreceived : (requestId,response) ∈ s.tables.received) :
    (ServiceClient.stageResponse now requestId response s).1 = .ok () ∧
      Consistent (ServiceClient.stageResponse now requestId response s).2 := by
  unfold ServiceClient.stageResponse
  rw [if_neg h.candidates_found]
  dsimp only
  split
  · exact ⟨rfl,h⟩
  · next hsome =>
    split
    · exact ⟨rfl,h⟩
    · split
      · refine ⟨rfl,?_⟩
        have hclosing := h.of_out (some (s.closing.getD
          (.resourceExhausted "Early response staging capacity exhausted"))) h.sound (.refl _) rfl
          fun _ _ hresult => hresult
        have hcanceled := hclosing.cancelEntityOperations now
          (.resourceExhausted "Early response staging capacity exhausted")
        exact hcanceled.of_history _ (.empty _) (fun _ hfound => hfound)
          (fun _ _ hfound => by cases hfound) fun _ hmem => hmem
      · refine ⟨rfl,?_⟩
        refine h.of_history _ (h.waiting.covered.insert requestId
          (Finset.nonempty_iff_ne_empty.mpr hsome) (Finset.filter_subset _ _))
          (fun _ hfound => hfound) (fun other staged hfound => ?_) fun _ hmem => hmem
        by_cases heq : other = requestId
        · rw [heq,AList.lookup_insert] at hfound
          cases hfound
          exact Or.inr (heq ▸ hreceived)
        · rw [AList.lookup_insert_ne heq] at hfound
          exact Or.inl hfound

/-- A call is completed with its response. -/
theorem Consistent.completeRequest {s : Client κ ρ} (h : Consistent s) (now : ℕ) {requestId : κ}
    {operation : ℕ} {response : ρ} (hreceived : (requestId,response) ∈ s.tables.received)
    (hpending : s.tables.pending.lookup requestId = some operation) :
    (ServiceClient.completeRequest operation response { s with
      tables := { s.tables with
        pending := s.tables.pending.erase requestId }.bury now requestId }).1 = .ok () ∧
    Consistent (ServiceClient.completeRequest operation response { s with
      tables := { s.tables with
        pending := s.tables.pending.erase requestId }.bury now requestId }).2 := by
  obtain ⟨record, hlookup, hreconciled, hid⟩ := (h.calls.pending requestId operation).mp hpending
  have hby := h.calls.sender hpending
  have hjob := h.sound.reconciled operation record hlookup hreconciled
  have hlater : Later s.out ((s.out.drop operation).finish operation (.result response)) :=
    (Later.drop _ _).trans (.finish _ _ rfl)
  have hoperations : ((s.out.drop operation).finish operation (.result response)).operations =
      s.out.operations.erase operation := Outbound.finish_operations _ _
  unfold ServiceClient.completeRequest
  rw [hlookup]
  refine ⟨rfl,?_⟩
  constructor
  · exact (h.sound.drop (by rw [hjob]; rfl)).finish (h.sound.known operation record hlookup) _
  · change Calls ((s.out.drop operation).finish operation (.result response)).operations
      (s.tables.pending.erase requestId) _
    rw [hoperations]
    refine (h.calls.erase hby fun other id hother hid' => ?_).mono hlater.sent
    rw [hlookup] at hother
    cases hother
    rw [hid] at hid'
    cases hid'
    rfl
  · change Waiting ((s.out.drop operation).finish operation (.result response)).operations
      ((s.out.drop operation).finish operation (.result response)).futures s.tables.unreconciled
      s.tables.early
    rw [hoperations]
    refine (h.waiting.drop fun other hother => ?_).mono fun _ hopen => hlater.pending hopen
    rw [hlookup] at hother
    cases hother
    exact hreconciled
  · refine h.history.later hlater (fun _ hmem => hmem) (fun other hsome => ?_)
      (fun other response' hresult => ?_) fun other staged hfound => Or.inl ⟨staged,hfound,rfl⟩
    · cases bury_find hsome with
      | inr hold => exact Or.inl hold
      | inl heq =>
        rw [heq]
        exact Or.inr ⟨operation,hlater.sent _ _ hby,hlater.acknowledged _ hjob⟩
    · cases Outbound.finish_result hresult with
      | inl hold => exact Or.inl hold
      | inr hnew =>
        cases hnew.2
        rw [hnew.1]
        exact Or.inr ⟨requestId,hlater.sent _ _ hby,hreceived⟩
  · exact h.notified.later hlater

/-- A response is taken, and no entry is missing. -/
theorem Consistent.takeResponse {s : Client κ ρ} (h : Consistent s) (now : ℕ) (requestId : κ)
    (response : ρ) :
    (ServiceClient.takeResponse now requestId response s).1 = .ok () ∧
      Consistent (ServiceClient.takeResponse now requestId response s).2 := by
  have hreceived : (requestId,response) ∈ s.tables.received ++ [(requestId,response)] :=
    List.mem_append_right _ List.mem_cons_self
  have hnoted := h.of_history s.tables.tombstones h.waiting.covered
    (fun _ hfound => hfound) (fun _ _ hfound => Or.inl hfound)
    fun _ hmem => List.mem_append_left [(requestId,response)] hmem
  unfold ServiceClient.takeResponse
  dsimp only
  split
  · exact ⟨rfl,hnoted⟩
  · have hforgot := hnoted.of_history (s.tables.tombstones.erase requestId)
      hnoted.waiting.covered
      (fun other hfound => by
        change (find other (s.tables.tombstones.erase requestId)).isSome at hfound
        change (find other s.tables.tombstones).isSome
        rw [find_erase] at hfound
        split at hfound
        · cases hfound
        · exact hfound)
      (fun _ _ hfound => Or.inl hfound) fun _ hmem => hmem
    cases hpending : s.tables.pending.lookup requestId with
    | some operation => exact hforgot.completeRequest now hreceived hpending
    | none => exact hforgot.stageResponse now hreceived

/-- A completion is handled without an exception. -/
theorem drainCompletion_ok {s : Client κ ρ} {operation : ℕ} {record : Operation κ}
    (hlookup : s.out.operations.lookup operation = some record) (now : ℕ)
    (completion : Completion κ) :
    (drainCompletion clientCallee now operation completion s).1 = .ok () := by
  unfold drainCompletion
  rw [hlookup]
  change (settle operation (sendCommitted now operation completion s).1 _).1 = .ok ()
  have hcommitted := sendCommitted_cases now operation completion s
  generalize sendCommitted now operation completion s = outcome at hcommitted
  cases hcommitted <;> rfl

/-- A done callback is taken from the queue. -/
theorem Consistent.popped {s : Client κ ρ} (h : Consistent s) {operation : ℕ} {rest : List ℕ}
    (hqueue : s.out.notifications = operation :: rest) :
    Consistent (s.withOut fun out => { out with notifications := rest }) := by
  refine h.of_out s.closing (h.sound.of_futures rfl rfl rfl rfl fun _ _ => rfl) ?_ rfl
    fun _ _ hresult => hresult
  refine ⟨fun _ _ => rfl,fun _ _ hby => hby,fun _ hover => hover,le_rfl,fun other hmem => ?_⟩
  rw [hqueue]
  exact Or.inl (List.mem_cons_of_mem _ hmem)

/-- The client is closed, and no operation is left. -/
theorem Consistent.retire {s : Client κ ρ} (h : Consistent s) (hempty : size s.out.operations = 0) :
    Consistent { s with tables := s.tables.retireBindings } := by
  have hnone : ∀ operation, s.out.operations.lookup operation = none := by
    intro operation
    rw [AList.lookup_eq_none]
    intro hmem
    have hpos := size_pos_of_mem hmem
    rw [hempty] at hpos
    exact absurd hpos (lt_irrefl 0)
  constructor
  · exact h.sound
  · exact .of_none hnone _
  · exact .of_none hnone _
  · constructor
    · intro requestId hfound
      cases hfound
    · exact h.history.results
    · intro requestId staged hfound
      cases hfound
  · exact h.notified

/-- The steps of the executor keep the tables. -/
theorem Consistent.executorStep {s : Client κ ρ} (h : Consistent s) {event : ExecutorEvent κ}
    (hen : event.Enabled s) :
    (OutboundRequests.executorStep clientCallee event s).1 = .ok () ∧
      Consistent (OutboundRequests.executorStep clientCallee event s).2 := by
  have hsound : Sound (OutboundRequests.executorStep clientCallee event s).2.out :=
    h.sound.executorStep (fun now _ _ _ hlookup hcompleted =>
      sendCommitted_touches h.sound hlookup hcompleted now) hen
  have hlater : Later s.out (OutboundRequests.executorStep clientCallee event s).2.out :=
    .executorStep h.sound (fun now operation _ completion _ _ =>
      sendCommitted_later now operation completion s) hen
  cases event with
  | submit kind admission => exact ⟨rfl,h.submit kind admission⟩
  | start operation =>
    refine ⟨rfl,h.of_out _ hsound hlater ?_ fun other response hresult => ?_⟩
    · change (s.out.start operation).operations = _
      unfold Outbound.start
      split <;> rfl
    · change (s.out.start operation).futures other = _ at hresult
      unfold Outbound.start at hresult
      split at hresult
      · exact hresult
      · exact hresult
  | sent operation outcome =>
    cases outcome with
    | ok requestId => exact ⟨rfl,h.of_out _ hsound hlater rfl fun _ _ hresult => hresult⟩
    | error code => exact ⟨rfl,h.of_out _ hsound hlater rfl fun _ _ hresult => hresult⟩
  | cancel operation =>
    refine ⟨rfl,h.of_out _ hsound hlater ?_ fun other response hresult => ?_⟩
    · change (s.out.cancel operation).operations = _
      unfold Outbound.cancel
      split
      · rfl
      · exact Outbound.finish_operations _ _
    · change (s.out.cancel operation).futures other = _ at hresult
      unfold Outbound.cancel at hresult
      split at hresult
      · exact hresult
      · have hcanceled : ∀ response : ρ, FutureState.canceled ≠ .result response := by
          intro response heq
          cases heq
        have hbefore := Outbound.finish_no_result hcanceled hresult
        exact hbefore
  | drain now operation =>
    unfold OutboundRequests.executorStep
    dsimp only
    cases hcompletion : (s.out.jobs operation).completion with
    | none => exact ⟨rfl,h⟩
    | some completion =>
      have hjob := Job.eq_completed hcompletion
      obtain ⟨record, hlookup, _⟩ := (h.sound.held operation).mp (by rw [hjob]; rfl)
      exact ⟨drainCompletion_ok hlookup now completion,h.drain now hcompletion⟩
  | notify now =>
    unfold OutboundRequests.executorStep
    dsimp only
    cases hqueue : s.out.notifications with
    | nil => exact ⟨rfl,h⟩
    | cons operation rest =>
      refine ⟨rfl,?_⟩
      have hended := h.notified operation (by rw [hqueue]; exact List.mem_cons_self)
      exact (h.popped hqueue).operationTerminal now operation hended
  | cancelAll now =>
    unfold OutboundRequests.executorStep
    dsimp only
    cases s.endCause with
    | none => exact ⟨rfl,h⟩
    | some cause => exact ⟨rfl,h.cancelEntityOperations now cause⟩
  | close cause => exact ⟨rfl,h.of_out _ hsound hlater rfl fun _ _ hresult => hresult⟩
  | shutdown cause => exact ⟨rfl,h.of_out _ hsound hlater rfl fun _ _ hresult => hresult⟩
  | expire operation =>
    refine ⟨rfl,h.of_out _ hsound hlater (Outbound.finish_operations _ _) fun _ _ hresult => ?_⟩
    exact Outbound.finish_no_result (fun _ heq => by cases heq) hresult
  | retire => exact ⟨rfl,h.retire hen.2.1⟩
  | elsewhere count => exact ⟨rfl,h.of_out _ hsound hlater rfl fun _ _ hresult => hresult⟩

/-- No step raises, and every step keeps the tables. -/
theorem Consistent.step {s : Client κ ρ} (h : Consistent s) {event : ClientEvent κ ρ}
    (hen : event.Enabled s) :
    (clientStep event s).1 = .ok () ∧ Consistent (clientStep event s).2 := by
  cases event with
  | respond now requestId response => exact h.takeResponse now requestId response
  | executor event =>
    cases event with
    | submit kind admission => exact h.executorStep hen.1
    | _ => exact h.executorStep hen

/-- The tables agree in every state that is reached. -/
theorem consistent_of_run {s : Client κ ρ} {events : List (ClientEvent κ ρ)}
    (hrun : (machine κ ρ).Run (initial κ ρ) events s) : Consistent s :=
  hrun.invariant Consistent .initial fun _ _ h hen _ => (h.step hen).2

end Dmw.ServiceClient
