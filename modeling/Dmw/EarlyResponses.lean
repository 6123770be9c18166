import Dmw.ResponseCorrelation

/-!
# Responses that come before their send is reconciled

Such a response is staged for every call whose send began and is not reconciled,
and stays staged as long as one of them is. When the completion of its own send
is handled, it is still there.
-/

namespace Dmw.ServiceClient

open GuardedRuns GuardedRuns.Machine KeyedTable KeyedTable.Table ReplyStaging RecordVector.Records
  OutboundRequests

variable {κ ρ : Type} [DecidableEq κ]

/-- A response is staged for a call. -/
def StagedFor (requestId : κ) (response : ρ) (operation : ℕ) (t : ClientTables κ ρ) : Prop :=
  ∃ staged, t.early.lookup requestId = some staged ∧ staged.response = response ∧
    operation ∈ staged.candidates

/-- It stays staged for the call when another one is no candidate any more. -/
theorem StagedFor.retire {requestId : κ} {response : ρ} {operation other : ℕ}
    {t : ClientTables κ ρ} (h : StagedFor requestId response operation t) (hne : operation ≠ other) :
    StagedFor requestId response operation (t.retireCandidate other) := by
  obtain ⟨staged, hlookup, hresponse, hmem⟩ := h
  obtain ⟨hkept, hcandidate⟩ := retire_keeps hlookup hmem hne
  exact ⟨_,hkept,hresponse,hcandidate⟩

/-- It stays staged when another RequestId is settled. -/
theorem StagedFor.of_erase {requestId other : κ} {response : ρ} {operation : ℕ}
    {t t' : ClientTables κ ρ} (h : StagedFor requestId response operation t)
    (hearly : t'.early = t.early.erase other) (hne : requestId ≠ other) :
    StagedFor requestId response operation t' := by
  obtain ⟨staged, hlookup, hresponse, hmem⟩ := h
  refine ⟨staged,?_,hresponse,hmem⟩
  rw [hearly,AList.lookup_erase_ne hne]
  exact hlookup

/-- It stays staged where the staged responses stay. -/
theorem StagedFor.of_early {requestId : κ} {response : ρ} {operation : ℕ}
    {t t' : ClientTables κ ρ} (h : StagedFor requestId response operation t)
    (hearly : t'.early = t.early) : StagedFor requestId response operation t' := by
  obtain ⟨staged, hlookup, hresponse, hmem⟩ := h
  exact ⟨staged,hearly ▸ hlookup,hresponse,hmem⟩

/-- A call for which a response is staged is not reconciled. -/
theorem StagedFor.unreconciled {s : Client κ ρ} (h : Consistent s) {requestId : κ} {response : ρ}
    {operation : ℕ} (hstaged : StagedFor requestId response operation s.tables) :
    ∃ record, s.out.operations.lookup operation = some record ∧ record.sendReconciled = false := by
  obtain ⟨staged, hlookup, _, hmem⟩ := hstaged
  exact h.waiting.candidates operation ((h.waiting.covered requestId staged hlookup).2 hmem)

/-- Forgetting another operation leaves the response staged, unless it has the
same RequestId. -/
theorem StagedFor.forget {requestId : κ} {response : ρ} {operation other : ℕ}
    {record : Operation κ} {t : ClientTables κ ρ} (now : ℕ)
    (h : StagedFor requestId response operation t) (hne : operation ≠ other)
    (hid : record.requestId ≠ some requestId) :
    StagedFor requestId response operation (t.forget now other record) := by
  unfold ClientTables.forget
  cases heq : record.requestId with
  | none => exact h.retire hne
  | some id =>
    have hother : requestId ≠ id := fun hsame => hid (heq.trans (congrArg some hsame.symm))
    exact (h.of_erase rfl hother).retire hne

/-- What has to hold of a call whose response is staged: it still waits for its
completion, and nobody else may have sent its RequestId. -/
structure Expecting (requestId : κ) (operation : ℕ) (out : Outbound κ ρ) : Prop where
  /-- The Future has no outcome. -/
  pending : (out.futures operation).done = false
  /-- The completion was not handled. -/
  unsettled : out.jobs operation ≠ .acknowledged
  /-- The RequestId is of this call, if of any. -/
  own : ∀ other, out.sentBy requestId = some other → other = operation

omit [DecidableEq κ] in
/-- It was so before. -/
theorem Expecting.before {out out' : Outbound κ ρ} {requestId : κ} {operation : ℕ}
    (h : Expecting requestId operation out') (hlater : Later out out') :
    Expecting requestId operation out where
  pending := hlater.pending h.pending
  unsettled := fun hover => h.unsettled (hlater.acknowledged operation hover)
  own := fun other hby => h.own other (hlater.sent requestId other hby)

/-- Where the completion of another call is handled, the response stays. -/
theorem StagedFor.drain {s : Client κ ρ} (h : Consistent s) {requestId : κ} {response : ρ}
    {operation other now : ℕ} (hstaged : StagedFor requestId response operation s.tables)
    (hexpecting : Expecting requestId operation s.out) {completion : Completion κ}
    (hcompleted : (s.out.jobs other).completion = some completion) (hne : operation ≠ other) :
    StagedFor requestId response operation
      (drainCompletion clientCallee now other completion s).2.tables := by
  have hid : ∀ id, completion.requestId = some id → requestId ≠ id := by
    intro id hid heq
    have hby := h.sound.returned other completion id hcompleted hid
    exact hne (hexpecting.own other (heq ▸ hby)).symm
  unfold drainCompletion
  cases s.out.operations.lookup other with
  | none => exact hstaged
  | some record =>
    change StagedFor requestId response operation (settle other
      (sendCommitted now other completion s).1 (sendCommitted now other completion s).2).2.tables
    have hcommitted := sendCommitted_cases now other completion s
    generalize sendCommitted now other completion s = outcome at hcommitted ⊢
    cases hcommitted with
    | failed code => exact hstaged.retire hne
    | skipped => exact hstaged.retire hne
    | late id ending hown => exact (hstaged.of_erase rfl (hid id hown)).retire hne
    | answered id staged hown => exact (hstaged.of_erase rfl (hid id hown)).retire hne
    | registered id hown => exact (hstaged.of_erase rfl (hid id hown)).retire hne

/-- Where a done callback of another call runs, the response stays. -/
theorem StagedFor.operationTerminal {s : Client κ ρ} (h : Consistent s) {requestId : κ}
    {response : ρ} {operation other now : ℕ}
    (hstaged : StagedFor requestId response operation s.tables)
    (hexpecting : Expecting requestId operation s.out) (hne : operation ≠ other) :
    StagedFor requestId response operation
      (operationTerminal clientCallee now other s).tables := by
  unfold OutboundRequests.operationTerminal
  cases hlookup : s.out.operations.lookup other with
  | none => exact hstaged
  | some record =>
    have hforgot := hstaged.forget now hne fun hid =>
      hne (hexpecting.own other (h.calls.owned other record requestId hlookup hid)).symm
    unfold cancelOperation Requests.withOut
    dsimp only
    split
    · exact hforgot
    · exact hforgot

/-- Another response leaves it staged. -/
theorem StagedFor.takeResponse {s : Client κ ρ} (h : Consistent s) {requestId other : κ}
    {response response' : ρ} {operation now : ℕ}
    (hstaged : StagedFor requestId response operation s.tables)
    (hpending : ((ServiceClient.takeResponse now other response' s).2.out.futures operation).done =
      false) :
    StagedFor requestId response operation
      (ServiceClient.takeResponse now other response' s).2.tables := by
  obtain ⟨record, hlookup, _⟩ := hstaged.unreconciled h
  have hended : ∀ t : Client κ ρ, t.out = s.out → ((cancelEntityOperations clientCallee now
      (.resourceExhausted "Early response staging capacity exhausted") t).out.futures
        operation).done = true :=
    fun t ht => cancelEntityOperations_ends (by rw [ht]; exact hlookup) now _
  unfold ServiceClient.takeResponse at hpending ⊢
  dsimp only at hpending ⊢
  split
  · exact hstaged
  · next hremembered =>
    rw [if_neg hremembered] at hpending
    cases hwaits : s.tables.pending.lookup other with
    | some caller =>
      unfold completeRequest
      dsimp only
      cases s.out.operations.lookup caller with
      | none => exact hstaged
      | some record => exact hstaged
    | none =>
      rw [hwaits] at hpending
      dsimp only at hpending ⊢
      unfold stageResponse at hpending ⊢
      dsimp only at hpending ⊢
      split
      · exact hstaged
      · next hfound =>
        split
        · exact hstaged
        · next hsome =>
          split
          · exact hstaged
          · next hnew =>
            rw [if_neg hfound,if_neg hsome,if_neg hnew] at hpending
            split
            · next hfull =>
              rw [if_pos hfull] at hpending
              refine absurd (hpending.symm.trans (hended _ ?_)) Bool.false_ne_true
              rfl
            · obtain ⟨staged, hearly, hresponse, hmem⟩ := hstaged
              refine ⟨staged,?_,hresponse,hmem⟩
              have hne : requestId ≠ other := by
                intro heq
                rw [← heq] at hnew
                exact hnew (by rw [hearly]; rfl)
              exact (AList.lookup_insert_ne hne).trans hearly

/-- The response stays staged as long as its call waits for it. -/
theorem StagedFor.step {s : Client κ ρ} (h : Consistent s) {requestId : κ} {response : ρ}
    {operation : ℕ} (hstaged : StagedFor requestId response operation s.tables)
    {event : ClientEvent κ ρ} (hen : event.Enabled s)
    (hexpecting : Expecting requestId operation (clientStep event s).2.out)
    (hlater : Later s.out (clientStep event s).2.out) :
    StagedFor requestId response operation (clientStep event s).2.tables := by
  obtain ⟨record, hlookup, hnot⟩ := hstaged.unreconciled h
  have hbefore := hexpecting.before hlater
  cases event with
  | respond now other response' => exact hstaged.takeResponse h hexpecting.pending
  | executor event =>
    cases event with
    | submit kind admission =>
      cases admission with
      | enqueued => exact hstaged.of_early rfl
      | failed callbackAdded code =>
        have hne : operation ≠ s.out.nextOperation := (h.sound.known operation record hlookup).ne
        exact StagedFor.retire (hstaged.of_early rfl) hne
    | drain now other =>
      change StagedFor requestId response operation
        (OutboundRequests.executorStep clientCallee (.drain now other) s).2.tables
      change Expecting requestId operation
        (OutboundRequests.executorStep clientCallee (.drain now other) s).2.out at hexpecting
      unfold OutboundRequests.executorStep at hexpecting ⊢
      dsimp only at hexpecting ⊢
      cases hcompletion : (s.out.jobs other).completion with
      | none => exact hstaged
      | some completion =>
        refine hstaged.drain h hbefore hcompletion fun heq => ?_
        rw [hcompletion] at hexpecting
        rw [← heq] at hexpecting
        refine hexpecting.unsettled ?_
        dsimp only
        unfold drainCompletion
        rw [hlookup]
        exact settle_over _ operation _
    | notify now =>
      change StagedFor requestId response operation
        (OutboundRequests.executorStep clientCallee (.notify now) s).2.tables
      unfold OutboundRequests.executorStep
      dsimp only
      cases hqueue : s.out.notifications with
      | nil => exact hstaged
      | cons other rest =>
        have hne : operation ≠ other := by
          intro heq
          have hdone := h.notified other (by rw [hqueue]; exact List.mem_cons_self)
          rw [← heq,hbefore.pending] at hdone
          cases hdone
        have hpopped : Consistent (s.withOut fun out => { out with notifications := rest }) :=
          h.popped hqueue
        exact hstaged.operationTerminal hpopped
          ⟨hbefore.pending,hbefore.unsettled,hbefore.own⟩ hne
    | cancelAll now =>
      have hpending := hexpecting.pending
      change ((OutboundRequests.executorStep clientCallee (.cancelAll now) s).2.out.futures
        operation).done = false at hpending
      change StagedFor requestId response operation
        (OutboundRequests.executorStep clientCallee (.cancelAll now) s).2.tables
      unfold OutboundRequests.executorStep at hpending ⊢
      dsimp only at hpending ⊢
      cases hcause : s.endCause with
      | none => exact hstaged
      | some cause =>
        rw [hcause] at hpending
        cases (cancelEntityOperations_ends hlookup now cause).symm.trans hpending
    | retire =>
      have hpos := size_pos_of_mem (AList.lookup_isSome.mp (by rw [hlookup]; rfl))
      exact absurd hen.2.1 hpos.ne'
    | _ => exact hstaged

/-- The tables of a Client match its calls. -/
structure Matched (s : Client κ ρ) : Prop where
  /-- Every staged response is for calls whose send is not reconciled. -/
  staged : ∀ requestId staged, s.tables.early.lookup requestId = some staged →
    staged.candidates.Nonempty ∧ staged.candidates ⊆ s.tables.unreconciled
  /-- Such a call is an operation of the executor. -/
  unreconciled : ∀ operation ∈ s.tables.unreconciled, ∃ record,
    s.out.operations.lookup operation = some record ∧ record.sendReconciled = false
  /-- The pending map has exactly the reconciled calls that are outstanding. -/
  pending : ∀ requestId operation, s.tables.pending.lookup requestId = some operation ↔
    ∃ record, s.out.operations.lookup operation = some record ∧ record.sendReconciled = true ∧
      record.requestId = some requestId
  /-- A Future has a response to the RequestId that its own send returned. -/
  own : ∀ operation response, s.out.futures operation = .result response →
    ∃ requestId, s.out.sentBy requestId = some operation ∧
      (requestId,response) ∈ s.tables.received

/-- A step raises nothing, keeps every outcome, and completes with a response
only the Future of its own call. -/
structure Proper (s : Client κ ρ) (event : ClientEvent κ ρ) : Prop where
  /-- No entry is missing. -/
  quiet : (clientStep event s).1 = .ok ()
  /-- An outcome is final. -/
  once : ∀ operation, (s.out.futures operation).done = true →
    (clientStep event s).2.out.futures operation = s.out.futures operation
  /-- A response is for the call that sent its RequestId. -/
  answers : ∀ now requestId response, event = .respond now requestId response →
    ∀ operation result, (clientStep event s).2.out.futures operation = .result result →
      s.out.futures operation = .result result ∨
        result = response ∧ s.out.sentBy requestId = some operation

/-- The send returned a RequestId. -/
def Returned (requestId : κ) (completion : Completion κ) : Prop :=
  completion.error = none ∧ completion.skipped = false ∧ completion.requestId = some requestId

/-- A response that is taken after its send began and before the completion is
handled is handed over then, if the Future still waits and the Client does not
close. -/
def HandedOver (s : Client κ ρ) (operation : ℕ) (requestId : κ) (response : ρ) : Prop :=
  ∀ now later events t completion,
    (machine κ ρ).Run (clientStep (.respond now requestId response) s).2 events t →
    (t.out.jobs operation).completion = some completion → Returned requestId completion →
    (t.out.futures operation).done = false → t.closing = none →
      (clientStep (.executor (.drain later operation)) t).2.out.futures operation = .result response

/-- Steps take nothing back. -/
theorem clientStep_later {s : Client κ ρ} (h : Consistent s) {event : ClientEvent κ ρ}
    (hen : event.Enabled s) : Later s.out (clientStep event s).2.out := by
  have hexecutor : ∀ event : ExecutorEvent κ, event.Enabled s →
      Later s.out (OutboundRequests.executorStep clientCallee event s).2.out :=
    fun event hen => .executorStep h.sound (fun now operation _ completion _ _ =>
      sendCommitted_later now operation completion s) hen
  cases event with
  | executor event =>
    cases event with
    | submit kind admission => exact hexecutor _ hen.1
    | _ => exact hexecutor _ hen
  | respond now requestId response =>
    change Later s.out (takeResponse now requestId response s).2.out
    unfold takeResponse
    dsimp only
    split
    · exact .refl _
    · cases s.tables.pending.lookup requestId with
      | some operation =>
        unfold completeRequest
        dsimp only
        cases s.out.operations.lookup operation with
        | none => exact .refl _
        | some record => exact (Later.drop _ _).trans (.finish _ _ rfl)
      | none =>
        unfold stageResponse
        dsimp only
        split
        · exact .refl _
        · split
          · exact .refl _
          · split
            · exact .refl _
            · split
              · have hends : ∀ t : Client κ ρ, t.out = s.out → Later s.out (cancelEntityOperations
                    clientCallee now
                    (.resourceExhausted "Early response staging capacity exhausted") t).out := by
                  intro t ht
                  rw [← ht]
                  exact .cancelEntityOperations t now _
                refine hends _ ?_
                rfl
              · exact .refl _

/-- Canceling the operations completes no Future with a result. -/
theorem cancelEntityOperations_no_result {s : Client κ ρ} {now : ℕ} {cause : Cause} {operation : ℕ}
    {response : ρ} (hresult : (cancelEntityOperations clientCallee now cause s).out.futures
      operation = .result response) : s.out.futures operation = .result response := by
  refine cancelEntityOperations_induction (motive := fun t =>
    t.out.futures operation = .result response → s.out.futures operation = .result response)
    id (fun t other record ht _ hlater => ?_) hresult
  rw [cancelOne_out] at hlater
  have hbefore := Outbound.finish_no_result (fun _ heq => by cases heq) hlater
  refine ht ?_
  split at hbefore
  · exact hbefore
  · exact hbefore

/-- A response completes the call that is pending under its RequestId. -/
theorem takeResponse_result {s : Client κ ρ} {now : ℕ} {requestId : κ} {response result : ρ}
    {operation : ℕ}
    (hresult : (takeResponse now requestId response s).2.out.futures operation = .result result) :
    s.out.futures operation = .result result ∨
      result = response ∧ s.tables.pending.lookup requestId = some operation := by
  unfold takeResponse at hresult
  dsimp only at hresult
  split at hresult
  · exact Or.inl hresult
  · cases hpending : s.tables.pending.lookup requestId with
    | some caller =>
      rw [hpending] at hresult
      dsimp only at hresult
      unfold completeRequest at hresult
      dsimp only at hresult
      cases hlookup : s.out.operations.lookup caller with
      | none =>
        rw [hlookup] at hresult
        exact Or.inl hresult
      | some record =>
        rw [hlookup] at hresult
        cases Outbound.finish_result hresult with
        | inl hold => exact Or.inl hold
        | inr hnew =>
          cases hnew.2
          exact Or.inr ⟨rfl,congrArg some hnew.1.symm⟩
    | none =>
      rw [hpending] at hresult
      dsimp only at hresult
      unfold stageResponse at hresult
      dsimp only at hresult
      split at hresult
      · exact Or.inl hresult
      · split at hresult
        · exact Or.inl hresult
        · split at hresult
          · exact Or.inl hresult
          · split at hresult
            · have hbefore := cancelEntityOperations_no_result hresult
              exact Or.inl hbefore
            · exact Or.inl hresult

/-- The completion hands the staged response over. -/
theorem drain_answers {s : Client κ ρ} (h : Consistent s) {requestId : κ} {response : ρ}
    {operation : ℕ} {completion : Completion κ}
    (hstaged : StagedFor requestId response operation s.tables)
    (hcompleted : (s.out.jobs operation).completion = some completion)
    (hreturned : Returned requestId completion)
    (hpending : (s.out.futures operation).done = false) (hclosing : s.closing = none) (now : ℕ) :
    (clientStep (.executor (.drain now operation)) s).2.out.futures operation =
      .result response := by
  obtain ⟨record, hlookup, _⟩ := hstaged.unreconciled h
  obtain ⟨staged, hearly, hresponse, _⟩ := hstaged
  obtain ⟨herror, hskipped, hid⟩ := hreturned
  have hfuture : (s.out.identify operation requestId).futures = s.out.futures := rfl
  have hcommitted : sendCommitted now operation completion s = (.ok false,{ s with
      out := (s.out.identify operation requestId).finish operation (.result staged.response)
      tables := ({ s.tables with early := s.tables.early.erase requestId }.bury now
        requestId).retireCandidate operation }) := by
    unfold sendCommitted
    rw [herror,hid]
    dsimp only
    rw [hskipped,if_neg Bool.false_ne_true,hclosing]
    dsimp only
    rw [hfuture,hpending,hearly]
    rfl
  change (OutboundRequests.executorStep clientCallee (.drain now operation) s).2.out.futures
    operation = .result response
  unfold OutboundRequests.executorStep
  dsimp only
  rw [hcompleted]
  dsimp only
  unfold drainCompletion
  rw [hlookup]
  change (settle operation (sendCommitted now operation completion s).1
    (sendCommitted now operation completion s).2).2.out.futures operation = .result response
  rw [hcommitted]
  change ((s.out.identify operation requestId).finish operation
    (.result staged.response)).futures operation = .result response
  have hopen : ((s.out.identify operation requestId).futures operation).done = false := hpending
  rw [Outbound.finish_of_pending hopen]
  dsimp only
  rw [Function.update_self,hresponse]

/-- A response that comes after its send began is staged, if none was. -/
theorem takeResponse_stages {s : Client κ ρ} (h : Consistent s) {operation now : ℕ}
    {requestId : κ} {response : ρ} {record : Operation κ}
    (hlookup : s.out.operations.lookup operation = some record)
    (hnot : record.sendReconciled = false) (hstarted : (s.out.works operation).sendStarted = true)
    (hnone : s.tables.early.lookup requestId = none)
    (hafter : Expecting requestId operation (takeResponse now requestId response s).2.out)
    (hexpecting : Expecting requestId operation s.out) :
    StagedFor requestId response operation (takeResponse now requestId response s).2.tables := by
  have hmem : operation ∈ s.tables.unreconciled.filter fun operation =>
      (s.out.works operation).sendStarted :=
    Finset.mem_filter.mpr ⟨h.waiting.waits operation record hlookup hnot hexpecting.pending,hstarted⟩
  have hforeign : remembered now requestId s.tables.tombstones = false := by
    cases hremembered : remembered now requestId s.tables.tombstones with
    | false => rfl
    | true =>
      obtain ⟨tombstone, hfound, _⟩ := (Option.any_eq_true _ _).mp hremembered
      obtain ⟨other, hby, hover⟩ := h.history.buried requestId (by rw [hfound]; rfl)
      rw [hexpecting.own other hby] at hover
      exact absurd hover hexpecting.unsettled
  have hwaits : s.tables.pending.lookup requestId = none := by
    cases hpending : s.tables.pending.lookup requestId with
    | none => rfl
    | some other =>
      obtain ⟨record', hlookup', hreconciled, _⟩ := (h.calls.pending requestId other).mp hpending
      rw [hexpecting.own other (h.calls.sender hpending),hlookup] at hlookup'
      cases hlookup'
      rw [hnot] at hreconciled
      cases hreconciled
  have hpending := hafter.pending
  unfold takeResponse at hpending ⊢
  dsimp only at hpending ⊢
  rw [hforeign,if_neg Bool.false_ne_true] at hpending ⊢
  rw [hwaits] at hpending ⊢
  dsimp only at hpending ⊢
  unfold stageResponse at hpending ⊢
  dsimp only at hpending ⊢
  rw [if_neg h.candidates_found,if_neg (Finset.ne_empty_of_mem hmem),hnone,Option.isSome_none,
    if_neg Bool.false_ne_true] at hpending ⊢
  split
  · next hfull =>
    rw [if_pos hfull] at hpending
    have hended : ∀ t : Client κ ρ, t.out = s.out → ((cancelEntityOperations clientCallee now
        (.resourceExhausted "Early response staging capacity exhausted") t).out.futures
          operation).done = true :=
      fun t ht => cancelEntityOperations_ends (by rw [ht]; exact hlookup) now _
    refine absurd (hpending.symm.trans (hended _ ?_)) Bool.false_ne_true
    rfl
  · exact ⟨_,AList.lookup_insert _,rfl,hmem⟩

/-- A response that comes after its send began is staged, if none was, and stays
so until the completion is handled. -/
theorem handedOver {s : Client κ ρ} (h : Consistent s) {operation : ℕ} {requestId : κ}
    (response : ρ) (hstarted : (s.out.works operation).sendStarted = true)
    (houtstanding : (s.out.jobs operation).outstanding = true)
    (hnone : s.tables.early.lookup requestId = none) :
    HandedOver s operation requestId response := by
  intro now later events t completion hrun hcompleted hreturned hpending hclosing
  obtain ⟨record, hlookup, hnot⟩ := (h.sound.held operation).mp houtstanding
  have hfirst : Consistent (clientStep (.respond now requestId response) s).2 :=
    (h.takeResponse now requestId response).2
  have hrespond : Later s.out (clientStep (.respond now requestId response) s).2.out :=
    clientStep_later h trivial
  have hinvariant : Consistent t ∧ Later (clientStep (.respond now requestId response) s).2.out t.out ∧
      (Expecting requestId operation t.out → StagedFor requestId response operation t.tables) := by
    refine hrun.invariant (fun t => Consistent t ∧
      Later (clientStep (.respond now requestId response) s).2.out t.out ∧
      (Expecting requestId operation t.out → StagedFor requestId response operation t.tables))
      ⟨hfirst,.refl _,fun hexpecting => ?_⟩ fun u event hu hen _ => ?_
    · exact takeResponse_stages h hlookup hnot hstarted hnone hexpecting
        (hexpecting.before hrespond)
    · have hnext := clientStep_later hu.1 hen
      exact ⟨(hu.1.step hen).2,hu.2.1.trans hnext,fun hexpecting =>
        (hu.2.2 (hexpecting.before hnext)).step hu.1 hen hexpecting hnext⟩
  obtain ⟨ht, hlater, hstays⟩ := hinvariant
  have hby := ht.sound.returned operation completion requestId hcompleted hreturned.2.2
  refine drain_answers ht (hstays ⟨hpending,fun hover => ?_,fun other hother => ?_⟩) hcompleted
    hreturned hpending hclosing later
  · rw [hover] at hcompleted
    cases hcompleted
  · rw [hby] at hother
    cases hother
    rfl

/-- In every run, the tables of a Client match its calls, its steps are proper,
and responses that come early are handed over. -/
theorem responses_correlated {s : Client κ ρ} {events : List (ClientEvent κ ρ)}
    (hrun : (machine κ ρ).Run (initial κ ρ) events s) :
    Matched s ∧ (∀ event : ClientEvent κ ρ, event.Enabled s → Proper s event) ∧
      ∀ operation requestId response, (s.out.works operation).sendStarted = true →
        (s.out.jobs operation).outstanding = true → s.tables.early.lookup requestId = none →
          HandedOver s operation requestId response := by
  have h := consistent_of_run hrun
  refine ⟨⟨h.waiting.covered,h.waiting.candidates,h.calls.pending,h.history.results⟩,
    fun event hen => ⟨(h.step hen).1,(clientStep_later h hen).ended,?_⟩,
    fun operation requestId response hstarted houtstanding hnone =>
      handedOver h response hstarted houtstanding hnone⟩
  intro now requestId response heq operation result hresult
  rw [heq] at hresult
  cases takeResponse_result hresult with
  | inl hold => exact Or.inl hold
  | inr hnew => exact Or.inr ⟨hnew.1,h.calls.sender hnew.2⟩

/-- A call whose response comes before its completion is handled. -/
def answeredRun : List (ClientEvent ℕ ℕ) :=
  [.executor (.submit .service .enqueued),.executor (.start 1),.executor (.sent 1 (.ok 7)),
    .respond 0 7 70,.executor (.drain 0 1)]

/-- The call gets its response. -/
theorem responses_correlated_answered : ∃ s, (machine ℕ ℕ).exec (initial ℕ ℕ) answeredRun = some s ∧
    s.out.futures 1 = .result 70 ∧ Matched s := by
  have hfuture : ((machine ℕ ℕ).exec (initial ℕ ℕ) answeredRun).map (fun s => s.out.futures 1) =
      some (.result 70) := by decide +kernel
  obtain ⟨s, hexec, hresult⟩ := Option.map_eq_some_iff.mp hfuture
  exact ⟨s,hexec,hresult,(responses_correlated (run_of_exec hexec)).1⟩

/-- The Client closes while a response is staged. -/
def closingRun : List (ClientEvent ℕ ℕ) :=
  [.executor (.submit .service .enqueued),.executor (.start 1),.executor (.sent 1 (.ok 7)),
    .respond 0 7 70,.executor (.close .entityClosed)]

/-- A response with the RequestId of a later send is staged for an earlier one. -/
def foreignRun : List (ClientEvent ℕ ℕ) :=
  [.executor (.submit .service .enqueued),.executor (.start 1),.respond 0 8 80,
    .executor (.submit .service .enqueued),.executor (.start 2),.executor (.sent 2 (.ok 8)),
    .respond 0 8 81,.executor (.sent 1 (.ok 7)),.executor (.drain 0 1)]

/-- A response that was taken before the completion of its send is lost, while
the Future waits and nothing overflows: to a close, or to a response that came
before the send. -/
theorem early_response_lost :
    (((machine ℕ ℕ).exec (initial ℕ ℕ) closingRun).map fun s =>
        (s.out.sentBy 7,s.out.futures 1,s.tables.received)) = some (some 1,.pending,[(7,70)]) ∧
    (((machine ℕ ℕ).exec (initial ℕ ℕ) (closingRun ++ [.executor (.drain 0 1)])).map fun s =>
        s.out.futures 1) = some (.exception (.ended .entityClosed)) ∧
    (((machine ℕ ℕ).exec (initial ℕ ℕ) foreignRun).map fun s =>
        (s.out.sentBy 8,s.out.futures 2,s.closing,s.tables.received)) =
      some (some 2,.pending,none,[(8,80),(8,81)]) ∧
    (((machine ℕ ℕ).exec (initial ℕ ℕ) (foreignRun ++ [.executor (.drain 0 2)])).map fun s =>
        s.out.futures 2) = some .pending := by decide +kernel

end Dmw.ServiceClient
