import Dmw.OutboundRequests

/-!
# Progress of outbound requests

The operations of an executor, the jobs of its dispatcher and the RequestIds
that were sent agree in every state, and no step takes back an outcome, an
acknowledgement or a RequestId. A client keeps both as long as it touches only
the operation that a completion is about.
-/

namespace Dmw.OutboundRequests

open KeyedTable KeyedTable.Table

section Soundness

variable {κ ρ : Type} {s : Outbound κ ρ}

/-- The operations, the jobs and the sent RequestIds of an executor agree. -/
structure Sound (s : Outbound κ ρ) : Prop where
  /-- Operations were numbered. -/
  known : ∀ operation record, s.operations.lookup operation = some record →
    operation < s.nextOperation
  /-- A number that was not given away has no job, and its Future no outcome. -/
  fresh : ∀ operation, s.nextOperation ≤ operation →
    s.jobs operation = .absent ∧ (s.futures operation).done = false
  /-- The jobs that are outstanding are those of operations whose send is not
  reconciled. -/
  held : ∀ operation, (s.jobs operation).outstanding = true ↔
    ∃ record, s.operations.lookup operation = some record ∧ record.sendReconciled = false
  /-- The job of a reconciled operation is over. -/
  reconciled : ∀ operation record, s.operations.lookup operation = some record →
    record.sendReconciled = true → s.jobs operation = .acknowledged
  /-- A completion has the RequestId that the send of its operation returned. -/
  returned : ∀ operation completion requestId, (s.jobs operation).completion = some completion →
    completion.requestId = some requestId → s.sentBy requestId = some operation
  /-- The job of an operation that sent a RequestId has it, or is over. -/
  sender : ∀ operation requestId, s.sentBy requestId = some operation →
    s.jobs operation = .acknowledged ∨ ∃ completion,
      (s.jobs operation).completion = some completion ∧ completion.requestId = some requestId

theorem Sound.initial : Sound (Outbound.initial κ ρ) where
  known := fun _ _ h => by cases h
  fresh := fun _ _ => ⟨rfl,rfl⟩
  held := fun _ => ⟨fun h => (by cases h),fun ⟨_,h,_⟩ => (by cases h)⟩
  reconciled := fun _ _ h => by cases h
  returned := fun _ _ _ h => by cases h
  sender := fun _ _ h => by cases h

/-- Only Futures of numbers that were given away change. -/
theorem Sound.of_futures {t : Outbound κ ρ} (h : Sound s) (hoperations : t.operations = s.operations)
    (hnext : t.nextOperation = s.nextOperation) (hjobs : t.jobs = s.jobs)
    (hsent : t.sentBy = s.sentBy)
    (hfutures : ∀ operation, s.nextOperation ≤ operation →
      t.futures operation = s.futures operation) : Sound t := by
  constructor
  · rw [hoperations,hnext]
    exact h.known
  · intro operation hle
    rw [hnext] at hle
    rw [hjobs,hfutures operation hle]
    exact h.fresh operation hle
  · rw [hoperations,hjobs]
    exact h.held
  · rw [hoperations,hjobs]
    exact h.reconciled
  · rw [hjobs,hsent]
    exact h.returned
  · rw [hjobs,hsent]
    exact h.sender

theorem Outbound.finish_of_done {operation : ℕ} {outcome : FutureState ρ}
    (hdone : (s.futures operation).done = true) : s.finish operation outcome = s := by
  unfold Outbound.finish
  rw [if_pos hdone]

theorem Outbound.finish_of_pending {operation : ℕ} {outcome : FutureState ρ}
    (hpending : (s.futures operation).done = false) : s.finish operation outcome =
      { s with
        futures := Function.update s.futures operation outcome
        notifications := s.notifications ++ [operation] } := by
  unfold Outbound.finish
  rw [if_neg (by rw [hpending]; exact Bool.false_ne_true)]

@[simp] theorem Outbound.finish_operations (operation : ℕ) (outcome : FutureState ρ) :
    (s.finish operation outcome).operations = s.operations := by
  unfold Outbound.finish
  split <;> rfl

@[simp] theorem Outbound.finish_nextOperation (operation : ℕ) (outcome : FutureState ρ) :
    (s.finish operation outcome).nextOperation = s.nextOperation := by
  unfold Outbound.finish
  split <;> rfl

@[simp] theorem Outbound.finish_jobs (operation : ℕ) (outcome : FutureState ρ) :
    (s.finish operation outcome).jobs = s.jobs := by
  unfold Outbound.finish
  split <;> rfl

@[simp] theorem Outbound.finish_sentBy (operation : ℕ) (outcome : FutureState ρ) :
    (s.finish operation outcome).sentBy = s.sentBy := by
  unfold Outbound.finish
  split <;> rfl

/-- The Future of another operation stays as it is. -/
theorem Outbound.finish_other {operation other : ℕ} (hne : other ≠ operation)
    (outcome : FutureState ρ) :
    (s.finish operation outcome).futures other = s.futures other := by
  unfold Outbound.finish
  split
  · rfl
  · exact Function.update_of_ne hne _ _

/-- A Future that has an outcome keeps it. -/
theorem Outbound.finish_keeps {operation other : ℕ} (outcome : FutureState ρ)
    (hdone : (s.futures other).done = true) :
    (s.finish operation outcome).futures other = s.futures other := by
  by_cases heq : other = operation
  · rw [Outbound.finish_of_done (heq ▸ hdone)]
  · exact Outbound.finish_other heq outcome

/-- The Future has an outcome then. -/
theorem Outbound.finish_done (operation : ℕ) {outcome : FutureState ρ} (hdone : outcome.done = true) :
    ((s.finish operation outcome).futures operation).done = true := by
  unfold Outbound.finish
  split
  · next h => exact h
  · dsimp only
    rw [Function.update_self]
    exact hdone

/-- A result was there before, or it is the outcome. -/
theorem Outbound.finish_result {operation other : ℕ} {outcome : FutureState ρ} {response : ρ}
    (hresult : (s.finish operation outcome).futures other = .result response) :
    s.futures other = .result response ∨ other = operation ∧ outcome = .result response := by
  by_cases heq : other = operation
  · cases hdone : (s.futures operation).done with
    | true =>
      rw [Outbound.finish_of_done hdone] at hresult
      exact Or.inl hresult
    | false =>
      rw [Outbound.finish_of_pending hdone,heq] at hresult
      dsimp only at hresult
      rw [Function.update_self] at hresult
      exact Or.inr ⟨heq,hresult⟩
  · rw [Outbound.finish_other heq] at hresult
    exact Or.inl hresult

/-- Futures end without a result. -/
theorem Outbound.finish_no_result {operation other : ℕ} {outcome : FutureState ρ}
    (hnone : ∀ response, outcome ≠ .result response) {response : ρ}
    (hresult : (s.finish operation outcome).futures other = .result response) :
    s.futures other = .result response :=
  (Outbound.finish_result hresult).resolve_right fun h => hnone response h.2

theorem Sound.finish (h : Sound s) {operation : ℕ} (hlt : operation < s.nextOperation)
    (outcome : FutureState ρ) : Sound (s.finish operation outcome) := by
  refine h.of_futures (by simp) (by simp) (by simp) (by simp) fun other hle => ?_
  exact Outbound.finish_other (by omega) outcome

/-- A job changes that stays outstanding. -/
theorem Sound.of_job {t : Outbound κ ρ} (h : Sound s) (operation : ℕ) (job : Job κ)
    (hwas : (s.jobs operation).outstanding = true) (his : job.outstanding = true)
    (hoperations : t.operations = s.operations) (hnext : t.nextOperation = s.nextOperation)
    (hfutures : t.futures = s.futures) (hjobs : t.jobs = Function.update s.jobs operation job)
    (hsent : ∀ requestId other, t.sentBy requestId = some other ↔
      s.sentBy requestId = some other ∨ other = operation ∧
        ∃ completion, job.completion = some completion ∧ completion.requestId = some requestId)
    (hbefore : ∀ completion, (s.jobs operation).completion = some completion →
      job.completion = some completion ∨ completion.requestId = none) : Sound t := by
  have hself : t.jobs operation = job := by rw [hjobs,Function.update_self]
  have hother : ∀ other, other ≠ operation → t.jobs other = s.jobs other := fun other hne => by
    rw [hjobs,Function.update_of_ne hne]
  constructor
  · rw [hoperations,hnext]
    exact h.known
  · intro other hle
    rw [hnext] at hle
    have hfresh := h.fresh other hle
    have hne : other ≠ operation := by
      intro heq
      rw [← heq,hfresh.1] at hwas
      cases hwas
    rw [hother other hne,hfutures]
    exact hfresh
  · intro other
    rw [hoperations]
    by_cases heq : other = operation
    · rw [heq,hself,← h.held,hwas,his]
    · rw [hother other heq]
      exact h.held other
  · intro other record hlookup hreconciled
    rw [hoperations] at hlookup
    have hover := h.reconciled other record hlookup hreconciled
    have hne : other ≠ operation := by
      intro heq
      rw [← heq,hover] at hwas
      cases hwas
    rw [hother other hne]
    exact hover
  · intro other completion requestId hcompletion hid
    by_cases heq : other = operation
    · rw [heq,hself] at hcompletion
      exact (hsent requestId other).mpr (Or.inr ⟨heq,completion,hcompletion,hid⟩)
    · rw [hother other heq] at hcompletion
      exact (hsent requestId other).mpr (Or.inl (h.returned other completion requestId hcompletion hid))
  · intro other requestId hby
    cases (hsent requestId other).mp hby with
    | inr hnew =>
      obtain ⟨heq, completion, hcompletion, hid⟩ := hnew
      rw [heq,hself]
      exact Or.inr ⟨completion,hcompletion,hid⟩
    | inl hold =>
      by_cases heq : other = operation
      · rw [heq,hself]
        cases h.sender other requestId hold with
        | inl hover =>
          rw [← heq,hover] at hwas
          cases hwas
        | inr hthere =>
          obtain ⟨completion, hcompletion, hid⟩ := hthere
          rw [heq] at hcompletion
          cases hbefore completion hcompletion with
          | inl hkept => exact Or.inr ⟨completion,hkept,hid⟩
          | inr hnone =>
            rw [hnone] at hid
            cases hid
      · rw [hother other heq]
        exact h.sender other requestId hold

/-- A job that is not queued stays where it is. -/
theorem Job.cancelQueued_of_not {kind : RequestKind} {job : Job κ} (h : job.isQueued = false) :
    job.cancelQueued kind = job := by
  cases job with
  | queued => cases h
  | _ => rfl

/-- A job that waits in a queue is the queued one. -/
theorem Job.eq_queued {job : Job κ} (h : job.isQueued = true) : job = .queued := by
  cases job with
  | queued => rfl
  | _ => cases h

/-- A job whose completion names no request adds no request that was sent. -/
theorem Job.unsent_iff {p : Prop} {job : Job κ} {requestId : κ} {operation other : ℕ}
    (hnone : ∀ completion, job.completion = some completion → completion.requestId = none) :
    p ↔ p ∨ other = operation ∧
      ∃ completion, job.completion = some completion ∧ completion.requestId = some requestId := by
  refine ⟨Or.inl,fun hcase => hcase.resolve_right ?_⟩
  rintro ⟨-,completion,hcompletion,hid⟩
  rw [hnone completion hcompletion] at hid
  cases hid

theorem Sound.cancelWork (h : Sound s) (operation : ℕ) : Sound (s.cancelWork operation) := by
  cases hjob : (s.jobs operation).isQueued with
  | false =>
    have hjobs : (s.cancelWork operation).jobs = s.jobs := by
      unfold Outbound.cancelWork
      dsimp only
      rw [Job.cancelQueued_of_not hjob,Function.update_eq_self]
    exact h.of_futures rfl rfl hjobs rfl fun _ _ => rfl
  | true =>
    have hqueued := Job.eq_queued hjob
    refine h.of_job operation (.completed { kind := (s.works operation).kind, skipped := true })
      (by rw [hqueued]; rfl) rfl rfl rfl rfl ?_ (fun _ _ => Job.unsent_iff ?_) fun completion hwas => ?_
    · unfold Outbound.cancelWork
      dsimp only
      rw [hqueued]
      rfl
    · rintro _ ⟨⟩
      rfl
    · rw [hqueued] at hwas
      cases hwas

theorem Sound.cancel (h : Sound s) {operation : ℕ} (hlt : operation < s.nextOperation) :
    Sound (s.cancel operation) := by
  unfold Outbound.cancel
  split
  · exact h
  · exact (h.cancelWork operation).finish hlt .canceled

/-- A job whose write is under way is the sending one. -/
theorem Job.eq_sending {job : Job κ} (h : job.isSending = true) : job = .sending := by
  cases job with
  | sending => rfl
  | _ => cases h

/-- A job with a completion is the completed one. -/
theorem Job.eq_completed {job : Job κ} {completion : Completion κ}
    (h : job.completion = some completion) : job = .completed completion := by
  cases job with
  | completed other =>
    cases h
    rfl
  | _ => cases h

theorem Sound.start (h : Sound s) {operation : ℕ} (hqueued : (s.jobs operation).isQueued = true) :
    Sound (s.start operation) := by
  have hjob := Job.eq_queued hqueued
  have hwas : (s.jobs operation).outstanding = true := by
    rw [hjob]
    rfl
  have hbefore : ∀ completion, (s.jobs operation).completion ≠ some completion := by
    intro completion heq
    rw [hjob] at heq
    cases heq
  unfold Outbound.start
  split
  · refine h.of_job operation (.completed { kind := (s.works operation).kind, skipped := true })
      hwas rfl rfl rfl rfl rfl (fun _ _ => Job.unsent_iff ?_) fun completion heq =>
        absurd heq (hbefore completion)
    rintro _ ⟨⟩
    rfl
  · refine h.of_job operation .sending hwas rfl rfl rfl rfl rfl (fun _ _ => Job.unsent_iff ?_)
      fun completion heq => absurd heq (hbefore completion)
    rintro _ ⟨⟩

theorem Sound.sent [DecidableEq κ] (h : Sound s) {operation : ℕ} (outcome : Except ℕ κ)
    (hsending : (s.jobs operation).isSending = true)
    (hnew : ∀ requestId, outcome = .ok requestId → s.sentBy requestId = none) :
    Sound (s.sent operation outcome) := by
  have hjob := Job.eq_sending hsending
  have hwas : (s.jobs operation).outstanding = true := by
    rw [hjob]
    rfl
  have hbefore : ∀ completion, (s.jobs operation).completion ≠ some completion := by
    intro completion heq
    rw [hjob] at heq
    cases heq
  cases outcome with
  | ok requestId =>
    refine h.of_job operation
      (.completed { kind := (s.works operation).kind, requestId := some requestId })
      hwas rfl rfl rfl rfl rfl (fun id other => ?_) fun completion heq =>
        absurd heq (hbefore completion)
    change Function.update s.sentBy requestId (some operation) id = some other ↔ _
    by_cases heq : id = requestId
    · rw [heq,Function.update_self,hnew requestId rfl]
      constructor
      · intro hsome
        cases hsome
        exact Or.inr ⟨rfl,_,rfl,rfl⟩
      · intro hcase
        cases hcase with
        | inl hold => cases hold
        | inr hnew => rw [hnew.1]
    · rw [Function.update_of_ne heq]
      constructor
      · exact Or.inl
      · intro hcase
        cases hcase with
        | inl hold => exact hold
        | inr hnew =>
          obtain ⟨_, completion, hcompletion, hid⟩ := hnew
          cases hcompletion
          cases hid
          exact absurd rfl heq
  | error code =>
    refine h.of_job operation
      (.completed { kind := (s.works operation).kind, error := some code })
      hwas rfl rfl rfl rfl rfl (fun _ _ => Job.unsent_iff ?_) fun completion heq =>
        absurd heq (hbefore completion)
    rintro _ ⟨⟩
    rfl

/-- A number that is given away has no operation yet. -/
theorem Sound.lookup_next (h : Sound s) : s.operations.lookup s.nextOperation = none := by
  cases hlookup : s.operations.lookup s.nextOperation with
  | none => rfl
  | some record => exact absurd (h.known _ _ hlookup) (lt_irrefl _)

theorem Sound.enqueued (h : Sound s) (kind : RequestKind) :
    Sound ((s.register kind).enqueue s.nextOperation) := by
  have hnone := h.lookup_next
  have hlookup : ∀ operation, ((s.register kind).enqueue s.nextOperation).operations.lookup operation =
      if operation = s.nextOperation then some {} else s.operations.lookup operation := by
    intro operation
    change (s.operations.insert s.nextOperation {}).lookup operation = _
    split
    · next heq => rw [heq,AList.lookup_insert]
    · next hne => rw [AList.lookup_insert_ne hne]
  have hself : ((s.register kind).enqueue s.nextOperation).jobs s.nextOperation = .queued :=
    Function.update_self _ _ _
  have hother : ∀ operation, operation ≠ s.nextOperation →
      ((s.register kind).enqueue s.nextOperation).jobs operation = s.jobs operation :=
    fun operation hne => Function.update_of_ne hne _ _
  constructor
  · intro operation record heq
    rw [hlookup] at heq
    change operation < s.nextOperation + 1
    split at heq
    · next hop => omega
    · have hlt := h.known operation record heq
      omega
  · intro operation hle
    change s.nextOperation + 1 ≤ operation at hle
    rw [hother operation (by omega)]
    exact h.fresh operation (by omega)
  · intro operation
    rw [hlookup]
    by_cases hop : operation = s.nextOperation
    · rw [if_pos hop,hop,hself]
      exact ⟨fun _ => ⟨{},rfl,rfl⟩,fun _ => rfl⟩
    · rw [if_neg hop,hother operation hop]
      exact h.held operation
  · intro operation record heq hreconciled
    rw [hlookup] at heq
    split at heq
    · cases heq
      cases hreconciled
    · next hop =>
      rw [hother operation hop]
      exact h.reconciled operation record heq hreconciled
  · intro operation completion requestId heq hid
    by_cases hop : operation = s.nextOperation
    · rw [hop,hself] at heq
      cases heq
    · rw [hother operation hop] at heq
      exact h.returned operation completion requestId heq hid
  · intro operation requestId hby
    have hold := h.sender operation requestId hby
    by_cases hop : operation = s.nextOperation
    · rw [hop,(h.fresh s.nextOperation le_rfl).1] at hold
      cases hold with
      | inl hover => cases hover
      | inr hthere =>
        obtain ⟨completion, hcompletion, _⟩ := hthere
        cases hcompletion
    · rw [hother operation hop]
      exact hold

/-- Numbers may be given away without an operation of this client. -/
theorem Sound.skip {t : Outbound κ ρ} (h : Sound s)
    (hoperations : ∀ operation, t.operations.lookup operation = s.operations.lookup operation)
    (hnext : s.nextOperation ≤ t.nextOperation) (hjobs : t.jobs = s.jobs)
    (hsent : t.sentBy = s.sentBy) (hfutures : ∀ operation, t.nextOperation ≤ operation →
      t.futures operation = s.futures operation) : Sound t := by
  constructor
  · intro operation record heq
    rw [hoperations] at heq
    exact lt_of_lt_of_le (h.known operation record heq) hnext
  · intro operation hle
    rw [hjobs,hfutures operation hle]
    exact h.fresh operation (hnext.trans hle)
  · intro operation
    rw [hjobs,hoperations]
    exact h.held operation
  · intro operation record heq
    rw [hoperations] at heq
    rw [hjobs]
    exact h.reconciled operation record heq
  · rw [hjobs,hsent]
    exact h.returned
  · rw [hjobs,hsent]
    exact h.sender

/-- An operation whose send is reconciled may be dropped. -/
theorem Sound.drop (h : Sound s) {operation : ℕ}
    (hover : (s.jobs operation).outstanding = false) : Sound (s.drop operation) := by
  have hself : (s.drop operation).operations.lookup operation = none := AList.lookup_erase _ _
  have hother : ∀ other, other ≠ operation →
      (s.drop operation).operations.lookup other = s.operations.lookup other :=
    fun other hne => AList.lookup_erase_ne hne
  have hsub : ∀ other record, (s.drop operation).operations.lookup other = some record →
      s.operations.lookup other = some record := by
    intro other record heq
    by_cases hop : other = operation
    · rw [hop,hself] at heq
      cases heq
    · rw [hother other hop] at heq
      exact heq
  constructor
  · exact fun other record heq => h.known other record (hsub other record heq)
  · exact h.fresh
  · intro other
    by_cases hop : other = operation
    · rw [hop,hself]
      constructor
      · intro houtstanding
        exact absurd (hover.symm.trans houtstanding) Bool.false_ne_true
      · intro hsome
        obtain ⟨record, heq, _⟩ := hsome
        cases heq
    · rw [hother other hop]
      exact h.held other
  · exact fun other record heq => h.reconciled other record (hsub other record heq)
  · exact h.returned
  · exact h.sender

/-- What the handling of a completion may change: its own operation, and Futures. -/
structure Touches (operation : ℕ) (s t : Outbound κ ρ) : Prop where
  /-- Other operations stay. -/
  others : ∀ other, other ≠ operation → t.operations.lookup other = s.operations.lookup other
  /-- The operation is not reconciled yet. -/
  own : ∀ record, t.operations.lookup operation = some record → record.sendReconciled = false
  /-- No number is given away. -/
  next : t.nextOperation = s.nextOperation
  /-- The dispatcher is not used. -/
  jobs : t.jobs = s.jobs
  /-- Nothing is sent. -/
  sent : t.sentBy = s.sentBy
  /-- Only Futures of operations change. -/
  futures : ∀ other, s.nextOperation ≤ other → t.futures other = s.futures other

theorem Touches.refl (h : Sound s) {operation : ℕ} {completion : Completion κ}
    (hcompleted : (s.jobs operation).completion = some completion) : Touches operation s s where
  others := fun _ _ => rfl
  own := by
    intro record hlookup
    cases hreconciled : record.sendReconciled with
    | false => rfl
    | true =>
      rw [h.reconciled operation record hlookup hreconciled] at hcompleted
      cases hcompleted
  next := rfl
  jobs := rfl
  sent := rfl
  futures := fun _ _ => rfl

/-- The Future of the operation may end. -/
theorem Touches.finish {t : Outbound κ ρ} {operation : ℕ} (h : Touches operation s t)
    (hlt : operation < s.nextOperation) (outcome : FutureState ρ) :
    Touches operation s (t.finish operation outcome) where
  others := by
    rw [Outbound.finish_operations]
    exact h.others
  own := by
    rw [Outbound.finish_operations]
    exact h.own
  next := by
    rw [Outbound.finish_nextOperation]
    exact h.next
  jobs := by
    rw [Outbound.finish_jobs]
    exact h.jobs
  sent := by
    rw [Outbound.finish_sentBy]
    exact h.sent
  futures := fun other hle => by
    rw [Outbound.finish_other (by omega)]
    exact h.futures other hle

/-- The operation may learn its RequestId. -/
theorem Touches.identify {t : Outbound κ ρ} {operation : ℕ} (h : Touches operation s t)
    (requestId : κ) : Touches operation s (t.identify operation requestId) where
  others := fun other hne => (lookup_modify_ne hne _ _).trans (h.others other hne)
  own := by
    intro record hlookup
    change (modify operation _ t.operations).lookup operation = some record at hlookup
    rw [lookup_modify_self,Option.map_eq_some_iff] at hlookup
    obtain ⟨old, hold, rfl⟩ := hlookup
    exact h.own old hold
  next := h.next
  jobs := h.jobs
  sent := h.sent
  futures := h.futures

/-- Once its completion is acknowledged, an operation is reconciled or gone. -/
theorem Sound.settled {t : Outbound κ ρ} (h : Sound s) {operation : ℕ} {completion : Completion κ}
    (hcompleted : (s.jobs operation).completion = some completion) (htouches : Touches operation s t)
    {operations : Table ℕ (Operation κ)}
    (hothers : ∀ other, other ≠ operation → operations.lookup other = t.operations.lookup other)
    (hown : ∀ record, operations.lookup operation = some record → record.sendReconciled = true) :
    Sound { t.acknowledge operation with operations := operations } := by
  have hjob := Job.eq_completed hcompleted
  have hself : (t.acknowledge operation).jobs operation = .acknowledged := Function.update_self _ _ _
  have hother : ∀ other, other ≠ operation → (t.acknowledge operation).jobs other = s.jobs other := by
    intro other hne
    refine (Function.update_of_ne hne _ _).trans ?_
    rw [htouches.jobs]
  have hlt : operation < s.nextOperation := by
    have hheld := (h.held operation).mp (by rw [hjob]; rfl)
    obtain ⟨record, hlookup, _⟩ := hheld
    exact h.known operation record hlookup
  have hback : ∀ other record, other ≠ operation → operations.lookup other = some record →
      s.operations.lookup other = some record := by
    intro other record hne heq
    rw [hothers other hne,htouches.others other hne] at heq
    exact heq
  constructor
  · intro other record heq
    change other < t.nextOperation
    rw [htouches.next]
    by_cases hop : other = operation
    · rw [hop]
      exact hlt
    · exact h.known other record (hback other record hop heq)
  · intro other hle
    change t.nextOperation ≤ other at hle
    rw [htouches.next] at hle
    change (t.acknowledge operation).jobs other = .absent ∧ (t.futures other).done = false
    rw [hother other (by omega),htouches.futures other hle]
    exact h.fresh other hle
  · intro other
    change ((t.acknowledge operation).jobs other).outstanding = true ↔ ∃ record,
      operations.lookup other = some record ∧ record.sendReconciled = false
    by_cases hop : other = operation
    · rw [hop,hself]
      constructor
      · intro houtstanding
        cases houtstanding
      · intro hsome
        obtain ⟨record, heq, hnot⟩ := hsome
        rw [hown record heq] at hnot
        cases hnot
    · rw [hother other hop,hothers other hop,htouches.others other hop]
      exact h.held other
  · intro other record heq hreconciled
    change (t.acknowledge operation).jobs other = .acknowledged
    by_cases hop : other = operation
    · rw [hop,hself]
    · rw [hother other hop]
      exact h.reconciled other record (hback other record hop heq) hreconciled
  · intro other completion' requestId heq hid
    change ((t.acknowledge operation).jobs other).completion = some completion' at heq
    change t.sentBy requestId = some other
    by_cases hop : other = operation
    · rw [hop,hself] at heq
      cases heq
    · rw [hother other hop] at heq
      rw [htouches.sent]
      exact h.returned other completion' requestId heq hid
  · intro other requestId hby
    change t.sentBy requestId = some other at hby
    change (t.acknowledge operation).jobs other = .acknowledged ∨ ∃ completion,
      ((t.acknowledge operation).jobs other).completion = some completion ∧ _
    by_cases hop : other = operation
    · rw [hop,hself]
      exact Or.inl rfl
    · rw [htouches.sent] at hby
      rw [hother other hop]
      exact h.sender other requestId hby

end Soundness

section Steps

variable {κ ρ τ : Type} {callee : Callee κ ρ τ} {s : Requests κ ρ τ}

/-- One round leaves the other operations as they are. -/
theorem cancelOne_others {operation other : ℕ} (hne : other ≠ operation) (now : ℕ) (cause : Cause)
    (record : Operation κ) :
    (cancelOne callee now cause operation record s).out.operations.lookup other =
      s.out.operations.lookup other := by
  unfold cancelOne Requests.withOut
  dsimp only
  rw [Outbound.finish_operations]
  split
  · exact AList.lookup_erase_ne hne
  · rfl

/-- The operations are handled one by one, each as it was at the start. -/
theorem cancelEntityOperations_induction {motive : Requests κ ρ τ → Prop} (hstart : motive s)
    {now : ℕ} {cause : Cause}
    (hstep : ∀ t operation record, motive t →
      t.out.operations.lookup operation = some record →
        motive (cancelOne callee now cause operation record t)) :
    motive (cancelEntityOperations callee now cause s) := by
  have hloop : ∀ (entries : List (Sigma fun _ : ℕ => Operation κ)) (t : Requests κ ρ τ),
      entries.NodupKeys → (∀ entry ∈ entries,
        t.out.operations.lookup entry.1 = some entry.2) → motive t →
      motive (entries.foldl (fun s entry => cancelOne callee now cause entry.1 entry.2 s) t) := by
    intro entries
    induction entries with
    | nil => exact fun t _ _ ht => ht
    | cons entry rest ih =>
      intro t hnodup hcurrent ht
      rw [List.nodupKeys_cons] at hnodup
      refine ih _ hnodup.2 (fun other hmem => ?_)
        (hstep t entry.1 entry.2 ht (hcurrent entry List.mem_cons_self))
      have hne : other.1 ≠ entry.1 := by
        intro heq
        exact hnodup.1 (heq ▸ List.mem_keys_of_mem hmem)
      rw [cancelOne_others hne]
      exact hcurrent other (List.mem_cons_of_mem _ hmem)
  exact hloop s.out.operations.entries s s.out.operations.nodupKeys
    (fun entry hmem => lookup_of_mem_entries hmem) hstart

/-- A job that is not outstanding is not touched by a cancellation. -/
theorem Outbound.cancelWork_over {out : Outbound κ ρ} {operation : ℕ}
    (hover : (out.jobs operation).outstanding = false) :
    (out.cancelWork operation).jobs = out.jobs := by
  unfold Outbound.cancelWork
  dsimp only
  have hnot : (out.jobs operation).isQueued = false := by
    cases hjob : out.jobs operation with
    | queued =>
      rw [hjob] at hover
      cases hover
    | _ => rfl
  rw [Job.cancelQueued_of_not hnot,Function.update_eq_self]

/-- A reconciled operation may be canceled and dropped. -/
theorem Sound.canceled {out : Outbound κ ρ} (h : Sound out) {operation : ℕ} {record : Operation κ}
    (hlookup : out.operations.lookup operation = some record) :
    Sound (if record.sendReconciled then (out.cancelWork operation).drop operation
      else out.cancelWork operation) := by
  split
  · next hreconciled =>
    have hover : (out.jobs operation).outstanding = false := by
      rw [h.reconciled operation record hlookup hreconciled]
      rfl
    refine (h.cancelWork operation).drop ?_
    rw [Outbound.cancelWork_over hover]
    exact hover
  · exact h.cancelWork operation

/-- What a canceled operation leaves of the executor. -/
theorem cancelOne_out (now : ℕ) (cause : Cause) (operation : ℕ) (record : Operation κ) :
    (cancelOne callee now cause operation record s).out =
      (if record.sendReconciled then (s.out.cancelWork operation).drop operation
        else s.out.cancelWork operation).finish operation (.exception (.ended cause)) := by
  unfold cancelOne cancelOperation Requests.withOut
  dsimp only
  split <;> rfl

theorem Sound.cancelOne (h : Sound s.out) (now : ℕ) (cause : Cause) {operation : ℕ}
    {record : Operation κ} (hlookup : s.out.operations.lookup operation = some record) :
    Sound (cancelOne callee now cause operation record s).out := by
  rw [cancelOne_out]
  refine (h.canceled hlookup).finish ?_ _
  have hlt := h.known operation record hlookup
  split <;> exact hlt

theorem Sound.operationTerminal (h : Sound s.out) (now operation : ℕ) :
    Sound (operationTerminal callee now operation s).out := by
  unfold OutboundRequests.operationTerminal
  cases hlookup : s.out.operations.lookup operation with
  | none => exact h
  | some record =>
    have hcanceled := h.canceled hlookup
    unfold cancelOperation Requests.withOut
    dsimp only
    split
    · next hreconciled =>
      rw [if_pos hreconciled] at hcanceled
      exact hcanceled
    · next hreconciled =>
      rw [if_neg hreconciled] at hcanceled
      exact hcanceled

theorem Sound.settle {out : Outbound κ ρ} (h : Sound out) {operation : ℕ} {completion : Completion κ}
    (hcompleted : (out.jobs operation).completion = some completion)
    (htouches : Touches operation out s.out) (outcome : Except StepError Bool) :
    Sound (settle operation outcome s).2.out := by
  have hgone : Sound ((s.out.acknowledge operation).drop operation) := by
    refine h.settled hcompleted htouches (fun other hne => AList.lookup_erase_ne hne)
      fun record heq => ?_
    rw [AList.lookup_erase] at heq
    cases heq
  cases outcome with
  | error error => exact hgone
  | ok keep =>
    cases keep with
    | false => exact hgone
    | true =>
      refine h.settled hcompleted htouches (fun other hne => lookup_modify_ne hne _ _)
        fun record heq => ?_
      rw [lookup_modify_self,Option.map_eq_some_iff] at heq
      obtain ⟨old, _, rfl⟩ := heq
      rfl

/-- A request that was refused leaves its number behind. -/
theorem Sound.submit (h : Sound s.out) (kind : RequestKind) (admission : Admission) :
    Sound (submit callee kind admission s).out := by
  cases admission with
  | enqueued => exact h.enqueued kind
  | failed callbackAdded code =>
    refine h.skip (fun operation => ?_) (Nat.le_succ _) rfl rfl fun operation hle => ?_
    · change ((s.out.operations.insert s.out.nextOperation {}).erase s.out.nextOperation).lookup
        operation = s.out.operations.lookup operation
      by_cases heq : operation = s.out.nextOperation
      · rw [heq,AList.lookup_erase,h.lookup_next]
      · rw [AList.lookup_erase_ne heq,AList.lookup_insert_ne heq]
    · change s.out.nextOperation + 1 ≤ operation at hle
      exact Function.update_of_ne (show operation ≠ s.out.nextOperation by omega) _ _

/-- Every step of the executor keeps its tables in agreement, if the client
touches only the operation that a completion is about. -/
theorem Sound.executorStep [DecidableEq κ] (h : Sound s.out) {event : ExecutorEvent κ}
    (hsend : ∀ now operation record completion,
      s.out.operations.lookup operation = some record →
      (s.out.jobs operation).completion = some completion →
        Touches operation s.out (callee.sendCommitted now operation completion s).2.out)
    (hen : event.Enabled s) : Sound (executorStep callee event s).2.out := by
  cases event with
  | submit kind admission => exact h.submit kind admission
  | start operation => exact h.start hen
  | sent operation outcome =>
    cases outcome with
    | ok requestId =>
      refine Sound.sent h (.ok requestId) hen.1 fun id heq => ?_
      cases heq
      exact hen.2
    | error code =>
      refine Sound.sent h (.error code) hen fun id heq => ?_
      cases heq
  | cancel operation => exact h.cancel hen
  | drain now operation =>
    unfold OutboundRequests.executorStep
    dsimp only
    cases hcompletion : (s.out.jobs operation).completion with
    | none => exact h
    | some completion =>
      have hjob := Job.eq_completed hcompletion
      obtain ⟨record, hlookup, _⟩ := (h.held operation).mp (by rw [hjob]; rfl)
      dsimp only
      unfold drainCompletion
      rw [hlookup]
      exact h.settle hcompletion (hsend now operation record completion hlookup hcompletion) _
  | notify now =>
    unfold OutboundRequests.executorStep
    dsimp only
    cases s.out.notifications with
    | nil => exact h
    | cons operation rest =>
      refine Sound.operationTerminal ?_ now operation
      exact h.of_futures rfl rfl rfl rfl fun _ _ => rfl
  | cancelAll now =>
    unfold OutboundRequests.executorStep
    dsimp only
    cases s.endCause with
    | none => exact h
    | some cause =>
      exact cancelEntityOperations_induction (motive := fun t => Sound t.out) h
        fun t operation record ht hlookup => ht.cancelOne now cause hlookup
  | close cause => exact h
  | shutdown cause => exact h.of_futures rfl rfl rfl rfl fun _ _ => rfl
  | expire operation => exact h.finish hen.2 _
  | retire => exact h
  | elsewhere count =>
    exact h.skip (fun _ => rfl) (Nat.le_add_right _ _) rfl rfl fun _ _ => rfl

end Steps

section Progress

variable {κ ρ τ : Type} {callee : Callee κ ρ τ} {s t u : Outbound κ ρ}

/-- What no step takes back, and that done callbacks are queued only with the
outcome of their Future. -/
structure Later (s t : Outbound κ ρ) : Prop where
  /-- A Future keeps its outcome. -/
  ended : ∀ operation, (s.futures operation).done = true →
    t.futures operation = s.futures operation
  /-- A RequestId stays with its operation. -/
  sent : ∀ requestId operation, s.sentBy requestId = some operation →
    t.sentBy requestId = some operation
  /-- An acknowledged job is over. -/
  acknowledged : ∀ operation, s.jobs operation = .acknowledged → t.jobs operation = .acknowledged
  /-- Numbers are not given back. -/
  next : s.nextOperation ≤ t.nextOperation
  /-- What is queued anew belongs to a Future with an outcome. -/
  notified : ∀ operation ∈ t.notifications,
    operation ∈ s.notifications ∨ (t.futures operation).done = true

theorem Later.refl (s : Outbound κ ρ) : Later s s :=
  ⟨fun _ _ => rfl,fun _ _ h => h,fun _ h => h,le_rfl,fun _ h => Or.inl h⟩

theorem Later.trans (h : Later s t) (h' : Later t u) : Later s u where
  ended := fun operation hdone => by
    have heq := h.ended operation hdone
    rw [h'.ended operation (by rw [heq]; exact hdone),heq]
  sent := fun requestId operation hby => h'.sent _ _ (h.sent _ _ hby)
  acknowledged := fun operation hover => h'.acknowledged _ (h.acknowledged _ hover)
  next := h.next.trans h'.next
  notified := fun operation hmem => by
    cases h'.notified operation hmem with
    | inr hdone => exact Or.inr hdone
    | inl hold =>
      cases h.notified operation hold with
      | inl hqueued => exact Or.inl hqueued
      | inr hdone =>
        rw [h'.ended operation hdone]
        exact Or.inr hdone

/-- A Future without an outcome had none before. -/
theorem Later.pending (h : Later s t) {operation : ℕ} (hpending : (t.futures operation).done = false) :
    (s.futures operation).done = false := by
  cases hdone : (s.futures operation).done with
  | false => rfl
  | true =>
    rw [h.ended operation hdone,hdone] at hpending
    cases hpending

theorem Later.finish (s : Outbound κ ρ) (operation : ℕ) {outcome : FutureState ρ}
    (hdone : outcome.done = true) : Later s (s.finish operation outcome) where
  ended := fun other hother => Outbound.finish_keeps outcome hother
  sent := fun _ _ hby => by
    rw [Outbound.finish_sentBy]
    exact hby
  acknowledged := fun _ hover => by
    rw [Outbound.finish_jobs]
    exact hover
  next := by rw [Outbound.finish_nextOperation]
  notified := by
    intro other hmem
    unfold Outbound.finish at hmem
    split at hmem
    · exact Or.inl hmem
    · cases List.mem_append.mp hmem with
      | inl hold => exact Or.inl hold
      | inr hnew =>
        rw [List.mem_singleton.mp hnew]
        exact Or.inr (Outbound.finish_done operation hdone)

theorem Later.cancelWork (s : Outbound κ ρ) (operation : ℕ) : Later s (s.cancelWork operation) where
  ended := fun _ _ => rfl
  sent := fun _ _ hby => hby
  acknowledged := fun other hover => by
    change Function.update s.jobs operation _ other = _
    by_cases heq : other = operation
    · rw [heq,Function.update_self,← heq,hover]
      rfl
    · rw [Function.update_of_ne heq]
      exact hover
  next := le_rfl
  notified := fun _ hmem => Or.inl hmem

theorem Later.drop (s : Outbound κ ρ) (operation : ℕ) : Later s (s.drop operation) :=
  ⟨fun _ _ => rfl,fun _ _ h => h,fun _ h => h,le_rfl,fun _ h => Or.inl h⟩

theorem Later.identify (s : Outbound κ ρ) (operation : ℕ) (requestId : κ) :
    Later s (s.identify operation requestId) :=
  ⟨fun _ _ => rfl,fun _ _ h => h,fun _ h => h,le_rfl,fun _ h => Or.inl h⟩

theorem Later.acknowledge (s : Outbound κ ρ) (operation : ℕ) :
    Later s (s.acknowledge operation) where
  ended := fun _ _ => rfl
  sent := fun _ _ hby => hby
  acknowledged := fun other hover => by
    change Function.update s.jobs operation _ other = _
    by_cases heq : other = operation
    · rw [heq,Function.update_self]
    · rw [Function.update_of_ne heq]
      exact hover
  next := le_rfl
  notified := fun _ hmem => Or.inl hmem

/-- A job changes that is not over. -/
theorem Later.of_job (operation : ℕ) {job : Job κ} (hfutures : t.futures = s.futures)
    (hsent : ∀ requestId operation, s.sentBy requestId = some operation →
      t.sentBy requestId = some operation)
    (hnot : s.jobs operation ≠ .acknowledged) (hjobs : t.jobs = Function.update s.jobs operation job)
    (hnext : s.nextOperation ≤ t.nextOperation) (hnotified : t.notifications = s.notifications) :
    Later s t where
  ended := fun _ _ => by rw [hfutures]
  sent := hsent
  acknowledged := fun other hover => by
    have hne : other ≠ operation := fun heq => hnot (heq ▸ hover)
    rw [hjobs,Function.update_of_ne hne]
    exact hover
  next := hnext
  notified := fun _ hmem => Or.inl (hnotified ▸ hmem)

theorem Later.start {operation : ℕ} (hqueued : (s.jobs operation).isQueued = true) :
    Later s (s.start operation) := by
  have hnot : s.jobs operation ≠ .acknowledged := by
    rw [Job.eq_queued hqueued]
    intro heq
    cases heq
  unfold Outbound.start
  split
  · exact .of_job operation rfl (fun _ _ h => h) hnot rfl le_rfl rfl
  · exact .of_job operation rfl (fun _ _ h => h) hnot rfl le_rfl rfl

theorem Later.returned [DecidableEq κ] {operation : ℕ} (outcome : Except ℕ κ)
    (hsending : (s.jobs operation).isSending = true)
    (hnew : ∀ requestId, outcome = .ok requestId → s.sentBy requestId = none) :
    Later s (s.sent operation outcome) := by
  have hnot : s.jobs operation ≠ .acknowledged := by
    rw [Job.eq_sending hsending]
    intro heq
    cases heq
  cases outcome with
  | error code => exact .of_job operation rfl (fun _ _ h => h) hnot rfl le_rfl rfl
  | ok requestId =>
    refine .of_job operation rfl (fun id other hby => ?_) hnot rfl le_rfl rfl
    have hne : id ≠ requestId := by
      intro heq
      rw [heq,hnew requestId rfl] at hby
      cases hby
    exact (Function.update_of_ne hne _ _).trans hby

theorem Later.cancelOne (s : Requests κ ρ τ) (now : ℕ) (cause : Cause) (operation : ℕ)
    (record : Operation κ) : Later s.out (cancelOne callee now cause operation record s).out := by
  rw [cancelOne_out]
  have hcanceled := Later.cancelWork s.out operation
  split
  · exact (hcanceled.trans (.drop _ operation)).trans (.finish _ _ rfl)
  · exact hcanceled.trans (.finish _ _ rfl)

theorem Later.cancelEntityOperations (s : Requests κ ρ τ) (now : ℕ) (cause : Cause) :
    Later s.out (cancelEntityOperations callee now cause s).out :=
  cancelEntityOperations_induction (motive := fun t => Later s.out t.out) (.refl _)
    fun t operation record ht _ => ht.trans (.cancelOne t now cause operation record)

/-- The Futures of the operations that are canceled end. -/
theorem cancelEntityOperations_ends {s : Requests κ ρ τ} {operation : ℕ} {record : Operation κ}
    (hlookup : s.out.operations.lookup operation = some record) (now : ℕ) (cause : Cause) :
    ((cancelEntityOperations callee now cause s).out.futures operation).done = true := by
  have hloop : ∀ (entries : List (Sigma fun _ : ℕ => Operation κ)) (t : Requests κ ρ τ),
      (⟨operation,record⟩ ∈ entries ∨ (t.out.futures operation).done = true) →
      ((entries.foldl (fun s entry => cancelOne callee now cause entry.1 entry.2 s)
        t).out.futures operation).done = true := by
    intro entries
    induction entries with
    | nil =>
      intro t hcase
      cases hcase with
      | inl hmem => cases hmem
      | inr hdone => exact hdone
    | cons entry rest ih =>
      intro t hcase
      refine ih _ ?_
      cases hcase with
      | inr hdone =>
        have hlater : Later t.out (OutboundRequests.cancelOne callee now cause entry.1 entry.2 t).out :=
          .cancelOne t now cause entry.1 entry.2
        rw [hlater.ended operation hdone]
        exact Or.inr hdone
      | inl hmem =>
        cases List.mem_cons.mp hmem with
        | inr hrest => exact Or.inl hrest
        | inl heq =>
          cases heq
          refine Or.inr ?_
          rw [cancelOne_out]
          exact Outbound.finish_done operation rfl
  exact hloop _ s (Or.inl (mem_entries_of_lookup hlookup))

theorem Later.operationTerminal (s : Requests κ ρ τ) (now operation : ℕ) :
    Later s.out (operationTerminal callee now operation s).out := by
  unfold OutboundRequests.operationTerminal
  cases s.out.operations.lookup operation with
  | none => exact .refl _
  | some record =>
    have hcanceled := Later.cancelWork s.out operation
    unfold cancelOperation Requests.withOut
    dsimp only
    split
    · exact hcanceled.trans (.drop _ operation)
    · exact hcanceled

theorem Later.settle (s : Requests κ ρ τ) (operation : ℕ) (outcome : Except StepError Bool) :
    Later s.out (settle operation outcome s).2.out := by
  have hover := Later.acknowledge s.out operation
  cases outcome with
  | error error => exact hover.trans (.drop _ operation)
  | ok keep =>
    cases keep with
    | false => exact hover.trans (.drop _ operation)
    | true => exact ⟨hover.ended,hover.sent,hover.acknowledged,hover.next,hover.notified⟩

/-- A completion that was handled is acknowledged. -/
theorem settle_over (s : Requests κ ρ τ) (operation : ℕ) (outcome : Except StepError Bool) :
    (settle operation outcome s).2.out.jobs operation = .acknowledged := by
  have hself : (s.out.acknowledge operation).jobs operation = .acknowledged :=
    Function.update_self _ _ _
  cases outcome with
  | error error => exact hself
  | ok keep =>
    cases keep with
    | false => exact hself
    | true => exact hself

theorem Later.submit {s : Requests κ ρ τ} (h : Sound s.out) (kind : RequestKind)
    (admission : Admission) : Later s.out (submit callee kind admission s).out := by
  have hfresh := h.fresh s.out.nextOperation le_rfl
  cases admission with
  | enqueued =>
    refine .of_job s.out.nextOperation rfl (fun _ _ h => h) ?_ rfl (Nat.le_succ _) rfl
    rw [hfresh.1]
    intro heq
    cases heq
  | failed callbackAdded code =>
    constructor
    · intro operation hdone
      have hne : operation ≠ s.out.nextOperation := by
        intro heq
        rw [heq,hfresh.2] at hdone
        cases hdone
      exact Function.update_of_ne hne _ _
    · exact fun _ _ hby => hby
    · exact fun _ hover => hover
    · exact Nat.le_succ _
    · intro operation hmem
      change operation ∈ (if callbackAdded = true then s.out.notifications ++ [s.out.nextOperation]
        else s.out.notifications) at hmem
      split at hmem
      · cases List.mem_append.mp hmem with
        | inl hold => exact Or.inl hold
        | inr hnew =>
          rw [List.mem_singleton.mp hnew]
          refine Or.inr ?_
          change (Function.update s.out.futures s.out.nextOperation _ s.out.nextOperation).done = true
          rw [Function.update_self]
          rfl
      · exact Or.inl hmem

/-- No step of the executor takes anything back. -/
theorem Later.executorStep [DecidableEq κ] {s : Requests κ ρ τ} (h : Sound s.out)
    {event : ExecutorEvent κ}
    (hsend : ∀ now operation record completion,
      s.out.operations.lookup operation = some record →
      (s.out.jobs operation).completion = some completion →
        Later s.out (callee.sendCommitted now operation completion s).2.out)
    (hen : event.Enabled s) : Later s.out (executorStep callee event s).2.out := by
  cases event with
  | submit kind admission => exact .submit h kind admission
  | start operation => exact .start hen
  | sent operation outcome =>
    cases outcome with
    | ok requestId =>
      refine .returned (.ok requestId) hen.1 fun id heq => ?_
      cases heq
      exact hen.2
    | error code =>
      refine .returned (.error code) hen fun id heq => ?_
      cases heq
  | cancel operation =>
    change Later s.out (s.out.cancel operation)
    unfold Outbound.cancel
    split
    · exact .refl _
    · exact (Later.cancelWork s.out operation).trans (.finish _ _ rfl)
  | drain now operation =>
    unfold OutboundRequests.executorStep
    dsimp only
    cases hcompletion : (s.out.jobs operation).completion with
    | none => exact .refl _
    | some completion =>
      dsimp only
      unfold drainCompletion
      cases hlookup : s.out.operations.lookup operation with
      | none => exact .acknowledge _ operation
      | some record =>
        exact (hsend now operation record completion hlookup hcompletion).trans (.settle _ _ _)
  | notify now =>
    unfold OutboundRequests.executorStep
    dsimp only
    cases hqueue : s.out.notifications with
    | nil => exact .refl _
    | cons operation rest =>
      have hpopped : Later s.out { s.out with notifications := rest } := by
        refine ⟨fun _ _ => rfl,fun _ _ h => h,fun _ h => h,le_rfl,fun other hmem => Or.inl ?_⟩
        rw [hqueue]
        exact List.mem_cons_of_mem _ hmem
      dsimp only
      exact hpopped.trans (.operationTerminal
        (s.withOut fun out => { out with notifications := rest }) now operation)
  | cancelAll now =>
    unfold OutboundRequests.executorStep
    dsimp only
    cases s.endCause with
    | none => exact .refl _
    | some cause => exact .cancelEntityOperations s now cause
  | close cause => exact .refl _
  | shutdown cause => exact ⟨fun _ _ => rfl,fun _ _ h => h,fun _ h => h,le_rfl,fun _ h => Or.inl h⟩
  | expire operation => exact .finish _ _ rfl
  | retire => exact .refl _
  | elsewhere count =>
    exact ⟨fun _ _ => rfl,fun _ _ h => h,fun _ h => h,Nat.le_add_right _ _,fun _ h => Or.inl h⟩

/-- Every queued done callback is one of a Future with an outcome. -/
def Notified (s : Outbound κ ρ) : Prop :=
  ∀ operation ∈ s.notifications, (s.futures operation).done = true

theorem Notified.later (h : Notified s) (hlater : Later s t) : Notified t := by
  intro operation hmem
  cases hlater.notified operation hmem with
  | inr hdone => exact hdone
  | inl hold =>
    have hdone := h operation hold
    rw [hlater.ended operation hdone]
    exact hdone

end Progress

end Dmw.OutboundRequests
