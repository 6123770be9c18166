import Dmw.GuardedRuns
import Dmw.OutboundRequests
import Mathlib.Data.Finset.Card

/-!
# Candidate snapshots

The admissions of requests and the evaluation of the candidates of a response,
statement by statement. An admission holds the lock of the executor while it
publishes its operation and makes the native work; the owner looks at the
operations without that lock, one after the other. What the owner does between
evaluations is a list of statements, some of which take the lock.
-/

namespace Dmw.CandidateSnapshots

open GuardedRuns KeyedTable KeyedTable.Table
open OutboundRequests (RequestKind)

/-- `_OutboundOperation` of a request. -/
structure Operation (ι : Type) where
  /-- `entity`. -/
  entity : ι
  /-- What is requested. -/
  kind : RequestKind
  /-- `native_work`, with its `send_started`. -/
  nativeWork : Option Bool
  /-- `ticket` is set. -/
  ticket : Bool
  /-- `send_reconciled`. -/
  sendReconciled : Bool
  deriving DecidableEq

/-- How far an admission is. -/
inductive Stage
  /-- It has a number. -/
  | numbered
  /-- The operation is in `_operations`. -/
  | stored
  /-- Its number is in `_unreconciled`. -/
  | added
  /-- It has its native work. -/
  | worked
  /-- The native work could not be made. -/
  | refused
  /-- Something raised after that. -/
  | failing
  /-- `_retire_candidate` returned. -/
  | retired
  /-- The operation was popped. -/
  | dropped
  deriving DecidableEq, Repr

/-- `_submit_request` or `_submit_action_request`, under the lock. -/
structure Admission (ι : Type) where
  /-- The client. -/
  entity : ι
  /-- What is requested. -/
  kind : RequestKind
  /-- `operation_id`. -/
  operation : ℕ
  /-- How far it is. -/
  stage : Stage
  /-- It runs on the thread of the owner. -/
  onOwner : Bool
  deriving DecidableEq

/-- Exceptions of an evaluation. -/
inductive Failure
  /-- The number is in no operation. -/
  | keyError
  /-- The operation has no native work. -/
  | attributeError
  /-- The set changed its size. -/
  | runtimeError
  deriving DecidableEq, Repr

/-- An evaluation of the candidates of a client. -/
structure Evaluation (ι : Type) where
  /-- The client. -/
  entity : ι
  /-- The size of `_unreconciled` at its begin. -/
  size : ℕ
  /-- The numbers that were looked at. -/
  visited : Finset ℕ
  /-- Those that may wait for the response. -/
  candidates : Finset ℕ
  deriving DecidableEq

/-- What is left to do for the owner. -/
inductive Statement (ι : Type)
  /-- `_retire_candidate`. -/
  | retire (client : ι) (operation : ℕ)
  /-- `_pending` gets the operation. -/
  | await (client : ι) (operation : ℕ)
  /-- `send_reconciled` is set and `ticket` is cleared. -/
  | reconcile (operation : ℕ)
  /-- `_operations.pop` under the lock. -/
  | drop (operation : ℕ)
  /-- `_operations.pop` if the send was reconciled. -/
  | dropReconciled (operation : ℕ)
  /-- A round of `_cancel_entity_operations`. -/
  | cancel (client : ι) (operation : ℕ)
  /-- The snapshot of `_cancel_entity_operations`, under the lock. -/
  | cancelAll (client : ι)
  deriving DecidableEq

/-- An executor with its clients. -/
structure System (ι : Type) where
  /-- `_operations`. -/
  operations : Table ℕ (Operation ι)
  /-- `_next_operation`. -/
  nextOperation : ℕ
  /-- `_unreconciled` of each client. -/
  unreconciled : ι → Finset ℕ
  /-- The operations in `_pending` of each client. -/
  pending : ι → Finset ℕ
  /-- The operations whose Future has its `_action_goal_id`. -/
  attributed : Finset ℕ
  /-- The admission that holds the lock. -/
  admission : Option (Admission ι)
  /-- The evaluation that is under way. -/
  evaluation : Option (Evaluation ι)
  /-- What is left to do for the owner. -/
  rest : List (Statement ι)
  /-- `_closing` of each client. -/
  closing : ι → Bool
  /-- `_state` is `STOPPING`. -/
  stopping : Bool
  /-- The evaluations that failed. -/
  failures : List (ι × Failure)

/-- How `_send_committed` ends. -/
inductive Outcome
  /-- The request is over. -/
  | ended
  /-- Its response is awaited. -/
  | awaited
  /-- An `ActionClient` completes it with a response that came early. -/
  | completed
  deriving DecidableEq, Repr

/-- What happens. -/
inductive Event (ι : Type)
  /-- An admission takes the lock and a number. -/
  | submit (client : ι) (kind : RequestKind) (onOwner : Bool)
  /-- The next statement of the admission, which may raise where a native call does. -/
  | advance (raises : Bool)
  /-- The worker starts a send. -/
  | start (operation : ℕ)
  /-- The Future of a goal request gets its attributes. -/
  | attach (operation : ℕ)
  /-- Another operation is submitted. -/
  | elsewhere
  /-- `_take_response` comes to the candidates. -/
  | take (client : ι)
  /-- The next number, or the end, of the evaluation; the staging may be full. -/
  | iterate (choice : Option ℕ) (full : Bool)
  /-- `_take_response` finds the response awaited. -/
  | respond (client : ι) (operation : ℕ)
  /-- The completion of a send is drained. -/
  | drain (operation : ℕ) (outcome : Outcome)
  /-- `_operation_terminal`. -/
  | terminal (operation : ℕ)
  /-- `_cancel_entity_operations` of the control path. -/
  | control (client : ι)
  /-- The next statement of the owner. -/
  | proceed
  /-- A client closes. -/
  | close (client : ι)
  /-- The executor is asked to stop. -/
  | shutdown
  /-- `_retire_bindings` of a client whose backing is closed. -/
  | retireBindings (client : ι)
  deriving DecidableEq

variable {ι : Type} [DecidableEq ι]

/-- Nothing was submitted. -/
def initial (ι : Type) : System ι where
  operations := ∅
  nextOperation := 1
  unreconciled := fun _ => ∅
  pending := fun _ => ∅
  attributed := ∅
  admission := none
  evaluation := none
  rest := []
  closing := fun _ => false
  stopping := false
  failures := []

/-! ## Statements -/

/-- `_unreconciled.discard`. -/
def System.retire (client : ι) (operation : ℕ) (s : System ι) : System ι :=
  {s with unreconciled :=
    Function.update s.unreconciled client ((s.unreconciled client).erase operation)}

/-- `_pending` loses an operation. -/
def System.settle (client : ι) (operation : ℕ) (s : System ι) : System ι :=
  {s with pending := Function.update s.pending client ((s.pending client).erase operation)}

/-- `_operations.pop`. -/
def System.pop (operation : ℕ) (s : System ι) : System ι :=
  {s with operations := s.operations.erase operation}

/-- `_operations.pop` if the send was reconciled. -/
def System.popReconciled (operation : ℕ) (s : System ι) : System ι :=
  if (s.operations.lookup operation).any (·.sendReconciled) then s.pop operation else s

/-- `_cancel_operation` after the native work was canceled; only a `Client` knows the
RequestId of the operation. -/
def System.forget (client : ι) (operation : ℕ) (record : Operation ι) (s : System ι) : System ι :=
  (if record.kind = .service then s.settle client operation else s).retire client operation

/-- The operations of a client. -/
def System.operationsOf (client : ι) (s : System ι) : List ℕ :=
  (s.operations.entries.filter fun e => e.2.entity = client).map (·.1)

/-- One statement of the owner, from a state in which it is not left to do any more. A
cancellation without native work raises and ends what the owner does. -/
def Statement.run (st : Statement ι) (s : System ι) : System ι :=
  match st with
  | .retire client operation => s.retire client operation
  | .await client operation =>
    {s with pending := Function.update s.pending client (insert operation (s.pending client))}
  | .reconcile operation =>
    {s with
      operations := modify operation
        (fun record => {record with sendReconciled := true, ticket := false}) s.operations}
  | .drop operation => s.pop operation
  | .dropReconciled operation => s.popReconciled operation
  | .cancel client operation =>
    match s.operations.lookup operation with
    | none => s.retire client operation
    | some record =>
      if record.nativeWork = none then {s with rest := []}
      else
        let s := s.forget client operation record
        {s with rest := .dropReconciled operation :: s.rest}
  | .cancelAll client => {s with rest := (s.operationsOf client).map (.cancel client) ++ s.rest}

/-- The statement takes the lock. -/
def Statement.locks : Statement ι → Bool
  | .drop _ | .cancelAll _ => true
  | _ => false

/-- The operation a statement is about. -/
def Statement.operation : Statement ι → Option ℕ
  | .retire _ operation | .await _ operation | .reconcile operation | .drop operation
  | .dropReconciled operation | .cancel _ operation => some operation
  | .cancelAll _ => none

/-! ## Steps -/

/-- The next statement of an admission. -/
def Admission.advance (a : Admission ι) (raises : Bool) (s : System ι) : System ι :=
  match a.stage with
  | .numbered =>
    {s with
      operations := s.operations.insert a.operation ⟨a.entity,a.kind,none,false,false⟩
      admission := some {a with stage := .stored}}
  | .stored =>
    {s with
      unreconciled := Function.update s.unreconciled a.entity
        (insert a.operation (s.unreconciled a.entity))
      admission := some {a with stage := .added}}
  | .added =>
    if raises then {s with admission := some {a with stage := .refused}}
    else
      {s with
        operations := modify a.operation (fun record => {record with nativeWork := some false})
          s.operations
        admission := some {a with stage := .worked}}
  | .worked =>
    if raises then {s with admission := some {a with stage := .failing}}
    else
      {s with
        operations := modify a.operation (fun record => {record with ticket := true}) s.operations
        admission := none}
  | .refused | .failing =>
    {s.retire a.entity a.operation with admission := some {a with stage := .retired}}
  | .retired => {s.pop a.operation with admission := some {a with stage := .dropped}}
  | .dropped => {s with admission := none}

/-- An evaluation raises. -/
def System.fail (e : Evaluation ι) (failure : Failure) (s : System ι) : System ι :=
  {s with evaluation := none, failures := s.failures ++ [(e.entity,failure)]}

/-- The next number of an evaluation, or its end. If candidates are there and the staging
is full, the client closes and its operations are canceled. -/
def Evaluation.iterate (e : Evaluation ι) (choice : Option ℕ) (full : Bool) (s : System ι) :
    System ι :=
  if (s.unreconciled e.entity).card ≠ e.size then s.fail e .runtimeError
  else
    match choice with
    | none =>
      if e.candidates ≠ ∅ ∧ full = true then
        {s with
          evaluation := none
          closing := Function.update s.closing e.entity true
          rest := [.cancelAll e.entity]}
      else {s with evaluation := none}
    | some operation =>
      match s.operations.lookup operation with
      | none => s.fail e .keyError
      | some record =>
        match record.nativeWork with
        | none => s.fail e .attributeError
        | some started =>
          {s with evaluation := some {e with
            visited := insert operation e.visited
            candidates := if started then insert operation e.candidates else e.candidates}}

/-- `_complete_response` raises: the Future of a goal request has no `_action_goal_id`. -/
def Unattributed (operation : ℕ) (record : Operation ι) (s : System ι) : Prop :=
  record.kind = .goal ∧ operation ∉ s.attributed

instance (operation : ℕ) (record : Operation ι) (s : System ι) :
    Decidable (Unattributed operation record s) := by
  unfold Unattributed
  infer_instance

/-- What `_drain_completions` does about a completion. If `_complete_response` raises only
the cleanup is left. -/
def conclusion (operation : ℕ) (record : Operation ι) (outcome : Outcome) (s : System ι) :
    List (Statement ι) :=
  match outcome with
  | .ended => [.retire record.entity operation,.reconcile operation,.drop operation]
  | .awaited =>
    [.await record.entity operation,.retire record.entity operation,.reconcile operation]
  | .completed =>
    if Unattributed operation record s then [.drop operation]
    else [.drop operation,.retire record.entity operation,.reconcile operation,.drop operation]

/-- Nothing is left to do for the owner, and it is in no admission of its own. -/
def System.ownerFree (s : System ι) : Prop :=
  s.evaluation = none ∧ s.rest = [] ∧ ∀ a ∈ s.admission, a.onOwner = false

instance (s : System ι) : Decidable s.ownerFree := by
  unfold System.ownerFree
  infer_instance

/-- When something can happen. A backing is not closed while a response is taken from it. -/
def Event.Enabled (s : System ι) : Event ι → Prop
  | .submit _ _ onOwner => s.admission = none ∧ s.stopping = false ∧ (onOwner = true → s.ownerFree)
  | .advance _ => s.admission.isSome = true
  | .start operation => ((s.operations.lookup operation).bind (·.nativeWork)).isSome = true
  | .attach operation => operation < s.nextOperation ∧ ∀ a ∈ s.admission, a.operation ≠ operation
  | .elsewhere => s.admission = none
  | .take _ => s.ownerFree
  | .iterate choice _ =>
    ∃ e ∈ s.evaluation, (s.unreconciled e.entity).card ≠ e.size ∨
      match choice with
      | none => s.unreconciled e.entity ⊆ e.visited
      | some operation => operation ∈ s.unreconciled e.entity ∧ operation ∉ e.visited
  | .respond client operation => s.ownerFree ∧ operation ∈ s.pending client
  | .drain operation outcome =>
    s.ownerFree ∧ s.admission = none ∧ ∃ record ∈ s.operations.lookup operation,
      record.ticket = true ∧ (outcome = .completed → record.kind ≠ .service)
  | .terminal _ => s.ownerFree ∧ s.admission = none
  | .control client => s.ownerFree ∧ (s.closing client = true ∨ s.stopping = true)
  | .proceed => ∃ st ∈ s.rest.head?, st.locks = true → s.admission = none
  | .close _ => True
  | .shutdown => True
  | .retireBindings client => s.closing client = true ∧ ∀ e ∈ s.evaluation, e.entity ≠ client

instance (s : System ι) (e : Event ι) : Decidable (e.Enabled s) := by
  cases e with
  | iterate choice full => cases choice <;> unfold Event.Enabled <;> infer_instance
  | _ => unfold Event.Enabled; infer_instance

/-- What happens then. -/
def next (s : System ι) : Event ι → System ι
  | .submit client kind onOwner =>
    {s with
      nextOperation := s.nextOperation + 1
      admission := some ⟨client,kind,s.nextOperation,.numbered,onOwner⟩}
  | .advance raises =>
    match s.admission with
    | none => s
    | some a => a.advance raises s
  | .start operation =>
    {s with
      operations := modify operation (fun record => {record with nativeWork := some true})
        s.operations}
  | .attach operation => {s with attributed := insert operation s.attributed}
  | .elsewhere => {s with nextOperation := s.nextOperation + 1}
  | .take client => {s with evaluation := some ⟨client,(s.unreconciled client).card,∅,∅⟩}
  | .iterate choice full =>
    match s.evaluation with
    | none => s
    | some e => e.iterate choice full s
  | .respond client operation =>
    let s' := s.settle client operation
    match s.operations.lookup operation with
    | none => {s' with rest := [.drop operation]}
    | some record =>
      if Unattributed operation record s then s' else {s' with rest := [.drop operation]}
  | .drain operation outcome =>
    match s.operations.lookup operation with
    | none => s
    | some record => {s with rest := conclusion operation record outcome s}
  | .terminal operation =>
    match s.operations.lookup operation with
    | none => s
    | some record =>
      if record.nativeWork = none then s
      else (s.forget record.entity operation record).popReconciled operation
  | .control client => {s with rest := [.cancelAll client]}
  | .proceed =>
    match s.rest with
    | [] => s
    | st :: rest => st.run {s with rest}
  | .close client => {s with closing := Function.update s.closing client true}
  | .shutdown => {s with stopping := true}
  | .retireBindings client =>
    {s with
      unreconciled := Function.update s.unreconciled client ∅
      pending := Function.update s.pending client ∅}

/-- The executor, its clients and the threads that use them. -/
def machine (ι : Type) [DecidableEq ι] : Machine (System ι) (Event ι) :=
  ⟨fun s e => e.Enabled s,next,fun _ _ => inferInstance⟩

/-! ## What an evaluation meets -/

/-- An evaluation for a client is under way. -/
def Evaluating (client : ι) (s : System ι) : Prop := ∃ e ∈ s.evaluation, e.entity = client

/-- Every number that an evaluation meets is one of an operation with its native work. -/
def Intact (client : ι) (s : System ι) : Prop :=
  ∀ operation ∈ s.unreconciled client, ∃ record, s.operations.lookup operation = some record ∧
    record.nativeWork ≠ none

/-- An admission of the client added its number, and has neither stored its native work nor
taken the number back. -/
def Critical (client : ι) (s : System ι) : Prop :=
  ∃ a ∈ s.admission, a.entity = client ∧ (a.stage = .added ∨ a.stage = .refused)

/-- No evaluation meets an admission of its client without native work, none is disturbed by
an admission that adds its number or takes it back, and an early goal response is not
completed before the Future has its attributes. -/
def Careful (s : System ι) : Event ι → Prop
  | .take client => ¬ Critical client s
  | .advance _ => ∀ a ∈ s.admission, Evaluating a.entity s →
    a.stage ≠ .stored ∧ a.stage ≠ .failing
  | .drain operation .completed =>
    ∀ record ∈ s.operations.lookup operation, ¬ Unattributed operation record s
  | _ => True

/-! ## Invariant -/

/-- The owner still deals with an operation. -/
def Mentions (s : System ι) (operation : ℕ) : Prop :=
  (∃ client, operation ∈ s.pending client) ∨ ∃ st ∈ s.rest, st.operation = some operation

/-- An operation may be popped. -/
def Loose (s : System ι) (operation : ℕ) : Prop :=
  (∃ client, operation ∈ s.pending client) ∨ Statement.drop operation ∈ s.rest ∨
    Statement.dropReconciled operation ∈ s.rest ∨ ∃ client, Statement.await client operation ∈ s.rest

/-- The owner is about to retire a number, or its operation is there to stay. -/
def Justified (s : System ι) (client : ι) (operation : ℕ) : Prop :=
  Statement.retire client operation ∈ s.rest ∨
    (∃ record, s.operations.lookup operation = some record ∧ record.entity = client) ∧
      ¬ Loose s operation

/-- The operation of an admission is in `_operations`. -/
def Stage.present : Stage → Bool
  | .numbered | .dropped => false
  | _ => true

/-- Its number may be in `_unreconciled`. -/
def Stage.listed : Stage → Bool
  | .added | .worked | .refused | .failing => true
  | _ => false

/-- What an admission can rely on. -/
structure Admitted (s : System ι) (a : Admission ι) : Prop where
  /-- The owner does not know its operation. -/
  unknown : ¬ Mentions s a.operation
  /-- Its operation is the one of its client. -/
  present : a.stage.present = true →
    ∃ record, s.operations.lookup a.operation = some record ∧ record.entity = a.entity
  /-- Its number is listed nowhere before it was added and after it was retired. -/
  unlisted : a.stage.listed = false → ∀ client, a.operation ∉ s.unreconciled client
  /-- Its operation is popped in the end. -/
  absent : a.stage = .dropped → s.operations.lookup a.operation = none
  /-- Its number was given out. -/
  numbered : a.operation < s.nextOperation

/-- What holds between the steps. -/
structure Inv (s : System ι) : Prop where
  /-- Every number that is listed is retired soon or has its operation. -/
  kept : ∀ client, ∀ operation ∈ s.unreconciled client, Justified s client operation
  /-- The admission can rely on its operation. -/
  admitted : ∀ a ∈ s.admission, Admitted s a
  /-- Only the operation of an admission is without native work. -/
  worked : ∀ operation record, s.operations.lookup operation = some record →
    record.nativeWork = none → ∃ a ∈ s.admission, a.operation = operation ∧
      a.stage ≠ .worked ∧ a.stage ≠ .failing
  /-- What is canceled is canceled for its client. -/
  aimed : ∀ client operation, Statement.cancel client operation ∈ s.rest →
    ∀ record, s.operations.lookup operation = some record → record.entity = client
  /-- Numbers that were not given out are not in use. -/
  bounded : ∀ operation, s.nextOperation ≤ operation → s.operations.lookup operation = none ∧
    (∀ client, operation ∉ s.unreconciled client) ∧ ¬ Mentions s operation
  /-- An evaluation is not disturbed. -/
  steady : ∀ e ∈ s.evaluation, (s.unreconciled e.entity).card = e.size ∧
    ¬ Critical e.entity s ∧ s.rest = []
  /-- No evaluation failed. -/
  faultless : s.failures = []

omit [DecidableEq ι] in
theorem Inv.initial : Inv (CandidateSnapshots.initial ι) where
  kept := fun _ _ h => absurd h (Finset.notMem_empty _)
  admitted := nofun
  worked := nofun
  aimed := nofun
  bounded := fun operation _ => by
    refine ⟨rfl,fun _ => Finset.notMem_empty _,fun h => ?_⟩
    cases h with
    | inl h => exact absurd h.choose_spec (Finset.notMem_empty _)
    | inr h => exact absurd h.choose_spec.1 List.not_mem_nil
  steady := nofun
  faultless := rfl

section

variable {s s' : System ι} {client : ι} {operation : ℕ} {record : Operation ι} {a : Admission ι}

/-- A step beside the admission: nothing comes to be listed or stored, and what the owner
turns to is there and under no admission. -/
structure Shrinks (s s' : System ι) : Prop where
  /-- The admission stays. -/
  admission : s'.admission = s.admission
  /-- No number is given back. -/
  next : s.nextOperation ≤ s'.nextOperation
  /-- Nothing is added. -/
  listed : ∀ client, s'.unreconciled client ⊆ s.unreconciled client
  /-- Nothing is stored, and no operation loses its client or its native work. -/
  stored : ∀ operation record', s'.operations.lookup operation = some record' →
    ∃ record, s.operations.lookup operation = some record ∧ record.entity = record'.entity ∧
      (record'.nativeWork = none → record.nativeWork = none)
  /-- The operation of the admission stays. -/
  present : ∀ a ∈ s.admission, ∀ record, s.operations.lookup a.operation = some record →
    ∃ record', s'.operations.lookup a.operation = some record' ∧ record'.entity = record.entity
  /-- What the owner turns to. -/
  mentions : ∀ operation, Mentions s' operation → Mentions s operation ∨
    (∃ record, s.operations.lookup operation = some record) ∧ s.admission = none
  /-- What it turns to cancel. -/
  aimed : ∀ client operation, Statement.cancel client operation ∈ s'.rest →
    Statement.cancel client operation ∈ s.rest ∨
      ∀ record, s.operations.lookup operation = some record → record.entity = client

omit [DecidableEq ι] in
/-- Most of the invariant survives such a step. -/
theorem Inv.shrink (h : Inv s) (hs : Shrinks s s')
    (hkept : ∀ client, ∀ operation ∈ s'.unreconciled client, Justified s' client operation)
    (hsteady : ∀ e ∈ s'.evaluation, (s'.unreconciled e.entity).card = e.size ∧
      ¬ Critical e.entity s' ∧ s'.rest = [])
    (hfaultless : s'.failures = []) : Inv s' where
  kept := hkept
  admitted := by
    intro a ha
    rw [hs.admission] at ha
    have hadmitted := h.admitted a ha
    refine ⟨fun hmentions => ?_,fun hpresent => ?_,fun hunlisted client hlisted => ?_,
      fun hdropped => ?_,?_⟩
    · cases hs.mentions _ hmentions with
      | inl hold => exact hadmitted.unknown hold
      | inr hnew =>
        rw [hnew.2] at ha
        cases ha
    · obtain ⟨record,hfound,hentity⟩ := hadmitted.present hpresent
      obtain ⟨record',hfound',hentity'⟩ := hs.present a ha record hfound
      exact ⟨record',hfound',hentity'.trans hentity⟩
    · exact hadmitted.unlisted hunlisted client (hs.listed client hlisted)
    · cases hfound' : s'.operations.lookup a.operation with
      | none => rfl
      | some record' =>
        obtain ⟨record,hfound,-⟩ := hs.stored a.operation record' hfound'
        rw [hadmitted.absent hdropped] at hfound
        cases hfound
    · exact Nat.lt_of_lt_of_le hadmitted.numbered hs.next
  worked := by
    intro operation record' hfound' hnone
    obtain ⟨record,hfound,-,hwork⟩ := hs.stored operation record' hfound'
    rw [hs.admission]
    exact h.worked operation record hfound (hwork hnone)
  aimed := by
    intro client operation hcancel record' hfound'
    obtain ⟨record,hfound,hentity,-⟩ := hs.stored operation record' hfound'
    rw [← hentity]
    cases hs.aimed client operation hcancel with
    | inl hold => exact h.aimed client operation hold record hfound
    | inr hnew => exact hnew record hfound
  bounded := by
    intro operation hle
    obtain ⟨hnone,hunlisted,hunknown⟩ := h.bounded operation (Nat.le_trans hs.next hle)
    refine ⟨?_,fun client hlisted => hunlisted client (hs.listed client hlisted),fun hmentions => ?_⟩
    · cases hfound' : s'.operations.lookup operation with
      | none => rfl
      | some record' =>
        obtain ⟨record,hfound,-⟩ := hs.stored operation record' hfound'
        rw [hnone] at hfound
        cases hfound
    · cases hs.mentions operation hmentions with
      | inl hold => exact hunknown hold
      | inr hnew =>
        obtain ⟨record,hfound⟩ := hnew.1
        rw [hnone] at hfound
        cases hfound
  steady := hsteady
  faultless := hfaultless

/-! ## Operations -/

omit [DecidableEq ι] in
/-- The operations without one of them. -/
theorem lookup_erase_some {other : ℕ}
    (h : (s.operations.erase operation).lookup other = some record) :
    other ≠ operation ∧ s.operations.lookup other = some record := by
  by_cases heq : other = operation
  · rw [heq,AList.lookup_erase] at h
    cases h
  · rw [AList.lookup_erase_ne heq] at h
    exact ⟨heq,h⟩

omit [DecidableEq ι] in
/-- A change of one operation is a change of its record. -/
theorem lookup_modify_some {other : ℕ} {f : Operation ι → Operation ι}
    (h : (modify operation f s.operations).lookup other = some record) :
    ∃ old, s.operations.lookup other = some old ∧
      record = if other = operation then f old else old := by
  by_cases heq : other = operation
  · subst heq
    rw [lookup_modify_self] at h
    obtain ⟨old,hold,hrecord⟩ := Option.map_eq_some_iff.mp h
    exact ⟨old,hold,by rw [if_pos rfl]; exact hrecord.symm⟩
  · rw [lookup_modify_ne heq] at h
    exact ⟨record,h,by rw [if_neg heq]⟩

omit [DecidableEq ι] in
/-- A change that keeps the client keeps the operation of the client. -/
theorem lookup_modify_entity {f : Operation ι → Operation ι} (hf : ∀ r, (f r).entity = r.entity)
    {other : ℕ} (h : s.operations.lookup other = some record) :
    ∃ record', (modify operation f s.operations).lookup other = some record' ∧
      record'.entity = record.entity := by
  by_cases heq : other = operation
  · subst heq
    rw [lookup_modify_self,h]
    exact ⟨f record,rfl,hf record⟩
  · rw [lookup_modify_ne heq]
    exact ⟨record,h,rfl⟩

/-! ## Changes beside the admission -/

omit [DecidableEq ι] in
/-- What may be popped the owner deals with. -/
theorem Loose.mentions (h : Loose s operation) : Mentions s operation := by
  rcases h with hpending | hdrop | hdrop | ⟨client,hawait⟩
  · exact .inl hpending
  · exact .inr ⟨_,hdrop,rfl⟩
  · exact .inr ⟨_,hdrop,rfl⟩
  · exact .inr ⟨_,hawait,rfl⟩

omit [DecidableEq ι] in
/-- What may be popped is retired soon. -/
theorem Inv.retired_of_loose (h : Inv s) (hloose : Loose s operation)
    (hlisted : operation ∈ s.unreconciled client) : Statement.retire client operation ∈ s.rest := by
  cases h.kept client operation hlisted with
  | inl howes => exact howes
  | inr hheld => exact absurd hloose hheld.2

omit [DecidableEq ι] in
/-- While the owner has something to do it evaluates nothing. -/
theorem Inv.evaluation_none (h : Inv s) (hrest : s.rest ≠ []) : s.evaluation = none := by
  cases hevaluation : s.evaluation with
  | none => rfl
  | some e => exact absurd (h.steady e hevaluation).2.2 hrest

omit [DecidableEq ι] in
/-- An operation changes, but neither its client nor whether it has native work. -/
theorem Inv.modify (h : Inv s) (operation : ℕ) (f : Operation ι → Operation ι)
    (hentity : ∀ r, (f r).entity = r.entity)
    (hwork : ∀ r, (f r).nativeWork = none → r.nativeWork = none) :
    Inv {s with operations := Table.modify operation f s.operations} := by
  have hs : Shrinks s {s with operations := Table.modify operation f s.operations} := by
    refine ⟨rfl,Nat.le_refl _,fun _ => Finset.Subset.refl _,fun other record' hfound => ?_,
      fun a _ record hfound => lookup_modify_entity hentity hfound,fun _ => .inl,fun _ _ => .inl⟩
    obtain ⟨old,hold,rfl⟩ := lookup_modify_some hfound
    refine ⟨old,hold,?_,?_⟩
    · split
      · exact (hentity old).symm
      · rfl
    · split
      · exact hwork old
      · exact id
  refine h.shrink hs (fun client other hlisted => ?_) h.steady h.faultless
  cases h.kept client other hlisted with
  | inl howes => exact .inl howes
  | inr hheld =>
    obtain ⟨⟨record,hfound,hclient⟩,hloose⟩ := hheld
    obtain ⟨record',hfound',heq⟩ := lookup_modify_entity hentity hfound
    exact .inr ⟨⟨record',hfound',heq.trans hclient⟩,hloose⟩

omit [DecidableEq ι] in
/-- An operation is popped that nobody lists, or that is retired soon. -/
theorem Inv.pop (h : Inv s) (hadmission : ∀ a ∈ s.admission, a.operation ≠ operation)
    (hretired : ∀ client, operation ∈ s.unreconciled client →
      Statement.retire client operation ∈ s.rest) : Inv (s.pop operation) := by
  have hs : Shrinks s (s.pop operation) := by
    refine ⟨rfl,Nat.le_refl _,fun _ => Finset.Subset.refl _,fun other record hfound => ?_,
      fun a ha record hfound => ?_,fun _ => .inl,fun _ _ => .inl⟩
    · exact ⟨record,(lookup_erase_some hfound).2,rfl,id⟩
    · exact ⟨record,(AList.lookup_erase_ne (hadmission a ha)).trans hfound,rfl⟩
  refine h.shrink hs (fun client other hlisted => ?_) h.steady h.faultless
  cases h.kept client other hlisted with
  | inl howes => exact .inl howes
  | inr hheld =>
    by_cases heq : other = operation
    · subst heq
      exact .inl (hretired client hlisted)
    · obtain ⟨⟨record,hfound,hclient⟩,hloose⟩ := hheld
      exact .inr ⟨⟨record,(AList.lookup_erase_ne heq).trans hfound,hclient⟩,hloose⟩

omit [DecidableEq ι] in
/-- What may be popped is popped. -/
theorem Inv.pop_loose (h : Inv s) (hloose : Loose s operation) : Inv (s.pop operation) := by
  refine h.pop (fun a ha heq => ?_) fun client hlisted => h.retired_of_loose hloose hlisted
  subst heq
  exact (h.admitted a ha).unknown hloose.mentions

/-- Numbers are taken from the list of a client, and from what it awaits. -/
theorem Inv.unlist (h : Inv s) (hevaluation : ∀ e ∈ s.evaluation, e.entity ≠ client)
    {listed pending : Finset ℕ} (hlisted : listed ⊆ s.unreconciled client)
    (hpending : pending ⊆ s.pending client) :
    Inv {s with
      unreconciled := Function.update s.unreconciled client listed
      pending := Function.update s.pending client pending} := by
  have hsub : ∀ other, Function.update s.unreconciled client listed other ⊆
      s.unreconciled other := by
    intro other
    by_cases heq : other = client
    · subst heq
      rw [Function.update_self]
      exact hlisted
    · rw [Function.update_of_ne heq]
  have hsub' : ∀ other, Function.update s.pending client pending other ⊆ s.pending other := by
    intro other
    by_cases heq : other = client
    · subst heq
      rw [Function.update_self]
      exact hpending
    · rw [Function.update_of_ne heq]
  refine h.shrink ⟨rfl,Nat.le_refl _,hsub,fun _ record hfound => ⟨record,hfound,rfl,id⟩,
    fun _ _ record hfound => ⟨record,hfound,rfl⟩,fun id hmentions => .inl ?_,fun _ _ => .inl⟩
    (fun other id hid => ?_) (fun e he => ?_) h.faultless
  · cases hmentions with
    | inl hawaited =>
      obtain ⟨other,hmem⟩ := hawaited
      exact .inl ⟨other,hsub' other hmem⟩
    | inr hrest => exact .inr hrest
  · cases h.kept other id (hsub other hid) with
    | inl howes => exact .inl howes
    | inr hheld =>
      refine .inr ⟨hheld.1,fun hloose => hheld.2 ?_⟩
      cases hloose with
      | inl hawaited =>
        obtain ⟨client',hmem⟩ := hawaited
        exact .inl ⟨client',hsub' client' hmem⟩
      | inr hrest => exact .inr hrest
  · obtain ⟨hcard,hrest⟩ := h.steady e he
    refine ⟨?_,hrest⟩
    change (Function.update s.unreconciled client listed e.entity).card = e.size
    rw [Function.update_of_ne (hevaluation e he)]
    exact hcard

/-- A response that the owner is about to await is awaited. -/
theorem Inv.await (h : Inv s) (hawait : Statement.await client operation ∈ s.rest) :
    Inv {s with
      pending := Function.update s.pending client (insert operation (s.pending client))} := by
  have hmem : ∀ other id, id ∈ Function.update s.pending client
      (insert operation (s.pending client)) other → id = operation ∨ id ∈ s.pending other := by
    intro other id hid
    by_cases heq : other = client
    · subst heq
      rw [Function.update_self] at hid
      exact Finset.mem_insert.mp hid
    · rw [Function.update_of_ne heq] at hid
      exact .inr hid
  refine h.shrink ⟨rfl,Nat.le_refl _,fun _ => Finset.Subset.refl _,
    fun _ record hfound => ⟨record,hfound,rfl,id⟩,fun _ _ record hfound => ⟨record,hfound,rfl⟩,
    fun id hmentions => .inl ?_,fun _ _ => .inl⟩ (fun other id hid => ?_) h.steady h.faultless
  · cases hmentions with
    | inl hawaited =>
      obtain ⟨other,hother⟩ := hawaited
      cases hmem other id hother with
      | inl heq => exact .inr ⟨_,hawait,by rw [heq]; rfl⟩
      | inr hold => exact .inl ⟨other,hold⟩
    | inr hrest => exact .inr hrest
  · cases h.kept other id hid with
    | inl howes => exact .inl howes
    | inr hheld =>
      refine .inr ⟨hheld.1,fun hloose => hheld.2 ?_⟩
      cases hloose with
      | inl hawaited =>
        obtain ⟨client',hother⟩ := hawaited
        cases hmem client' id hother with
        | inl heq => exact .inr (.inr (.inr ⟨client,by rw [heq]; exact hawait⟩))
        | inr hold => exact .inl ⟨client',hold⟩
      | inr hrest => exact .inr hrest

omit [DecidableEq ι] in
/-- The owner turns to other statements. -/
theorem Inv.turn (h : Inv s) {rest : List (Statement ι)} (hevaluation : s.evaluation = none)
    (hretire : ∀ client operation, Statement.retire client operation ∈ s.rest →
      Statement.retire client operation ∈ rest ∨ operation ∉ s.unreconciled client)
    (hloose : ∀ operation, Loose {s with rest} operation → Loose s operation ∨
      ∀ client, operation ∈ s.unreconciled client → Statement.retire client operation ∈ rest)
    (hmentions : ∀ operation, Mentions {s with rest} operation → Mentions s operation ∨
      (∃ record, s.operations.lookup operation = some record) ∧ s.admission = none)
    (haimed : ∀ client operation, Statement.cancel client operation ∈ rest →
      Statement.cancel client operation ∈ s.rest ∨
        ∀ record, s.operations.lookup operation = some record → record.entity = client) :
    Inv {s with rest} := by
  refine h.shrink ⟨rfl,Nat.le_refl _,fun _ => Finset.Subset.refl _,
    fun _ record hfound => ⟨record,hfound,rfl,id⟩,fun _ _ record hfound => ⟨record,hfound,rfl⟩,
    hmentions,haimed⟩ (fun client id hid => ?_) (fun e he => ?_) h.faultless
  · cases h.kept client id hid with
    | inl howes =>
      cases hretire client id howes with
      | inl hkept => exact .inl hkept
      | inr hgone => exact absurd hid hgone
    | inr hheld =>
      by_cases hnew : Loose {s with rest} id
      · cases hloose id hnew with
        | inl hold => exact absurd hold hheld.2
        | inr hretired => exact .inl (hretired client hid)
      · exact .inr ⟨hheld.1,hnew⟩
  · change e ∈ s.evaluation at he
    rw [hevaluation] at he
    cases he

/-! ## The statements of the owner -/

/-- A number is retired. -/
theorem Inv.retire (h : Inv s) (hevaluation : s.evaluation = none) (client : ι) (operation : ℕ) :
    Inv (s.retire client operation) := by
  have hunlist := h.unlist (by rw [hevaluation]; nofun)
    (Finset.erase_subset operation (s.unreconciled client)) (Finset.Subset.refl (s.pending client))
  rw [Function.update_eq_self] at hunlist
  exact hunlist

/-- A response is not awaited any more. -/
theorem Inv.settle (h : Inv s) (hevaluation : s.evaluation = none) (client : ι) (operation : ℕ) :
    Inv (s.settle client operation) := by
  have hunlist := h.unlist (by rw [hevaluation]; nofun)
    (Finset.Subset.refl (s.unreconciled client)) (Finset.erase_subset operation (s.pending client))
  rw [Function.update_eq_self] at hunlist
  exact hunlist

/-- A canceled operation is forgotten. -/
theorem Inv.forget (h : Inv s) (hevaluation : s.evaluation = none) (client : ι) (operation : ℕ)
    (record : Operation ι) : Inv (s.forget client operation record) := by
  unfold System.forget
  split
  · exact (h.settle hevaluation client operation).retire hevaluation client operation
  · exact h.retire hevaluation client operation

/-- A number that was retired is not listed. -/
theorem notMem_retire (client : ι) (operation : ℕ) (s : System ι) :
    operation ∉ (s.retire client operation).unreconciled client := by
  change operation ∉ Function.update s.unreconciled client _ client
  rw [Function.update_self]
  exact Finset.notMem_erase operation _

/-- Nor is that of an operation that was forgotten. -/
theorem notMem_forget (client : ι) (operation : ℕ) (record : Operation ι) (s : System ι) :
    operation ∉ (s.forget client operation record).unreconciled client :=
  notMem_retire client operation _

/-- The rest of it. -/
theorem forget_fields (client : ι) (operation : ℕ) (record : Operation ι) (s : System ι) :
    (s.forget client operation record).operations = s.operations ∧
      (s.forget client operation record).admission = s.admission ∧
      (s.forget client operation record).evaluation = s.evaluation ∧
      (s.forget client operation record).rest = s.rest := by
  unfold System.forget
  split <;> exact ⟨rfl,rfl,rfl,rfl⟩

omit [DecidableEq ι] in
/-- An operation is popped if its send was reconciled. -/
theorem Inv.popReconciled (h : Inv s) (hadmission : ∀ a ∈ s.admission, a.operation ≠ operation)
    (hretired : ∀ client, operation ∈ s.unreconciled client →
      Statement.retire client operation ∈ s.rest) : Inv (s.popReconciled operation) := by
  unfold System.popReconciled
  split
  · exact h.pop hadmission hretired
  · exact h

omit [DecidableEq ι] in
/-- A statement is done. -/
theorem Inv.tail (h : Inv s) {st : Statement ι} {rest : List (Statement ι)}
    (hrest : s.rest = st :: rest)
    (hdone : ∀ client operation, st = .retire client operation →
      operation ∉ s.unreconciled client) : Inv {s with rest} := by
  have hsub : ∀ st' ∈ rest, st' ∈ s.rest := by
    intro st' hst'
    rw [hrest]
    exact List.mem_cons_of_mem _ hst'
  refine h.turn (h.evaluation_none (by rw [hrest]; exact List.cons_ne_nil _ _))
    (fun client id hretire => ?_) (fun id hloose => .inl ?_) (fun id hmentions => .inl ?_)
    fun client id hcancel => .inl (hsub _ hcancel)
  · rw [hrest] at hretire
    cases List.mem_cons.mp hretire with
    | inl heq => exact .inr (hdone client id heq.symm)
    | inr hmem => exact .inl hmem
  · rcases hloose with hpending | hdrop | hdrop | ⟨client,hawait⟩
    · exact .inl hpending
    · exact .inr (.inl (hsub _ hdrop))
    · exact .inr (.inr (.inl (hsub _ hdrop)))
    · exact .inr (.inr (.inr ⟨client,hsub _ hawait⟩))
  · cases hmentions with
    | inl hpending => exact .inl hpending
    | inr hst =>
      obtain ⟨st',hmem,hoperation⟩ := hst
      exact .inr ⟨st',hsub st' hmem,hoperation⟩

omit [DecidableEq ι] in
/-- What is canceled has its native work. -/
theorem Inv.nativeWork_of_cancel (h : Inv s) (hcancel : Statement.cancel client operation ∈ s.rest)
    (hfound : s.operations.lookup operation = some record) : record.nativeWork ≠ none := by
  intro hnone
  obtain ⟨a,ha,heq,-⟩ := h.worked operation record hfound hnone
  exact (h.admitted a ha).unknown (.inr ⟨_,hcancel,by rw [heq]; rfl⟩)

/-- A round of a cancellation. -/
theorem Inv.run_cancel (h : Inv s) {rest : List (Statement ι)}
    (hrest : s.rest = .cancel client operation :: rest)
    (hfound : s.operations.lookup operation = some record) :
    Inv {s.forget client operation record with rest := .dropReconciled operation :: rest} := by
  have hcancel : Statement.cancel client operation ∈ s.rest := by
    rw [hrest]
    exact List.mem_cons_self
  have hevaluation := h.evaluation_none (by rw [hrest]; exact List.cons_ne_nil _ _)
  have hforget := h.forget hevaluation client operation record
  have hgone := notMem_forget client operation record s
  obtain ⟨hoperations,-,hevaluation',hrest'⟩ := forget_fields client operation record s
  generalize s.forget client operation record = s₁ at *
  rw [hevaluation] at hevaluation'
  rw [hrest] at hrest'
  have haimed : ∀ other, operation ∈ s₁.unreconciled other →
      Statement.retire other operation ∈ rest := by
    intro other hlisted
    cases hforget.kept other operation hlisted with
    | inl howes =>
      rw [hrest'] at howes
      cases List.mem_cons.mp howes with
      | inl heq => cases heq
      | inr hmem => exact hmem
    | inr hheld =>
      obtain ⟨⟨record',hfound',hclient⟩,-⟩ := hheld
      have heq : record'.entity = client :=
        hforget.aimed client operation (by rw [hrest']; exact List.mem_cons_self) record' hfound'
      rw [hclient] at heq
      subst heq
      exact absurd hlisted hgone
  refine hforget.turn hevaluation' (fun other id hretire => .inl ?_) (fun id hloose => ?_)
    (fun id hmentions => .inl ?_) (fun other id hmem => .inl ?_)
  · rw [hrest'] at hretire
    cases List.mem_cons.mp hretire with
    | inl heq => cases heq
    | inr hmem => exact List.mem_cons_of_mem _ hmem
  · have hsub : ∀ st ∈ rest, st ∈ s₁.rest := by
      intro st hst
      rw [hrest']
      exact List.mem_cons_of_mem _ hst
    by_cases hid : id = operation
    · subst hid
      exact .inr fun other hlisted => List.mem_cons_of_mem _ (haimed other hlisted)
    · refine .inl ?_
      rcases hloose with hpending | hdrop | hdrop | ⟨client',hawait⟩
      · exact .inl hpending
      · cases List.mem_cons.mp hdrop with
        | inl heq => cases heq
        | inr hmem => exact .inr (.inl (hsub _ hmem))
      · cases List.mem_cons.mp hdrop with
        | inl heq =>
          cases heq
          exact absurd rfl hid
        | inr hmem => exact .inr (.inr (.inl (hsub _ hmem)))
      · cases List.mem_cons.mp hawait with
        | inl heq => cases heq
        | inr hmem => exact .inr (.inr (.inr ⟨client',hsub _ hmem⟩))
  · cases hmentions with
    | inl hpending => exact .inl hpending
    | inr hst =>
      obtain ⟨st,hmem,hoperation⟩ := hst
      cases List.mem_cons.mp hmem with
      | inl heq =>
        subst heq
        exact .inr ⟨.cancel client operation,by rw [hrest']; exact List.mem_cons_self,hoperation⟩
      | inr hmem =>
        exact .inr ⟨st,by rw [hrest']; exact List.mem_cons_of_mem _ hmem,hoperation⟩
  · cases List.mem_cons.mp hmem with
    | inl heq => cases heq
    | inr hmem =>
      rw [hrest']
      exact List.mem_cons_of_mem _ hmem

omit [DecidableEq ι] in
/-- The operations that a cancellation finds. -/
theorem mem_operationsOf [DecidableEq ι] (h : operation ∈ s.operationsOf client) :
    ∃ record, s.operations.lookup operation = some record ∧ record.entity = client := by
  obtain ⟨e,he,rfl⟩ := List.mem_map.mp h
  obtain ⟨hentry,hclient⟩ := List.mem_filter.mp he
  exact ⟨e.2,lookup_of_mem_entries hentry,of_decide_eq_true hclient⟩

/-- The snapshot of a cancellation. -/
theorem Inv.run_cancelAll (h : Inv s) {rest : List (Statement ι)}
    (hrest : s.rest = .cancelAll client :: rest) (hlock : s.admission = none) :
    Inv {s with rest := (s.operationsOf client).map (.cancel client) ++ rest} := by
  have hmem : ∀ st ∈ (s.operationsOf client).map (Statement.cancel client) ++ rest,
      (∃ operation ∈ s.operationsOf client, Statement.cancel client operation = st) ∨
        st ∈ s.rest := by
    intro st hst
    rw [hrest]
    cases List.mem_append.mp hst with
    | inl hcancel => exact .inl (List.mem_map.mp hcancel)
    | inr hold => exact .inr (List.mem_cons_of_mem _ hold)
  refine h.turn (h.evaluation_none (by rw [hrest]; exact List.cons_ne_nil _ _))
    (fun other id hretire => .inl ?_) (fun id hloose => .inl ?_) (fun id hmentions => ?_)
    fun other id hcancel => ?_
  · rw [hrest] at hretire
    cases List.mem_cons.mp hretire with
    | inl heq => cases heq
    | inr hold => exact List.mem_append_right _ hold
  · rcases hloose with hpending | hdrop | hdrop | ⟨client',hawait⟩
    · exact .inl hpending
    · rcases hmem _ hdrop with ⟨_,_,heq⟩ | hold
      · cases heq
      · exact .inr (.inl hold)
    · rcases hmem _ hdrop with ⟨_,_,heq⟩ | hold
      · cases heq
      · exact .inr (.inr (.inl hold))
    · rcases hmem _ hawait with ⟨_,_,heq⟩ | hold
      · cases heq
      · exact .inr (.inr (.inr ⟨client',hold⟩))
  · cases hmentions with
    | inl hpending => exact .inl (.inl hpending)
    | inr hst =>
      obtain ⟨st,hin,hoperation⟩ := hst
      rcases hmem st hin with ⟨operation,hfound,rfl⟩ | hold
      · cases hoperation
        obtain ⟨record,hrecord,-⟩ := mem_operationsOf hfound
        exact .inr ⟨⟨record,hrecord⟩,hlock⟩
      · exact .inl (.inr ⟨st,hold,hoperation⟩)
  · rcases hmem _ hcancel with ⟨operation,hfound,heq⟩ | hold
    · cases heq
      obtain ⟨record,hrecord,hclient⟩ := mem_operationsOf hfound
      refine .inr fun record' hrecord' => ?_
      rw [hrecord] at hrecord'
      cases hrecord'
      exact hclient
    · exact .inl hold

/-- A statement of the owner. -/
theorem Inv.run (h : Inv s) {st : Statement ι} {rest : List (Statement ι)}
    (hrest : s.rest = st :: rest) (hlock : st.locks = true → s.admission = none) :
    Inv (st.run {s with rest}) := by
  have hhead : st ∈ s.rest := by
    rw [hrest]
    exact List.mem_cons_self
  have hevaluation := h.evaluation_none (by rw [hrest]; exact List.cons_ne_nil _ _)
  cases st with
  | retire client operation =>
    refine (h.retire hevaluation client operation).tail hrest fun client' operation' heq => ?_
    cases heq
    exact notMem_retire client operation s
  | await client operation => exact (h.await hhead).tail hrest nofun
  | reconcile operation =>
    have hmodified := h.modify operation
      (fun record => {record with sendReconciled := true, ticket := false}) (fun _ => rfl)
      fun _ => id
    exact hmodified.tail hrest nofun
  | drop operation => exact (h.pop_loose (.inr (.inl hhead))).tail hrest nofun
  | dropReconciled operation =>
    have hloose : Loose s operation := .inr (.inr (.inl hhead))
    have hpop : (Statement.dropReconciled operation).run {s with rest} =
        {s.popReconciled operation with rest} := by
      change System.popReconciled operation {s with rest} = _
      unfold System.popReconciled
      split <;> rfl
    rw [hpop]
    have hpopped : Inv (s.popReconciled operation) := by
      refine h.popReconciled (fun a ha heq => ?_) fun client hlisted =>
        h.retired_of_loose hloose hlisted
      subst heq
      exact (h.admitted a ha).unknown hloose.mentions
    have hrest' : (s.popReconciled operation).rest = .dropReconciled operation :: rest := by
      unfold System.popReconciled
      split <;> exact hrest
    exact hpopped.tail hrest' nofun
  | cancel client operation =>
    change Inv (match s.operations.lookup operation with
      | none => System.retire client operation {s with rest}
      | some record =>
        if record.nativeWork = none then {s with rest := []}
        else {System.forget client operation record {s with rest} with
          rest := .dropReconciled operation ::
            (System.forget client operation record {s with rest}).rest})
    cases hfound : s.operations.lookup operation with
    | none => exact (h.retire hevaluation client operation).tail hrest nofun
    | some record =>
      have hforget : System.forget client operation record {s with rest} =
          {s.forget client operation record with rest} := by
        unfold System.forget
        split <;> rfl
      dsimp only
      rw [if_neg (h.nativeWork_of_cancel hhead hfound),hforget]
      exact h.run_cancel hrest hfound
  | cancelAll client => exact h.run_cancelAll hrest (hlock rfl)

/-! ## The statements of an admission -/

omit [DecidableEq ι] in
/-- There is one admission at a time. -/
theorem Inv.worked_by (h : Inv s) (ha : s.admission = some a)
    (hfound : s.operations.lookup operation = some record) (hnone : record.nativeWork = none) :
    a.operation = operation ∧ a.stage ≠ .worked ∧ a.stage ≠ .failing := by
  obtain ⟨a',ha',hoperation,hstage⟩ := h.worked operation record hfound hnone
  rw [ha] at ha'
  cases ha'
  exact ⟨hoperation,hstage⟩

omit [DecidableEq ι] in
/-- The owner is not about to cancel what is being admitted. -/
theorem Inv.cancel_ne (h : Inv s) (ha : s.admission = some a)
    (hcancel : Statement.cancel client operation ∈ s.rest) : operation ≠ a.operation := by
  intro heq
  subst heq
  exact (h.admitted a ha).unknown (.inr ⟨_,hcancel,rfl⟩)

/-- An admission takes a number. -/
theorem Inv.submit (h : Inv s) (hlock : s.admission = none) (client : ι) (kind : RequestKind)
    (onOwner : Bool) : Inv (next s (.submit client kind onOwner)) := by
  obtain ⟨hnone,hunlisted,hunknown⟩ := h.bounded s.nextOperation (Nat.le_refl _)
  refine ⟨h.kept,fun a ha => ?_,fun id record hfound hwork => ?_,h.aimed,fun id hle => ?_,
    fun e he => ?_,h.faultless⟩
  · cases ha
    exact ⟨hunknown,nofun,fun _ => hunlisted,nofun,Nat.lt_succ_self _⟩
  · obtain ⟨a,ha,-⟩ := h.worked id record hfound hwork
    rw [hlock] at ha
    cases ha
  · exact h.bounded id (Nat.le_trans (Nat.le_succ _) hle)
  · obtain ⟨hcard,-,hrest⟩ := h.steady e he
    refine ⟨hcard,fun hcritical => ?_,hrest⟩
    obtain ⟨a,ha,-,hstage⟩ := hcritical
    cases ha
    rcases hstage with hstage | hstage <;> cases hstage

omit [DecidableEq ι] in
/-- An admission stores its operation. -/
theorem Inv.store (h : Inv s) (ha : s.admission = some a) (hstage : a.stage = .numbered) :
    Inv {s with
      operations := s.operations.insert a.operation ⟨a.entity,a.kind,none,false,false⟩
      admission := some {a with stage := .stored}} := by
  have hadmitted := h.admitted a ha
  have hunlisted := hadmitted.unlisted (by rw [hstage]; rfl)
  refine ⟨fun client id hid => ?_,fun a' ha' => ?_,fun id record hfound hwork => ?_,
    fun client id hcancel record hfound => ?_,fun id hle => ?_,fun e he => ?_,h.faultless⟩
  · have hne : id ≠ a.operation := fun heq => hunlisted client (heq ▸ hid)
    cases h.kept client id hid with
    | inl howes => exact .inl howes
    | inr hheld =>
      obtain ⟨⟨record,hfound,hclient⟩,hloose⟩ := hheld
      exact .inr ⟨⟨record,(AList.lookup_insert_ne hne).trans hfound,hclient⟩,hloose⟩
  · cases ha'
    exact ⟨hadmitted.unknown,fun _ => ⟨_,AList.lookup_insert _,rfl⟩,fun _ => hunlisted,nofun,
      hadmitted.numbered⟩
  · by_cases heq : id = a.operation
    · exact ⟨_,rfl,heq.symm,nofun,nofun⟩
    · have hold : s.operations.lookup id = some record :=
        (AList.lookup_insert_ne heq).symm.trans hfound
      exact absurd (h.worked_by ha hold hwork).1.symm heq
  · have hold : s.operations.lookup id = some record :=
      (AList.lookup_insert_ne (h.cancel_ne ha hcancel)).symm.trans hfound
    exact h.aimed client id hcancel record hold
  · obtain ⟨hnone,hrest⟩ := h.bounded id hle
    have hnumbered := hadmitted.numbered
    have hne : id ≠ a.operation := by
      change s.nextOperation ≤ id at hle
      omega
    exact ⟨(AList.lookup_insert_ne hne).trans hnone,hrest⟩
  · obtain ⟨hcard,-,hrest⟩ := h.steady e he
    refine ⟨hcard,fun hcritical => ?_,hrest⟩
    obtain ⟨a',ha',-,hstage'⟩ := hcritical
    cases ha'
    rcases hstage' with hstage' | hstage' <;> cases hstage'

/-- An admission adds its number. -/
theorem Inv.add (h : Inv s) (ha : s.admission = some a) (hstage : a.stage = .stored)
    (hquiet : ¬ Evaluating a.entity s) :
    Inv {s with
      unreconciled := Function.update s.unreconciled a.entity
        (insert a.operation (s.unreconciled a.entity))
      admission := some {a with stage := .added}} := by
  have hadmitted := h.admitted a ha
  obtain ⟨record,hfound,hentity⟩ := hadmitted.present (by rw [hstage]; rfl)
  have hmem : ∀ client id, id ∈ Function.update s.unreconciled a.entity
      (insert a.operation (s.unreconciled a.entity)) client →
        client = a.entity ∧ id = a.operation ∨ id ∈ s.unreconciled client := by
    intro client id hid
    by_cases heq : client = a.entity
    · subst heq
      rw [Function.update_self] at hid
      exact (Finset.mem_insert.mp hid).imp_left fun heq => ⟨rfl,heq⟩
    · rw [Function.update_of_ne heq] at hid
      exact .inr hid
  refine ⟨fun client id hid => ?_,fun a' ha' => ?_,fun id record hfound hwork => ?_,h.aimed,
    fun id hle => ?_,fun e he => ?_,h.faultless⟩
  · cases hmem client id hid with
    | inl heq =>
      obtain ⟨rfl,rfl⟩ := heq
      exact .inr ⟨⟨record,hfound,hentity⟩,fun hloose => hadmitted.unknown hloose.mentions⟩
    | inr hold => exact h.kept client id hold
  · cases ha'
    exact ⟨hadmitted.unknown,fun _ => ⟨record,hfound,hentity⟩,nofun,nofun,hadmitted.numbered⟩
  · exact ⟨_,rfl,(h.worked_by ha hfound hwork).1,nofun,nofun⟩
  · obtain ⟨hnone,hunlisted,hunknown⟩ := h.bounded id hle
    refine ⟨hnone,fun client hid => ?_,hunknown⟩
    cases hmem client id hid with
    | inl heq =>
      have hnumbered := hadmitted.numbered
      change s.nextOperation ≤ id at hle
      omega
    | inr hold => exact hunlisted client hold
  · have hne : e.entity ≠ a.entity := fun heq => hquiet ⟨e,he,heq⟩
    obtain ⟨hcard,-,hrest⟩ := h.steady e he
    refine ⟨?_,fun hcritical => ?_,hrest⟩
    · change (Function.update s.unreconciled a.entity _ e.entity).card = e.size
      rw [Function.update_of_ne hne]
      exact hcard
    · obtain ⟨a',ha',hentity',-⟩ := hcritical
      cases ha'
      exact hne hentity'.symm

omit [DecidableEq ι] in
/-- Only the admission changes. -/
theorem Inv.readmit (h : Inv s) {admission : Option (Admission ι)}
    (hadmitted : ∀ a ∈ admission, Admitted s a)
    (hworked : ∀ operation record, s.operations.lookup operation = some record →
      record.nativeWork = none → ∃ a ∈ admission, a.operation = operation ∧
        a.stage ≠ .worked ∧ a.stage ≠ .failing)
    (hquiet : ∀ e ∈ s.evaluation, ∀ a ∈ admission, a.entity = e.entity →
      a.stage ≠ .added ∧ a.stage ≠ .refused) : Inv {s with admission} := by
  refine ⟨h.kept,fun a ha => ?_,hworked,h.aimed,h.bounded,fun e he => ?_,h.faultless⟩
  · have hold := hadmitted a ha
    exact ⟨hold.unknown,hold.present,hold.unlisted,hold.absent,hold.numbered⟩
  · obtain ⟨hcard,-,hrest⟩ := h.steady e he
    refine ⟨hcard,fun hcritical => ?_,hrest⟩
    obtain ⟨a,ha,hentity,hstage⟩ := hcritical
    have hcalm := hquiet e he a ha hentity
    cases hstage with
    | inl hadded => exact hcalm.1 hadded
    | inr hrefused => exact hcalm.2 hrefused

omit [DecidableEq ι] in
/-- The number of an admission is listed for its client only. -/
theorem Inv.listed_entity (h : Inv s) (ha : s.admission = some a) (hpresent : a.stage.present = true)
    (hlisted : a.operation ∈ s.unreconciled client) : client = a.entity := by
  have hadmitted := h.admitted a ha
  cases h.kept client a.operation hlisted with
  | inl howes => exact absurd (.inr ⟨_,howes,rfl⟩) hadmitted.unknown
  | inr hheld =>
    obtain ⟨⟨record,hfound,hclient⟩,-⟩ := hheld
    obtain ⟨record',hfound',hentity⟩ := hadmitted.present hpresent
    have hsame : record = record' := Option.some.inj (hfound.symm.trans hfound')
    rw [← hclient,hsame,hentity]

omit [DecidableEq ι] in
/-- An admission makes its native work. -/
theorem Inv.work (h : Inv s) (ha : s.admission = some a) (hstage : a.stage = .added) :
    Inv {s with
      operations := Table.modify a.operation (fun record => {record with nativeWork := some false})
        s.operations
      admission := some {a with stage := .worked}} := by
  have hmodified := h.modify a.operation
    (fun record => {record with nativeWork := some false}) (fun _ => rfl) nofun
  have hadmitted := hmodified.admitted a ha
  refine hmodified.readmit (fun a' ha' => ?_) (fun id record hfound hnone => ?_)
    fun e _ a' ha' _ => ?_
  · cases ha'
    exact ⟨hadmitted.unknown,fun _ => hadmitted.present (by rw [hstage]; rfl),nofun,nofun,
      hadmitted.numbered⟩
  · obtain ⟨old,hold,rfl⟩ := lookup_modify_some hfound
    by_cases heq : id = a.operation
    · rw [if_pos heq] at hnone
      cases hnone
    · rw [if_neg heq] at hnone
      exact absurd (h.worked_by ha hold hnone).1.symm heq
  · cases ha'
    exact ⟨nofun,nofun⟩

omit [DecidableEq ι] in
/-- An admission gets its ticket and gives up the lock. -/
theorem Inv.ticket (h : Inv s) (ha : s.admission = some a) (hstage : a.stage = .worked) :
    Inv {s with
      operations := Table.modify a.operation (fun record => {record with ticket := true})
        s.operations
      admission := none} := by
  have hmodified := h.modify a.operation
    (fun record => {record with ticket := true}) (fun _ => rfl) fun _ => id
  refine hmodified.readmit nofun (fun id record hfound hnone => ?_) nofun
  exact absurd hstage (hmodified.worked_by ha hfound hnone).2.1

omit [DecidableEq ι] in
/-- The native work of an admission is not made. -/
theorem Inv.refuse (h : Inv s) (ha : s.admission = some a) (hstage : a.stage = .added) :
    Inv {s with admission := some {a with stage := .refused}} := by
  have hadmitted := h.admitted a ha
  refine h.readmit (fun a' ha' => ?_) (fun id record hfound hnone => ?_)
    fun e he a' ha' hentity => ?_
  · cases ha'
    exact ⟨hadmitted.unknown,fun _ => hadmitted.present (by rw [hstage]; rfl),nofun,nofun,
      hadmitted.numbered⟩
  · exact ⟨_,rfl,(h.worked_by ha hfound hnone).1,nofun,nofun⟩
  · cases ha'
    exact absurd ⟨a,ha,hentity,.inl hstage⟩ (h.steady e he).2.1

omit [DecidableEq ι] in
/-- A native call raises after that. -/
theorem Inv.raise (h : Inv s) (ha : s.admission = some a) (hstage : a.stage = .worked) :
    Inv {s with admission := some {a with stage := .failing}} := by
  have hadmitted := h.admitted a ha
  refine h.readmit (fun a' ha' => ?_) (fun id record hfound hnone => ?_) fun e _ a' ha' _ => ?_
  · cases ha'
    exact ⟨hadmitted.unknown,fun _ => hadmitted.present (by rw [hstage]; rfl),nofun,nofun,
      hadmitted.numbered⟩
  · exact absurd hstage (h.worked_by ha hfound hnone).2.1
  · cases ha'
    exact ⟨nofun,nofun⟩

/-- An admission that failed takes its number back. -/
theorem Inv.takeBack (h : Inv s) (ha : s.admission = some a)
    (hstage : a.stage = .refused ∨ a.stage = .failing) (hquiet : ¬ Evaluating a.entity s) :
    Inv {s.retire a.entity a.operation with admission := some {a with stage := .retired}} := by
  have hunlist := h.unlist (fun e he heq => hquiet ⟨e,he,heq⟩)
    (Finset.erase_subset a.operation (s.unreconciled a.entity))
    (Finset.Subset.refl (s.pending a.entity))
  rw [Function.update_eq_self] at hunlist
  have hretired : Inv (s.retire a.entity a.operation) := hunlist
  have hpresent : a.stage.present = true := by
    cases hstage with
    | inl hrefused => rw [hrefused]; rfl
    | inr hfailing => rw [hfailing]; rfl
  have hadmitted := hretired.admitted a ha
  refine hretired.readmit (fun a' ha' => ?_) (fun id record hfound hnone => ?_)
    fun e _ a' ha' _ => ?_
  · cases ha'
    refine ⟨hadmitted.unknown,fun _ => hadmitted.present hpresent,fun _ client hlisted => ?_,nofun,
      hadmitted.numbered⟩
    have heq : client = a.entity := hretired.listed_entity ha hpresent hlisted
    subst heq
    exact notMem_retire _ _ s hlisted
  · exact ⟨_,rfl,(hretired.worked_by ha hfound hnone).1,nofun,nofun⟩
  · cases ha'
    exact ⟨nofun,nofun⟩

omit [DecidableEq ι] in
/-- Then it pops its operation. -/
theorem Inv.discard (h : Inv s) (ha : s.admission = some a) (hstage : a.stage = .retired) :
    Inv {s.pop a.operation with admission := some {a with stage := .dropped}} := by
  have hadmitted := h.admitted a ha
  have hunlisted := hadmitted.unlisted (by rw [hstage]; rfl)
  refine ⟨fun client id hid => ?_,fun a' ha' => ?_,fun id record hfound hnone => ?_,
    fun client id hcancel record hfound => ?_,fun id hle => ?_,fun e he => ?_,h.faultless⟩
  · have hne : id ≠ a.operation := fun heq => hunlisted client (heq ▸ hid)
    cases h.kept client id hid with
    | inl howes => exact .inl howes
    | inr hheld =>
      obtain ⟨⟨record,hfound,hclient⟩,hloose⟩ := hheld
      exact .inr ⟨⟨record,(AList.lookup_erase_ne hne).trans hfound,hclient⟩,hloose⟩
  · cases ha'
    exact ⟨hadmitted.unknown,nofun,fun _ => hunlisted,fun _ => AList.lookup_erase _ _,
      hadmitted.numbered⟩
  · obtain ⟨hne,hold⟩ := lookup_erase_some hfound
    exact absurd (h.worked_by ha hold hnone).1.symm hne
  · exact h.aimed client id hcancel record (lookup_erase_some hfound).2
  · obtain ⟨hnone,hrest⟩ := h.bounded id hle
    have hnumbered := hadmitted.numbered
    have hne : id ≠ a.operation := by
      change s.nextOperation ≤ id at hle
      omega
    exact ⟨(AList.lookup_erase_ne hne).trans hnone,hrest⟩
  · obtain ⟨hcard,-,hrest⟩ := h.steady e he
    refine ⟨hcard,fun hcritical => ?_,hrest⟩
    obtain ⟨a',ha',-,hstage'⟩ := hcritical
    cases ha'
    cases hstage' with
    | inl hadded => cases hadded
    | inr hrefused => cases hrefused

omit [DecidableEq ι] in
/-- An admission that failed gives up the lock. -/
theorem Inv.release (h : Inv s) (ha : s.admission = some a) (hstage : a.stage = .dropped) :
    Inv {s with admission := none} := by
  refine h.readmit nofun (fun id record hfound hnone => ?_) nofun
  have habsent := (h.admitted a ha).absent hstage
  rw [(h.worked_by ha hfound hnone).1,hfound] at habsent
  cases habsent

/-- A statement of an admission. -/
theorem Inv.advance (h : Inv s) (ha : s.admission = some a) {raises : Bool}
    (hcareful : Evaluating a.entity s → a.stage ≠ .stored ∧ a.stage ≠ .failing) :
    Inv (a.advance raises s) := by
  unfold Admission.advance
  cases hstage : a.stage with
  | numbered => exact h.store ha hstage
  | stored => exact h.add ha hstage fun hevaluating => (hcareful hevaluating).1 hstage
  | added =>
    cases raises with
    | true => exact h.refuse ha hstage
    | false => exact h.work ha hstage
  | worked =>
    cases raises with
    | true => exact h.raise ha hstage
    | false => exact h.ticket ha hstage
  | refused =>
    refine h.takeBack ha (.inl hstage) fun hevaluating => ?_
    obtain ⟨e,he,heq⟩ := hevaluating
    exact (h.steady e he).2.1 ⟨a,ha,heq.symm,.inr hstage⟩
  | failing =>
    exact h.takeBack ha (.inr hstage) fun hevaluating => (hcareful hevaluating).2 hstage
  | retired => exact h.discard ha hstage
  | dropped => exact h.release ha hstage

/-! ## The other steps -/

omit [DecidableEq ι] in
/-- A step that changes nothing of what the numbers stand for. -/
theorem Inv.beside (h : Inv s) (hoperations : s'.operations = s.operations)
    (hunreconciled : s'.unreconciled = s.unreconciled) (hpending : s'.pending = s.pending)
    (hadmission : s'.admission = s.admission) (hrest : s'.rest = s.rest)
    (hnext : s.nextOperation ≤ s'.nextOperation)
    (hsteady : ∀ e ∈ s'.evaluation, (s'.unreconciled e.entity).card = e.size ∧
      ¬ Critical e.entity s' ∧ s'.rest = [])
    (hfaultless : s'.failures = []) : Inv s' := by
  have hmentions : ∀ operation, Mentions s' operation → Mentions s operation := by
    intro operation hmentions
    unfold Mentions at hmentions
    rw [hpending,hrest] at hmentions
    exact hmentions
  have hs : Shrinks s s' := by
    refine ⟨hadmission,hnext,fun client => ?_,fun operation record hfound => ?_,
      fun a _ record hfound => ?_,fun operation hm => .inl (hmentions operation hm),
      fun client operation hcancel => .inl ?_⟩
    · rw [hunreconciled]
    · rw [hoperations] at hfound
      exact ⟨record,hfound,rfl,id⟩
    · rw [hoperations]
      exact ⟨record,hfound,rfl⟩
    · rw [hrest] at hcancel
      exact hcancel
  refine h.shrink hs (fun client operation hlisted => ?_) hsteady hfaultless
  rw [hunreconciled] at hlisted
  have hkept := h.kept client operation hlisted
  unfold Justified Loose at hkept ⊢
  rw [hoperations,hpending,hrest]
  exact hkept

omit [DecidableEq ι] in
/-- An owner that had nothing to do begins with something. -/
theorem Inv.begin (h : Inv s) (hevaluation : s.evaluation = none) (hidle : s.rest = [])
    {rest : List (Statement ι)}
    (hloose : ∀ operation, Statement.drop operation ∈ rest ∨
      (∃ client, Statement.await client operation ∈ rest) → Loose s operation ∨
        ∀ client, operation ∈ s.unreconciled client → Statement.retire client operation ∈ rest)
    (hmentions : ∀ st ∈ rest, ∀ operation, st.operation = some operation →
      Mentions s operation ∨ (∃ record, s.operations.lookup operation = some record) ∧
        s.admission = none)
    (hplain : ∀ st ∈ rest, ∀ operation, st ≠ .dropReconciled operation ∧
      ∀ client, st ≠ .cancel client operation) : Inv {s with rest} := by
  refine h.turn hevaluation (fun client id hretire => ?_) (fun id hloose' => ?_)
    (fun id hmentions' => ?_) fun client id hcancel => absurd rfl ((hplain _ hcancel id).2 client)
  · rw [hidle] at hretire
    cases hretire
  · rcases hloose' with hpending | hdrop | hdrop | hawait
    · exact .inl (.inl hpending)
    · exact hloose id (.inl hdrop)
    · exact absurd rfl (hplain _ hdrop id).1
    · exact hloose id (.inr hawait)
  · cases hmentions' with
    | inl hpending => exact .inl (.inl hpending)
    | inr hst =>
      obtain ⟨st,hmem,hoperation⟩ := hst
      exact hmentions st hmem id hoperation

omit [DecidableEq ι] in
/-- An owner that does nothing begins to cancel the operations of a client. -/
theorem Inv.begin_cancelAll (h : Inv s) (hevaluation : s.evaluation = none) (hidle : s.rest = [])
    (client : ι) : Inv {s with rest := [.cancelAll client]} := by
  refine h.begin hevaluation hidle (fun id hin => ?_) (fun st hst id hoperation => ?_)
    fun st hst id => ?_
  · rcases hin with hdrop | ⟨_,hawait⟩
    · cases List.mem_singleton.mp hdrop
    · cases List.mem_singleton.mp hawait
  · rw [List.mem_singleton.mp hst] at hoperation
    cases hoperation
  · rw [List.mem_singleton.mp hst]
    exact ⟨nofun,nofun⟩

omit [DecidableEq ι] in
/-- While an evaluation is under way every number it can meet is that of an operation with its
native work. -/
theorem Inv.intact (h : Inv s) (hevaluating : Evaluating client s) : Intact client s := by
  obtain ⟨e,he,rfl⟩ := hevaluating
  obtain ⟨-,hcritical,hrest⟩ := h.steady e he
  intro operation hlisted
  cases h.kept e.entity operation hlisted with
  | inl howes =>
    rw [hrest] at howes
    cases howes
  | inr hheld =>
    obtain ⟨⟨record,hfound,-⟩,-⟩ := hheld
    refine ⟨record,hfound,fun hnone => ?_⟩
    obtain ⟨a,ha,rfl,hstage⟩ := h.worked operation record hfound hnone
    have hunlisted := (h.admitted a ha).unlisted
    have hown : a.stage.present = true → a.entity = e.entity := fun hpresent =>
      (h.listed_entity ha hpresent hlisted).symm
    -- only an admission between its two stores lists a number without native work
    cases hat : a.stage with
    | numbered => exact hunlisted (by rw [hat]; rfl) e.entity hlisted
    | stored => exact hunlisted (by rw [hat]; rfl) e.entity hlisted
    | added => exact hcritical ⟨a,ha,hown (by rw [hat]; rfl),.inl hat⟩
    | worked => exact hstage.1 hat
    | refused => exact hcritical ⟨a,ha,hown (by rw [hat]; rfl),.inr hat⟩
    | failing => exact hstage.2 hat
    | retired => exact hunlisted (by rw [hat]; rfl) e.entity hlisted
    | dropped => exact hunlisted (by rw [hat]; rfl) e.entity hlisted

/-- A round of an evaluation, or its end. -/
theorem Inv.iterate (h : Inv s) {e : Evaluation ι} (he : s.evaluation = some e)
    {choice : Option ℕ} {full : Bool}
    (hchoice : ∀ operation ∈ choice, operation ∈ s.unreconciled e.entity) :
    Inv (e.iterate choice full s) := by
  obtain ⟨hcard,hcritical,hrest⟩ := h.steady e he
  unfold Evaluation.iterate
  rw [if_neg (not_not_intro hcard)]
  cases choice with
  | none =>
    dsimp only
    split
    · have hended : Inv {s with
          evaluation := none
          closing := Function.update s.closing e.entity true} :=
        h.beside rfl rfl rfl rfl rfl (Nat.le_refl _) nofun h.faultless
      exact hended.begin_cancelAll rfl hrest e.entity
    · exact h.beside rfl rfl rfl rfl rfl (Nat.le_refl _) nofun h.faultless
  | some operation =>
    obtain ⟨record,hfound,hwork⟩ := h.intact ⟨e,he,rfl⟩ operation (hchoice operation rfl)
    obtain ⟨started,hstarted⟩ := Option.ne_none_iff_exists'.mp hwork
    dsimp only
    rw [hfound]
    dsimp only
    rw [hstarted]
    refine h.beside rfl rfl rfl rfl rfl (Nat.le_refl _) (fun e' he' => ?_) h.faultless
    cases he'
    exact ⟨hcard,hcritical,hrest⟩

/-- A response that was awaited arrives. -/
theorem Inv.respond (h : Inv s) (hfree : s.ownerFree) (hpending : operation ∈ s.pending client) :
    Inv (next s (.respond client operation)) := by
  obtain ⟨hevaluation,hidle,-⟩ := hfree
  have hsettled := h.settle hevaluation client operation
  have hdropped : Inv {s with rest := [.drop operation]} := by
    refine h.begin hevaluation hidle (fun id hin => .inl ?_) (fun st hst id hoperation => .inl ?_)
      fun st hst id => ?_
    · rcases hin with hdrop | ⟨_,hawait⟩
      · cases List.mem_singleton.mp hdrop
        exact .inl ⟨client,hpending⟩
      · cases List.mem_singleton.mp hawait
    · rw [List.mem_singleton.mp hst] at hoperation
      cases hoperation
      exact .inl ⟨client,hpending⟩
    · rw [List.mem_singleton.mp hst]
      exact ⟨nofun,nofun⟩
  have hboth := hdropped.settle hevaluation client operation
  unfold next
  dsimp only
  cases s.operations.lookup operation with
  | none => exact hboth
  | some record =>
    dsimp only
    split
    · exact hsettled
    · exact hboth

omit [DecidableEq ι] in
/-- An owner that does nothing knows the client of a number that is listed. -/
theorem Inv.entity_of_listed (h : Inv s) (hidle : s.rest = [])
    (hfound : s.operations.lookup operation = some record)
    (hlisted : operation ∈ s.unreconciled client) : client = record.entity := by
  cases h.kept client operation hlisted with
  | inl howes =>
    rw [hidle] at howes
    cases howes
  | inr hheld =>
    obtain ⟨⟨record',hfound',hclient⟩,-⟩ := hheld
    rw [hfound] at hfound'
    cases hfound'
    exact hclient.symm

omit [DecidableEq ι] in
/-- What a conclusion is made of. -/
theorem mem_conclusion {outcome : Outcome}
    (hcareful : outcome = .completed → ¬ Unattributed operation record s) {st : Statement ι}
    (hst : st ∈ conclusion operation record outcome s) :
    st = .retire record.entity operation ∨ st = .await record.entity operation ∨
      st = .reconcile operation ∨ st = .drop operation := by
  unfold conclusion at hst
  cases outcome with
  | ended => grind
  | awaited => grind
  | completed =>
    dsimp only at hst
    rw [if_neg (hcareful rfl)] at hst
    grind

omit [DecidableEq ι] in
/-- It retires the number. -/
theorem retire_mem_conclusion {outcome : Outcome}
    (hcareful : outcome = .completed → ¬ Unattributed operation record s) :
    Statement.retire record.entity operation ∈ conclusion operation record outcome s := by
  unfold conclusion
  cases outcome with
  | ended => simp
  | awaited => simp
  | completed => simp [hcareful rfl]

omit [DecidableEq ι] in
/-- A completion is drained. -/
theorem Inv.drain (h : Inv s) (hfree : s.ownerFree) (hlock : s.admission = none)
    (hfound : s.operations.lookup operation = some record) {outcome : Outcome}
    (hcareful : outcome = .completed → ¬ Unattributed operation record s) :
    Inv {s with rest := conclusion operation record outcome s} := by
  obtain ⟨hevaluation,hidle,-⟩ := hfree
  have habout : ∀ st ∈ conclusion operation record outcome s, st.operation = some operation := by
    intro st hst
    rcases mem_conclusion hcareful hst with rfl | rfl | rfl | rfl <;> rfl
  refine h.begin hevaluation hidle (fun id hin => .inr fun client hlisted => ?_)
    (fun st hst id hoperation => .inr ?_) fun st hst id => ?_
  · have heq : id = operation := by
      rcases hin with hdrop | ⟨_,hawait⟩
      · exact Option.some.inj (habout _ hdrop)
      · exact Option.some.inj (habout _ hawait)
    subst heq
    rw [h.entity_of_listed hidle hfound hlisted]
    exact retire_mem_conclusion hcareful
  · have heq : id = operation := Option.some.inj (hoperation.symm.trans (habout st hst))
    subst heq
    exact ⟨⟨record,hfound⟩,hlock⟩
  · rcases mem_conclusion hcareful hst with rfl | rfl | rfl | rfl <;> exact ⟨nofun,nofun⟩

/-- An operation is terminal. -/
theorem Inv.terminal (h : Inv s) (hfree : s.ownerFree) (hlock : s.admission = none)
    (operation : ℕ) : Inv (next s (.terminal operation)) := by
  obtain ⟨hevaluation,hidle,-⟩ := hfree
  unfold next
  dsimp only
  cases hfound : s.operations.lookup operation with
  | none => exact h
  | some record =>
    dsimp only
    split
    · exact h
    · have hforgot := h.forget hevaluation record.entity operation record
      have hgone := notMem_forget record.entity operation record s
      obtain ⟨hoperations,hadmission,-,hrest⟩ := forget_fields record.entity operation record s
      refine hforgot.popReconciled (fun a ha => ?_) fun client hlisted => ?_
      · rw [hadmission,hlock] at ha
        cases ha
      · have heq : client = record.entity :=
          hforgot.entity_of_listed (hrest.trans hidle) (by rw [hoperations]; exact hfound) hlisted
        subst heq
        exact absurd hlisted hgone

/-- Every careful step keeps the invariant. -/
theorem Inv.step (h : Inv s) {e : Event ι} (hen : e.Enabled s) (hcareful : Careful s e) :
    Inv (next s e) := by
  cases e with
  | submit client kind onOwner => exact h.submit hen.1 client kind onOwner
  | advance raises =>
    obtain ⟨a,ha⟩ := Option.isSome_iff_exists.mp hen
    unfold next
    dsimp only
    rw [ha]
    exact h.advance ha (hcareful a ha)
  | start operation =>
    exact h.modify operation
      (fun record => {record with nativeWork := some true}) (fun _ => rfl) nofun
  | attach operation =>
    exact h.beside rfl rfl rfl rfl rfl (Nat.le_refl _) h.steady h.faultless
  | elsewhere => exact h.beside rfl rfl rfl rfl rfl (Nat.le_succ _) h.steady h.faultless
  | take client =>
    refine h.beside rfl rfl rfl rfl rfl (Nat.le_refl _) (fun e he => ?_) h.faultless
    cases he
    exact ⟨rfl,hcareful,hen.2.1⟩
  | iterate choice full =>
    obtain ⟨e,he,hchoice⟩ := hen
    have hcard := (h.steady e he).1
    unfold next
    dsimp only
    rw [Option.mem_def.mp he]
    refine h.iterate he fun operation hoperation => ?_
    cases hoperation
    cases hchoice with
    | inl hne => exact absurd hcard hne
    | inr hin => exact hin.1
  | respond client operation => exact h.respond hen.1 hen.2
  | drain operation outcome =>
    obtain ⟨hfree,hlock,record,hfound,-⟩ := hen
    unfold next
    dsimp only
    rw [Option.mem_def.mp hfound]
    refine h.drain hfree hlock hfound fun hcompleted => ?_
    subst hcompleted
    exact hcareful record hfound
  | terminal operation => exact h.terminal hen.1 hen.2 operation
  | control client => exact h.begin_cancelAll hen.1.1 hen.1.2.1 client
  | proceed =>
    obtain ⟨st,hst,hlock⟩ := hen
    unfold next
    dsimp only
    cases hrest : s.rest with
    | nil =>
      rw [hrest] at hst
      cases hst
    | cons head rest =>
      rw [hrest] at hst
      cases hst
      exact h.run hrest hlock
  | close client => exact h.beside rfl rfl rfl rfl rfl (Nat.le_refl _) h.steady h.faultless
  | shutdown => exact h.beside rfl rfl rfl rfl rfl (Nat.le_refl _) h.steady h.faultless
  | retireBindings client =>
    exact h.unlist hen.2 (Finset.empty_subset _) (Finset.empty_subset _)

end

/-! ## Runs -/

/-- In every run whose steps are careful no evaluation fails: while one is under way every
number it can meet is that of an operation with its native work. -/
theorem snapshots_careful {s : System ι} {es : List (Event ι)}
    (hrun : (machine ι).RunWhen Careful (initial ι) es s) :
    s.failures = [] ∧ ∀ client, Evaluating client s → Intact client s := by
  have hinv : Inv s := hrun.invariant Inv Inv.initial fun s e h hen hok => h.step hen hok
  exact ⟨hinv.faultless,fun client hevaluating => hinv.intact hevaluating⟩

instance (client : ι) (s : System ι) : Decidable (Evaluating client s) := by
  unfold Evaluating
  infer_instance

instance (client : ι) (s : System ι) : Decidable (Critical client s) := by
  unfold Critical
  infer_instance

instance (s : System ι) (e : Event ι) : Decidable (Careful s e) := by
  cases e with
  | drain operation outcome => cases outcome <;> unfold Careful <;> infer_instance
  | _ => unfold Careful; infer_instance

/-- A goal request is added while a response to a request of another client is looked at. -/
def carefulRun : List (Event Bool) :=
  [.submit false .service false,.advance false,.advance false,.advance false,.advance false,
    .start 1,.take false,.submit true .goal false,.advance false,.advance false,
    .iterate (some 1) false]

/-- The executor at the end of it. -/
def carefulEnd : System Bool := ((machine Bool).exec (initial Bool) carefulRun).getD (initial Bool)

/-- The response is looked at, and may be that to the request. -/
theorem snapshots_careful_beside :
    (carefulEnd.evaluation.any fun e => e.entity = false ∧ e.candidates = {1}) = true ∧
      (carefulEnd.admission.any fun a => a.entity = true ∧ a.stage = .added) = true ∧
      carefulEnd.failures = [] ∧ ∀ client, Evaluating client carefulEnd → Intact client carefulEnd := by
  have hexec : (machine Bool).exec (initial Bool) carefulRun = some carefulEnd := by
    have hsome : ((machine Bool).exec (initial Bool) carefulRun).isSome = true := by decide +kernel
    obtain ⟨s,hs⟩ := Option.isSome_iff_exists.mp hsome
    rw [carefulEnd,hs]
    rfl
  have hrun : (machine Bool).RunWhen Careful (initial Bool) carefulRun carefulEnd :=
    GuardedRuns.Machine.runWhen_of_exec (fun s e => decide (Careful s e))
      (fun _ _ => of_decide_eq_true) hexec (by decide +kernel)
  exact ⟨by decide +kernel,by decide +kernel,snapshots_careful hrun⟩

/-- A response arrives after the number of a request was added, and before its native work
is stored. -/
def overlappingRun : List (Event Unit) :=
  [.submit () .service false,.advance false,.advance false,.take (),.iterate (some 1) false]

/-- The executor at the end of it. -/
def overlappingEnd : System Unit :=
  ((machine Unit).exec (initial Unit) overlappingRun).getD (initial Unit)

/-- The response to a goal request comes before the completion of its send, and that is
drained before the Future has its attributes. The next response finds the number without its
operation. -/
def unattributedRun : List (Event Unit) :=
  [.submit () .goal false,.advance false,.advance false,.advance false,.advance false,.start 1,
    .take (),.iterate (some 1) false,.iterate none false,.drain 1 .completed,.proceed,.take (),
    .iterate (some 1) false]

/-- The executor at the end of it. -/
def unattributedEnd : System Unit :=
  ((machine Unit).exec (initial Unit) unattributedRun).getD (initial Unit)

/-- Both evaluations fail. -/
theorem evaluations_fail :
    (machine Unit).Run (initial Unit) overlappingRun overlappingEnd ∧
      overlappingEnd.failures = [((),.attributeError)] ∧
      (machine Unit).Run (initial Unit) unattributedRun unattributedEnd ∧
      unattributedEnd.failures = [((),.keyError)] := by
  have hend : ∀ es s, ((machine Unit).exec (initial Unit) es).isSome = true →
      s = ((machine Unit).exec (initial Unit) es).getD (initial Unit) →
        (machine Unit).Run (initial Unit) es s := by
    intro es s hsome heq
    obtain ⟨s',hs'⟩ := Option.isSome_iff_exists.mp hsome
    rw [hs'] at heq
    rw [heq]
    exact GuardedRuns.Machine.run_of_exec hs'
  exact ⟨hend _ _ (by decide +kernel) rfl,by decide +kernel,
    hend _ _ (by decide +kernel) rfl,by decide +kernel⟩

end Dmw.CandidateSnapshots
