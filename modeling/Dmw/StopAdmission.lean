import Dmw.OwnerPrograms

/-!
# User code and the end of an executor

A step that begins after the executor left `RUNNING`, after the shutdown of the
Context or after its entity started closing should start no user code. Programs
keep this where every callback is under a check of its own entity.
-/

namespace Dmw.OwnerPrograms

open GuardedRuns

/-- Every callback is under an admission check, or its entity was admitted. -/
def Program.Vetted (admitted : EntityId → Prop) : Program → Prop
  | .done => True
  | .raised _ => True
  | .fault _ next => next.Vetted admitted
  | .check test entity yes no =>
    ((test = .admitted → admitted entity) → yes.Vetted admitted) ∧ no.Vetted admitted
  | .native _ next failed => next.Vetted admitted ∧ ∀ cause, (failed cause).Vetted admitted
  | .callback entity _ next => admitted entity ∧ next.Vetted admitted

section

variable {admitted : EntityId → Prop} {entity : EntityId}

/-- Calls and checks start no user code. -/
theorem vetted_inherited (entity : EntityId) :
    Inherited entity (fun _ => True) (Program.Vetted admitted) where
  other := trivial
  done := trivial
  raised _ _ := trivial
  check hyes hno := ⟨fun _ => hyes, hno⟩
  native hok herr := ⟨hok, fun cause => herr cause trivial⟩

/-- User code of an admitted entity. -/
theorem vetted_calls (hentity : admitted entity) : Calls entity (Program.Vetted admitted) :=
  fun _ _ hok => ⟨hentity, hok⟩

/-- Restored registrations start no user code. -/
theorem vetted_restoreEach (entities : List EntityId) : (restoreEach entities).Vetted admitted := by
  induction entities with
  | nil => trivial
  | cons entity rest ih => exact ⟨fun _ => ⟨ih, fun _ => trivial⟩, ih⟩

end

/-- The step drains the completion of a goal that was accepted and is active. -/
def Step.executes : Step → Option EntityId
  | .completion entity true _ (.accept _ execution) => if execution.active then some entity else none
  | _ => none

/-- Only an accepted goal starts user code without a check. -/
theorem vetted_program (asynchronous : Bool) (step : Step) {admitted : EntityId → Prop}
    (hexecutes : ∀ entity, step.executes = some entity → admitted entity) :
    (step.program asynchronous).Vetted admitted := by
  cases step with
  | entry entity ready =>
    exact ⟨fun hentity => (vetted_inherited entity).dispatches (vetted_calls (hentity rfl))
      asynchronous ready, trivial⟩
  | completion entity succeeded missing delivered =>
    refine (vetted_inherited entity).completes asynchronous succeeded missing delivered ?_
    rintro inflight execution rfl rfl hactive
    exact vetted_calls (hexecutes entity (by simp [Step.executes, hactive]))
  | invoke entity service => exact ⟨fun hentity => ⟨hentity rfl, trivial⟩, trivial⟩
  | finishExecute entity active inflight =>
    exact (vetted_inherited entity).aborts active inflight trivial fun _ _ => trivial
  | restore entities => exact ⟨fun _ => vetted_restoreEach entities, trivial⟩
  | control => trivial

/-- An accepted goal that is active is executed before anything ends. -/
def Admissible (s : Owner) : Event → Prop
  | .begin => ∀ step rest entity, s.rest = step :: rest → step.executes = some entity →
    s.admits entity = true
  | _ => True

namespace Owner

variable {s : Owner}

/-- What every step keeps: the running program is vetted for what was admitted
when it began. -/
structure Vetted (s : Owner) : Prop where
  /-- What is admitted now was admitted when the step began. -/
  lasting : s.current.isDone = false → ∀ entity, s.admits entity = true → s.admitted entity = true
  /-- The running program. -/
  program : s.current.Vetted fun entity => s.admitted entity = true
  /-- User code so far. -/
  invoked : ∀ invocation ∈ s.invoked, invocation.admitted = true

/-- An admission check that succeeds admits. -/
theorem admits_of_holds {entity : EntityId} (h : s.holds entity .admitted = true) :
    s.admits entity = true := by
  simp only [holds, Bool.and_eq_true, decide_eq_true_eq] at h
  simp only [admits, unstopped, h.1.1, h.1.2, h.2]
  rfl

/-- A recorded fault admits nothing more. -/
theorem admits_of_recordFault {entity : EntityId} {cause : Cause}
    (h : (s.recordFault cause).admits entity = true) : s.admits entity = true := by
  unfold admits recordFault at h
  simp only at h
  unfold admits
  split at h
  · next hstop =>
    rw [Bool.and_eq_true] at hstop
    rw [hstop.2]
    simp only [unstopped, reduceCtorEq, decide_false, Bool.or_self, Bool.false_and] at h
  · exact h

/-- The owner does the next thing. -/
theorem Vetted.advance (h : s.Vetted) (hrunning : s.current.isDone = false) :
    s.advance.Vetted := by
  have hlasting := h.lasting hrunning
  have hprogram := h.program
  unfold Owner.advance
  cases hcurrent : s.current with
  | done =>
    rw [hcurrent] at hrunning
    cases hrunning
  | raised cause =>
    exact ⟨(fun hno => by cases hno), trivial, h.invoked⟩
  | fault cause next =>
    rw [hcurrent] at hprogram
    have hless : ∀ entity, (s.recordFault cause).admits entity = true →
        s.admitted entity = true := fun entity hadmits =>
      hlasting entity (admits_of_recordFault hadmits)
    exact ⟨fun _ => hless, hprogram, h.invoked⟩
  | check test entity yes no =>
    rw [hcurrent] at hprogram
    refine ⟨fun _ => hlasting, ?_, h.invoked⟩
    change Program.Vetted (fun entity => s.admitted entity = true)
      (if s.holds entity test then yes else no)
    split
    · next hholds =>
      refine hprogram.1 ?_
      rintro rfl
      exact hlasting entity (admits_of_holds hholds)
    · exact hprogram.2
  | native entity next failed =>
    rw [hcurrent] at hprogram
    simp only
    split
    · exact ⟨fun _ => hlasting, hprogram.1, h.invoked⟩
    · exact ⟨fun _ => hlasting, hprogram.2 _, h.invoked⟩
  | callback entity kind next =>
    rw [hcurrent] at hprogram
    refine ⟨fun _ => hlasting, hprogram.2, ?_⟩
    intro invocation hmem
    rcases List.mem_cons.mp hmem with rfl | hmem
    · exact hprogram.1
    · exact h.invoked invocation hmem

/-- A change that admits nothing more. -/
theorem Vetted.less {s' : Owner} (h : s.Vetted) (hcurrent : s'.current = s.current)
    (hadmitted : s'.admitted = s.admitted) (hinvoked : s'.invoked = s.invoked)
    (hadmits : ∀ entity, s'.admits entity = true → s.admits entity = true) : s'.Vetted := by
  refine ⟨?_, ?_, ?_⟩
  · rw [hcurrent, hadmitted]
    exact fun hrunning entity hnow => h.lasting hrunning entity (hadmits entity hnow)
  · rw [hcurrent, hadmitted]
    exact h.program
  · rw [hinvoked]
    exact h.invoked

end Owner

/-- Every step of the owner, and every end, keeps the running program vetted. -/
theorem step_vetted {s : Owner} {e : Event} (h : s.Vetted) (hen : Enabled s e)
    (hadmissible : Admissible s e) : (next s e).Vetted := by
  cases e with
  | turn steps => exact h.less rfl rfl rfl fun _ hadmits => hadmits
  | begin =>
    cases hrest : s.rest with
    | nil =>
      rw [next_begin_nil hrest]
      exact h
    | cons step rest =>
      rw [next_begin_cons hrest]
      refine ⟨fun _ _ hadmits => hadmits, vetted_program s.asynchronous step ?_, h.invoked⟩
      exact fun entity hexecutes => hadmissible step rest entity hrest hexecutes
  | advance => exact h.advance hen
  | start =>
    refine h.less rfl rfl rfl fun entity hadmits => ?_
    have hstate : s.state = .created := hen
    simp only [Owner.admits, Owner.unstopped, hstate]
    exact hadmits
  | startClosing entity =>
    refine h.less rfl rfl rfl fun other hadmits => ?_
    by_cases hother : other = entity
    · subst hother
      simp [Owner.admits, next] at hadmits
    · have hclosing : (next s (.startClosing entity)).closing other = s.closing other :=
        Function.update_of_ne hother _ _
      unfold Owner.admits at hadmits ⊢
      rw [hclosing] at hadmits
      exact hadmits
  | closeNative entity => exact h.less rfl rfl rfl fun _ hadmits => hadmits
  | requestShutdown =>
    refine h.less rfl rfl rfl fun entity hadmits => ?_
    cases hadmits
  | shutdownContext =>
    refine h.less rfl rfl rfl fun entity hadmits => ?_
    simp [Owner.admits, next] at hadmits

/-- No step that begins after the executor left `RUNNING`, after the shutdown of
the Context or after its entity started closing starts user code for it. -/
theorem user_code_admitted (asynchronous : Bool) {es : List Event} {s : Owner}
    (hrun : machine.RunWhen Admissible (Owner.initial asynchronous) es s) :
    ∀ invocation ∈ s.invoked, invocation.admitted = true := by
  have hinit : (Owner.initial asynchronous).Vetted :=
    ⟨(fun hno => by cases hno), trivial, fun _ hmem => absurd hmem List.not_mem_nil⟩
  have hvetted : s.Vetted := hrun.invariant Owner.Vetted hinit
    fun _ _ h hen hadmissible => step_vetted h hen hadmissible
  exact hvetted.invoked

/-- The completion of an accepted goal whose callback returns. -/
def sampleAccept : Step := .completion 0 true true (.accept false ⟨true,.returned,true,false,false⟩)

/-- A goal is taken and executed by a running executor, which stops afterwards. -/
def executedFirst : List Event :=
  [.start,.turn [.entry 0 (.actionServer false false false (some (.goal true))),sampleAccept],
    .begin] ++ List.replicate 4 .advance ++ [.begin] ++ List.replicate 10 .advance ++
    [.requestShutdown]

/-- A test that is enough for a step to be admissible. -/
def admitsAll (s : Owner) : Event → Bool
  | .begin => s.rest.all fun step => (step.executes).all s.admits
  | _ => true

theorem admissible_of_admitsAll (s : Owner) (e : Event) (h : admitsAll s e = true) :
    Admissible s e := by
  cases e with
  | begin =>
    intro step rest entity hrest hexecutes
    have hstep := List.all_eq_true.mp h step (by rw [hrest]; exact List.mem_cons_self)
    rw [hexecutes] at hstep
    exact hstep
  | _ => trivial

/-- The law for two callbacks. -/
theorem user_code_admitted_executed :
    ∃ s, machine.RunWhen Admissible (Owner.initial true) executedFirst s ∧
      s.invoked.map (·.kind) = [.execute,.goal] ∧
        ∀ invocation ∈ s.invoked, invocation.admitted = true := by
  have hsome : ((machine.exec (Owner.initial true) executedFirst).map fun s =>
    decide (s.invoked.map (·.kind) = [.execute,.goal])) = some true := by decide +kernel
  obtain ⟨s, hexec, hkinds⟩ := Option.map_eq_some_iff.mp hsome
  have hrun := Machine.runWhen_of_exec admitsAll admissible_of_admitsAll hexec (by decide +kernel)
  exact ⟨s, hrun, of_decide_eq_true hkinds, user_code_admitted true hrun⟩

/-- The executor stops between the acceptance of a goal and its completion. -/
def executedStopping : List Event :=
  [.start,.requestShutdown,.turn [sampleAccept],.begin] ++ List.replicate 5 .advance

theorem executedStopping_not_admitted :
    ¬ ∀ asynchronous es s, machine.Run (Owner.initial asynchronous) es s →
      ∀ invocation ∈ s.invoked, invocation.admitted = true := by
  intro hall
  have hsome : ((machine.exec (Owner.initial false) executedStopping).map fun s =>
    s.invoked.any fun invocation => !invocation.admitted) = some true := by decide +kernel
  obtain ⟨s, hexec, hany⟩ := Option.map_eq_some_iff.mp hsome
  obtain ⟨invocation, hmem, hnot⟩ := List.any_eq_true.mp hany
  rw [hall false executedStopping s (Machine.run_of_exec hexec) invocation hmem] at hnot
  cases hnot

end Dmw.OwnerPrograms
