import Dmw.OwnerPrograms

/-!
# Entities that close during a step

The owner looks at `_closing` and calls the backing later, which refuses a
closing entity. A program is exposed to an entity if it calls its backing before
it looks at it again; a close that finds the program exposed makes that call
raise. A backing that never closes so is never refused, whatever else closes.
-/

namespace Dmw.OwnerPrograms

open GuardedRuns

/-- The program calls the backing of an entity before it looks at the entity. -/
@[grind =] def Program.exposes (entity : EntityId) : Program → Bool
  | .done => false
  | .raised _ => false
  | .fault _ next => next.exposes entity
  | .check test other yes no =>
    if test.readsClosing && decide (other = entity) then no.exposes entity
    else yes.exposes entity || no.exposes entity
  | .native other next failed =>
    decide (other = entity) || next.exposes entity || (failed .closed).exposes entity ||
      (failed .other).exposes entity
  | .callback _ _ next => next.exposes entity

/-- The program raises for a closed entity only where a backing did. -/
def Program.Clean : Program → Prop
  | .done => True
  | .raised cause => cause ≠ .closed
  | .fault cause next => cause ≠ .closed ∧ next.Clean
  | .check _ _ yes no => yes.Clean ∧ no.Clean
  | .native _ next failed => next.Clean ∧ (failed .other).Clean
  | .callback _ _ next => next.Clean

/-- The program is exposed to one entity at most. -/
def Program.Local (entity : EntityId) (program : Program) : Prop :=
  ∀ other, program.exposes other = true → other = entity

/-- The program is exposed to no entity. -/
def Program.Hidden (program : Program) : Prop := ∀ other, program.exposes other = false

section

variable {entity : EntityId} {program ok yes no : Program} {err : Cause → Program}

/-- What is hidden is local to any entity. -/
theorem Program.Hidden.local (h : program.Hidden) : program.Local entity := by
  intro other hexposed
  rw [h other] at hexposed
  cases hexposed

/-- A call is local to its entity. -/
theorem local_native (hok : ok.Local entity) (herr : ∀ cause, (err cause).Local entity) :
    (Program.native entity ok err).Local entity := by
  intro other hexposed
  simp only [Program.exposes, Bool.or_eq_true, decide_eq_true_eq] at hexposed
  rcases hexposed with ((hself | hnext) | hclosed) | hother
  · exact hself.symm
  · exact hok other hnext
  · exact herr .closed other hclosed
  · exact herr .other other hother

/-- A callback is local to what follows. -/
theorem local_callback {kind : Callback} (hok : ok.Local entity) :
    (Program.callback entity kind ok).Local entity := hok

/-- A check is local to what follows. -/
theorem local_check {test : Check} (hyes : yes.Local entity) (hno : no.Local entity) :
    (Program.check test entity yes no).Local entity := by
  intro other hexposed
  simp only [Program.exposes] at hexposed
  split at hexposed
  · exact hno other hexposed
  · rcases Bool.or_eq_true_iff.mp hexposed with hexposed | hexposed
    · exact hyes other hexposed
    · exact hno other hexposed

/-- So what is made of them is local. -/
theorem local_inherited (entity : EntityId) :
    Inherited entity (fun _ => True) (Program.Local entity) where
  other := trivial
  done := Program.Hidden.local fun _ => rfl
  raised _ _ := Program.Hidden.local fun _ => rfl
  check := local_check
  native hok herr := local_native hok fun cause => herr cause trivial

/-- A check of the entity hides the calls after it. -/
theorem hidden_check {test : Check} (htest : test.readsClosing = true) (hyes : yes.Local entity)
    (hno : no.Hidden) : (Program.check test entity yes no).Hidden := by
  intro other
  simp only [Program.exposes, htest, Bool.true_and]
  split
  · exact hno other
  · next hne =>
    rw [hno other, Bool.or_false]
    cases hexposed : yes.exposes other with
    | false => rfl
    | true => exact absurd (decide_eq_true (hyes other hexposed).symm) hne

/-- A restored registration is hidden. -/
theorem hidden_restoreRegistration (missing : Bool) (hok : ok.Hidden)
    (herr : ∀ cause, (err cause).Local entity) :
    (restoreRegistration entity missing ok err).Hidden := by
  refine hidden_check rfl ?_ hok
  cases missing with
  | true => exact local_native hok.local herr
  | false => exact hok.local

/-- A published status is hidden where what follows is. -/
theorem hidden_publishStatus (inflight : Bool) (hok : ok.Hidden)
    (herr : ∀ cause, (err cause).Local entity) :
    (publishStatus entity inflight ok err).Hidden := by
  cases inflight with
  | true => exact hok
  | false => exact hidden_check rfl (local_native (local_native hok.local herr) herr) hok

/-- A goal that is not active is not executed. -/
theorem hidden_runExecute {asynchronous : Bool} {execution : Execution}
    (hactive : execution.active = false) (hok : ok.Hidden) :
    (runExecute asynchronous entity execution ok err).Hidden := by
  obtain ⟨active, executed, activeAfter, activeAgain, inflight⟩ := execution
  cases hactive
  exact hok

/-- Restored registrations are checked one by one. -/
theorem hidden_restoreEach (entities : List EntityId) : (restoreEach entities).Hidden := by
  induction entities with
  | nil => exact fun _ => rfl
  | cons entity rest ih =>
    refine hidden_check rfl (local_native ih.local fun _ => ?_) ih
    exact Program.Hidden.local fun _ => rfl

end

/-- The step works on a goal of this ActionServer without a check: it executes
an accepted goal or ends one. -/
def Step.unchecked : Step → Option EntityId
  | .completion entity true _ (.accept _ execution) => if execution.active then some entity else none
  | .finishExecute entity true _ => some entity
  | _ => none

/-- A step is exposed from its beginning only to the ActionServer of a goal. -/
theorem exposes_program {asynchronous : Bool} {step : Step} {entity : EntityId}
    (h : (step.program asynchronous).exposes entity = true) : step.unchecked = some entity := by
  have hdone : Program.done.Hidden := fun _ => rfl
  have hraised : ∀ cause, (Program.raised cause).Hidden := fun _ _ => rfl
  have hidden : (step.program asynchronous).Hidden → step.unchecked = some entity := by
    intro hidden
    rw [hidden entity] at h
    cases h
  cases step with
  | entry other ready =>
    exact hidden (hidden_check rfl
      ((local_inherited other).dispatches (fun _ _ => local_callback) asynchronous ready) hdone)
  | completion other succeeded missing delivered =>
    have hfree : (restoreRegistration other missing .done .raised).Hidden :=
      hidden_restoreRegistration missing hdone fun cause => (hraised cause).local
    have hraise : ∀ cause, (restoreRegistration other missing (.raised cause) .raised).Hidden :=
      fun cause => hidden_restoreRegistration missing (hraised cause) fun c => (hraised c).local
    cases delivered with
    | accept inflight execution =>
      cases succeeded with
      | false => exact hidden (hraise .other)
      | true =>
        cases hactive : execution.active with
        | false =>
          refine hidden (hidden_publishStatus inflight ?_ fun cause => (hraise cause).local)
          exact hidden_runExecute hactive hfree
        | true =>
          have hrun : (runExecute asynchronous other execution
              (restoreRegistration other missing .done .raised)
              fun cause => restoreRegistration other missing (.raised cause) .raised).Local other :=
            (local_inherited other).executes asynchronous execution
              (fun _ _ _ => local_callback) hfree.local fun cause _ => (hraise cause).local
          have hsame := (local_inherited other).publishes inflight hrun
            (fun cause _ => (hraise cause).local) entity h
          simp [Step.unchecked, hactive, hsame]
    | lane =>
      cases succeeded with
      | false => exact hidden (hraise .other)
      | true => exact hidden hfree
    | resultDelivery =>
      cases succeeded with
      | false => exact hidden (hraised .other)
      | true => exact hidden hdone
    | status dirty =>
      cases succeeded with
      | false => exact hidden hdone
      | true =>
        cases dirty with
        | false => exact hidden hdone
        | true => exact hidden (hidden_publishStatus false hdone fun cause => (hraised cause).local)
    | feedback =>
      cases succeeded with
      | false => exact hidden (hraised .other)
      | true => exact hidden hdone
  | invoke other service =>
    refine hidden (hidden_check rfl (local_callback hdone.local) hdone)
  | finishExecute other active inflight =>
    cases active with
    | false => exact hidden hdone
    | true =>
      have hfault : ∀ cause, (Program.fault cause .done).Local other :=
        fun _ => Program.Hidden.local fun _ => rfl
      have hsame := (local_inherited other).aborts true inflight hdone.local
        (fun cause _ => hfault cause) entity h
      simp [Step.unchecked, hsame]
  | restore entities =>
    refine hidden fun other => ?_
    have hrest := hidden_restoreEach entities other
    simp [Step.program, Program.exposes, Check.readsClosing, hrest]
  | control => exact hidden hdone

section

variable {entity : EntityId} {ok : Program} {err : Cause → Program}

/-- Calls and checks raise what a backing raises. -/
theorem clean_inherited (entity : EntityId) : Inherited entity (· ≠ .closed) Program.Clean where
  other := nofun
  done := trivial
  raised _ hcause := hcause
  check hyes hno := ⟨hyes, hno⟩
  native hok herr := ⟨hok, herr .other nofun⟩

/-- So do restored registrations. -/
theorem clean_restoreEach (entities : List EntityId) : (restoreEach entities).Clean := by
  induction entities with
  | nil => trivial
  | cons entity rest ih =>
    have hraised : (Program.raised .other).Clean := fun hno => by cases hno
    exact ⟨⟨ih, hraised⟩, ih⟩

/-- Every step raises for a closed entity only where a backing does. -/
theorem clean_program (asynchronous : Bool) (step : Step) : (step.program asynchronous).Clean := by
  have hdone : Program.done.Clean := trivial
  have hraised : (Program.raised .other).Clean := fun hno => by cases hno
  cases step with
  | entry entity ready =>
    exact ⟨(clean_inherited entity).dispatches (fun _ _ hok => hok) asynchronous ready, hdone⟩
  | completion entity succeeded missing delivered =>
    exact (clean_inherited entity).completes asynchronous succeeded missing delivered
      fun _ _ _ _ _ _ _ hok => hok
  | invoke entity service => exact ⟨hdone, hdone⟩
  | finishExecute entity active inflight =>
    exact (clean_inherited entity).aborts active inflight hdone fun _ hcause => ⟨hcause, hdone⟩
  | restore entities => exact ⟨clean_restoreEach entities, hdone⟩
  | control => exact hdone

end

/-- No backing closes while the running step is exposed to it, and no step works
on a goal of a closed ActionServer without a check. -/
def Uninterrupted (s : Owner) : Event → Prop
  | .closeNative entity => s.current.exposes entity = false
  | .begin => ∀ step rest entity, s.rest = step :: rest → step.unchecked = some entity →
    s.closed entity = false
  | _ => True

namespace Owner

variable {s : Owner}

/-- No close left a step, and without any exception all steps are taken in turn. -/
structure Unfaulted (s : Owner) : Prop where
  /-- No step raised because its entity closed. -/
  quiet : .closed ∉ s.raised
  /-- What was scheduled has begun or follows. -/
  dispatched : s.raised = [] → s.begun ++ s.rest = s.scheduled

/-- What every step keeps. -/
structure Sheltered (s : Owner) : Prop where
  /-- What is seen of it. -/
  unfaulted : s.Unfaulted
  /-- A closed backing belongs to a closing entity. -/
  closing : ∀ entity, s.closed entity = true → s.closing entity = true
  /-- The running program is not exposed to closed backings. -/
  hidden : ∀ entity, s.closed entity = true → s.current.exposes entity = false
  /-- It raises for a closed entity only where a backing does. -/
  clean : s.current.Clean

/-- A closing entity fails every check of it. -/
theorem holds_closing {entity : EntityId} {test : Check} (hclosing : s.closing entity = true)
    (hreads : test.readsClosing = true) : s.holds entity test = false := by
  cases test with
  | running => cases hreads
  | admitted | alive | unclosed => simp [holds, hclosing]

/-- A recorded fault is not one of a close. -/
theorem quiet_cons {cause : Cause} (h : .closed ∉ s.raised) (hcause : cause ≠ .closed) :
    .closed ∉ cause :: s.raised := by
  intro hmem
  rcases List.mem_cons.mp hmem with heq | hmem
  · exact hcause heq.symm
  · exact h hmem

/-- The owner does the next thing. -/
theorem Sheltered.advance (h : s.Sheltered) : s.advance.Sheltered := by
  have hhidden := h.hidden
  have hclean := h.clean
  unfold Owner.advance
  cases hcurrent : s.current with
  | done => exact h
  | raised cause =>
    rw [hcurrent] at hclean
    exact ⟨⟨quiet_cons h.unfaulted.quiet hclean, fun hno => absurd hno (List.cons_ne_nil _ _)⟩,
      h.closing, fun _ _ => rfl, trivial⟩
  | fault cause next =>
    rw [hcurrent] at hclean hhidden
    exact ⟨⟨quiet_cons h.unfaulted.quiet hclean.1, fun hno => absurd hno (List.cons_ne_nil _ _)⟩,
      h.closing, hhidden, hclean.2⟩
  | check test entity yes no =>
    rw [hcurrent] at hclean hhidden
    refine ⟨⟨h.unfaulted.quiet, h.unfaulted.dispatched⟩, h.closing, ?_, ?_⟩
    · intro other hclosed
      have hexposed := hhidden other hclosed
      change (if s.holds entity test then yes else no).exposes other = false
      simp only [Program.exposes] at hexposed
      split at hexposed
      · next hself =>
        rw [Bool.and_eq_true, decide_eq_true_eq] at hself
        obtain ⟨hreads, rfl⟩ := hself
        rw [holds_closing (h.closing entity hclosed) hreads]
        exact hexposed
      · rw [Bool.or_eq_false_iff] at hexposed
        split
        · exact hexposed.1
        · exact hexposed.2
    · change (if s.holds entity test then yes else no).Clean
      split
      · exact hclean.1
      · exact hclean.2
  | native entity next failed =>
    rw [hcurrent] at hclean hhidden
    have hparts : ∀ other, s.closed other = true → entity ≠ other ∧
        next.exposes other = false ∧ (failed .other).exposes other = false := by
      intro other hclosed
      have hexposed := hhidden other hclosed
      simp only [Program.exposes, Bool.or_eq_false_iff, decide_eq_false_iff_not] at hexposed
      exact ⟨hexposed.1.1.1, hexposed.1.1.2, hexposed.2⟩
    simp only
    split
    · exact ⟨⟨h.unfaulted.quiet, h.unfaulted.dispatched⟩, h.closing,
        fun other hclosed => (hparts other hclosed).2.1, hclean.1⟩
    · next cause hrefusal =>
      have hother : cause = .other := by
        unfold refusal at hrefusal
        split at hrefusal
        · exact (Option.some.inj hrefusal).symm
        · split at hrefusal
          · next hclosed => exact absurd rfl (hparts entity hclosed).1
          · cases hrefusal
      rw [hother]
      exact ⟨⟨h.unfaulted.quiet, h.unfaulted.dispatched⟩, h.closing,
        fun other hclosed => (hparts other hclosed).2.2, hclean.2⟩
  | callback entity kind next =>
    rw [hcurrent] at hclean hhidden
    exact ⟨⟨h.unfaulted.quiet, h.unfaulted.dispatched⟩, h.closing, hhidden, hclean⟩

/-- Other threads that leave the program and the backings alone. -/
theorem Sheltered.elsewhere {s' : Owner} (h : s.Sheltered) (hunfaulted : s'.Unfaulted)
    (hcurrent : s'.current = s.current) (hclosed : s'.closed = s.closed)
    (hclosing : ∀ entity, s.closing entity = true → s'.closing entity = true) : s'.Sheltered := by
  refine ⟨hunfaulted, ?_, ?_, ?_⟩
  · rw [hclosed]
    exact fun entity hentity => hclosing entity (h.closing entity hentity)
  · rw [hclosed, hcurrent]
    exact h.hidden
  · rw [hcurrent]
    exact h.clean

end Owner

/-- Every event that interrupts nothing keeps the owner sheltered. -/
theorem step_sheltered {s : Owner} {e : Event} (h : s.Sheltered) (hen : Enabled s e)
    (hfree : Uninterrupted s e) : (next s e).Sheltered := by
  cases e with
  | turn steps =>
    have hrest : s.rest = [] := List.isEmpty_iff.mp hen.2
    refine h.elsewhere ⟨h.unfaulted.quiet, fun hnone => ?_⟩ rfl rfl fun _ hclosing => hclosing
    have hdispatched := h.unfaulted.dispatched hnone
    change s.begun ++ steps = s.scheduled ++ steps
    rw [← hdispatched, hrest, List.append_nil]
  | begin =>
    cases hrest : s.rest with
    | nil =>
      rw [next_begin_nil hrest]
      exact h
    | cons step rest =>
      rw [next_begin_cons hrest]
      refine ⟨⟨h.unfaulted.quiet, fun hnone => ?_⟩, h.closing, fun entity hclosed => ?_,
        clean_program s.asynchronous step⟩
      · have hdispatched := h.unfaulted.dispatched hnone
        change s.begun ++ [step] ++ rest = s.scheduled
        rw [← hdispatched, hrest, List.append_assoc]
        rfl
      · change (step.program s.asynchronous).exposes entity = false
        cases hexposed : (step.program s.asynchronous).exposes entity with
        | false => rfl
        | true =>
          have hopen := hfree step rest entity hrest (exposes_program hexposed)
          have hclosed' : s.closed entity = true := hclosed
          rw [hopen] at hclosed'
          cases hclosed'
  | advance => exact h.advance
  | start => exact h.elsewhere ⟨h.unfaulted.quiet, h.unfaulted.dispatched⟩ rfl rfl fun _ hc => hc
  | startClosing entity =>
    refine h.elsewhere ⟨h.unfaulted.quiet, h.unfaulted.dispatched⟩ rfl rfl fun other hclosing => ?_
    by_cases hother : other = entity
    · subst hother
      exact Function.update_self other true s.closing
    · exact (Function.update_of_ne hother true s.closing).trans hclosing
  | closeNative entity =>
    have hclosed : ∀ other, Function.update s.closed entity true other = true →
        other = entity ∨ s.closed other = true := by
      intro other hother
      by_cases hne : other = entity
      · exact Or.inl hne
      · rw [Function.update_of_ne hne] at hother
        exact Or.inr hother
    refine ⟨⟨h.unfaulted.quiet, h.unfaulted.dispatched⟩, fun other hother => ?_,
      fun other hother => ?_, h.clean⟩
    · rcases hclosed other hother with rfl | hold
      · exact hen
      · exact h.closing other hold
    · rcases hclosed other hother with rfl | hold
      · exact hfree
      · exact h.hidden other hold
  | requestShutdown =>
    exact h.elsewhere ⟨h.unfaulted.quiet, h.unfaulted.dispatched⟩ rfl rfl fun _ hc => hc
  | shutdownContext =>
    exact h.elsewhere ⟨h.unfaulted.quiet, h.unfaulted.dispatched⟩ rfl rfl fun _ hc => hc

/-- No step raises because an entity closed, and the steps of the other entities
go on. -/
theorem closes_unfaulted (asynchronous : Bool) {es : List Event} {s : Owner}
    (hrun : machine.RunWhen Uninterrupted (Owner.initial asynchronous) es s) : s.Unfaulted := by
  have hinit : (Owner.initial asynchronous).Sheltered :=
    ⟨⟨List.not_mem_nil, fun _ => rfl⟩, (fun _ hno => by cases hno), fun _ _ => rfl, trivial⟩
  have hsheltered : s.Sheltered := hrun.invariant Owner.Sheltered hinit
    fun _ _ h hen hfree => step_sheltered h hen hfree
  exact hsheltered.unfaulted

/-- A subscription closes before its entry is looked at, another one after its
lease is acquired. -/
def closedAround : List Event :=
  [.start,.startClosing 0,.closeNative 0,
    .turn [.entry 0 (.message true true false),.entry 1 (.message true true false),.control],
    .begin,.advance,.begin,.advance,.advance,.startClosing 1,.closeNative 1,.begin]

/-- A test for closes that interrupt nothing. -/
def interruptsNothing (s : Owner) : Event → Bool
  | .closeNative entity => !s.current.exposes entity
  | .begin => s.rest.all fun step => step.unchecked.isNone
  | _ => true

theorem uninterrupted_of_interruptsNothing (s : Owner) (e : Event)
    (h : interruptsNothing s e = true) : Uninterrupted s e := by
  cases e with
  | closeNative entity =>
    have hnot : (!s.current.exposes entity) = true := h
    have hhidden : s.current.exposes entity = false := by simpa using hnot
    exact hhidden
  | begin =>
    intro step rest entity hrest hunchecked
    have hstep := List.all_eq_true.mp h step (by rw [hrest]; exact List.mem_cons_self)
    rw [hunchecked] at hstep
    cases hstep
  | _ => trivial

/-- The law for two closes. -/
theorem closes_unfaulted_around :
    ∃ s, machine.RunWhen Uninterrupted (Owner.initial true) closedAround s ∧ s.Unfaulted := by
  have hsome : ((machine.exec (Owner.initial true) closedAround).map fun s =>
    s.rest.isEmpty) = some true := by decide +kernel
  obtain ⟨s, hexec, -⟩ := Option.map_eq_some_iff.mp hsome
  have hrun := Machine.runWhen_of_exec interruptsNothing uninterrupted_of_interruptsNothing hexec
    (by decide +kernel)
  exact ⟨s, hrun, closes_unfaulted true hrun⟩

/-- A subscription closes between its check and its lease. -/
def closedBetween : List Event :=
  [.start,.turn [.entry 0 (.message true true false),.entry 1 (.message true true false)],.begin,
    .advance,.startClosing 0,.closeNative 0,.advance,.advance]

theorem closedBetween_faulted :
    ¬ ∀ asynchronous es s, machine.Run (Owner.initial asynchronous) es s → s.Unfaulted := by
  intro hall
  have hsome : ((machine.exec (Owner.initial true) closedBetween).map fun s =>
    decide (.closed ∈ s.raised)) = some true := by decide +kernel
  obtain ⟨s, hexec, hraised⟩ := Option.map_eq_some_iff.mp hsome
  exact (hall true closedBetween s (Machine.run_of_exec hexec)).quiet (of_decide_eq_true hraised)

end Dmw.OwnerPrograms
