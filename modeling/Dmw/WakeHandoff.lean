import Mathlib.Data.Finset.Card
import Mathlib.Logic.Function.Basic
import Dmw.GuardedRuns

/-!
# Waking a blocked wait

Notifiers move the wake generation and then trigger the control condition.
The waiter clears the condition only if the generation is the one it observed,
and only while no topology mutation is published. Every atomic operation and
every mutex section is one step; a mutex that is held over several steps is
part of the state. What the waiter finds ready, and when its native wait ends
for other reasons, is left open.
-/

namespace Dmw.WakeHandoff

open GuardedRuns

/-- Where the waiter is within `wait`. -/
inductive WaiterPc
  /-- No wait is active. -/
  | outside
  /-- At the start of an iteration. -/
  | repairing
  /-- About to load the wake generation. -/
  | observing
  /-- Collecting what is ready. -/
  | deciding
  /-- About to lock the topology mutex and to look for mutations. -/
  | entering
  /-- Waiting for mutations to end. -/
  | sleeping
  /-- Holding the topology mutex, about to lock the native mutex. -/
  | handoff
  /-- Holding both, about to clear the control condition. -/
  | locked
  /-- Holding both after the clear was refused. -/
  | refused
  /-- Holding the topology mutex after the clear was refused. -/
  | withdrawing
  /-- Holding both after the clear. -/
  | cleared
  /-- Blocked in the native wait, holding the native mutex. -/
  | blocked
  deriving DecidableEq, Repr

/-- Where a notifier or mutator is. The calls of `notify` are numbered by their
increments of the generation. -/
inductive AgentPc
  /-- In no call. -/
  | idle
  /-- In `notify`, about to trigger. -/
  | notifying (number : ℕ)
  /-- Published a mutation, about to notify. -/
  | published
  /-- In the first `notify` of a mutation, about to trigger. -/
  | announcing (number : ℕ)
  /-- Announced the mutation, outside of the native mutex. -/
  | pending
  /-- Changing the native wait set under the native mutex. -/
  | mutating
  /-- The mutation ended, about to notify again. -/
  | retired
  deriving DecidableEq, Repr

/-- Counted in `active_topology_mutations_`. -/
def AgentPc.isCounted : AgentPc → Bool
  | .published | .announcing _ | .pending | .mutating => true
  | _ => false

/-- Past the first `notify` of a counted mutation. -/
def AgentPc.hasAnnounced : AgentPc → Bool
  | .pending | .mutating => true
  | _ => false

/-- In a call of `notify`, about to trigger. -/
def AgentPc.isTriggering : AgentPc → Bool
  | .notifying _ | .announcing _ => true
  | _ => false

/-- About to call `notify`. -/
def AgentPc.mayNotify : AgentPc → Bool
  | .idle | .published | .retired => true
  | _ => false

/-- Who holds the native mutex. -/
inductive Holder (ι : Type)
  | waiter
  | agent (a : ι)
  deriving DecidableEq

/-- State of one wait set and its threads. -/
structure System (ι : Type) where
  /-- Wake generation, a 64-bit counter. -/
  generation : ℕ
  /-- Trigger value of the control condition. -/
  triggered : Bool
  /-- A trigger call of the control condition failed. -/
  broken : Bool
  /-- Number of published topology mutations. -/
  activeTopologyMutations : ℕ
  /-- The waiter holds the topology mutex. -/
  topologyHeld : Bool
  /-- Holder of the native mutex. -/
  nativeHolder : Option (Holder ι)
  /-- Position of the waiter. -/
  waiter : WaiterPc
  /-- Generation of its last observation. -/
  observed : ℕ
  /-- Positions of the others. -/
  agents : ι → AgentPc
  /-- History: number of increments so far. -/
  clock : ℕ
  /-- History: increments before the last observation. -/
  observedAt : ℕ
  /-- History: increments before the last clear. -/
  clearedAt : ℕ
  /-- History: numbers of the `notify` calls that reached their trigger call,
  latest first. -/
  stored : List ℕ

/-- Before the first wait. -/
def System.initial (ι : Type) : System ι where
  generation := 0
  triggered := false
  broken := false
  activeTopologyMutations := 0
  topologyHeld := false
  nativeHolder := none
  waiter := .outside
  observed := 0
  agents := fun _ => .idle
  clock := 0
  observedAt := 0
  clearedAt := 0
  stored := []

/-- What an iteration does after collecting what is ready. -/
inductive Decision
  /-- Return ready waitables, a timeout or an error. -/
  | finish
  /-- The topology changed or a deadline passed. -/
  | again
  /-- Nothing is ready. -/
  | block
  deriving DecidableEq, Repr

/-- Steps of the threads. Calls into the control condition and the native wait
set may be accepted or fail. -/
inductive Event (ι : Type)
  | begin
  | repair (accepted : Bool)
  | observe
  | decide (decision : Decision)
  | enter
  | rouse
  | lockNative
  | clear (accepted : Bool)
  | unlockNative
  | unlockTopology
  | wake (accepted : Bool)
  | increment (a : ι)
  | trigger (a : ι) (accepted : Bool)
  | publish (a : ι)
  | lockMutation (a : ι)
  | unlockMutation (a : ι)
  | retire (a : ι)
  deriving DecidableEq

variable {ι : Type} [DecidableEq ι]

/-- A thread is where a step starts, and the mutexes it takes are free. -/
def Enabled (s : System ι) : Event ι → Prop
  | .begin => s.waiter = .outside
  | .repair _ => s.waiter = .repairing ∧ (s.broken = true → s.nativeHolder = none)
  | .observe => s.waiter = .observing
  | .decide _ => s.waiter = .deciding
  | .enter => s.waiter = .entering ∧ s.topologyHeld = false
  | .rouse => s.waiter = .sleeping
  | .lockNative => s.waiter = .handoff ∧ s.nativeHolder = none
  | .clear _ => s.waiter = .locked
  | .unlockNative => s.waiter = .refused
  | .unlockTopology => s.waiter = .withdrawing ∨ s.waiter = .cleared
  | .wake _ => s.waiter = .blocked
  | .increment a => (s.agents a).mayNotify = true
  | .trigger a _ => (s.agents a).isTriggering = true
  | .publish a => s.agents a = .idle ∧ s.topologyHeld = false
  | .lockMutation a => s.agents a = .pending ∧ s.nativeHolder = none
  | .unlockMutation a => s.agents a = .mutating
  | .retire a => s.agents a = .pending ∧ s.topologyHeld = false

/-- The position after an increment, which numbers the call. -/
def AgentPc.incremented (number : ℕ) : AgentPc → AgentPc
  | .published => .announcing number
  | _ => .notifying number

/-- The position after a trigger call. -/
def AgentPc.afterTrigger : AgentPc → AgentPc
  | .announcing _ => .pending
  | _ => .idle

/-- The number of the `notify` call that is about to trigger. -/
def AgentPc.number : AgentPc → ℕ
  | .notifying n | .announcing n => n
  | _ => 0

/-- Replace a control condition that failed. -/
def repair (accepted : Bool) (s : System ι) : System ι :=
  if s.broken = false then { s with waiter := .observing }
  else if accepted then { s with waiter := .observing, broken := false, triggered := false }
  else { s with waiter := .outside }

/-- `clear_if_unchanged`. -/
def clearIfUnchanged (accepted : Bool) (s : System ι) : System ι :=
  if s.generation ≠ s.observed then { s with waiter := .refused }
  else if accepted then { s with waiter := .cleared, triggered := false, clearedAt := s.clock }
  else { s with waiter := .refused, broken := true }

/-- Effect of a step. -/
def next (s : System ι) : Event ι → System ι
  | .begin => { s with waiter := .repairing }
  | .repair accepted => repair accepted s
  | .observe =>
    { s with waiter := .deciding, observed := s.generation, observedAt := s.clock }
  | .decide .finish => { s with waiter := .outside }
  | .decide .again => { s with waiter := .repairing }
  | .decide .block => { s with waiter := .entering }
  | .enter =>
    if s.activeTopologyMutations = 0 then { s with waiter := .handoff, topologyHeld := true }
    else { s with waiter := .sleeping }
  | .rouse => { s with waiter := .entering }
  | .lockNative => { s with waiter := .locked, nativeHolder := some .waiter }
  | .clear accepted => clearIfUnchanged accepted s
  | .unlockNative => { s with waiter := .withdrawing, nativeHolder := none }
  | .unlockTopology =>
    { s with
      waiter := if s.waiter = .cleared then .blocked else .repairing
      topologyHeld := false }
  | .wake accepted =>
    { s with waiter := if accepted then .repairing else .outside, nativeHolder := none }
  | .increment a =>
    { s with
      generation := (s.generation + 1) % UInt64.size
      clock := s.clock + 1
      agents := Function.update s.agents a ((s.agents a).incremented (s.clock + 1)) }
  | .trigger a accepted =>
    { s with
      triggered := s.triggered || accepted
      broken := s.broken || !accepted
      stored := (s.agents a).number :: s.stored
      agents := Function.update s.agents a (s.agents a).afterTrigger }
  | .publish a =>
    { s with
      activeTopologyMutations := s.activeTopologyMutations + 1
      agents := Function.update s.agents a .published }
  | .lockMutation a =>
    { s with
      nativeHolder := some (.agent a)
      agents := Function.update s.agents a .mutating }
  | .unlockMutation a =>
    { s with nativeHolder := none, agents := Function.update s.agents a .pending }
  | .retire a =>
    { s with
      activeTopologyMutations := s.activeTopologyMutations - 1
      agents := Function.update s.agents a .retired }

instance (s : System ι) (e : Event ι) : Decidable (Enabled s e) := by
  cases e <;> unfold Enabled <;> infer_instance

/-- Any interleaving of one waiter with the agents. -/
def machine : Machine (System ι) (Event ι) where
  enabled := Enabled
  next := next
  decidableEnabled _ _ := inferInstance

/-- The waiter is blocked and nothing has triggered it. -/
def Asleep (s : System ι) : Prop := s.waiter = .blocked ∧ s.triggered = false

/-- Nobody has come far enough to have triggered a sleeping waiter. -/
structure Unnoticed (s : System ι) : Prop where
  /-- No `notify` after the last observation has reached its trigger call. -/
  untriggered : ∀ n ∈ s.stored, n ≤ s.observedAt
  /-- No counted mutator is past its first `notify`. -/
  unannounced : ∀ a, (s.agents a).isCounted = true → (s.agents a).hasAnnounced = false

/-- The positions at which the waiter holds the topology mutex. -/
def WaiterPc.holdsTopology : WaiterPc → Bool
  | .handoff | .locked | .refused | .withdrawing | .cleared => true
  | _ => false

/-- Counters and numbers fit together. -/
structure Numbered (s : System ι) : Prop where
  /-- The generation counts the increments. -/
  generation : s.generation = s.clock % UInt64.size
  /-- The observation is the generation of its moment. -/
  observed : s.observed = s.observedAt % UInt64.size
  /-- It is in the past. -/
  observedAt : s.observedAt ≤ s.clock
  /-- Trigger calls come after their increments. -/
  stored : ∀ n ∈ s.stored, n ≤ s.clock
  /-- Calls are numbered by past increments. -/
  numbers : ∀ a, (s.agents a).number ≤ s.clock

/-- The mutation count is right, and zero while the waiter holds the topology
mutex. -/
structure Counted (s : System ι) : Prop where
  /-- The count is the number of counted agents. -/
  count : ∃ mutators : Finset ι, (∀ a, a ∈ mutators ↔ (s.agents a).isCounted = true) ∧
    mutators.card = s.activeTopologyMutations
  /-- The waiter holds the topology mutex where its position says so. -/
  held : s.topologyHeld = s.waiter.holdsTopology
  /-- Nothing is published meanwhile. -/
  none : s.topologyHeld = true → s.activeTopologyMutations = 0

/-- What the waiter has ensured by clearing. -/
structure Handed (s : System ι) : Prop where
  /-- The cleared generation was the observed one, and whoever triggered since
  left a trace. -/
  cleared : s.waiter = .cleared ∨ s.waiter = .blocked →
    s.observedAt ≤ s.clearedAt ∧ s.clearedAt % UInt64.size = s.observedAt % UInt64.size ∧
      (s.triggered = false → s.broken = false → ∀ n ∈ s.stored, n ≤ s.clearedAt)
  /-- Whoever announced a mutation since left a trace. -/
  announced : s.waiter = .blocked → s.triggered = false → s.broken = false →
    ∀ a, (s.agents a).isCounted = true → (s.agents a).hasAnnounced = false

/-- A move of one agent moves no other. -/
theorem agents_update {P : ι → AgentPc → Prop} {agents : ι → AgentPc} {a : ι} {pc : AgentPc}
    (hothers : ∀ b, P b (agents b)) (hmoved : P a pc) : ∀ b, P b (Function.update agents a pc b) := by
  intro b
  by_cases hb : b = a
  · subst hb
    rwa [Function.update_self]
  · rw [Function.update_of_ne hb]
    exact hothers b

omit [DecidableEq ι] in
/-- A step that neither counts nor observes keeps the numbers. -/
theorem Numbered.frame {s s' : System ι} (h : Numbered s)
    (hcounters : s'.generation = s.generation ∧ s'.clock = s.clock)
    (hobservation : s'.observed = s.observed ∧ s'.observedAt = s.observedAt)
    (hstored : s'.stored = s.stored) (hnumbers : ∀ a, (s'.agents a).number ≤ s.clock) :
    Numbered s' := by
  obtain ⟨hgeneration, hclock⟩ := hcounters
  obtain ⟨hobserved, hobservedAt⟩ := hobservation
  constructor
  · rw [hgeneration, hclock, h.generation]
  · rw [hobserved, hobservedAt, h.observed]
  · rw [hobservedAt, hclock]
    exact h.observedAt
  · rw [hstored, hclock]
    exact h.stored
  · rw [hclock]
    exact hnumbers

/-- Every step keeps the numbers. -/
theorem numbered_step {s : System ι} {e : Event ι} (h : Numbered s) :
    Numbered (next s e) := by
  have hmoved : ∀ a pc, pc.number = 0 → ∀ b,
      (Function.update s.agents a pc b).number ≤ s.clock := by
    intro a pc hzero
    refine agents_update (P := fun _ pc => pc.number ≤ s.clock) h.numbers ?_
    rw [hzero]
    exact Nat.zero_le _
  cases e with
  | observe => exact ⟨h.generation, h.generation, le_rfl, h.stored, h.numbers⟩
  | decide decision => cases decision <;> exact h.frame ⟨rfl, rfl⟩ ⟨rfl, rfl⟩ rfl h.numbers
  | repair accepted =>
    simp only [next, repair]
    repeat' split
    all_goals exact h.frame ⟨rfl, rfl⟩ ⟨rfl, rfl⟩ rfl h.numbers
  | enter =>
    simp only [next]
    split <;> exact h.frame ⟨rfl, rfl⟩ ⟨rfl, rfl⟩ rfl h.numbers
  | clear accepted =>
    simp only [next, clearIfUnchanged]
    repeat' split
    all_goals exact h.frame ⟨rfl, rfl⟩ ⟨rfl, rfl⟩ rfl h.numbers
  | increment a =>
    have hnumbers : ∀ b, (Function.update s.agents a ((s.agents a).incremented (s.clock + 1))
        b).number ≤ s.clock + 1 := by
      refine agents_update (P := fun _ pc => pc.number ≤ s.clock + 1)
        (fun b => (h.numbers b).trans (Nat.le_succ _)) ?_
      cases s.agents a <;> exact le_rfl
    have hgeneration : (s.generation + 1) % UInt64.size = (s.clock + 1) % UInt64.size := by
      rw [h.generation, Nat.mod_add_mod]
    exact ⟨hgeneration, h.observed, h.observedAt.trans (Nat.le_succ _),
      fun n hn => (h.stored n hn).trans (Nat.le_succ _), hnumbers⟩
  | trigger a accepted =>
    have hstored : ∀ n ∈ (s.agents a).number :: s.stored, n ≤ s.clock := by
      rw [List.forall_mem_cons]
      exact ⟨h.numbers a, h.stored⟩
    have hzero : (s.agents a).afterTrigger.number = 0 := by
      cases s.agents a <;> rfl
    exact ⟨h.generation, h.observed, h.observedAt, hstored, hmoved a _ hzero⟩
  | publish a => exact h.frame ⟨rfl, rfl⟩ ⟨rfl, rfl⟩ rfl (hmoved a _ rfl)
  | lockMutation a => exact h.frame ⟨rfl, rfl⟩ ⟨rfl, rfl⟩ rfl (hmoved a _ rfl)
  | unlockMutation a => exact h.frame ⟨rfl, rfl⟩ ⟨rfl, rfl⟩ rfl (hmoved a _ rfl)
  | retire a => exact h.frame ⟨rfl, rfl⟩ ⟨rfl, rfl⟩ rfl (hmoved a _ rfl)
  | _ => exact h.frame ⟨rfl, rfl⟩ ⟨rfl, rfl⟩ rfl h.numbers

omit [DecidableEq ι] in
/-- A step that neither publishes nor retires a mutation, nor moves the waiter
past the topology mutex, keeps the count. -/
theorem Counted.frame {s s' : System ι} (h : Counted s)
    (hagents : ∀ a, (s'.agents a).isCounted = (s.agents a).isCounted)
    (hactive : s'.activeTopologyMutations = s.activeTopologyMutations)
    (hheld : s'.topologyHeld = s.topologyHeld)
    (hwaiter : s'.waiter.holdsTopology = s.waiter.holdsTopology) : Counted s' := by
  obtain ⟨mutators, hmem, hcard⟩ := h.count
  refine ⟨⟨mutators, fun a => ?_, hcard.trans hactive.symm⟩, ?_, ?_⟩
  · rw [hagents, hmem]
  · rw [hheld, hwaiter, h.held]
  · rw [hheld, hactive]
    exact h.none

/-- A move of one agent that stays counted or uncounted keeps who is counted. -/
theorem counted_update {agents : ι → AgentPc} {a : ι} {pc : AgentPc}
    (hsame : pc.isCounted = (agents a).isCounted) (b : ι) :
    (Function.update agents a pc b).isCounted = (agents b).isCounted := by
  by_cases hb : b = a
  · subst hb
    rw [Function.update_self, hsame]
  · rw [Function.update_of_ne hb]

omit [DecidableEq ι] in
/-- A waiter that lets go of the topology mutex restricts nobody. -/
theorem Counted.release {s s' : System ι} (h : Counted s) (hagents : s'.agents = s.agents)
    (hactive : s'.activeTopologyMutations = s.activeTopologyMutations)
    (hheld : s'.topologyHeld = false) (hwaiter : s'.waiter.holdsTopology = false) :
    Counted s' := by
  refine ⟨?_, hheld.trans hwaiter.symm, ?_⟩
  · rw [hagents, hactive]
    exact h.count
  · intro htaken
    rw [hheld] at htaken
    contradiction

/-- Publishing counts one agent more. -/
theorem counted_publish {s : System ι} {a : ι} (h : Counted s) (hidle : s.agents a = .idle)
    (hfree : s.topologyHeld = false) : Counted (next s (.publish a)) := by
  obtain ⟨mutators, hmem, hcard⟩ := h.count
  have hnew : a ∉ mutators := by
    rw [hmem, hidle]
    simp [AgentPc.isCounted]
  have hcounted : ∀ b, b ∈ insert a mutators ↔
      (Function.update s.agents a .published b).isCounted = true := by
    intro b
    by_cases hb : b = a
    · subst hb
      simp [AgentPc.isCounted]
    · rw [Function.update_of_ne hb, Finset.mem_insert, or_iff_right hb, hmem]
  refine ⟨⟨insert a mutators, hcounted, ?_⟩, h.held, ?_⟩
  · rw [Finset.card_insert_of_notMem hnew, hcard]
    rfl
  · intro htaken
    have htaken' : s.topologyHeld = true := htaken
    rw [hfree] at htaken'
    contradiction

/-- Retiring counts one agent less. -/
theorem counted_retire {s : System ι} {a : ι} (h : Counted s) (hpending : s.agents a = .pending)
    (hfree : s.topologyHeld = false) : Counted (next s (.retire a)) := by
  obtain ⟨mutators, hmem, hcard⟩ := h.count
  have hold : a ∈ mutators := by
    rw [hmem, hpending]
    rfl
  have hcounted : ∀ b, b ∈ mutators.erase a ↔
      (Function.update s.agents a .retired b).isCounted = true := by
    intro b
    by_cases hb : b = a
    · subst hb
      simp [AgentPc.isCounted]
    · rw [Function.update_of_ne hb, Finset.mem_erase, and_iff_right hb, hmem]
  refine ⟨⟨mutators.erase a, hcounted, ?_⟩, h.held, ?_⟩
  · rw [Finset.card_erase_of_mem hold, hcard]
    rfl
  · intro htaken
    have htaken' : s.topologyHeld = true := htaken
    rw [hfree] at htaken'
    contradiction

/-- Every step keeps the count. -/
theorem counted_step {s : System ι} {e : Event ι} (h : Counted s) (hen : Enabled s e) :
    Counted (next s e) := by
  cases e with
  | publish a => exact counted_publish h hen.1 hen.2
  | retire a => exact counted_retire h hen.1 hen.2
  | begin =>
    have hpc : s.waiter = .outside := hen
    exact h.frame (fun _ => rfl) rfl rfl (by rw [hpc]; rfl)
  | repair accepted =>
    have hpc : s.waiter = .repairing := hen.1
    simp only [next, repair]
    repeat' split
    all_goals exact h.frame (fun _ => rfl) rfl rfl (by rw [hpc]; rfl)
  | observe =>
    have hpc : s.waiter = .observing := hen
    exact h.frame (fun _ => rfl) rfl rfl (by rw [hpc]; rfl)
  | decide decision =>
    have hpc : s.waiter = .deciding := hen
    cases decision <;> exact h.frame (fun _ => rfl) rfl rfl (by rw [hpc]; rfl)
  | enter =>
    have hpc : s.waiter = .entering := hen.1
    simp only [next]
    split
    next hactive => exact ⟨h.count, rfl, fun _ => hactive⟩
    next => exact h.frame (fun _ => rfl) rfl rfl (by rw [hpc]; rfl)
  | rouse =>
    have hpc : s.waiter = .sleeping := hen
    exact h.frame (fun _ => rfl) rfl rfl (by rw [hpc]; rfl)
  | lockNative =>
    have hpc : s.waiter = .handoff := hen.1
    exact h.frame (fun _ => rfl) rfl rfl (by rw [hpc]; rfl)
  | clear accepted =>
    have hpc : s.waiter = .locked := hen
    simp only [next, clearIfUnchanged]
    repeat' split
    all_goals exact h.frame (fun _ => rfl) rfl rfl (by rw [hpc]; rfl)
  | unlockNative =>
    have hpc : s.waiter = .refused := hen
    exact h.frame (fun _ => rfl) rfl rfl (by rw [hpc]; rfl)
  | unlockTopology =>
    refine h.release rfl rfl rfl ?_
    simp only [next]
    split <;> rfl
  | wake accepted =>
    have hpc : s.waiter = .blocked := hen
    exact h.frame (fun _ => rfl) rfl rfl (by rw [hpc]; cases accepted <;> rfl)
  | increment a =>
    have hmay : (s.agents a).mayNotify = true := hen
    refine h.frame (counted_update ?_) rfl rfl rfl
    cases hpc : s.agents a <;> simp [hpc, AgentPc.mayNotify] at hmay <;> rfl
  | trigger a accepted =>
    have hmay : (s.agents a).isTriggering = true := hen
    refine h.frame (counted_update ?_) rfl rfl rfl
    cases hpc : s.agents a <;> simp [hpc, AgentPc.isTriggering] at hmay <;> rfl
  | lockMutation a =>
    have hpc : s.agents a = .pending := hen.1
    exact h.frame (counted_update (by rw [hpc]; rfl)) rfl rfl rfl
  | unlockMutation a =>
    have hpc : s.agents a = .mutating := hen
    exact h.frame (counted_update (by rw [hpc]; rfl)) rfl rfl rfl

omit [DecidableEq ι] in
/-- While the waiter holds the topology mutex, nobody is counted. -/
theorem Counted.nobody {s : System ι} (h : Counted s) (hheld : s.waiter.holdsTopology = true)
    (a : ι) : (s.agents a).isCounted = false := by
  obtain ⟨mutators, hmem, hcard⟩ := h.count
  have hzero : s.activeTopologyMutations = 0 := h.none (h.held.trans hheld)
  have hempty : mutators = ∅ := Finset.card_eq_zero.mp (hcard.trans hzero)
  have hnot : ¬ (s.agents a).isCounted = true := by
    rw [← hmem, hempty]
    exact Finset.notMem_empty a
  exact Bool.eq_false_iff.mpr hnot

omit [DecidableEq ι] in
/-- A waiter that has not cleared has ensured nothing. -/
theorem Handed.awake {s : System ι} (hcleared : s.waiter ≠ .cleared)
    (hblocked : s.waiter ≠ .blocked) : Handed s := by
  refine ⟨fun hpc => ?_, fun hpc => absurd hpc hblocked⟩
  rcases hpc with hpc | hpc
  · exact absurd hpc hcleared
  · exact absurd hpc hblocked

/-- A move of one agent keeps what the waiter has ensured, unless it announces
a mutation to a waiter that is blocked without a trace of it. -/
theorem Handed.move {s s' : System ι} {a : ι} {pc : AgentPc} (h : Handed s)
    (hwaiter : s'.waiter = s.waiter)
    (hmoments : s'.observedAt = s.observedAt ∧ s'.clearedAt = s.clearedAt)
    (hflags : s'.triggered = s.triggered ∧ s'.broken = s.broken) (hstored : s'.stored = s.stored)
    (hagents : s'.agents = Function.update s.agents a pc)
    (hquiet : ((s.agents a).isCounted = true → (s.agents a).hasAnnounced = false) →
      pc.isCounted = true → pc.hasAnnounced = false) : Handed s' := by
  obtain ⟨hobservedAt, hclearedAt⟩ := hmoments
  obtain ⟨htriggered, hbroken⟩ := hflags
  constructor
  · rw [hwaiter, hobservedAt, hclearedAt, htriggered, hbroken, hstored]
    exact h.cleared
  · rw [hwaiter, htriggered, hbroken, hagents]
    intro hblocked huntriggered hwhole
    have hbefore := h.announced hblocked huntriggered hwhole
    exact agents_update (P := fun _ pc => pc.isCounted = true → pc.hasAnnounced = false) hbefore
      (hquiet (hbefore a))

omit [DecidableEq ι] in
/-- A trigger call leaves a trace, be it accepted or not. -/
theorem Handed.trace {s s' : System ι} (h : Handed s) (hwaiter : s'.waiter = s.waiter)
    (hmoments : s'.observedAt = s.observedAt ∧ s'.clearedAt = s.clearedAt)
    (htrace : s'.triggered = true ∨ s'.broken = true) : Handed s' := by
  obtain ⟨hobservedAt, hclearedAt⟩ := hmoments
  have hnever : s'.triggered = false → s'.broken = false → False := by
    intro huntriggered hwhole
    rw [huntriggered, hwhole] at htrace
    simp at htrace
  constructor
  · rw [hwaiter, hobservedAt, hclearedAt]
    intro hpc
    have ⟨hafter, hmoment, _⟩ := h.cleared hpc
    exact ⟨hafter, hmoment, fun huntriggered hwhole => (hnever huntriggered hwhole).elim⟩
  · exact fun _ huntriggered hwhole => (hnever huntriggered hwhole).elim

omit [DecidableEq ι] in
/-- A clear is refused, or it happens at the generation of the observation. -/
theorem handed_clear {s : System ι} (hnumbered : Numbered s) (accepted : Bool) :
    Handed (clearIfUnchanged accepted s) := by
  unfold clearIfUnchanged
  repeat' split
  next => exact Handed.awake (by simp) (by simp)
  next hsame _ =>
    have hunchanged : s.generation = s.observed := of_not_not hsame
    have hmoment : s.clock % UInt64.size = s.observedAt % UInt64.size := by
      rw [← hnumbered.generation, ← hnumbered.observed, hunchanged]
    refine ⟨fun _ => ⟨hnumbered.observedAt, hmoment, fun _ _ => hnumbered.stored⟩, ?_⟩
    intro hblocked
    contradiction
  next => exact Handed.awake (by simp) (by simp)

/-- Every step keeps what the waiter has ensured. -/
theorem handed_step {s : System ι} {e : Event ι} (hnumbered : Numbered s) (hcounted : Counted s)
    (h : Handed s) (hen : Enabled s e) : Handed (next s e) := by
  cases e with
  | begin => exact Handed.awake (by simp [next]) (by simp [next])
  | repair accepted =>
    simp only [next, repair]
    repeat' split
    all_goals exact Handed.awake (by simp) (by simp)
  | observe => exact Handed.awake (by simp [next]) (by simp [next])
  | decide decision => cases decision <;> exact Handed.awake (by simp [next]) (by simp [next])
  | enter =>
    simp only [next]
    split <;> exact Handed.awake (by simp) (by simp)
  | rouse => exact Handed.awake (by simp [next]) (by simp [next])
  | lockNative => exact Handed.awake (by simp [next]) (by simp [next])
  | clear accepted => exact handed_clear hnumbered accepted
  | unlockNative => exact Handed.awake (by simp [next]) (by simp [next])
  | unlockTopology =>
    -- the topology mutex kept mutators away until here
    rcases hen with hpc | hpc
    · exact Handed.awake (by simp [next, hpc]) (by simp [next, hpc])
    · have hnobody : ∀ a, (s.agents a).isCounted = false :=
        hcounted.nobody (by rw [hpc]; rfl)
      refine ⟨fun _ => h.cleared (Or.inl hpc), fun _ _ _ a hcount => ?_⟩
      have hcount' : (s.agents a).isCounted = true := hcount
      rw [hnobody a] at hcount'
      contradiction
  | wake accepted => cases accepted <;> exact Handed.awake (by simp [next]) (by simp [next])
  | increment a =>
    refine h.move rfl ⟨rfl, rfl⟩ ⟨rfl, rfl⟩ rfl rfl ?_
    cases s.agents a <;> simp [AgentPc.incremented, AgentPc.isCounted, AgentPc.hasAnnounced]
  | trigger a accepted =>
    refine h.trace rfl ⟨rfl, rfl⟩ ?_
    cases accepted with
    | true => exact Or.inl (Bool.or_true _)
    | false => exact Or.inr (Bool.or_true _)
  | publish a => exact h.move rfl ⟨rfl, rfl⟩ ⟨rfl, rfl⟩ rfl rfl (fun _ _ => rfl)
  | lockMutation a =>
    have hpc : s.agents a = .pending := hen.1
    refine h.move rfl ⟨rfl, rfl⟩ ⟨rfl, rfl⟩ rfl rfl ?_
    rw [hpc]
    exact id
  | unlockMutation a =>
    have hpc : s.agents a = .mutating := hen
    refine h.move rfl ⟨rfl, rfl⟩ ⟨rfl, rfl⟩ rfl rfl ?_
    rw [hpc]
    exact id
  | retire a =>
    refine h.move rfl ⟨rfl, rfl⟩ ⟨rfl, rfl⟩ rfl rfl ?_
    intro _ hcount
    contradiction

/-- Every state of every run has numbered calls, a right mutation count and
what the waiter has ensured. -/
theorem handoff_run {events : List (Event ι)} {s : System ι}
    (hrun : machine.Run (.initial ι) events s) : Numbered s ∧ Counted s ∧ Handed s := by
  refine hrun.invariant (fun s => Numbered s ∧ Counted s ∧ Handed s) ?_ ?_
  · have hnumbered : Numbered (.initial ι) :=
      ⟨rfl, rfl, le_rfl, fun n hn => absurd hn List.not_mem_nil, fun _ => le_rfl⟩
    have hcounted : Counted (.initial ι) := by
      refine ⟨⟨∅, fun a => ?_, rfl⟩, rfl, fun hheld => absurd hheld Bool.false_ne_true⟩
      simp [System.initial, AgentPc.isCounted]
    exact ⟨hnumbered, hcounted, Handed.awake (by simp [System.initial]) (by simp [System.initial])⟩
  · intro s e hinv hen _
    have ⟨hnumbered, hcounted, hhanded⟩ := hinv
    exact ⟨numbered_step hnumbered, counted_step hcounted hen,
      handed_step hnumbered hcounted hhanded hen⟩

/-- A waiter that is blocked untriggered, its control condition intact, has
missed no announced mutation, and no `notify` since its observation unless the
generation came round in between. -/
theorem no_lost_wake {events : List (Event ι)} {s : System ι}
    (hrun : machine.Run (.initial ι) events s) (hasleep : Asleep s) (hwhole : s.broken = false) :
    (s.clearedAt - s.observedAt < UInt64.size → ∀ n ∈ s.stored, n ≤ s.observedAt) ∧
      ∀ a, (s.agents a).isCounted = true → (s.agents a).hasAnnounced = false := by
  have ⟨hblocked, huntriggered⟩ := hasleep
  have ⟨_, _, hhanded⟩ := handoff_run hrun
  have ⟨hafter, hmoment, hstored⟩ := hhanded.cleared (Or.inr hblocked)
  refine ⟨fun hclose n hn => ?_, hhanded.announced hblocked huntriggered hwhole⟩
  have hbound : n ≤ s.clearedAt := hstored huntriggered hwhole n hn
  have hnone : (s.clearedAt - s.observedAt) % UInt64.size = 0 :=
    Nat.sub_mod_eq_zero_of_mod_eq hmoment
  rw [Nat.mod_eq_of_lt hclose] at hnone
  omega

/-- One agent notifies before the clear; later one publishes a mutation and
another increments, neither has triggered yet. -/
def undisturbed : List (Event Bool) :=
  [.begin, .repair true, .increment true, .observe, .decide .block, .trigger true true, .enter,
    .lockNative, .clear true, .unlockTopology, .publish false, .increment false, .increment true]

/-- The law for a waiter that sleeps on. -/
theorem no_lost_wake_undisturbed :
    ∃ s, machine.exec (System.initial Bool) undisturbed = some s ∧ Asleep s ∧ s.broken = false ∧
      (s.clearedAt - s.observedAt < UInt64.size → ∀ n ∈ s.stored, n ≤ s.observedAt) ∧
        ∀ a, (s.agents a).isCounted = true → (s.agents a).hasAnnounced = false := by
  have hend : (machine.exec (System.initial Bool) undisturbed).map (fun s =>
      decide (s.waiter = .blocked ∧ s.triggered = false ∧ s.broken = false)) = some true := by
    decide
  obtain ⟨s, hexec, hfinal⟩ := Option.map_eq_some_iff.mp hend
  have ⟨hblocked, huntriggered, hwhole⟩ := of_decide_eq_true hfinal
  exact ⟨s, hexec, ⟨hblocked, huntriggered⟩, hwhole,
    no_lost_wake (Machine.run_of_exec hexec) ⟨hblocked, huntriggered⟩ hwhole⟩

/-- Rounds of one agent through `notify`. -/
def rounds (a : ι) : ℕ → List (Event ι)
  | 0 => []
  | n + 1 => .increment a :: .trigger a true :: rounds a n

/-- One round counts once, and it leaves the agent where it was. -/
theorem round_eq {s : System ι} {a : ι} (hidle : s.agents a = .idle) :
    next (next s (.increment a)) (.trigger a true) =
      { s with
        generation := (s.generation + 1) % UInt64.size
        clock := s.clock + 1
        triggered := true
        stored := (s.clock + 1) :: s.stored } := by
  have hback : Function.update s.agents a .idle = s.agents := by
    rw [← hidle, Function.update_eq_self]
  simp [next, hidle, AgentPc.incremented, AgentPc.number, AgentPc.afterTrigger, hback]

/-- A round runs whatever the others are at. -/
theorem exec_round {s : System ι} {a : ι} (hidle : s.agents a = .idle) (events : List (Event ι)) :
    machine.exec s (.increment a :: .trigger a true :: events) =
      machine.exec
        { s with
          generation := (s.generation + 1) % UInt64.size
          clock := s.clock + 1
          triggered := true
          stored := (s.clock + 1) :: s.stored } events := by
  have hincrement : Enabled s (.increment a) := by
    simp [Enabled, hidle, AgentPc.mayNotify]
  have htrigger : Enabled (next s (.increment a)) (.trigger a true) := by
    simp [Enabled, next, hidle, AgentPc.incremented, AgentPc.isTriggering]
  calc machine.exec s (.increment a :: .trigger a true :: events)
      = machine.exec (next s (.increment a)) (.trigger a true :: events) := if_pos hincrement
    _ = machine.exec (next (next s (.increment a)) (.trigger a true)) events := if_pos htrigger
    _ = _ := by rw [round_eq hidle]

/-- Rounds only count. -/
theorem exec_rounds (a : ι) (n : ℕ) {s : System ι} (hidle : s.agents a = .idle) :
    ∃ stored, machine.exec s (rounds a (n + 1)) =
      some { s with
        generation := (s.generation + (n + 1)) % UInt64.size
        clock := s.clock + (n + 1)
        triggered := true
        stored := (s.clock + (n + 1)) :: stored } := by
  induction n generalizing s with
  | zero => exact ⟨s.stored, exec_round hidle []⟩
  | succ n ih =>
    have ⟨stored, hrest⟩ := ih (s := { s with
      generation := (s.generation + 1) % UInt64.size
      clock := s.clock + 1
      triggered := true
      stored := (s.clock + 1) :: s.stored }) hidle
    refine ⟨stored, ?_⟩
    rw [rounds, exec_round hidle, hrest]
    simp only [Nat.mod_add_mod, Nat.add_assoc, Nat.add_comm 1]

/-- Up to the point where the waiter is about to clear. -/
def observing : List (Event Unit) :=
  [.begin, .repair true, .observe, .decide .block, .enter, .lockNative]

/-- The clear, and the way into the native wait. -/
def clearing : List (Event Unit) := [.clear true, .unlockTopology]

/-- A mutator whose trigger call fails. -/
def failing : List (Event Unit) := [.publish (), .increment (), .trigger () false]

/-- A waiter about to clear sees a generation that came round as unchanged. -/
theorem exec_clearing {s : System Unit} (hlocked : s.waiter = .locked)
    (hsame : s.generation = s.observed) :
    machine.exec s clearing =
      some { s with
        waiter := .blocked
        topologyHeld := false
        triggered := false
        clearedAt := s.clock } := by
  have hclear : next s (.clear true) =
      { s with waiter := .cleared, triggered := false, clearedAt := s.clock } := by
    simp [next, clearIfUnchanged, hsame]
  have hen : Enabled (next s (.clear true)) .unlockTopology := by
    rw [hclear]
    exact Or.inr rfl
  calc machine.exec s clearing
      = machine.exec (next s (.clear true)) [.unlockTopology] := if_pos hlocked
    _ = some (next (next s (.clear true)) .unlockTopology) := if_pos hen
    _ = _ := by rw [hclear]; rfl

/-- After as many rounds as the generation has values, the clear takes the last
trigger away. -/
theorem rounds_cleared : ∃ events s, machine.Run (System.initial Unit) events s ∧ Asleep s ∧
    s.broken = false ∧ ∃ n ∈ s.stored, s.observedAt < n := by
  -- kept general, so that nothing counts the rounds out
  obtain ⟨n, hsize⟩ : ∃ n, n + 1 = UInt64.size := ⟨UInt64.size - 1, rfl⟩
  have hstart : (machine.exec (System.initial Unit) observing).map (fun s =>
      decide (s.agents () = .idle ∧ s.waiter = .locked ∧ s.broken = false ∧ s.generation = 0 ∧
        s.observed = 0 ∧ s.observedAt = 0)) = some true := by decide
  obtain ⟨s, hexec, hthere⟩ := Option.map_eq_some_iff.mp hstart
  have ⟨hidle, hlocked, hwhole, hgeneration, hobserved, hobservedAt⟩ := of_decide_eq_true hthere
  have ⟨stored, hrounds⟩ := exec_rounds () n hidle
  have hsame : (s.generation + (n + 1)) % UInt64.size = s.observed := by
    rw [hsize, hgeneration, hobserved, Nat.zero_add, Nat.mod_self]
  have hrun := (Machine.run_of_exec hexec).append
    ((Machine.run_of_exec hrounds).append (Machine.run_of_exec (exec_clearing hlocked hsame)))
  refine ⟨_, _, hrun, ⟨rfl, rfl⟩, hwhole, s.clock + (n + 1), List.mem_cons_self, ?_⟩
  have hpositive : 0 < s.clock + (n + 1) := Nat.succ_pos _
  exact hobservedAt.trans_lt hpositive

/-- Both a trigger call that fails and a generation that comes round leave a
waiter asleep behind the back of a `notify`. -/
theorem wake_lost :
    (¬ ∀ events s, machine.Run (System.initial Unit) events s → Asleep s → Unnoticed s) ∧
      ¬ ∀ events s, machine.Run (System.initial Unit) events s → Asleep s → s.broken = false →
        Unnoticed s := by
  constructor
  · intro hclaim
    have hend : (machine.exec (System.initial Unit) (observing ++ clearing ++ failing)).map
        (fun s => decide (s.waiter = .blocked ∧ s.triggered = false ∧ s.agents () = .pending)) =
          some true := by decide
    obtain ⟨s, hexec, hfinal⟩ := Option.map_eq_some_iff.mp hend
    have ⟨hblocked, huntriggered, hpending⟩ := of_decide_eq_true hfinal
    have hunnoticed := hclaim _ s (Machine.run_of_exec hexec) ⟨hblocked, huntriggered⟩
    have hcounted : (s.agents ()).isCounted = true := by
      rw [hpending]
      rfl
    have hunannounced := hunnoticed.unannounced () hcounted
    rw [hpending] at hunannounced
    contradiction
  · intro hclaim
    obtain ⟨events, s, hrun, hasleep, hwhole, n, hn, hlate⟩ := rounds_cleared
    have hunnoticed := hclaim events s hrun hasleep hwhole
    have hearly : n ≤ s.observedAt := hunnoticed.untriggered n hn
    omega

end Dmw.WakeHandoff
