import Dmw.GuardedRuns
import Dmw.Identity
import Mathlib.Logic.Function.Basic

/-!
# Waiting for availability

Any number of calls of `wait_for_service` on one `AvailabilityWaitState` meet
revisions, interrupts and the shutdown of the Context; `wait_for_server` is the
same code over another availability check. Each critical section of the wait
mutex is one event, `notify_all` is another one after it, and the shutdown flag
changes without the mutex. What the availability check finds is left open.
-/

namespace Dmw.AvailabilityWaits

open GuardedRuns Identity

/-- Threads are numbered. -/
abbrev ThreadId := ℕ

/-- Notifiers are numbered. -/
abbrev NotifierId := ℕ

/-- Token of an availability wait. -/
structure Token where
  /-- Wait state that prepared it. -/
  identity : ℕ
  /-- Interruption generation at that moment. -/
  generation : ℕ
  /-- Interrupts before that moment; history only. -/
  prepared : ℕ
  deriving DecidableEq

/-- How long a call waits. -/
inductive WaitTimeout
  | poll
  | finite
  | infinite
  deriving DecidableEq

/-- Why a call returns. The counts are the interrupts so far at a moment;
history only. -/
inductive Decision
  | contextShutdown
  | foreignToken
  | interrupted
  /-- Result of a check that began and ended at these counts. -/
  | checked (available : Result Bool) (begun decided : ℕ)
  /-- The deadline passed. -/
  | timedOut (decided : ℕ)
  deriving DecidableEq

/-- Next step of one call. -/
inductive Pc
  | idle
  /-- At the start of an iteration. -/
  | observing
  /-- Checking the availability without the mutex. -/
  | asking (observed begun : ℕ)
  /-- About to lock the mutex again. -/
  | locking (observed : ℕ)
  /-- Holding the mutex, nothing has changed. -/
  | deciding (observed : ℕ)
  /-- Blocked on the condition variable. -/
  | blocked (observed : ℕ)
  /-- Woken or expired, about to lock the mutex. -/
  | waking (observed : ℕ) (expired : Bool)
  /-- About to return. -/
  | returning (decision : Decision)
  deriving DecidableEq

/-- One call with its arguments. -/
structure Call where
  /-- Token it waits with. -/
  token : Token
  /-- How long it waits. -/
  timeout : WaitTimeout
  /-- Its next step. -/
  pc : Pc
  deriving DecidableEq

/-- The wait state, its calls and its notifiers. -/
structure System where
  /-- Which wait state it is. -/
  identity : ℕ
  /-- `revision`. -/
  revision : ℕ
  /-- `interruption_generation_`. -/
  interruptionGeneration : ℕ
  /-- The Context is shut down. -/
  shutdown : Bool
  /-- Owner of the mutex between two events. -/
  mutex : Option ThreadId
  /-- The calls. -/
  calls : ThreadId → Call
  /-- The notifier has left its critical section and has not notified. -/
  notifying : NotifierId → Bool
  /-- Prepared tokens; history only. -/
  tokens : List Token
  /-- Interrupts so far; history only. -/
  interrupts : ℕ
  /-- Calls that returned; history only. -/
  returned : List (Token × Decision)

namespace System

/-- Nobody waits. -/
def initial : System where
  identity := 1
  revision := 0
  interruptionGeneration := 0
  shutdown := false
  mutex := none
  calls := fun _ => ⟨⟨0,0,0⟩,.poll,.idle⟩
  notifying := fun _ => false
  tokens := []
  interrupts := 0
  returned := []

/-- The token no longer has the current generation. -/
def interrupted (token : Token) (s : System) : Bool :=
  token.generation ≠ s.interruptionGeneration

/-- Move one call. -/
def goto (t : ThreadId) (next : Pc) (s : System) : System :=
  {s with calls := Function.update s.calls t {s.calls t with pc := next}}

/-- `prepare`, within an admitted call. -/
def prepare (s : System) : System :=
  {s with tokens := s.tokens ++ [⟨s.identity,s.interruptionGeneration,s.interrupts⟩]}

/-- `wait_for_service` up to its loop. -/
def enter (t : ThreadId) (token : Token) (timeout : WaitTimeout) (s : System) : System :=
  let pc := if s.shutdown then .returning .contextShutdown
    else if token.identity ≠ s.identity then .returning .foreignToken
    else .observing
  {s with calls := Function.update s.calls t ⟨token,timeout,pc⟩}

/-- The checks at the start of both critical sections. -/
def refusal (token : Token) (s : System) : Option Decision :=
  if s.shutdown then some .contextShutdown
  else if s.interrupted token then some .interrupted
  else none

/-- The first critical section of an iteration. -/
def observe (t : ThreadId) (s : System) : System :=
  match s.refusal (s.calls t).token with
  | some decision => s.goto t (.returning decision)
  | none => s.goto t (.asking s.revision s.interrupts)

/-- The availability check returns. -/
def check (t : ThreadId) (observed begun : ℕ) (available : Result Bool) (s : System) : System :=
  if available ≠ .ok false ∨ (s.calls t).timeout = .poll then
    s.goto t (.returning (.checked available begun s.interrupts))
  else s.goto t (.locking observed)

/-- The second critical section up to its wait. -/
def lock (t : ThreadId) (observed : ℕ) (s : System) : System :=
  match s.refusal (s.calls t).token with
  | some decision => s.goto t (.returning decision)
  | none =>
    if s.revision ≠ observed then s.goto t .observing
    else {s.goto t (.deciding observed) with mutex := some t}

/-- The predicate of the condition wait. -/
def changed (token : Token) (observed : ℕ) (s : System) : Bool :=
  s.shutdown || s.interrupted token || s.revision != observed

/-- The start of the condition wait; blocking releases the mutex. -/
def decide (t : ThreadId) (observed : ℕ) (expired : Bool) (s : System) : System :=
  let released := {s with mutex := none}
  if (s.calls t).timeout = .finite ∧ expired = true then
    released.goto t (.returning (.timedOut s.interrupts))
  else if s.changed (s.calls t).token observed then released.goto t .observing
  else released.goto t (.blocked observed)

/-- A condition wait ends and evaluates its predicate under the mutex. -/
def reacquire (t : ThreadId) (observed : ℕ) (expired : Bool) (s : System) : System :=
  if s.changed (s.calls t).token observed then s.goto t .observing
  else if expired then s.goto t (.returning (.timedOut s.interrupts))
  else s.goto t (.blocked observed)

/-- The critical section of `notify_revision`. -/
def notifyRevision (n : NotifierId) (s : System) : System :=
  {s with
    revision := (s.revision+1)%UInt64.size
    notifying := Function.update s.notifying n true}

/-- The critical section of `interrupt`. -/
def interrupt (n : NotifierId) (s : System) : System :=
  {s.notifyRevision n with
    interruptionGeneration := (s.interruptionGeneration+1)%UInt64.size
    interrupts := s.interrupts+1}

/-- Whoever is blocked is woken. -/
def Pc.notified : Pc → Pc
  | .blocked observed => .waking observed false
  | pc => pc

/-- `notify_all`. -/
def notifyAll (n : NotifierId) (s : System) : System :=
  {s with
    calls := fun t => {s.calls t with pc := Pc.notified (s.calls t).pc}
    notifying := Function.update s.notifying n false}

/-- A call returns. -/
def finish (t : ThreadId) (decision : Decision) (s : System) : System :=
  {s.goto t .idle with returned := s.returned ++ [((s.calls t).token,decision)]}

end System

/-- One atomic event. -/
inductive Event
  | prepare
  | enter (t : ThreadId) (token : Token) (timeout : WaitTimeout)
  | observe (t : ThreadId)
  | check (t : ThreadId) (observed begun : ℕ) (available : Result Bool)
  | lock (t : ThreadId) (observed : ℕ)
  | decide (t : ThreadId) (observed : ℕ) (expired : Bool)
  /-- A spurious wakeup. -/
  | wake (t : ThreadId) (observed : ℕ)
  /-- The deadline passes. -/
  | expire (t : ThreadId) (observed : ℕ)
  | reacquire (t : ThreadId) (observed : ℕ) (expired : Bool)
  | finish (t : ThreadId) (decision : Decision)
  | notifyRevision (n : NotifierId)
  | interrupt (n : NotifierId)
  | notifyAll (n : NotifierId)
  | shutdown

/-- Calls follow their steps, tokens of this wait state were prepared, and
critical sections need the mutex. -/
def Enabled (s : System) : Event → Prop
  | .prepare => s.mutex = none
  | .enter t token _ =>
    (s.calls t).pc = .idle ∧ (token.identity = s.identity → token ∈ s.tokens)
  | .observe t => (s.calls t).pc = .observing ∧ s.mutex = none
  | .check t observed begun _ => (s.calls t).pc = .asking observed begun
  | .lock t observed => (s.calls t).pc = .locking observed ∧ s.mutex = none
  | .decide t observed _ => (s.calls t).pc = .deciding observed
  | .wake t observed => (s.calls t).pc = .blocked observed
  | .expire t observed => (s.calls t).pc = .blocked observed ∧ (s.calls t).timeout = .finite
  | .reacquire t observed expired => (s.calls t).pc = .waking observed expired ∧ s.mutex = none
  | .finish t decision => (s.calls t).pc = .returning decision
  | .notifyRevision n => s.notifying n = false ∧ s.mutex = none
  | .interrupt n => s.notifying n = false ∧ s.mutex = none
  | .notifyAll n => s.notifying n = true
  | .shutdown => True

/-- Effect of an enabled event. -/
def next (s : System) : Event → System
  | .prepare => s.prepare
  | .enter t token timeout => s.enter t token timeout
  | .observe t => s.observe t
  | .check t observed begun available => s.check t observed begun available
  | .lock t observed => s.lock t observed
  | .decide t observed expired => s.decide t observed expired
  | .wake t observed => s.goto t (.waking observed false)
  | .expire t observed => s.goto t (.waking observed true)
  | .reacquire t observed expired => s.reacquire t observed expired
  | .finish t decision => s.finish t decision
  | .notifyRevision n => s.notifyRevision n
  | .interrupt n => s.interrupt n
  | .notifyAll n => s.notifyAll n
  | .shutdown => {s with shutdown := true}

instance (s : System) (e : Event) : Decidable (Enabled s e) := by
  cases e <;> unfold Enabled <;> infer_instance

/-- The wait state as a guarded machine. -/
def machine : Machine System Event where
  enabled := Enabled
  next := next
  decidableEnabled := inferInstance

/-- A blocked call either has a notifier on its way or has missed nothing. -/
def Watched (s : System) (call : Call) : Prop :=
  ∀ observed, call.pc = .blocked observed →
    (∃ n, s.notifying n = true) ∨ s.interrupted call.token = false ∧ s.revision = observed

/-- A step that changes calls only, one of them to a step at which it is not
blocked or has missed nothing. -/
theorem watched_goto {s : System} (h : ∀ u, Watched s (s.calls u)) {t : ThreadId} {p : Pc}
    (hp : ∀ observed, p = .blocked observed → s.changed (s.calls t).token observed = false)
    (u : ThreadId) : Watched s ((s.goto t p).calls u) := by
  by_cases hut : u = t
  · subst hut
    intro observed hpc
    have hunchanged := hp observed (by simpa [System.goto] using hpc)
    simp only [System.changed, Bool.or_eq_false_iff, bne_eq_false_iff_eq] at hunchanged
    refine .inr ⟨?_, hunchanged.2⟩
    simpa [System.goto] using hunchanged.1.2
  · simp only [System.goto, Function.update_of_ne hut]
    exact h u

/-- No call blocks through a change: every step keeps the watch. -/
theorem watched_step {s : System} (h : ∀ u, Watched s (s.calls u)) (e : Event) (u : ThreadId) :
    Watched (next s e) ((next s e).calls u) := by
  have hmove : ∀ {t : ThreadId} {p : Pc}, (∀ observed, p ≠ .blocked observed) →
      Watched s ((s.goto t p).calls u) :=
    fun hp => watched_goto h (fun observed hc => absurd hc (hp observed)) u
  cases e with
  | prepare => exact h u
  | enter t token timeout =>
    by_cases hut : u = t
    · subst hut
      intro observed hpc
      simp only [next, System.enter, Function.update_self] at hpc
      split_ifs at hpc
    · simp only [next, System.enter, Function.update_of_ne hut]
      exact h u
  | observe t =>
    simp only [next, System.observe]
    split
    · exact hmove fun _ hc => nomatch hc
    · exact hmove fun _ hc => nomatch hc
  | check t observed begun available =>
    simp only [next, System.check]
    split
    · exact hmove fun _ hc => nomatch hc
    · exact hmove fun _ hc => nomatch hc
  | lock t observed =>
    simp only [next, System.lock]
    split
    · exact hmove fun _ hc => nomatch hc
    · split
      · exact hmove fun _ hc => nomatch hc
      · exact hmove fun _ hc => nomatch hc
  | decide t observed expired =>
    simp only [next, System.decide]
    split
    · exact hmove fun _ hc => nomatch hc
    · split
      · exact hmove fun _ hc => nomatch hc
      · next hunchanged =>
        refine watched_goto h (fun observed' hc => ?_) u
        rw [← Pc.blocked.inj hc]
        exact Bool.eq_false_iff.mpr hunchanged
  | wake t observed => exact hmove fun _ hc => nomatch hc
  | expire t observed => exact hmove fun _ hc => nomatch hc
  | reacquire t observed expired =>
    simp only [next, System.reacquire]
    split
    · exact hmove fun _ hc => nomatch hc
    · next hunchanged =>
      split
      · exact hmove fun _ hc => nomatch hc
      · refine watched_goto h (fun observed' hc => ?_) u
        rw [← Pc.blocked.inj hc]
        exact Bool.eq_false_iff.mpr hunchanged
  | finish t decision => exact hmove fun _ hc => nomatch hc
  | notifyRevision n => exact fun _ _ => .inl ⟨n, by simp [next, System.notifyRevision]⟩
  | interrupt n =>
    exact fun _ _ => .inl ⟨n, by simp [next, System.interrupt, System.notifyRevision]⟩
  | notifyAll n =>
    intro observed hpc
    simp only [next, System.notifyAll] at hpc
    cases hold : (s.calls u).pc <;> rw [hold] at hpc <;> cases hpc
  | shutdown => exact h u

/-- In every reachable state every blocked call is watched. -/
theorem watched_of_run {es : List Event} {s : System} (h : machine.Run System.initial es s)
    (t : ThreadId) : Watched s (s.calls t) := by
  refine h.invariant (fun s => ∀ t, Watched s (s.calls t)) (fun _ _ hpc => Pc.noConfusion hpc) ?_ t
  intro _ e hwatched _ _
  exact watched_step hwatched e

/-- A call between its checks and its condition wait holds the mutex and is not
interrupted. -/
def Held (s : System) : Prop :=
  ∀ t observed, (s.calls t).pc = .deciding observed →
    s.mutex = some t ∧ s.interrupted (s.calls t).token = false

/-- A move to a step outside that section. -/
theorem Held.goto {s : System} (h : Held s) {t : ThreadId} {p : Pc}
    (hp : ∀ observed, p ≠ .deciding observed) : Held (s.goto t p) := by
  intro u observed hpc
  by_cases hut : u = t
  · subst hut
    exact absurd (by simpa [System.goto] using hpc) (hp observed)
  · simp only [System.goto, Function.update_of_ne hut] at hpc ⊢
    exact h u observed hpc

/-- With a free mutex nobody is in that section. -/
theorem Held.not_deciding {s : System} (h : Held s) (hfree : s.mutex = none) {t : ThreadId}
    {observed : ℕ} : (s.calls t).pc ≠ .deciding observed := by
  intro hpc
  have hheld := (h t observed hpc).1
  rw [hfree] at hheld
  cases hheld

/-- A step without anybody in that section keeps nobody there. -/
theorem Held.of_none {s : System} (h : ∀ t observed, (s.calls t).pc ≠ .deciding observed) : Held s :=
  fun t observed hpc => absurd hpc (h t observed)

/-- The section ends when its call moves on. -/
theorem Held.release {s : System} (h : Held s) {t : ThreadId} {observed : ℕ} {p : Pc}
    (hpc : (s.calls t).pc = .deciding observed) (hp : ∀ observed, p ≠ .deciding observed) :
    Held ({s with mutex := none}.goto t p) := by
  refine .of_none fun u observed' hu => ?_
  by_cases hut : u = t
  · subst hut
    exact absurd (by simpa [System.goto] using hu) (hp observed')
  · simp only [System.goto, Function.update_of_ne hut] at hu
    have hboth := (h u observed' hu).1.symm.trans (h t observed hpc).1
    exact hut (Option.some.inj hboth)

/-- Every step keeps the section to its holder. -/
theorem Held.step {s : System} (h : Held s) {e : Event} (hen : Enabled s e) : Held (next s e) := by
  cases e with
  | prepare => exact h
  | enter t token timeout =>
    intro u observed hpc
    by_cases hut : u = t
    · subst hut
      simp only [next, System.enter, Function.update_self] at hpc
      split_ifs at hpc
    · simp only [next, System.enter, Function.update_of_ne hut] at hpc ⊢
      exact h u observed hpc
  | observe t =>
    simp only [next, System.observe]
    split
    · exact h.goto fun _ hc => nomatch hc
    · exact h.goto fun _ hc => nomatch hc
  | check t observed begun available =>
    simp only [next, System.check]
    split
    · exact h.goto fun _ hc => nomatch hc
    · exact h.goto fun _ hc => nomatch hc
  | lock t observed =>
    simp only [next, System.lock]
    split
    · exact h.goto fun _ hc => nomatch hc
    · next hadmitted =>
      split
      · exact h.goto fun _ hc => nomatch hc
      · have hcurrent : s.interrupted (s.calls t).token = false := by
          unfold System.refusal at hadmitted
          split_ifs at hadmitted with _ hinterrupted
          exact Bool.eq_false_iff.mpr hinterrupted
        intro u observed' hpc
        by_cases hut : u = t
        · subst hut
          refine ⟨rfl, ?_⟩
          simpa [System.goto, System.interrupted] using hcurrent
        · simp only [System.goto, Function.update_of_ne hut] at hpc
          exact absurd hpc (h.not_deciding hen.2)
  | decide t observed expired =>
    simp only [next, System.decide]
    split
    · exact h.release hen fun _ hc => nomatch hc
    · split
      · exact h.release hen fun _ hc => nomatch hc
      · exact h.release hen fun _ hc => nomatch hc
  | wake t observed => exact h.goto fun _ hc => nomatch hc
  | expire t observed => exact h.goto fun _ hc => nomatch hc
  | reacquire t observed expired =>
    simp only [next, System.reacquire]
    split
    · exact h.goto fun _ hc => nomatch hc
    · split
      · exact h.goto fun _ hc => nomatch hc
      · exact h.goto fun _ hc => nomatch hc
  | finish t decision =>
    have hmoved : Held (s.goto t .idle) := h.goto fun _ hc => nomatch hc
    exact hmoved
  | notifyRevision n => exact h
  | interrupt n => exact .of_none fun _ _ => h.not_deciding hen.2
  | notifyAll n =>
    intro u observed hpc
    refine h u observed ?_
    simp only [next, System.notifyAll] at hpc
    cases hold : (s.calls u).pc <;> rw [hold] at hpc <;> first | exact hpc | cases hpc
  | shutdown => exact h

/-- In every reachable state the section belongs to its holder. -/
theorem held_of_run {es : List Event} {s : System} (h : machine.Run System.initial es s) :
    Held s := by
  refine h.invariant Held (fun _ _ hpc => Pc.noConfusion hpc) ?_
  intro _ _ hheld hen _
  exact hheld.step hen

/-- A count of interrupts at which the token had the current generation. -/
def Current (s : System) (token : Token) (count : ℕ) : Prop :=
  token.prepared ≤ count ∧ count ≤ s.interrupts ∧
    count % UInt64.size = token.prepared % UInt64.size

/-- A token of this wait state tells the generation of its preparation. -/
def Dated (s : System) (token : Token) : Prop :=
  token.identity = s.identity →
    token.prepared ≤ s.interrupts ∧ token.generation = token.prepared % UInt64.size

/-- Checks began, and deadlines passed, while the token was current. -/
def DecisionOk (s : System) (token : Token) : Decision → Prop
  | .checked _ begun _ => Current s token begun
  | .timedOut count => Current s token count
  | _ => True

/-- What the step of a call says about its token. -/
def PcOk (s : System) (token : Token) : Pc → Prop
  | .idle => True
  | .returning decision => DecisionOk s token decision
  | .asking _ begun => token.identity = s.identity ∧ Current s token begun
  | _ => token.identity = s.identity

/-- Generations, tokens and decisions fit the interrupts so far. -/
structure Counted (s : System) : Prop where
  /-- The generation counts interrupts in 64 bits. -/
  generation : s.interruptionGeneration = s.interrupts % UInt64.size
  /-- Prepared tokens. -/
  tokens : ∀ token ∈ s.tokens, Dated s token
  /-- Tokens of the calls. -/
  dated : ∀ t, Dated s (s.calls t).token
  /-- Steps of the calls. -/
  calls : ∀ t, PcOk s (s.calls t).token (s.calls t).pc
  /-- Calls that returned. -/
  returned : ∀ r ∈ s.returned, DecisionOk s r.1 r.2

theorem Current.later {s s' : System} {token : Token} {count : ℕ} (h : Current s token count)
    (hle : s.interrupts ≤ s'.interrupts) : Current s' token count :=
  ⟨h.1, Nat.le_trans h.2.1 hle, h.2.2⟩

theorem DecisionOk.later {s s' : System} {token : Token} {decision : Decision}
    (h : DecisionOk s token decision) (hle : s.interrupts ≤ s'.interrupts) :
    DecisionOk s' token decision := by
  cases decision with
  | checked available begun decided => exact Current.later h hle
  | timedOut count => exact Current.later h hle
  | _ => trivial

theorem PcOk.later {s s' : System} {token : Token} {pc : Pc} (h : PcOk s token pc)
    (hidentity : s'.identity = s.identity) (hle : s.interrupts ≤ s'.interrupts) :
    PcOk s' token pc := by
  cases pc with
  | idle => trivial
  | returning decision => exact DecisionOk.later h hle
  | asking observed begun => exact ⟨h.1.trans hidentity.symm, h.2.later hle⟩
  | _ => exact Eq.trans h hidentity.symm

/-- A token that is not interrupted is current. -/
theorem Counted.current {s : System} (h : Counted s) {token : Token} (hdated : Dated s token)
    (hidentity : token.identity = s.identity) (hnot : s.interrupted token = false) :
    Current s token s.interrupts := by
  obtain ⟨hle, hgeneration⟩ := hdated hidentity
  simp only [System.interrupted, ne_eq, decide_not, Bool.not_eq_false', decide_eq_true_eq] at hnot
  refine ⟨hle, Nat.le_refl _, ?_⟩
  rw [← h.generation, ← hnot, hgeneration]

/-- One call moves on. -/
theorem Counted.goto {s : System} (h : Counted s) {t : ThreadId} {p : Pc}
    (hp : PcOk s (s.calls t).token p) : Counted (s.goto t p) where
  generation := h.generation
  tokens := h.tokens
  dated := by
    intro u
    by_cases hut : u = t
    · subst hut
      simp only [System.goto, Function.update_self]
      exact h.dated u
    · simp only [System.goto, Function.update_of_ne hut]
      exact h.dated u
  calls := by
    intro u
    by_cases hut : u = t
    · subst hut
      simp only [System.goto, Function.update_self]
      exact hp
    · simp only [System.goto, Function.update_of_ne hut]
      exact h.calls u
  returned := h.returned

/-- Mutex, notifiers and the shutdown flag are not counted, nor is the
revision. -/
theorem Counted.frame {s : System} (h : Counted s) (revision : ℕ) (shutdown : Bool)
    (mutex : Option ThreadId) (notifying : NotifierId → Bool) :
    Counted {s with
      revision := revision
      shutdown := shutdown
      mutex := mutex
      notifying := notifying} :=
  ⟨h.generation, h.tokens, h.dated, h.calls, h.returned⟩

/-- A refused call is told so. -/
theorem decisionOk_refusal {s : System} {token : Token} {decision : Decision}
    (h : s.refusal token = some decision) : DecisionOk s token decision := by
  unfold System.refusal at h
  split_ifs at h
  all_goals
    obtain rfl := Option.some.inj h
    trivial

/-- An admitted call has a current token. -/
theorem interrupted_of_refusal {s : System} {token : Token} (h : s.refusal token = none) :
    s.interrupted token = false := by
  unfold System.refusal at h
  split_ifs at h with _ hinterrupted
  exact Bool.eq_false_iff.mpr hinterrupted

/-- Every step keeps the counts. -/
theorem Counted.step {s : System} (h : Counted s) (hheld : Held s) {e : Event}
    (hen : Enabled s e) : Counted (next s e) := by
  have hown : ∀ {t : ThreadId} {p : Pc}, (s.calls t).pc = p → PcOk s (s.calls t).token p :=
    fun {t _} hpc => hpc ▸ h.calls t
  cases e with
  | prepare =>
    refine ⟨h.generation, ?_, h.dated, h.calls, h.returned⟩
    intro token htoken
    rcases List.mem_append.mp htoken with hold | hnew
    · exact h.tokens token hold
    · rw [List.mem_singleton.mp hnew]
      exact fun _ => ⟨Nat.le_refl _, h.generation⟩
  | enter t token timeout =>
    have hdated : Dated s token := fun hidentity => h.tokens token (hen.2 hidentity) hidentity
    refine ⟨h.generation, h.tokens, ?_, ?_, h.returned⟩
    · intro u
      by_cases hut : u = t
      · subst hut
        simp only [next, System.enter, Function.update_self]
        exact hdated
      · simp only [next, System.enter, Function.update_of_ne hut]
        exact h.dated u
    · intro u
      by_cases hut : u = t
      · subst hut
        simp only [next, System.enter, Function.update_self]
        split_ifs with _ hforeign
        · trivial
        · trivial
        · exact not_not.mp hforeign
      · simp only [next, System.enter, Function.update_of_ne hut]
        exact h.calls u
  | observe t =>
    have hidentity : (s.calls t).token.identity = s.identity := hown hen.1
    simp only [next, System.observe]
    split
    · next decision hrefused => exact h.goto (decisionOk_refusal hrefused)
    · next hadmitted =>
      exact h.goto ⟨hidentity, h.current (h.dated t) hidentity (interrupted_of_refusal hadmitted)⟩
  | check t observed begun available =>
    have hasked := hown hen
    simp only [next, System.check]
    split
    · exact h.goto hasked.2
    · exact h.goto hasked.1
  | lock t observed =>
    have hidentity : (s.calls t).token.identity = s.identity := hown hen.1
    simp only [next, System.lock]
    split
    · next decision hrefused => exact h.goto (decisionOk_refusal hrefused)
    · split
      · exact h.goto hidentity
      · have hmoved : Counted (s.goto t (.deciding observed)) := h.goto hidentity
        exact hmoved.frame _ _ _ _
  | decide t observed expired =>
    have hidentity : (s.calls t).token.identity = s.identity := hown hen
    have hcurrent := h.current (h.dated t) hidentity (hheld t observed hen).2
    have hreleased : Counted {s with mutex := none} := h.frame _ _ _ _
    simp only [next, System.decide]
    split
    · exact hreleased.goto hcurrent
    · split
      · exact hreleased.goto hidentity
      · exact hreleased.goto hidentity
  | wake t observed =>
    have hidentity : (s.calls t).token.identity = s.identity := hown hen
    exact h.goto hidentity
  | expire t observed =>
    have hidentity : (s.calls t).token.identity = s.identity := hown hen.1
    exact h.goto hidentity
  | reacquire t observed expired =>
    have hidentity : (s.calls t).token.identity = s.identity := hown hen.1
    simp only [next, System.reacquire]
    split
    · exact h.goto hidentity
    · next hunchanged =>
      simp only [System.changed, Bool.or_eq_true, not_or, Bool.not_eq_true] at hunchanged
      split
      · exact h.goto (h.current (h.dated t) hidentity hunchanged.1.2)
      · exact h.goto hidentity
  | finish t decision =>
    have hdecision : DecisionOk s (s.calls t).token decision := hown hen
    have hmoved : Counted (s.goto t .idle) := h.goto trivial
    refine ⟨hmoved.generation, hmoved.tokens, hmoved.dated, hmoved.calls, ?_⟩
    intro r hr
    rcases List.mem_append.mp hr with hold | hnew
    · exact h.returned r hold
    · rw [List.mem_singleton.mp hnew]
      exact hdecision
  | notifyRevision n => exact h.frame _ _ _ _
  | interrupt n =>
    have hle : s.interrupts ≤ s.interrupts+1 := Nat.le_succ _
    refine ⟨?_, ?_, ?_, ?_, ?_⟩
    · simp only [next, System.interrupt]
      rw [h.generation, Nat.mod_add_mod]
    · exact fun token htoken hidentity => ⟨Nat.le_trans (h.tokens token htoken hidentity).1 hle,
        (h.tokens token htoken hidentity).2⟩
    · exact fun t hidentity => ⟨Nat.le_trans (h.dated t hidentity).1 hle, (h.dated t hidentity).2⟩
    · exact fun t => PcOk.later (h.calls t) rfl hle
    · exact fun r hr => DecisionOk.later (h.returned r hr) hle
  | notifyAll n =>
    refine ⟨h.generation, h.tokens, h.dated, ?_, h.returned⟩
    intro t
    have hcall := h.calls t
    simp only [next, System.notifyAll]
    cases hpc : (s.calls t).pc with
    | blocked observed =>
      rw [hpc] at hcall
      exact hcall
    | _ =>
      rw [hpc] at hcall
      exact hcall
  | shutdown => exact h.frame _ _ _ _

/-- A new wait state is consistent. -/
theorem Counted.initial : Counted System.initial where
  generation := rfl
  tokens := fun _ htoken => nomatch htoken
  dated := fun _ hidentity => absurd hidentity Nat.zero_ne_one
  calls := fun _ => trivial
  returned := fun _ hr => nomatch hr

/-- In every reachable state the counts fit. -/
theorem counted_of_run {es : List Event} {s : System} (h : machine.Run System.initial es s) :
    Counted s := by
  refine h.invariant_using Counted held_of_run Counted.initial ?_
  intro _ _ hheld hcounted hen _
  exact hcounted.step hheld hen

/-- A current token was not interrupted, short of a whole cycle of the
generation. -/
theorem Current.eq_prepared {s : System} {token : Token} {count : ℕ} (h : Current s token count)
    (hcycle : s.interrupts < token.prepared + UInt64.size) : count = token.prepared := by
  obtain ⟨hle, hcount, hmod⟩ := h
  have hdifference : (count - token.prepared) % UInt64.size = 0 :=
    Nat.sub_mod_eq_zero_of_mod_eq hmod
  have hsmall : count - token.prepared < UInt64.size := by omega
  rw [Nat.mod_eq_of_lt hsmall] at hdifference
  omega

/-- Steps a call is away from returning once its token is interrupted. -/
def Pc.stepsLeft : Pc → ℕ
  | .idle | .returning _ => 0
  | .observing | .locking _ => 1
  | .asking _ _ | .deciding _ | .waking _ _ => 2
  | .blocked _ => 3

/-- The call that an event belongs to. -/
def Event.thread : Event → Option ThreadId
  | .enter t _ _ | .observe t | .check t _ _ _ | .lock t _ | .decide t _ _ | .wake t _
  | .expire t _ | .reacquire t _ _ | .finish t _ => some t
  | _ => none

/-- A call with an interrupted token comes closer to its return with each step
of its own. -/
theorem stepsLeft_next {s : System} {t : ThreadId} (hleft : 0 < (s.calls t).pc.stepsLeft)
    (hinterrupted : s.interrupted (s.calls t).token = true) {e : Event} (hown : e.thread = some t)
    (hen : Enabled s e) : ((next s e).calls t).pc.stepsLeft < (s.calls t).pc.stepsLeft := by
  have hpc : ∀ p, ((s.goto t p).calls t).pc = p := fun p => by simp [System.goto]
  have hchanged : ∀ observed, s.changed (s.calls t).token observed = true := fun observed => by
    simp [System.changed, hinterrupted]
  have hrefused : ∃ decision, s.refusal (s.calls t).token = some decision := by
    unfold System.refusal
    split_ifs <;> exact ⟨_, rfl⟩
  obtain ⟨decision, hrefused⟩ := hrefused
  cases e with
  | enter u token timeout =>
    obtain rfl := Option.some.inj hown
    rw [hen.1] at hleft
    cases hleft
  | observe u =>
    obtain rfl := Option.some.inj hown
    simp only [next, System.observe, hrefused, hpc]
    rw [hen.1]
    simp only [Pc.stepsLeft]
    omega
  | check u observed begun available =>
    obtain rfl := Option.some.inj hown
    rw [show (s.calls u).pc = .asking observed begun from hen]
    simp only [next, System.check]
    split
    · rw [hpc]
      simp only [Pc.stepsLeft]
      omega
    · rw [hpc]
      simp only [Pc.stepsLeft]
      omega
  | lock u observed =>
    obtain rfl := Option.some.inj hown
    simp only [next, System.lock, hrefused, hpc]
    rw [hen.1]
    simp only [Pc.stepsLeft]
    omega
  | decide u observed expired =>
    obtain rfl := Option.some.inj hown
    rw [show (s.calls u).pc = .deciding observed from hen]
    simp only [next, System.decide, hchanged, if_true]
    split
    · simp only [System.goto, Function.update_self]
      simp only [Pc.stepsLeft]
      omega
    · simp only [System.goto, Function.update_self]
      simp only [Pc.stepsLeft]
      omega
  | wake u observed =>
    obtain rfl := Option.some.inj hown
    rw [show (s.calls u).pc = .blocked observed from hen]
    simp only [next, hpc]
    simp only [Pc.stepsLeft]
    omega
  | expire u observed =>
    obtain rfl := Option.some.inj hown
    rw [hen.1]
    simp only [next, hpc]
    simp only [Pc.stepsLeft]
    omega
  | reacquire u observed expired =>
    obtain rfl := Option.some.inj hown
    rw [hen.1]
    simp only [next, System.reacquire, hchanged, if_true, hpc]
    simp only [Pc.stepsLeft]
    omega
  | finish u decision =>
    obtain rfl := Option.some.inj hown
    rw [show (s.calls u).pc = .returning decision from hen] at hleft
    cases hleft
  | _ => cases hown

/-- A check began, or a deadline passed, before any interrupt that followed the
preparation of the token. -/
def Decision.Precedes (prepared : ℕ) : Decision → Prop
  | .checked _ begun _ => begun = prepared
  | .timedOut decided => decided = prepared
  | _ => True

/-- Nobody sleeps through a change, and an interrupt is answered. -/
structure Prompt (s : System) : Prop where
  /-- A blocked call has missed nothing, unless a notifier is on its way. -/
  awake : ∀ t observed, (s.calls t).pc = .blocked observed → (∀ n, s.notifying n = false) →
    s.interrupted (s.calls t).token = false ∧ s.revision = observed
  /-- Fewer than a cycle of interrupts after the preparation, a call that
  returned was refused or was decided by what began before all of them. -/
  honoured : ∀ token decision, (token,decision) ∈ s.returned →
    s.interrupts < token.prepared + UInt64.size → decision.Precedes token.prepared
  /-- A call with an interrupted token is on its way to its return. -/
  closer : ∀ t, 0 < (s.calls t).pc.stepsLeft → s.interrupted (s.calls t).token = true →
    ∀ e, e.thread = some t → Enabled s e →
      ((next s e).calls t).pc.stepsLeft < (s.calls t).pc.stepsLeft

/-- Every reachable wait state is prompt. -/
theorem waits_prompt {es : List Event} {s : System} (h : machine.Run System.initial es s) :
    Prompt s := by
  have hcounted := counted_of_run h
  refine ⟨?_, ?_, fun t hleft hinterrupted e hown hen => stepsLeft_next hleft hinterrupted hown hen⟩
  · intro t observed hpc hquiet
    rcases watched_of_run h t observed hpc with ⟨n, hn⟩ | hunchanged
    · rw [hquiet n] at hn
      cases hn
    · exact hunchanged
  · intro token decision hreturned hcycle
    have hok := hcounted.returned _ hreturned
    cases decision with
    | checked available begun decided => exact Current.eq_prepared hok hcycle
    | timedOut decided => exact Current.eq_prepared hok hcycle
    | _ => trivial

/-- A call blocks and is interrupted. -/
def interruptedRun : List Event :=
  [.prepare,.enter 0 ⟨1,0,0⟩ .infinite,.observe 0,.check 0 0 0 (.ok false),.lock 0 0,
    .decide 0 0 false,.interrupt 0,.notifyAll 0,.reacquire 0 0 false,.observe 0,
    .finish 0 .interrupted]

/-- The interrupt reaches the blocked call. -/
theorem waits_prompt_interruptedRun :
    ∃ s, machine.exec System.initial interruptedRun = some s ∧
      s.returned = [(⟨1,0,0⟩,.interrupted)] ∧ Prompt s := by
  have hend : (machine.exec System.initial interruptedRun).map (·.returned) =
      some [(⟨1,0,0⟩,.interrupted)] := by decide
  obtain ⟨s, hexec, hreturned⟩ := Option.map_eq_some_iff.mp hend
  exact ⟨s, hexec, hreturned, waits_prompt (Machine.run_of_exec hexec)⟩

/-- A revision changes while a call is about to block, and nobody was notified yet. -/
def unnotifiedRun : List Event :=
  [.prepare,.enter 0 ⟨1,0,0⟩ .infinite,.observe 0,.check 0 0 0 (.ok false),.lock 0 0,
    .decide 0 0 false,.notifyRevision 0]

/-- An interrupt meets a call whose check then succeeds. -/
def overtakenRun : List Event :=
  [.prepare,.enter 0 ⟨1,0,0⟩ .infinite,.observe 0,.interrupt 0,.check 0 0 0 (.ok true),
    .finish 0 (.checked (.ok true) 0 1)]

/-- A number of interrupts, each with its notification. -/
def rounds : ℕ → List Event
  | 0 => []
  | k+1 => rounds k ++ [.interrupt 0,.notifyAll 0]

/-- A wait state with one prepared token and a number of interrupts after it. -/
def afterRounds (k : ℕ) : System where
  identity := 1
  revision := k % UInt64.size
  interruptionGeneration := k % UInt64.size
  shutdown := false
  mutex := none
  calls := fun _ => ⟨⟨0,0,0⟩,.poll,.idle⟩
  notifying := fun _ => false
  tokens := [⟨1,0,0⟩]
  interrupts := k
  returned := []

/-- One more round counts one more interrupt. -/
theorem next_round (k : ℕ) :
    next (next (afterRounds k) (.interrupt 0)) (.notifyAll 0) = afterRounds (k+1) := by
  have hquiet : Function.update (Function.update (fun _ : NotifierId => false) 0 true) 0 false =
      fun _ => false := by
    rw [Function.update_idem]
    exact Function.update_eq_self 0 _
  simp only [next, System.notifyAll, System.interrupt, System.notifyRevision, afterRounds,
    System.Pc.notified, Nat.mod_add_mod, hquiet]

/-- The rounds after a preparation. -/
theorem run_rounds (k : ℕ) :
    machine.Run System.initial (.prepare :: rounds k) (afterRounds k) := by
  induction k with
  | zero =>
    have hprepare : machine.Run System.initial ([] ++ [.prepare]) _ := .snoc .nil rfl trivial
    exact hprepare
  | succ k ih =>
    have hinterrupt : machine.Run System.initial ((.prepare :: rounds k) ++ [.interrupt 0]) _ :=
      .snoc ih ⟨rfl,rfl⟩ trivial
    have hround : machine.Run System.initial
        (((.prepare :: rounds k) ++ [.interrupt 0]) ++ [.notifyAll 0]) _ :=
      .snoc hinterrupt (by simp [machine, Enabled, next, System.interrupt, System.notifyRevision])
        trivial
    rw [List.append_assoc] at hround
    rw [← next_round k]
    exact hround

/-- A poll with a token of generation zero and the same generation again. -/
def pollEvents (k : ℕ) : List Event :=
  [.enter 0 ⟨1,0,0⟩ .poll,.observe 0,.check 0 0 k (.ok false),.finish 0 (.checked (.ok false) k k)]

/-- After a whole cycle of interrupts a poll with the old token is admitted. -/
theorem exec_pollEvents :
    ∃ s, machine.exec (afterRounds UInt64.size) (pollEvents UInt64.size) = some s ∧
      s.returned = [(⟨1,0,0⟩,.checked (.ok false) UInt64.size UInt64.size)] := by
  have hend : (machine.exec (afterRounds UInt64.size) (pollEvents UInt64.size)).map (·.returned) =
      some [(⟨1,0,0⟩,.checked (.ok false) UInt64.size UInt64.size)] := by decide
  exact Option.map_eq_some_iff.mp hend

/-- A notifier may still be on its way to a blocked call, a check may succeed
after an interrupt, and the generation is counted in 64 bits. -/
theorem not_prompt_always :
    (¬ ∀ es s, machine.Run System.initial es s → ∀ t observed,
      (s.calls t).pc = .blocked observed →
        s.interrupted (s.calls t).token = false ∧ s.revision = observed) ∧
    (¬ ∀ es s, machine.Run System.initial es s → ∀ token available begun decided,
      (token,.checked (.ok available) begun decided) ∈ s.returned → decided = token.prepared) ∧
    ¬ ∀ es s, machine.Run System.initial es s → ∀ token decision,
      (token,decision) ∈ s.returned → decision.Precedes token.prepared := by
  refine ⟨?_, ?_, ?_⟩
  · intro hall
    have hend : (machine.exec System.initial unnotifiedRun).map
        (fun s => ((s.calls 0).pc,s.revision)) = some (.blocked 0,1) := by decide
    obtain ⟨s, hexec, hs⟩ := Option.map_eq_some_iff.mp hend
    obtain ⟨hpc, hrevision⟩ := Prod.mk.inj hs
    have hsame := (hall _ s (Machine.run_of_exec hexec) 0 0 hpc).2
    omega
  · intro hall
    have hend : (machine.exec System.initial overtakenRun).map (·.returned) =
        some [(⟨1,0,0⟩,.checked (.ok true) 0 1)] := by decide
    obtain ⟨s, hexec, hreturned⟩ := Option.map_eq_some_iff.mp hend
    have hdecided := hall _ s (Machine.run_of_exec hexec) ⟨1,0,0⟩ true 0 1
      (by rw [hreturned]; exact List.mem_singleton_self _)
    cases hdecided
  · intro hall
    obtain ⟨s, hexec, hreturned⟩ := exec_pollEvents
    have hrun := (run_rounds UInt64.size).append (Machine.run_of_exec hexec)
    have hdecided := hall _ s hrun ⟨1,0,0⟩ (.checked (.ok false) UInt64.size UInt64.size)
      (by rw [hreturned]; exact List.mem_singleton_self _)
    simp only [Decision.Precedes] at hdecided
    exact absurd hdecided (by decide)

end Dmw.AvailabilityWaits
