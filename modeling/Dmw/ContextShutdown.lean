import Dmw.GuardedRuns
import Dmw.KeyedTable
import Mathlib.Logic.Function.Basic

/-!
# Shutdown of a Context

Any number of `shutdown` calls meet operation guards and the registration of
shutdown callbacks. Each critical section of `operation_mutex_` and of
`shutdown_children_mutex_`, each condition wait that is over and each callback
is one event. Calls are numbered, whoever makes them, so a callback may itself
come back to the Context.
-/

namespace Dmw.ContextShutdown

open GuardedRuns KeyedTable

/-- Calls of `shutdown` are numbered. -/
abbrev CallId := ℕ

/-- Registration calls are numbered in the order of their critical sections. -/
abbrev RegistrationNumber := ℕ

/-- Next step of one `shutdown` call. -/
inductive Pc
  | idle
  /-- The flag is set, the children are to be collected. -/
  | collecting
  /-- Children that are still to be called. -/
  | invoking (rest : List RegistrationNumber)
  /-- A callback has returned, its child is to be marked. -/
  | acknowledging (rest : List RegistrationNumber)
  /-- Waiting for the operation guards. -/
  | draining
  /-- Waiting for another call to complete the shutdown. -/
  | awaiting
  /-- About to return. -/
  | returning
  deriving DecidableEq

/-- The call that set the flag is still at work. -/
def Pc.owns : Pc → Bool
  | .collecting | .invoking _ | .acknowledging _ | .draining => true
  | _ => false

/-- The call is in the loop over the children. -/
def Pc.loops : Pc → Bool
  | .invoking _ | .acknowledging _ => true
  | _ => false

/-- What became of one registration call; history only. -/
structure Registration where
  /-- Id it returned; 0 when it was refused or threw. -/
  id : ℕ
  /-- Its id was unregistered before the children were collected. -/
  unregistered : Bool
  /-- How often its callback was invoked. -/
  invoked : ℕ
  deriving DecidableEq

namespace Registration

/-- A call that was refused, or has not been made. -/
def refused : Registration := ⟨0,false,0⟩

/-- Number of invocations that the registration is entitled to. -/
def due (registration : Registration) : ℕ :=
  if registration.id ≠ 0 ∧ registration.unregistered = false then 1 else 0

end Registration

/-- Shutdown state of a Context. -/
structure Context where
  /-- `shutdown_`. -/
  shutdown : Bool
  /-- `shutdown_complete_`. -/
  shutdownComplete : Bool
  /-- Operation guards that count. -/
  activeOperations : ℕ
  /-- Next callback id; 0 once they are used up. -/
  nextShutdownCallbackId : ℕ
  /-- Registered children by id, with the call that registered them. -/
  shutdownChildren : Table ℕ RegistrationNumber
  /-- Next step of every `shutdown` call. -/
  pc : CallId → Pc
  /-- Guards handed out and not yet released. -/
  outstanding : List ℕ
  /-- Guards handed out so far; history only. -/
  granted : ℕ
  /-- Registration calls so far; history only. -/
  calls : ℕ
  /-- What became of them; history only. -/
  registrations : RegistrationNumber → Registration
  /-- The children were collected; history only. -/
  collected : Bool
  /-- `shutdown` calls that returned; history only. -/
  returned : ℕ

namespace Context

/-- A new Context. -/
def initial : Context where
  shutdown := false
  shutdownComplete := false
  activeOperations := 0
  nextShutdownCallbackId := 1
  shutdownChildren := ∅
  pc := fun _ => .idle
  outstanding := []
  granted := 0
  calls := 0
  registrations := fun _ => .refused
  collected := false
  returned := 0

/-- Move one call. -/
def goto (t : CallId) (next : Pc) (s : Context) : Context :=
  {s with pc := Function.update s.pc t next}

/-- `try_acquire_operation`. -/
def tryAcquireOperation (s : Context) : Context :=
  if s.shutdown then s
  else
    {s with
      activeOperations := s.activeOperations+1
      outstanding := s.granted :: s.outstanding
      granted := s.granted+1}

/-- The end of a guard. -/
def releaseOperation (guard : ℕ) (s : Context) : Context :=
  {s with
    activeOperations := s.activeOperations-1
    outstanding := s.outstanding.erase guard}

/-- The outcome of a registration call is known. -/
def record (registration : Registration) (s : Context) : Context :=
  {s with
    calls := s.calls+1
    registrations := Function.update s.registrations s.calls registration}

/-- Take the next id. -/
def countId (s : Context) : Context :=
  {s with nextShutdownCallbackId := (s.nextShutdownCallbackId+1)%UInt64.size}

/-- Register a child under an id. -/
def addChild (id : ℕ) (s : Context) : Context :=
  {s.record ⟨id,false,0⟩ with shutdownChildren := s.shutdownChildren.insert id s.calls}

/-- `register_shutdown_callback`; the allocation of the child may throw. -/
def registerShutdownCallback (threw : Bool) (s : Context) : Context :=
  if s.shutdown || s.nextShutdownCallbackId == 0 then s.record .refused
  else if threw then s.countId.record .refused
  else s.countId.addChild s.nextShutdownCallbackId

/-- Remember which registration an id withdraws. -/
def withdraw (id : ℕ) (s : Context) : RegistrationNumber → Registration := fun n =>
  if (s.registrations n).id = id ∧ s.collected = false then
    {s.registrations n with unregistered := true}
  else s.registrations n

/-- `unregister_shutdown_callback`. -/
def unregisterShutdownCallback (id : ℕ) (s : Context) : Context :=
  if id = 0 then s
  else
    {s with
      shutdownChildren := s.shutdownChildren.erase id
      registrations := s.withdraw id}

/-- The first critical section of `shutdown`. -/
def beginShutdown (t : CallId) (s : Context) : Context :=
  if s.shutdown then s.goto t .awaiting else {s.goto t .collecting with shutdown := true}

/-- The registered children. -/
def children (s : Context) : List RegistrationNumber := Table.values s.shutdownChildren

/-- Take all children out of the registry; the call visits them in some order. -/
def collectChildren (t : CallId) (order : List RegistrationNumber) (s : Context) : Context :=
  {s.goto t (.invoking order) with shutdownChildren := ∅, collected := true}

/-- Call one child; an exception is swallowed. -/
def invoke (t : CallId) (n : RegistrationNumber) (rest : List RegistrationNumber) (s : Context) :
    Context :=
  {s.goto t (.acknowledging rest) with
    registrations := Function.update s.registrations n
      {s.registrations n with invoked := (s.registrations n).invoked+1}}

/-- All guards are released. -/
def completeShutdown (t : CallId) (s : Context) : Context :=
  {s.goto t .returning with shutdownComplete := true}

/-- A `shutdown` call returns. -/
def finish (t : CallId) (s : Context) : Context :=
  {s.goto t .idle with returned := s.returned+1}

end Context

/-- One atomic event. -/
inductive Event
  | tryAcquireOperation
  | releaseOperation (guard : ℕ)
  | registerShutdownCallback (threw : Bool)
  | unregisterShutdownCallback (id : ℕ)
  | beginShutdown (t : CallId)
  | collectChildren (t : CallId) (order : List RegistrationNumber)
  | invoke (t : CallId) (n : RegistrationNumber) (rest : List RegistrationNumber)
  | acknowledge (t : CallId) (rest : List RegistrationNumber)
  | startDraining (t : CallId)
  | completeShutdown (t : CallId)
  | awaitComplete (t : CallId)
  | finish (t : CallId)

/-- Guards end once, calls follow their steps and condition waits end when
their predicate holds. -/
def Enabled (s : Context) : Event → Prop
  | .tryAcquireOperation => True
  | .releaseOperation guard => guard ∈ s.outstanding
  | .registerShutdownCallback _ => True
  | .unregisterShutdownCallback _ => True
  | .beginShutdown t => s.pc t = .idle
  | .collectChildren t order => s.pc t = .collecting ∧ order.Perm s.children
  | .invoke t n rest => s.pc t = .invoking (n :: rest)
  | .acknowledge t rest => s.pc t = .acknowledging rest
  | .startDraining t => s.pc t = .invoking []
  | .completeShutdown t => s.pc t = .draining ∧ s.activeOperations = 0
  | .awaitComplete t => s.pc t = .awaiting ∧ s.shutdownComplete = true
  | .finish t => s.pc t = .returning

/-- Effect of an enabled event. -/
def next (s : Context) : Event → Context
  | .tryAcquireOperation => s.tryAcquireOperation
  | .releaseOperation guard => s.releaseOperation guard
  | .registerShutdownCallback threw => s.registerShutdownCallback threw
  | .unregisterShutdownCallback id => s.unregisterShutdownCallback id
  | .beginShutdown t => s.beginShutdown t
  | .collectChildren t order => s.collectChildren t order
  | .invoke t n rest => s.invoke t n rest
  | .acknowledge t rest => s.goto t (.invoking rest)
  | .startDraining t => s.goto t .draining
  | .completeShutdown t => s.completeShutdown t
  | .awaitComplete t => s.goto t .returning
  | .finish t => s.finish t

instance (s : Context) (e : Event) : Decidable (Enabled s e) := by
  cases e <;> unfold Enabled <;> infer_instance

/-- The Context as a guarded machine. -/
def machine : Machine Context Event where
  enabled := Enabled
  next := next
  decidableEnabled := inferInstance

/-- Steps a call may stand at, given the progress of the shutdown. -/
def Allowed (shutdown collected complete : Bool) : Pc → Prop
  | .idle => True
  | .awaiting => shutdown = true
  | .collecting => shutdown = true ∧ collected = false ∧ complete = false
  | .invoking _ | .acknowledging _ | .draining =>
    shutdown = true ∧ collected = true ∧ complete = false
  | .returning => complete = true

/-- Progress of the shutdown and of its calls. -/
structure Control (s : Context) : Prop where
  /-- Every call stands where the progress lets it. -/
  allowed : ∀ t, Allowed s.shutdown s.collected s.shutdownComplete (s.pc t)
  /-- One call does the work. -/
  exclusive : ∀ t u, (s.pc t).owns = true → (s.pc u).owns = true → t = u
  /-- Children are collected after the flag is set. -/
  flagged : s.collected = true → s.shutdown = true
  /-- The shutdown completes after the collection. -/
  ordered : s.shutdownComplete = true → s.collected = true
  /-- Calls return after the completion. -/
  completed : s.returned ≠ 0 → s.shutdownComplete = true
  /-- The counter counts the guards. -/
  counted : s.activeOperations = s.outstanding.length
  /-- A complete shutdown has no guards. -/
  drained : s.shutdownComplete = true → s.outstanding = []

/-- Registered callbacks and their invocations. -/
structure Callbacks (s : Context) : Prop where
  /-- The counter has 64 bits. -/
  bound : s.nextShutdownCallbackId < UInt64.size
  /-- Ids were counted. -/
  used : ∀ n, (s.registrations n).id ≠ 0 →
    s.nextShutdownCallbackId = 0 ∨ (s.registrations n).id < s.nextShutdownCallbackId
  /-- No id was given out twice. -/
  unique : ∀ n m, (s.registrations n).id ≠ 0 → (s.registrations n).id = (s.registrations m).id → n = m
  /-- Calls that were not made left nothing. -/
  unmade : ∀ n, s.calls ≤ n → s.registrations n = .refused
  /-- Before the collection the registry holds what was registered and not
  withdrawn. -/
  registry : s.collected = false → ∀ id n, s.shutdownChildren.lookup id = some n ↔
    id ≠ 0 ∧ (s.registrations n).id = id ∧ (s.registrations n).unregistered = false
  /-- Before the collection nothing is invoked. -/
  fresh : s.collected = false → ∀ n, (s.registrations n).invoked = 0
  /-- In the loop, what is due was invoked or is still to be visited. -/
  remaining : ∀ t rest, s.pc t = .invoking rest ∨ s.pc t = .acknowledging rest →
    ∀ n, (s.registrations n).invoked + rest.count n = (s.registrations n).due
  /-- After the loop, what is due was invoked. -/
  finished : s.collected = true → (∀ t, (s.pc t).loops = false) →
    ∀ n, (s.registrations n).invoked = (s.registrations n).due

namespace Context

variable {s : Context} {t u : CallId} {p : Pc}

@[simp] theorem pc_goto_self : (s.goto t p).pc t = p := by simp [goto]

@[simp] theorem pc_goto_ne (hne : u ≠ t) : (s.goto t p).pc u = s.pc u := by simp [goto, hne]

end Context

/-- A call that does not do the work may stay where it is when the shutdown
progresses. -/
theorem Allowed.mono {shutdown collected complete shutdown' collected' complete' : Bool} {p : Pc}
    (h : Allowed shutdown collected complete p) (hown : p.owns = false)
    (hs : shutdown = true → shutdown' = true) (hc : complete = true → complete' = true) :
    Allowed shutdown' collected' complete' p := by
  cases p with
  | idle => trivial
  | awaiting => exact hs h
  | returning => exact hc h
  | collecting => cases hown
  | invoking rest => cases hown
  | acknowledging rest => cases hown
  | draining => cases hown

/-- Before the flag is set no shutdown call is under way. -/
theorem Control.idle {s : Context} (h : Control s) (hflag : s.shutdown = false) (t : CallId) :
    s.pc t = .idle := by
  have hcomplete : s.shutdownComplete = false := by
    cases hc : s.shutdownComplete with
    | false => rfl
    | true =>
      have hset := h.flagged (h.ordered hc)
      rw [hflag] at hset
      cases hset
  have hallowed := h.allowed t
  cases hp : s.pc t with
  | idle => rfl
  | _ =>
    rw [hp] at hallowed
    simp [Allowed, hflag, hcomplete] at hallowed

/-- Other calls do not do the work. -/
theorem Control.others {s : Context} (h : Control s) {t : CallId} (hown : (s.pc t).owns = true)
    {u : CallId} (hne : u ≠ t) : (s.pc u).owns = false := by
  cases hu : (s.pc u).owns with
  | false => rfl
  | true => exact absurd (h.exclusive u t hu hown) hne

/-- A move of the call that does the work, or of a call that neither does nor
takes it, keeps calls where they may stand. -/
theorem Control.moved {s : Context} (h : Control s) {t : CallId} {p : Pc}
    {shutdown collected complete : Bool} (hs : s.shutdown = true → shutdown = true)
    (hc : s.shutdownComplete = true → complete = true)
    (hothers : ∀ u, u ≠ t → (s.pc u).owns = false ∨
      collected = s.collected ∧ complete = s.shutdownComplete)
    (hp : Allowed shutdown collected complete p) (u : CallId) :
    Allowed shutdown collected complete ((s.goto t p).pc u) := by
  by_cases hu : u = t
  · subst hu
    rwa [Context.pc_goto_self]
  · rw [Context.pc_goto_ne hu]
    rcases hothers u hu with hidle | ⟨hcollected, hcomplete⟩
    · exact (h.allowed u).mono hidle hs hc
    · have hallowed := h.allowed u
      rw [hcollected, hcomplete]
      cases hpc : s.pc u <;> rw [hpc] at hallowed <;> simp_all [Allowed]

/-- The work stays with one call when a call moves that had it or does not take
it. -/
theorem Control.exclusive_moved {s : Context} (h : Control s) {t : CallId} {p : Pc}
    (hp : p.owns = true → ∀ u, u ≠ t → (s.pc u).owns = false) :
    ∀ u v, ((s.goto t p).pc u).owns = true → ((s.goto t p).pc v).owns = true → u = v := by
  intro u v hu hv
  by_cases hut : u = t
  · by_cases hvt : v = t
    · rw [hut, hvt]
    · subst hut
      rw [Context.pc_goto_self] at hu
      rw [Context.pc_goto_ne hvt] at hv
      rw [hp hu v hvt] at hv
      cases hv
  · rw [Context.pc_goto_ne hut] at hu
    by_cases hvt : v = t
    · subst hvt
      rw [Context.pc_goto_self] at hv
      rw [hp hv u hut] at hu
      cases hu
    · rw [Context.pc_goto_ne hvt] at hv
      exact h.exclusive u v hu hv

/-- A move that changes neither the progress nor the guards. -/
theorem Control.goto {s : Context} (h : Control s) {t : CallId} {p : Pc}
    (hp : Allowed s.shutdown s.collected s.shutdownComplete p)
    (hown : p.owns = true → (s.pc t).owns = true) : Control (s.goto t p) where
  allowed := h.moved id id (fun _ _ => .inr ⟨rfl, rfl⟩) hp
  exclusive := h.exclusive_moved fun ho _ hne => h.others (hown ho) hne
  flagged := h.flagged
  ordered := h.ordered
  completed := h.completed
  counted := h.counted
  drained := h.drained

/-- Registration calls do not touch progress and guards. -/
theorem Control.registrations {s : Context} (h : Control s) (nextId calls : ℕ)
    (children : Table ℕ RegistrationNumber) (registrations : RegistrationNumber → Registration) :
    Control {s with
      nextShutdownCallbackId := nextId
      shutdownChildren := children
      calls := calls
      registrations := registrations} :=
  ⟨h.allowed, h.exclusive, h.flagged, h.ordered, h.completed, h.counted, h.drained⟩

/-- Every step keeps the progress consistent. -/
theorem Control.step {s : Context} (h : Control s) {e : Event} (hen : Enabled s e) :
    Control (next s e) := by
  cases e with
  | tryAcquireOperation =>
    simp only [next, Context.tryAcquireOperation]
    split
    · exact h
    · next hflag =>
      have hcomplete : s.shutdownComplete = true → False := fun hc =>
        hflag (h.flagged (h.ordered hc))
      refine ⟨h.allowed, h.exclusive, h.flagged, h.ordered, h.completed, ?_, ?_⟩
      · simp [h.counted]
      · exact fun hc => (hcomplete hc).elim
  | releaseOperation guard =>
    have hmem : guard ∈ s.outstanding := hen
    have hpositive := List.length_pos_of_mem hmem
    refine ⟨h.allowed, h.exclusive, h.flagged, h.ordered, h.completed, ?_, ?_⟩
    · simp only [next, Context.releaseOperation, List.length_erase_of_mem hmem]
      have hcounted := h.counted
      omega
    · intro hc
      have hnone := h.drained hc
      rw [hnone] at hmem
      cases hmem
  | registerShutdownCallback threw =>
    simp only [next, Context.registerShutdownCallback]
    split
    · exact h.registrations _ _ _ _
    · split
      · exact h.registrations _ _ _ _
      · exact h.registrations _ _ _ _
  | unregisterShutdownCallback id =>
    simp only [next, Context.unregisterShutdownCallback]
    split
    · exact h
    · exact h.registrations _ _ _ _
  | beginShutdown t =>
    simp only [next, Context.beginShutdown]
    split
    · next hflag => exact h.goto hflag (fun ho => by cases ho)
    · next hflag =>
      rw [Bool.not_eq_true] at hflag
      have hidle := h.idle hflag
      have hcollected : s.collected = false := by
        cases hc : s.collected with
        | false => rfl
        | true => exact absurd (h.flagged hc) (by simp [hflag])
      have hcomplete : s.shutdownComplete = false := by
        cases hc : s.shutdownComplete with
        | false => rfl
        | true => exact absurd (h.ordered hc) (by simp [hcollected])
      have hnobody : ∀ u, u ≠ t → (s.pc u).owns = false := fun u _ => by rw [hidle u]; rfl
      refine ⟨?_, h.exclusive_moved fun _ => hnobody, fun _ => rfl, h.ordered, h.completed,
        h.counted, h.drained⟩
      exact h.moved (fun _ => rfl) id (fun u hne => .inl (hnobody u hne))
        ⟨rfl, hcollected, hcomplete⟩
  | collectChildren t order =>
    have hpc : s.pc t = .collecting := hen.1
    have hown : (s.pc t).owns = true := by rw [hpc]; rfl
    have hallowed := h.allowed t
    rw [hpc] at hallowed
    refine ⟨?_, h.exclusive_moved fun _ _ => h.others hown, fun _ => hallowed.1, fun _ => rfl,
      h.completed, h.counted, h.drained⟩
    exact h.moved id id (fun u hne => .inl (h.others hown hne)) ⟨hallowed.1, rfl, hallowed.2.2⟩
  | invoke t n rest =>
    have hpc : s.pc t = .invoking (n :: rest) := hen
    have hallowed := h.allowed t
    rw [hpc] at hallowed
    exact (h.goto (p := .acknowledging rest) hallowed fun _ => by rw [hpc]; rfl).registrations _ _ _ _
  | acknowledge t rest =>
    have hpc : s.pc t = .acknowledging rest := hen
    have hallowed := h.allowed t
    rw [hpc] at hallowed
    exact h.goto hallowed fun _ => by rw [hpc]; rfl
  | startDraining t =>
    have hpc : s.pc t = .invoking [] := hen
    have hallowed := h.allowed t
    rw [hpc] at hallowed
    exact h.goto hallowed fun _ => by rw [hpc]; rfl
  | completeShutdown t =>
    have hpc : s.pc t = .draining := hen.1
    have hown : (s.pc t).owns = true := by rw [hpc]; rfl
    have hallowed := h.allowed t
    rw [hpc] at hallowed
    have hnone : s.outstanding = [] := by
      have hcounted := h.counted
      rw [hen.2] at hcounted
      exact List.length_eq_zero_iff.mp hcounted.symm
    refine ⟨?_, h.exclusive_moved (fun ho => by cases ho), h.flagged, fun _ => hallowed.2.1,
      fun _ => rfl, h.counted, fun _ => hnone⟩
    exact h.moved id (fun _ => rfl) (fun u hne => .inl (h.others hown hne)) rfl
  | awaitComplete t => exact h.goto hen.2 fun ho => by cases ho
  | finish t =>
    have hpc : s.pc t = .returning := hen
    have hallowed := h.allowed t
    rw [hpc] at hallowed
    have hmoved := h.goto (t := t) (p := .idle) trivial fun ho => by cases ho
    exact ⟨hmoved.allowed, hmoved.exclusive, h.flagged, h.ordered, fun _ => hallowed, h.counted,
      h.drained⟩

/-- A new Context is consistent. -/
theorem Control.initial : Control Context.initial where
  allowed := fun _ => trivial
  exclusive := fun _ _ ho => nomatch ho
  flagged := fun hc => nomatch hc
  ordered := fun hc => nomatch hc
  completed := fun hr => absurd rfl hr
  counted := rfl
  drained := fun _ => rfl

/-- In every reachable state progress and guards are consistent. -/
theorem control_of_run {es : List Event} {s : Context} (h : machine.Run Context.initial es s) :
    Control s :=
  h.invariant Control Control.initial fun _ _ hcontrol hen _ => hcontrol.step hen

/-- Before the collection no call is in the loop. -/
theorem Control.not_looping {s : Context} (h : Control s) (hcollected : s.collected = false)
    (t : CallId) : (s.pc t).loops = false := by
  have hallowed := h.allowed t
  cases hp : s.pc t with
  | invoking rest =>
    rw [hp, hcollected] at hallowed
    exact absurd hallowed.2.1 (by decide)
  | acknowledging rest =>
    rw [hp, hcollected] at hallowed
    exact absurd hallowed.2.1 (by decide)
  | _ => rfl

/-- A call outside the loop has no children left to visit. -/
theorem not_visiting {p : Pc} (h : p.loops = false) {rest : List RegistrationNumber} :
    ¬ (p = .invoking rest ∨ p = .acknowledging rest) := by
  rintro (rfl | rfl)
  · cases h
  · cases h

/-- A move outside the loop does not touch the callbacks. -/
theorem Callbacks.goto {s : Context} (h : Callbacks s) {t : CallId} {p : Pc}
    (hfrom : (s.pc t).loops = false) (hto : p.loops = false) : Callbacks (s.goto t p) where
  bound := h.bound
  used := h.used
  unique := h.unique
  unmade := h.unmade
  registry := h.registry
  fresh := h.fresh
  remaining := by
    intro u rest hu
    by_cases hut : u = t
    · subst hut
      rw [Context.pc_goto_self] at hu
      exact (not_visiting hto hu).elim
    · rw [Context.pc_goto_ne hut] at hu
      exact h.remaining u rest hu
  finished := by
    intro hcollected hloops
    refine h.finished hcollected fun u => ?_
    by_cases hut : u = t
    · rw [hut]
      exact hfrom
    · have hu := hloops u
      rwa [Context.pc_goto_ne hut] at hu

/-- A refused call leaves the history as it was. -/
theorem Callbacks.record_refused {s : Context} (h : Callbacks s) : Callbacks (s.record .refused) := by
  have hsame : Function.update s.registrations s.calls .refused = s.registrations := by
    rw [← h.unmade s.calls (Nat.le_refl _)]
    exact Function.update_eq_self _ _
  have hregistrations : (s.record .refused).registrations = s.registrations := hsame
  refine ⟨h.bound, ?_, ?_, ?_, ?_, ?_, ?_, ?_⟩
  all_goals rw [hregistrations]
  · exact h.used
  · exact h.unique
  · exact fun n hn => h.unmade n (Nat.le_of_succ_le hn)
  · exact h.registry
  · exact h.fresh
  · exact h.remaining
  · exact h.finished

/-- The next id is larger than all before it, or the ids are used up. -/
theorem Callbacks.nextId {s : Context} (h : Callbacks s) :
    (s.nextShutdownCallbackId+1)%UInt64.size = 0 ∨
      (s.nextShutdownCallbackId+1)%UInt64.size = s.nextShutdownCallbackId+1 := by
  have hbound := h.bound
  rcases Nat.lt_or_ge (s.nextShutdownCallbackId+1) UInt64.size with hlt | hge
  · exact .inr (Nat.mod_eq_of_lt hlt)
  · have heq : s.nextShutdownCallbackId+1 = UInt64.size := by omega
    rw [heq]
    exact .inl (Nat.mod_self _)

/-- Counting an id keeps the callbacks consistent. -/
theorem Callbacks.count {s : Context} (h : Callbacks s) (hleft : s.nextShutdownCallbackId ≠ 0) :
    Callbacks s.countId where
  bound := Nat.mod_lt _ (by decide)
  used := by
    intro n hn
    rcases h.used n hn with hzero | hlt
    · exact absurd hzero hleft
    · rcases h.nextId with hwrapped | hnext
      · exact .inl hwrapped
      · refine .inr ?_
        simp only [Context.countId]
        omega
  unique := h.unique
  unmade := h.unmade
  registry := h.registry
  fresh := h.fresh
  remaining := h.remaining
  finished := h.finished

/-- A registered child gets a new id and is due one call. -/
theorem Callbacks.register {s : Context} (h : Callbacks s) (hcontrol : Control s)
    (hflag : s.shutdown = false) (hleft : s.nextShutdownCallbackId ≠ 0) :
    Callbacks (s.countId.addChild s.nextShutdownCallbackId) := by
  have hcollected : s.collected = false := by
    cases hc : s.collected with
    | false => rfl
    | true => exact absurd (hcontrol.flagged hc) (by simp [hflag])
  have hnew : ∀ n, (s.registrations n).id ≠ s.nextShutdownCallbackId := by
    intro n heq
    rcases h.used n (by omega) with hzero | hlt
    · exact hleft hzero
    · omega
  have hat : ∀ n, n ≠ s.calls →
      Function.update s.registrations s.calls ⟨s.nextShutdownCallbackId,false,0⟩ n =
        s.registrations n := fun n hne => Function.update_of_ne hne _ _
  have hself : Function.update s.registrations s.calls ⟨s.nextShutdownCallbackId,false,0⟩ s.calls =
      ⟨s.nextShutdownCallbackId,false,0⟩ := Function.update_self _ _ _
  refine ⟨(h.count hleft).bound, ?_, ?_, ?_, ?_, ?_, ?_, ?_⟩
  · intro n hn
    simp only [Context.addChild, Context.record, Context.countId] at hn ⊢
    by_cases hnc : n = s.calls
    · subst hnc
      rw [hself]
      rcases h.nextId with hwrapped | hnext
      · exact .inl hwrapped
      · exact .inr (by simp only; omega)
    · rw [hat n hnc] at hn ⊢
      exact (h.count hleft).used n hn
  · intro n m hn heq
    simp only [Context.addChild, Context.record, Context.countId] at hn heq
    by_cases hnc : n = s.calls
    · by_cases hmc : m = s.calls
      · rw [hnc, hmc]
      · rw [hnc, hself, hat m hmc] at heq
        exact absurd heq.symm (hnew m)
    · by_cases hmc : m = s.calls
      · rw [hmc, hself, hat n hnc] at heq
        exact absurd heq (hnew n)
      · rw [hat n hnc] at hn heq
        rw [hat m hmc] at heq
        exact h.unique n m hn heq
  · intro n hn
    simp only [Context.addChild, Context.record, Context.countId] at hn ⊢
    rw [hat n (by omega)]
    exact h.unmade n (by omega)
  · intro _ id n
    simp only [Context.addChild, Context.record, Context.countId]
    by_cases hid : id = s.nextShutdownCallbackId
    · subst hid
      rw [AList.lookup_insert, Option.some.injEq]
      constructor
      · intro hn
        rw [← hn, hself]
        exact ⟨hleft, rfl, rfl⟩
      · rintro ⟨_, hn, _⟩
        by_contra hne
        rw [hat n (fun hc => hne hc.symm)] at hn
        exact hnew n hn
    · rw [AList.lookup_insert_ne hid, h.registry hcollected]
      by_cases hnc : n = s.calls
      · subst hnc
        rw [hself, h.unmade s.calls (Nat.le_refl _)]
        simp only [Registration.refused]
        constructor
        · rintro ⟨hpos, hzero, _⟩
          exact absurd hzero.symm hpos
        · rintro ⟨_, heq, _⟩
          exact absurd heq.symm hid
      · rw [hat n hnc]
  · intro _ n
    simp only [Context.addChild, Context.record, Context.countId]
    by_cases hnc : n = s.calls
    · rw [hnc, hself]
    · rw [hat n hnc]
      exact h.fresh hcollected n
  · intro t rest hvisiting
    have hidle : s.pc t = .idle := hcontrol.idle hflag t
    have hloops : (s.pc t).loops = false := by rw [hidle]; rfl
    exact (not_visiting hloops hvisiting).elim
  · intro hc
    exact absurd (show s.collected = true from hc) (by simp [hcollected])

/-- Withdrawing an id keeps the callbacks consistent. -/
theorem Callbacks.unregister {s : Context} (h : Callbacks s) (hcontrol : Control s) {id : ℕ}
    (hid : id ≠ 0) :
    Callbacks {s with
      shutdownChildren := s.shutdownChildren.erase id
      registrations := s.withdraw id} := by
  by_cases hcollected : s.collected = true
  · have hsame : s.withdraw id = s.registrations := by
      funext n
      simp [Context.withdraw, hcollected]
    rw [hsame]
    refine ⟨h.bound, h.used, h.unique, h.unmade, ?_, ?_, h.remaining, h.finished⟩
    · exact fun hc => absurd (show s.collected = false from hc) (by simp [hcollected])
    · exact h.fresh
  · rw [Bool.not_eq_true] at hcollected
    have hids : ∀ n, (s.withdraw id n).id = (s.registrations n).id := by
      intro n
      unfold Context.withdraw
      split <;> rfl
    have hinvoked : ∀ n, (s.withdraw id n).invoked = (s.registrations n).invoked := by
      intro n
      unfold Context.withdraw
      split <;> rfl
    refine ⟨h.bound, ?_, ?_, ?_, ?_, ?_, ?_, ?_⟩
    · intro n hn
      simp only [hids] at hn ⊢
      exact h.used n hn
    · intro n m hn heq
      simp only [hids] at hn heq
      exact h.unique n m hn heq
    · intro n hn
      have hrefused := h.unmade n hn
      simp only [Context.withdraw, hrefused, Registration.refused]
      rw [if_neg fun hc => hid hc.1.symm]
    · intro _ id' n
      simp only [hids]
      by_cases heq : id' = id
      · subst heq
        rw [AList.lookup_erase]
        constructor
        · intro hnone
          cases hnone
        · rintro ⟨_, hn, hunregistered⟩
          rw [Context.withdraw, if_pos ⟨hn, hcollected⟩] at hunregistered
          cases hunregistered
      · rw [AList.lookup_erase_ne heq, h.registry hcollected]
        constructor
        · rintro ⟨hpos, hn, hunregistered⟩
          refine ⟨hpos, hn, ?_⟩
          rwa [Context.withdraw, if_neg fun hc => heq (hn.symm.trans hc.1)]
        · rintro ⟨hpos, hn, hunregistered⟩
          refine ⟨hpos, hn, ?_⟩
          rwa [Context.withdraw, if_neg fun hc => heq (hn.symm.trans hc.1)] at hunregistered
    · intro _ n
      simp only [hinvoked]
      exact h.fresh hcollected n
    · intro t rest hvisiting
      exact (not_visiting (hcontrol.not_looping hcollected t) hvisiting).elim
    · exact fun hc => absurd (show s.collected = true from hc) (by simp [hcollected])

/-- Every child in the registry is due one call, and everything due is there. -/
theorem Callbacks.count_children {s : Context} (h : Callbacks s) (hcollected : s.collected = false)
    (n : RegistrationNumber) : s.children.count n = (s.registrations n).due := by
  have hdistinct : s.children.Nodup := by
    refine Table.nodup_values fun id id' m hid hid' => ?_
    rw [h.registry hcollected] at hid hid'
    exact hid.2.1.symm.trans hid'.2.1
  have hmem : n ∈ s.children ↔
      (s.registrations n).id ≠ 0 ∧ (s.registrations n).unregistered = false := by
    refine Table.mem_values.trans ?_
    constructor
    · rintro ⟨id, hlookup⟩
      obtain ⟨hpos, hid, hunregistered⟩ := (h.registry hcollected id n).mp hlookup
      exact ⟨hid ▸ hpos, hunregistered⟩
    · rintro ⟨hpos, hunregistered⟩
      exact ⟨_, (h.registry hcollected _ n).mpr ⟨hpos, rfl, hunregistered⟩⟩
  unfold Registration.due
  split
  · next hdue => exact List.count_eq_one_of_mem hdistinct (hmem.mpr hdue)
  · next hdue => exact List.count_eq_zero_of_not_mem fun hc => hdue (hmem.mp hc)

/-- The collected children are what is due. -/
theorem Callbacks.collect {s : Context} (h : Callbacks s) (hcontrol : Control s) {t : CallId}
    {order : List RegistrationNumber} (hpc : s.pc t = .collecting)
    (horder : order.Perm s.children) : Callbacks (s.collectChildren t order) := by
  have hallowed := hcontrol.allowed t
  rw [hpc] at hallowed
  have hcollected : s.collected = false := hallowed.2.1
  refine ⟨h.bound, h.used, h.unique, h.unmade, (fun hc => nomatch hc), (fun hc => nomatch hc), ?_, ?_⟩
  · intro u rest hvisiting n
    by_cases hut : u = t
    · subst hut
      have hrest : order = rest := by
        simpa [Context.collectChildren, Context.goto] using hvisiting
      have hinvoked : (s.registrations n).invoked = 0 := h.fresh hcollected n
      have hcount := h.count_children hcollected n
      rw [← horder.count_eq n, hrest] at hcount
      simp only [Context.collectChildren, Context.goto]
      omega
    · have hstays : (s.collectChildren t order).pc u = s.pc u := Context.pc_goto_ne hut
      rw [hstays] at hvisiting
      exact (not_visiting (hcontrol.not_looping hcollected u) hvisiting).elim
  · intro _ hloops
    have hself : (s.collectChildren t order).pc t = .invoking order := Context.pc_goto_self
    have hloop := hloops t
    rw [hself] at hloop
    cases hloop

/-- Calling a child pays one call that is due. -/
theorem Callbacks.invoke {s : Context} (h : Callbacks s) (hcontrol : Control s) {t : CallId}
    {n : RegistrationNumber} {rest : List RegistrationNumber} (hpc : s.pc t = .invoking (n :: rest)) :
    Callbacks (s.invoke t n rest) := by
  have hallowed := hcontrol.allowed t
  rw [hpc] at hallowed
  have hown : (s.pc t).owns = true := by rw [hpc]; rfl
  have hids : ∀ m, ((s.invoke t n rest).registrations m).id = (s.registrations m).id ∧
      ((s.invoke t n rest).registrations m).unregistered = (s.registrations m).unregistered ∧
      ((s.invoke t n rest).registrations m).invoked =
        (s.registrations m).invoked + if m = n then 1 else 0 := by
    intro m
    by_cases hm : m = n
    · subst hm
      simp [Context.invoke]
    · simp [Context.invoke, hm, Context.goto]
  have hdue : ∀ m, ((s.invoke t n rest).registrations m).due = (s.registrations m).due := by
    intro m
    simp only [Registration.due, (hids m).1, (hids m).2.1]
  have hvisited := h.remaining t _ (.inl hpc)
  have hn : (s.registrations n).id ≠ 0 := by
    have hcount := hvisited n
    rw [List.count_cons_self] at hcount
    unfold Registration.due at hcount
    split at hcount
    · next hc => exact hc.1
    · omega
  refine ⟨h.bound, ?_, ?_, ?_, ?_, ?_, ?_, ?_⟩
  · intro m hm
    rw [(hids m).1] at hm ⊢
    exact h.used m hm
  · intro m m' hm heq
    rw [(hids m).1] at hm heq
    rw [(hids m').1] at heq
    exact h.unique m m' hm heq
  · intro m hm
    have hrefused := h.unmade m hm
    have hne : m ≠ n := by
      rintro rfl
      rw [hrefused] at hn
      exact hn rfl
    simp only [Context.invoke, Context.goto, Function.update_of_ne hne]
    exact hrefused
  · exact fun hc => absurd (hallowed.2.1.symm.trans hc) (by decide)
  · exact fun hc => absurd (hallowed.2.1.symm.trans hc) (by decide)
  · intro u rest' hvisiting m
    by_cases hut : u = t
    · subst hut
      have hrest : rest = rest' := by
        simpa [Context.invoke, Context.goto] using hvisiting
      have hcount := hvisited m
      rw [hdue, (hids m).2.2, ← hrest, ← hcount, List.count_cons]
      by_cases hm : m = n
      · subst hm
        simp only [if_true, beq_self_eq_true]
        omega
      · have hbeq : (n == m) = false := by
          simp only [beq_eq_false_iff_ne, ne_eq]
          exact fun hc => hm hc.symm
        simp [hm, hbeq]
    · have hstays : (s.invoke t n rest).pc u = s.pc u := Context.pc_goto_ne hut
      rw [hstays] at hvisiting
      have hother := hcontrol.others hown hut
      rcases hvisiting with hc | hc
      · rw [hc] at hother
        cases hother
      · rw [hc] at hother
        cases hother
  · intro _ hloops
    have hself : (s.invoke t n rest).pc t = .acknowledging rest := Context.pc_goto_self
    have hloop := hloops t
    rw [hself] at hloop
    cases hloop

/-- Marking a child and leaving the loop pay nothing. -/
theorem Callbacks.advance {s : Context} (h : Callbacks s) (hcontrol : Control s) {t : CallId}
    {rest : List RegistrationNumber} {p : Pc}
    (hpc : s.pc t = .invoking rest ∨ s.pc t = .acknowledging rest)
    (hp : p = .invoking rest ∨ p = .draining ∧ rest = []) : Callbacks (s.goto t p) := by
  have hown : (s.pc t).owns = true := by
    rcases hpc with hc | hc
    all_goals rw [hc]; rfl
  have hallowed := hcontrol.allowed t
  have hcollected : s.collected = true := by
    rcases hpc with hc | hc
    all_goals
      rw [hc] at hallowed
      exact hallowed.2.1
  refine ⟨h.bound, h.used, h.unique, h.unmade, ?_, ?_, ?_, ?_⟩
  · exact fun hc => absurd (hcollected.symm.trans hc) (by decide)
  · exact fun hc => absurd (hcollected.symm.trans hc) (by decide)
  · intro u rest' hvisiting n
    by_cases hut : u = t
    · subst hut
      rw [Context.pc_goto_self] at hvisiting
      rcases hp with hp | ⟨hp, _⟩
      · have hrest : rest = rest' := by simpa [hp] using hvisiting
        rw [← hrest]
        exact h.remaining u rest hpc n
      · rw [hp] at hvisiting
        exact (not_visiting rfl hvisiting).elim
    · rw [Context.pc_goto_ne hut] at hvisiting
      exact h.remaining u rest' hvisiting n
  · intro _ hloops n
    have hloop := hloops t
    rw [Context.pc_goto_self] at hloop
    rcases hp with hp | ⟨_, hrest⟩
    · rw [hp] at hloop
      cases hloop
    · have hcount := h.remaining t rest hpc n
      rw [hrest, List.count_nil] at hcount
      exact hcount

/-- Every step keeps the callbacks consistent. -/
theorem Callbacks.step {s : Context} (h : Callbacks s) (hcontrol : Control s) {e : Event}
    (hen : Enabled s e) : Callbacks (next s e) := by
  cases e with
  | tryAcquireOperation =>
    simp only [next, Context.tryAcquireOperation]
    split
    · exact h
    · exact ⟨h.bound, h.used, h.unique, h.unmade, h.registry, h.fresh, h.remaining, h.finished⟩
  | releaseOperation guard =>
    exact ⟨h.bound, h.used, h.unique, h.unmade, h.registry, h.fresh, h.remaining, h.finished⟩
  | registerShutdownCallback threw =>
    simp only [next, Context.registerShutdownCallback]
    split
    · exact h.record_refused
    · next hadmitted =>
      simp only [Bool.or_eq_true, beq_iff_eq, not_or, Bool.not_eq_true] at hadmitted
      split
      · exact (h.count hadmitted.2).record_refused
      · exact h.register hcontrol hadmitted.1 hadmitted.2
  | unregisterShutdownCallback id =>
    simp only [next, Context.unregisterShutdownCallback]
    split
    · exact h
    · next hid => exact h.unregister hcontrol hid
  | beginShutdown t =>
    have hidle : (s.pc t).loops = false := by rw [show s.pc t = .idle from hen]; rfl
    simp only [next, Context.beginShutdown]
    split
    · exact h.goto hidle rfl
    · have hmoved : Callbacks (s.goto t .collecting) := h.goto hidle rfl
      exact ⟨hmoved.bound, hmoved.used, hmoved.unique, hmoved.unmade, hmoved.registry, hmoved.fresh,
        hmoved.remaining, hmoved.finished⟩
  | collectChildren t order => exact h.collect hcontrol hen.1 hen.2
  | invoke t n rest => exact h.invoke hcontrol hen
  | acknowledge t rest => exact h.advance hcontrol (.inr hen) (.inl rfl)
  | startDraining t => exact h.advance hcontrol (.inl hen) (.inr ⟨rfl, rfl⟩)
  | completeShutdown t =>
    have hdraining : (s.pc t).loops = false := by rw [show s.pc t = .draining from hen.1]; rfl
    have hmoved : Callbacks (s.goto t .returning) := h.goto hdraining rfl
    exact ⟨hmoved.bound, hmoved.used, hmoved.unique, hmoved.unmade, hmoved.registry, hmoved.fresh,
      hmoved.remaining, hmoved.finished⟩
  | awaitComplete t =>
    have hawaiting : (s.pc t).loops = false := by rw [show s.pc t = .awaiting from hen.1]; rfl
    exact h.goto hawaiting rfl
  | finish t =>
    have hreturning : (s.pc t).loops = false := by rw [show s.pc t = .returning from hen]; rfl
    have hmoved : Callbacks (s.goto t .idle) := h.goto hreturning rfl
    exact ⟨hmoved.bound, hmoved.used, hmoved.unique, hmoved.unmade, hmoved.registry, hmoved.fresh,
      hmoved.remaining, hmoved.finished⟩

/-- A new Context has no callbacks. -/
theorem Callbacks.initial : Callbacks Context.initial where
  bound := by decide
  used := fun _ hn => absurd rfl hn
  unique := fun _ _ hn => absurd rfl hn
  unmade := fun _ _ => rfl
  registry := by
    intro _ id n
    constructor
    · intro hnone
      cases hnone
    · rintro ⟨hpos, hid, _⟩
      exact absurd hid.symm hpos
  fresh := fun _ _ => rfl
  remaining := fun _ _ hvisiting => (not_visiting rfl hvisiting).elim
  finished := fun hc => nomatch hc

/-- In every reachable state the callbacks are consistent. -/
theorem callbacks_of_run {es : List Event} {s : Context} (h : machine.Run Context.initial es s) :
    Callbacks s :=
  h.invariant_using Callbacks control_of_run Callbacks.initial
    fun _ _ hcontrol hcallbacks hen _ => hcallbacks.step hcontrol hen

/-- No callback is invoked more often than it is due. -/
theorem Callbacks.invoked_le_due {s : Context} (h : Callbacks s) (n : RegistrationNumber) :
    (s.registrations n).invoked ≤ (s.registrations n).due := by
  by_cases hcollected : s.collected = true
  · by_cases hloops : ∀ t, (s.pc t).loops = false
    · exact Nat.le_of_eq (h.finished hcollected hloops n)
    · obtain ⟨t, ht⟩ := not_forall.mp hloops
      cases hp : s.pc t with
      | invoking rest =>
        have hcount := h.remaining t rest (.inl hp) n
        omega
      | acknowledging rest =>
        have hcount := h.remaining t rest (.inr hp) n
        omega
      | _ => simp [hp, Pc.loops] at ht
  · rw [Bool.not_eq_true] at hcollected
    rw [h.fresh hcollected n]
    exact Nat.zero_le _

/-- Once the flag is set it stays set and no guard is handed out. -/
theorem flag_step {s : Context} (hflag : s.shutdown = true) (e : Event) :
    (next s e).shutdown = true ∧ (next s e).granted = s.granted := by
  cases e with
  | tryAcquireOperation => simp [next, Context.tryAcquireOperation, hflag]
  | registerShutdownCallback threw =>
    simp [next, Context.registerShutdownCallback, Context.record, hflag]
  | unregisterShutdownCallback id =>
    simp only [next, Context.unregisterShutdownCallback]
    split <;> exact ⟨hflag, rfl⟩
  | beginShutdown t =>
    simp only [next, Context.beginShutdown, hflag, if_true]
    exact ⟨hflag, rfl⟩
  | _ => exact ⟨hflag, rfl⟩

/-- What is promised about callbacks and guards in a reachable state. -/
structure Protocol (s : Context) : Prop where
  /-- Ids of registered callbacks are unique; 0 is not one of them. -/
  uniqueIds : ∀ n m, (s.registrations n).id ≠ 0 → (s.registrations n).id = (s.registrations m).id →
    n = m
  /-- A refused registration is never invoked. -/
  refused : ∀ n, (s.registrations n).id = 0 → (s.registrations n).invoked = 0
  /-- Nor is one withdrawn before the children were collected. -/
  withdrawn : ∀ n, (s.registrations n).unregistered = true → (s.registrations n).invoked = 0
  /-- No callback is invoked twice. -/
  atMostOnce : ∀ n, (s.registrations n).invoked ≤ 1
  /-- All others are invoked exactly once by the end of the loop. -/
  exactlyOnce : s.collected = true → (∀ t, (s.pc t).loops = false) →
    ∀ n, (s.registrations n).id ≠ 0 → (s.registrations n).unregistered = false →
      (s.registrations n).invoked = 1
  /-- A call that returns has left the loop behind and no guard outstanding. -/
  returned : s.returned ≠ 0 →
    s.collected = true ∧ (∀ t, (s.pc t).loops = false) ∧ s.outstanding = []

/-- In every run of shutdowns, operations and registrations callbacks are
invoked exactly once where they are due and never where they are not; after the
flag is set no guard is granted, and none is outstanding when a shutdown
returns. -/
theorem shutdown_protocol {es : List Event} {s : Context} (h : machine.Run Context.initial es s) :
    Protocol s ∧ ∀ es' s', machine.Run s es' s' → s.shutdown = true → s'.granted = s.granted := by
  have hcontrol := control_of_run h
  have hcallbacks := callbacks_of_run h
  have hdue := hcallbacks.invoked_le_due
  refine ⟨⟨hcallbacks.unique, ?_, ?_, ?_, ?_, ?_⟩, ?_⟩
  · intro n hn
    have hle := hdue n
    rw [Registration.due, if_neg fun hc => hc.1 hn] at hle
    omega
  · intro n hn
    have hle := hdue n
    rw [Registration.due, if_neg fun hc => by simp [hn] at hc] at hle
    omega
  · intro n
    have hle := hdue n
    unfold Registration.due at hle
    split at hle <;> omega
  · intro hcollected hloops n hid hregistered
    rw [hcallbacks.finished hcollected hloops n, Registration.due, if_pos ⟨hid, hregistered⟩]
  · intro hreturned
    have hcomplete := hcontrol.completed hreturned
    refine ⟨hcontrol.ordered hcomplete, fun t => ?_, hcontrol.drained hcomplete⟩
    have hallowed := hcontrol.allowed t
    cases hp : s.pc t with
    | invoking rest =>
      rw [hp, hcomplete] at hallowed
      exact absurd hallowed.2.2 (by decide)
    | acknowledging rest =>
      rw [hp, hcomplete] at hallowed
      exact absurd hallowed.2.2 (by decide)
    | _ => rfl
  · intro es' s' hrun hflag
    have hkept := hrun.invariant (fun u => u.shutdown = true ∧ u.granted = s.granted) ⟨hflag, rfl⟩
      fun u e hu _ _ => ⟨(flag_step hu.1 e).1, (flag_step hu.1 e).2.trans hu.2⟩
    exact hkept.2

/-- Two shutdowns meet a withdrawn callback, a kept one and a guard. -/
def sampleRun : List Event :=
  [.tryAcquireOperation,.registerShutdownCallback false,.registerShutdownCallback false,
    .unregisterShutdownCallback 1,.beginShutdown 0,.beginShutdown 1,.tryAcquireOperation,
    .registerShutdownCallback false,.collectChildren 0 [1],.invoke 0 1 [],.acknowledge 0 [],
    .startDraining 0,.releaseOperation 0,.completeShutdown 0,.awaitComplete 1,.finish 1,.finish 0]

/-- The protocol where both shutdowns have returned. -/
theorem shutdown_protocol_sampleRun :
    ∃ s, machine.exec Context.initial sampleRun = some s ∧ s.returned = 2 ∧ Protocol s := by
  have hend : (machine.exec Context.initial sampleRun).map (·.returned) = some 2 := by decide
  obtain ⟨s, hexec, hreturned⟩ := Option.map_eq_some_iff.mp hend
  exact ⟨s, hexec, hreturned, (shutdown_protocol (Machine.run_of_exec hexec)).1⟩

end Dmw.ContextShutdown
