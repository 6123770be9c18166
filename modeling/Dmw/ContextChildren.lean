import Dmw.LeaseFrames
import Mathlib.Data.Finset.Basic

/-!
# The children of a Context

`NativeContext` with its own backing and those it adopted, shared by any number
of threads. Every section of a mutex is one event; a call of a backing goes
through the events of its lease protocol. A weak pointer is expired once
neither a wrapper, a lease nor a running call has the child.
-/

namespace Dmw.ContextChildren

open GuardedRuns EntityLeases

/-- Adopted backings are numbered. -/
abbrev ChildId := ℕ

/-- Whose backing. -/
inductive Entity
  | context
  | child (child : ChildId)
  deriving DecidableEq, Repr

/-- Next step of a thread. -/
inductive Task
  | idle
  /-- Inside a call of a backing. -/
  | calling (entity : Entity)
  /-- The create call runs under an operation lease of the parent. -/
  | creating (parent : Entity) (lease : LeaseId)
  /-- The child was adopted without admission and has to be closed. -/
  | adopting (parent : Entity) (lease : LeaseId) (child : ChildId)
  /-- Inside that `close`. -/
  | selfClosing (parent : Entity) (lease : LeaseId) (child : ChildId)
  /-- The operation lease is given back, with the child or an exception. -/
  | leaving (parent : Entity) (lease : LeaseId) (child : Option ChildId)
  /-- Inside its `reset`. -/
  | left (parent : Entity) (child : Option ChildId)
  /-- `close_children` has these still to close. -/
  | closeChildren (todo : List ChildId)
  /-- Inside the `close` of one. -/
  | closingChild (child : ChildId) (rest : List ChildId)
  /-- `finish_shutdown` got its mutex. -/
  | checking
  /-- It waits for the operations of the Context. -/
  | waitingOperations
  /-- It is about to copy the children. -/
  | copying
  /-- It has these still to drain; with none it shuts the DMW Context down. -/
  | draining (todo : List ChildId)
  /-- Inside the `close` of one. -/
  | drainingChild (child : ChildId) (rest : List ChildId)
  /-- Inside its `wait_closed`. -/
  | waitingChild (child : ChildId) (rest : List ChildId)
  /-- The DMW Context is shut down. -/
  | shutDown
  /-- Inside the `close` of the Context. -/
  | closingContext
  /-- Before the `reset` of the control lease. -/
  | resetting
  /-- Inside that `reset`. -/
  | resettingControl
  /-- Inside the `wait_closed` of the Context. -/
  | waitingContext
  deriving DecidableEq, Repr

/-- The lease object of `control_`. -/
def control : LeaseId := 0

/-- `NativeContext` with the threads that use it. -/
structure System where
  /-- `ContextAdmission::open`. -/
  admission : Bool
  /-- `backing_` and the backings of the children. -/
  backing : Entity → Backing
  /-- `adopt` put the child on the list. -/
  adopted : ChildId → Bool
  /-- It did so without admission; history only. -/
  late : ChildId → Bool
  /-- `children_`. -/
  children : List ChildId
  /-- The result of `adopt`, then the wrapper, has a shared pointer. -/
  owned : ChildId → Bool
  /-- The wrapper is constructed. -/
  returned : ChildId → Bool
  /-- Threads with a shared pointer of their own, in a call or in a copy of the list. -/
  keepers : ChildId → Finset ThreadId
  /-- Lease objects that are local to a create call, and `control_`. -/
  reserved : Entity → LeaseId → Bool
  /-- Who has `shutdown_mutex_`. -/
  finisher : Option ThreadId
  /-- `children` of `finish_shutdown`. -/
  snapshot : Option (List ChildId)
  /-- Steps of the threads. -/
  task : ThreadId → Task

namespace System

/-- A Context as it is constructed. -/
def initial : System where
  admission := true
  backing := fun e =>
    match e with
    | .context => (Backing.fresh.retain .work).give (.object control) (some .work)
    | .child _ => .fresh
  adopted := fun _ => false
  late := fun _ => false
  children := []
  owned := fun _ => false
  returned := fun _ => false
  keepers := fun _ => ∅
  reserved := fun e lease => decide (e = .context ∧ lease = control)
  finisher := none
  snapshot := none
  task := fun _ => .idle

/-- `weak_ptr::expired`. -/
def expired (s : System) (c : ChildId) : Bool :=
  !s.owned c && decide (s.keepers c = ∅) && (s.backing (.child c)).unreferenced

/-- A thread goes on. -/
def goto (t : ThreadId) (task : Task) (s : System) : System :=
  {s with task := Function.update s.task t task}

/-- An event of the lease protocol of one entity. -/
def on (e : Entity) (ev : EntityLeases.Event) (s : System) : System :=
  {s with
    backing := Function.update s.backing e (EntityLeases.next ⟨s.admission,s.backing e⟩ ev).backing}

/-- A thread inside a call takes the next step there, or goes on after it. -/
def inside (t : ThreadId) (e : Entity) (done : System → System) (s : System) : System :=
  if (s.backing e).pc t = .idle then done s else s.on e (.step t)

/-- The children that can still be locked. -/
def alive (s : System) : List ChildId := s.children.filter fun c => !s.expired c

/-- A thread locks every child of a list. -/
def keep (t : ThreadId) (children : List ChildId) (s : System) : System :=
  {s with keepers := fun c => if c ∈ children then insert t (s.keepers c) else s.keepers c}

/-- A thread lets go of every child. -/
def unkeep (t : ThreadId) (s : System) : System :=
  {s with keepers := fun c => (s.keepers c).erase t}

/-- A lease object is reserved or free. -/
def reserve (e : Entity) (lease : LeaseId) (value : Bool) (s : System) : System :=
  {s with reserved := Function.update s.reserved e (Function.update (s.reserved e) lease value)}

/-- The constructor of a wrapper is done. -/
def construct (child : Option ChildId) (s : System) : System :=
  match child with
  | none => s
  | some c => {s with returned := Function.update s.returned c true}

/-- `finish_shutdown` returns or throws. -/
def finish (t : ThreadId) (s : System) : System :=
  ({s with
    finisher := none
    snapshot := none}.unkeep t).goto t .idle

/-- A new child is on the list. -/
def enlist (c : ChildId) (s : System) : System :=
  {s with
    backing := Function.update s.backing (.child c) .fresh
    adopted := Function.update s.adopted c true
    late := Function.update s.late c (!s.admission)
    children := s.alive ++ [c]
    owned := Function.update s.owned c true
    returned := Function.update s.returned c false}

/-- The section of `adopt`. -/
def adopt (t : ThreadId) (parent : Entity) (lease : LeaseId) (c : ChildId) (s : System) : System :=
  (s.enlist c).goto t
    (if s.admission then .leaving parent lease (some c) else .adopting parent lease c)

/-- `operation()` of the parent, then the create call. -/
def create (t : ThreadId) (parent : Entity) (lease : LeaseId) (s : System) : System :=
  match (s.backing parent).acquire s.admission .operation lease with
  | .error _ => s
  | .ok _ =>
    ((s.on parent (.acquire t .operation lease)).reserve parent lease true).goto t
      (.creating parent lease)

/-- The next step of a thread. -/
def step (t : ThreadId) (s : System) : System :=
  match s.task t with
  | .idle | .creating _ _ | .draining [] => s
  | .calling e => s.inside t e fun s => (s.unkeep t).goto t .idle
  | .adopting parent lease c => (s.goto t (.selfClosing parent lease c)).on (.child c) (.close t)
  | .selfClosing parent lease c =>
    s.inside t (.child c) (goto t (.leaving parent lease (some c)))
  | .leaving parent lease c =>
    ((s.reserve parent lease false).goto t (.left parent c)).on parent (.reset t lease)
  | .left parent c => s.inside t parent fun s => (s.construct c).goto t .idle
  | .closeChildren [] => (s.unkeep t).goto t .idle
  | .closeChildren (c :: rest) => (s.goto t (.closingChild c rest)).on (.child c) (.close t)
  | .closingChild c rest => s.inside t (.child c) (goto t (.closeChildren rest))
  | .checking =>
    if (s.backing .context).state = .closed then s.finish t
    -- `is_accepting` throws.
    else if s.admission then s.finish t
    else s.goto t .waitingOperations
  | .waitingOperations =>
    if (s.backing .context).refs .operation = 0 then s.goto t .copying else s
  | .copying =>
    ({s with snapshot := some s.alive}.keep t s.alive).goto t (.draining s.alive)
  | .draining (c :: rest) => (s.goto t (.drainingChild c rest)).on (.child c) (.close t)
  | .drainingChild c rest => s.inside t (.child c) (goto t (.waitingChild c rest))
  | .waitingChild c rest =>
    if (s.backing (.child c)).state = .closed then s.goto t (.draining rest) else s
  | .shutDown => (s.goto t .closingContext).on .context (.close t)
  | .closingContext => s.inside t .context (goto t .resetting)
  | .resetting => (s.goto t .resettingControl).on .context (.reset t control)
  | .resettingControl => s.inside t .context (goto t .waitingContext)
  | .waitingContext => if (s.backing .context).state = .closed then s.finish t else s

end System

/-- `operation()` of the Context, and what its leases can do. -/
def contextual : EntityLeases.Event → Bool
  | .acquire _ .operation _ | .moveConstruct _ _ | .moveAssign _ _ | .reset _ _ => true
  | _ => false

/-- The backing of the Context is private; a child is there once it is constructed. -/
def System.accessible (s : System) (e : Entity) (ev : EntityLeases.Event) : Bool :=
  match e with
  | .context => contextual ev
  | .child c => s.returned c && !s.expired c

/-- Children are created under the Context or a Node, which is one of its children. -/
def System.creates (s : System) : Entity → Bool
  | .context => true
  | .child n => s.adopted n && s.returned n && !s.expired n

/-- The beginning of a call of a thread, or its next step. -/
inductive Event
  /-- A call of a backing. -/
  | call (t : ThreadId) (entity : Entity) (event : EntityLeases.Event)
  | stopAdmission
  /-- The create call begins. -/
  | create (t : ThreadId) (parent : Entity) (lease : LeaseId)
  /-- It fails. -/
  | fail (t : ThreadId)
  /-- It succeeds, and its result is adopted. -/
  | adopt (t : ThreadId) (child : ChildId)
  | closeChildren (t : ThreadId)
  | finishShutdown (t : ThreadId)
  /-- The DMW Context is shut down. -/
  | shutdown (t : ThreadId) (succeeds : Bool)
  /-- A wrapper is destroyed. -/
  | drop (child : ChildId)
  | step (t : ThreadId)

/-- The create call of a thread runs. -/
def Task.isCreating : Task → Bool
  | .creating _ _ => true
  | _ => false

/-- When an event can happen. -/
def Enabled (s : System) : Event → Prop
  | .call t e ev =>
    s.task t = .idle ∧ ev.caller = some t ∧ EntityLeases.Enabled ⟨s.admission,s.backing e⟩ ev ∧
      (∀ lease ∈ ev.leases, s.reserved e lease = false) ∧ s.accessible e ev = true
  | .stopAdmission => True
  | .create t parent lease =>
    s.task t = .idle ∧ s.creates parent = true ∧ (s.backing parent).Vacant lease ∧
      s.reserved parent lease = false
  | .fail t => (s.task t).isCreating = true
  | .adopt t c => (s.task t).isCreating = true ∧ s.adopted c = false
  | .closeChildren t => s.task t = .idle
  | .finishShutdown t => s.task t = .idle ∧ s.finisher = none
  | .shutdown t _ => s.task t = .draining []
  | .drop c => s.returned c = true ∧ s.owned c = true
  | .step t => s.task t ≠ .idle ∧ (s.task t).isCreating = false ∧ s.task t ≠ .draining []

instance (s : System) (e : Event) : Decidable (Enabled s e) := by
  cases e <;> unfold Enabled <;> infer_instance

/-- Effect of an event. -/
def next (s : System) : Event → System
  | .call t e ev =>
    let kept := match e with
      | .context => s
      | .child c => s.keep t [c]
    (kept.goto t (.calling e)).on e ev
  | .stopAdmission => {s with admission := false}
  | .create t parent lease => s.create t parent lease
  | .fail t =>
    match s.task t with
    | .creating parent lease => s.goto t (.leaving parent lease none)
    | _ => s
  | .adopt t c =>
    match s.task t with
    | .creating parent lease => s.adopt t parent lease c
    | _ => s
  | .closeChildren t => (s.keep t s.alive).goto t (.closeChildren s.alive)
  | .finishShutdown t => {s with finisher := some t}.goto t .checking
  | .shutdown t succeeds => if succeeds then s.goto t .shutDown else s.finish t
  | .drop c => {s with owned := Function.update s.owned c false}
  | .step t => s.step t

/-- A Context, its children and their threads. -/
def machine : Machine System Event where
  enabled := Enabled
  next := next
  decidableEnabled := inferInstance

/-- The entity in whose backing a thread may be. -/
def Task.seat : Task → Option Entity
  | .calling e => some e
  | .selfClosing _ _ c | .closingChild c _ | .drainingChild c _ => some (.child c)
  | .left parent _ => some parent
  | .closingContext | .resettingControl => some .context
  | _ => none

/-- The operation lease of a create call. -/
def Task.claim : Task → Option (Entity × LeaseId)
  | .creating parent lease | .adopting parent lease _ | .selfClosing parent lease _
  | .leaving parent lease _ => some (parent,lease)
  | _ => none

/-- The child that a thread adopted and has yet to return. -/
def Task.child : Task → Option ChildId
  | .adopting _ _ c | .selfClosing _ _ c => some c
  | .leaving _ _ c | .left _ c => c
  | _ => none

/-- The thread has the mutex of `finish_shutdown`. -/
def Task.finishes : Task → Bool
  | .checking | .waitingOperations | .copying | .draining _ | .drainingChild _ _
  | .waitingChild _ _ | .shutDown | .closingContext | .resetting | .resettingControl
  | .waitingContext => true
  | _ => false

/-- It has seen that admission is closed. -/
def Task.refused : Task → Bool
  | .checking => false
  | task => task.finishes

/-- It has seen that the Context has no operation. -/
def Task.quiet : Task → Bool
  | .checking | .waitingOperations => false
  | task => task.finishes

/-- The operations are waited for without admission. -/
theorem Task.refused_of_quiet {task : Task} (h : task.quiet = true) : task.refused = true := by
  cases task <;> first | exact h | cases h

/-- And with the mutex. -/
theorem Task.finishes_of_refused {task : Task} (h : task.refused = true) :
    task.finishes = true := by
  cases task <;> first | rfl | cases h

/-- The children it has yet to drain. -/
def Task.todo : Task → Option (List ChildId)
  | .draining todo => some todo
  | .drainingChild c rest | .waitingChild c rest => some (c :: rest)
  | _ => none

/-- Who drains has the mutex. -/
theorem Task.finishes_of_todo {task : Task} {todo : List ChildId} (h : task.todo = some todo) :
    task.finishes = true := by
  cases task <;> first | rfl | cases h

/-- Children are created under such an entity. -/
def System.Creator (s : System) (e : Entity) : Prop :=
  e = .context ∨ ∃ n, e = .child n ∧ s.adopted n = true

/-- `finish_shutdown` copied these children, and those it is past are closed. -/
def System.Copied (s : System) (todo : List ChildId) : Prop :=
  ∃ copy, s.snapshot = some copy ∧ (∀ c ∈ copy, s.adopted c = true) ∧ todo ⊆ copy ∧
    ∀ c ∈ copy, c ∈ todo ∨ (s.backing (.child c)).state = .closed

/-- What holds of every reachable Context. -/
structure Base (s : System) : Prop where
  /-- The lease protocol of every entity. -/
  sound : ∀ e, Sound (s.backing e)
  /-- A thread is in no other backing. -/
  seats : ∀ t e, (s.task t).seat ≠ some e → (s.backing e).pc t = .idle
  /-- A create call has its operation lease. -/
  claims : ∀ t e lease, (s.task t).claim = some (e,lease) → s.reserved e lease = true ∧
    (s.backing e).object lease = (some .operation,false) ∧ s.Creator e
  /-- And it is its own. -/
  apart : ∀ t t' claim, (s.task t).claim = some claim → (s.task t').claim = some claim → t = t'
  /-- Nobody else has a child before it is constructed. -/
  born : ∀ t c, (s.task t).child = some c →
    s.adopted c = true ∧ s.owned c = true ∧ s.returned c = false
  /-- One thread adopts a child. -/
  alone : ∀ t t' c, (s.task t).child = some c → (s.task t').child = some c → t = t'
  /-- A child is on the list as long as somebody has it. -/
  listed : ∀ c, s.adopted c = true → c ∈ s.children ∨ s.expired c = true
  /-- Only children are on the list. -/
  known : ∀ c ∈ s.children, s.adopted c = true
  /-- Only children are constructed, and have a history. -/
  unborn : ∀ c, s.adopted c = false → s.returned c = false ∧ s.late c = false
  /-- `finish_shutdown` runs after `stop_admission`. -/
  refused : ∀ t, (s.task t).refused = true → s.admission = false
  /-- And after the operations of the Context. -/
  quiet : ∀ t, (s.task t).quiet = true → (s.backing .context).refs .operation = 0
  /-- It runs once at a time. -/
  finisher : ∀ t, (s.task t).finishes = true → s.finisher = some t
  /-- It drains its copy. -/
  copied : ∀ t todo, (s.task t).todo = some todo → s.Copied todo

section

variable {s : System} {t t' : ThreadId} {e e' : Entity} {ev : EntityLeases.Event} {task : Task}

@[simp]
theorem on_self : (s.on e ev).backing e =
    (EntityLeases.next ⟨s.admission,s.backing e⟩ ev).backing := Function.update_self _ _ _

theorem on_other (he : e' ≠ e) : (s.on e ev).backing e' = s.backing e' :=
  Function.update_of_ne he _ _

@[simp]
theorem goto_self : (s.goto t task).task t = task := Function.update_self _ _ _

theorem goto_other (ht : t' ≠ t) : (s.goto t task).task t' = s.task t' :=
  Function.update_of_ne ht _ _

/-- What one entity has and an event of the lease protocol keeps, every entity
has after an event of one. -/
theorem on_keeps {P : Entity → Backing → Prop} (h : P e' (s.backing e'))
    (hkeep : e' = e → P e (EntityLeases.next ⟨s.admission,s.backing e⟩ ev).backing) :
    P e' ((s.on e ev).backing e') := by
  by_cases he : e' = e
  · subst he
    rw [on_self]
    exact hkeep rfl
  · rw [on_other he]
    exact h

/-- Without a lease granted, no counter leaves zero. -/
theorem unreferenced_next {b : Backing} {admission : Bool} (hgrants : ev.grants = false)
    (h : b.unreferenced = true) :
    (EntityLeases.next ⟨admission,b⟩ ev).backing.unreferenced = true := by
  simp only [Backing.unreferenced,Bool.and_eq_true,decide_eq_true_eq] at h ⊢
  obtain ⟨⟨hoperation, hdispatch⟩, hwork⟩ := h
  have hle : ∀ kind, (EntityLeases.next ⟨admission,b⟩ ev).backing.refs kind ≤ b.refs kind :=
    fun kind => next_refs hgrants kind
  exact ⟨⟨Nat.le_zero.mp (hoperation ▸ hle .operation), Nat.le_zero.mp (hdispatch ▸ hle .dispatch)⟩,
    Nat.le_zero.mp (hwork ▸ hle .work)⟩

/-- How a child is expired. -/
theorem expired_iff {c : ChildId} : s.expired c = true ↔
    s.owned c = false ∧ s.keepers c = ∅ ∧ (s.backing (.child c)).unreferenced = true := by
  simp [System.expired,and_assoc]

/-- A child stays expired. -/
theorem on_expired {c : ChildId} (h : s.expired c = true)
    (hgrants : ev.grants = true → e ≠ .child c) : (s.on e ev).expired c = true := by
  obtain ⟨howned, hkeepers, hrefs⟩ := expired_iff.mp h
  refine expired_iff.mpr ⟨howned, hkeepers, ?_⟩
  refine on_keeps (P := fun _ b => b.unreferenced = true) hrefs fun he => ?_
  cases hev : ev.grants with
  | true => exact absurd he.symm (hgrants hev)
  | false => exact unreferenced_next hev (he ▸ hrefs)

/-- A thread may take this step of the lease protocol. -/
structure Fits (s : System) (t : ThreadId) (e : Entity) (ev : EntityLeases.Event) : Prop where
  /-- The protocol is kept. -/
  sound : Sound (EntityLeases.next ⟨s.admission,s.backing e⟩ ev).backing
  /-- It is a step of the thread. -/
  thread : ev.thread = some t
  /-- The thread is where its task says. -/
  seat : (s.task t).seat = some e ∨
    (EntityLeases.next ⟨s.admission,s.backing e⟩ ev).backing.pc t = .idle
  /-- The lease of no create call is concerned. -/
  unclaimed : ∀ lease ∈ ev.leases, ∀ t', (s.task t').claim ≠ some (e,lease)
  /-- Nobody revives a child. -/
  alive : ev.grants = true → ∀ c, s.expired c = true → e ≠ .child c

/-- A step of the lease protocol. -/
theorem Base.on (h : Base s) (hfits : Fits s t e ev) : Base (s.on e ev) where
  sound := fun e' => on_keeps (P := fun _ b => Sound b) (h.sound e') fun _ => hfits.sound
  seats := by
    intro t' e' hseat
    refine on_keeps (P := fun _ b => b.pc t' = .idle) (h.seats t' e' hseat) fun he => ?_
    subst he
    by_cases ht : t' = t
    · subst ht
      exact hfits.seat.resolve_left hseat
    · have hthread : ev.thread ≠ some t' := by
        rw [hfits.thread]
        exact fun heq => ht (Option.some.inj heq).symm
      exact (next_pc hthread).trans (h.seats t' e' hseat)
  claims := by
    intro t' e' lease hclaim
    obtain ⟨hreserved, hobject, hcreator⟩ := h.claims t' e' lease hclaim
    refine ⟨hreserved, ?_, hcreator⟩
    refine on_keeps (P := fun _ b => b.object lease = (some .operation,false)) hobject fun he => ?_
    subst he
    have hmoving : (s.backing e').moving lease = false := congrArg Prod.snd hobject
    have hnot : lease ∉ ev.leases := fun hmem => hfits.unclaimed lease hmem t' hclaim
    exact (next_object (s := ⟨s.admission,s.backing e'⟩) (h.sound e').leases hmoving hnot).trans
      hobject
  apart := h.apart
  born := h.born
  alone := h.alone
  listed := by
    intro c hadopted
    refine (h.listed c hadopted).imp_right fun hexpired => ?_
    exact on_expired hexpired fun hgrants => hfits.alive hgrants c hexpired
  known := h.known
  unborn := h.unborn
  refused := h.refused
  quiet := by
    intro t' hquiet
    have hnone := h.quiet t' hquiet
    refine on_keeps (P := fun _ b => b.refs .operation = 0) hnone fun he => ?_
    have hadmission : s.admission = false := h.refused t' (Task.refused_of_quiet hquiet)
    have hle := next_operations (s := ⟨s.admission,s.backing e⟩) ev hadmission
    rw [← he] at hle ⊢
    exact Nat.le_zero.mp (hnone ▸ hle)
  finisher := h.finisher
  copied := by
    intro t' todo htodo
    obtain ⟨copy, hcopy, hadopted, hsub, hpast⟩ := h.copied t' todo htodo
    refine ⟨copy, hcopy, hadopted, hsub, fun c hc => (hpast c hc).imp_right fun hclosed => ?_⟩
    refine on_keeps (P := fun _ b => b.state = .closed) hclosed fun he => ?_
    exact next_closed (s := ⟨s.admission,s.backing e⟩) ev (he ▸ hclosed)

/-- A thread goes on, perhaps with a lease or a child of its own. -/
theorem Base.turn (h : Base s)
    (hseat : ∀ e, task.seat ≠ some e → (s.backing e).pc t = .idle)
    (hclaim : ∀ e lease, task.claim = some (e,lease) →
      (s.reserved e lease = true ∧ (s.backing e).object lease = (some .operation,false) ∧
        s.Creator e) ∧ ∀ t', (s.task t').claim = some (e,lease) → t' = t)
    (hchild : ∀ c, task.child = some c →
      (s.adopted c = true ∧ s.owned c = true ∧ s.returned c = false) ∧
        ∀ t', (s.task t').child = some c → t' = t)
    (hrefused : task.refused = true → s.admission = false)
    (hquiet : task.quiet = true → (s.backing .context).refs .operation = 0)
    (hfinishes : task.finishes = true → s.finisher = some t)
    (htodo : ∀ todo, task.todo = some todo → s.Copied todo) : Base (s.goto t task) := by
  have hread : ∀ {P : ThreadId → Task → Prop}, P t task → (∀ t', P t' (s.task t')) →
      ∀ t', P t' ((s.goto t task).task t') := by
    intro P hnew hold t'
    by_cases ht : t' = t
    · subst ht
      rw [goto_self]
      exact hnew
    · rw [goto_other ht]
      exact hold t'
  exact {
    sound := h.sound
    seats := hread (P := fun t' task => ∀ e, task.seat ≠ some e → (s.backing e).pc t' = .idle)
      hseat h.seats
    claims := hread (P := fun _ task => ∀ e lease, task.claim = some (e,lease) →
      s.reserved e lease = true ∧ (s.backing e).object lease = (some .operation,false) ∧
        s.Creator e) (fun e lease hsome => (hclaim e lease hsome).1) h.claims
    apart := by
      rintro t₁ t₂ ⟨e,lease⟩ h₁ h₂
      by_cases ht₁ : t₁ = t
      · subst ht₁
        by_cases ht₂ : t₂ = t₁
        · exact ht₂.symm
        · rw [goto_self] at h₁
          rw [goto_other ht₂] at h₂
          exact ((hclaim e lease h₁).2 t₂ h₂).symm
      · rw [goto_other ht₁] at h₁
        by_cases ht₂ : t₂ = t
        · subst ht₂
          rw [goto_self] at h₂
          exact (hclaim e lease h₂).2 t₁ h₁
        · rw [goto_other ht₂] at h₂
          exact h.apart t₁ t₂ (e,lease) h₁ h₂
    born := hread (P := fun _ task => ∀ c, task.child = some c →
      s.adopted c = true ∧ s.owned c = true ∧ s.returned c = false)
      (fun c hsome => (hchild c hsome).1) h.born
    alone := by
      intro t₁ t₂ c h₁ h₂
      by_cases ht₁ : t₁ = t
      · subst ht₁
        by_cases ht₂ : t₂ = t₁
        · exact ht₂.symm
        · rw [goto_self] at h₁
          rw [goto_other ht₂] at h₂
          exact ((hchild c h₁).2 t₂ h₂).symm
      · rw [goto_other ht₁] at h₁
        by_cases ht₂ : t₂ = t
        · subst ht₂
          rw [goto_self] at h₂
          exact (hchild c h₂).2 t₁ h₁
        · rw [goto_other ht₂] at h₂
          exact h.alone t₁ t₂ c h₁ h₂
    listed := h.listed
    known := h.known
    unborn := h.unborn
    refused := hread (P := fun _ task => task.refused = true → s.admission = false)
      hrefused h.refused
    quiet := hread (P := fun _ task => task.quiet = true → (s.backing .context).refs .operation = 0)
      hquiet h.quiet
    finisher := hread (P := fun t' task => task.finishes = true → s.finisher = some t')
      hfinishes h.finisher
    copied := hread (P := fun _ task => ∀ todo, task.todo = some todo → s.Copied todo)
      htodo h.copied }

/-- A thread goes on with no other lease or child. -/
theorem Base.goto (h : Base s)
    (hseat : ∀ e, task.seat ≠ some e → (s.backing e).pc t = .idle)
    (hclaim : task.claim = none ∨ task.claim = (s.task t).claim)
    (hchild : task.child = none ∨ task.child = (s.task t).child)
    (hrefused : task.refused = true → s.admission = false)
    (hquiet : task.quiet = true → (s.backing .context).refs .operation = 0)
    (hfinishes : task.finishes = true → s.finisher = some t)
    (htodo : ∀ todo, task.todo = some todo → s.Copied todo) : Base (s.goto t task) := by
  have hclaims : ∀ claim, task.claim = some claim → (s.task t).claim = some claim := by
    intro claim hsome
    rcases hclaim with hnone | hsame
    · exact absurd (hsome.symm.trans hnone) (Option.some_ne_none _)
    · exact hsame ▸ hsome
  have hchildren : ∀ c, task.child = some c → (s.task t).child = some c := by
    intro c hsome
    rcases hchild with hnone | hsame
    · exact absurd (hsome.symm.trans hnone) (Option.some_ne_none _)
    · exact hsame ▸ hsome
  refine h.turn hseat ?_ ?_ hrefused hquiet hfinishes htodo
  · intro e lease hsome
    have hold := hclaims _ hsome
    exact ⟨h.claims t e lease hold, fun t' hclaim' => h.apart t' t _ hclaim' hold⟩
  · intro c hsome
    have hold := hchildren c hsome
    exact ⟨h.born t c hold, fun t' hchild' => h.alone t' t c hchild' hold⟩

/-- It goes on to something that is not part of `finish_shutdown`. -/
theorem Base.goes (h : Base s) (hseat : ∀ e, task.seat ≠ some e → (s.backing e).pc t = .idle)
    (hclaim : task.claim = none ∨ task.claim = (s.task t).claim)
    (hchild : task.child = none ∨ task.child = (s.task t).child)
    (hfinishes : task.finishes = false) : Base (s.goto t task) := by
  have hnever : ¬ task.finishes = true := by
    rw [hfinishes]
    exact Bool.noConfusion
  refine h.goto hseat hclaim hchild (fun hrefused => absurd ?_ hnever) (fun hquiet => absurd ?_ hnever)
    (fun htrue => absurd htrue hnever) fun todo htodo => absurd ?_ hnever
  · exact Task.finishes_of_refused hrefused
  · exact Task.finishes_of_refused (Task.refused_of_quiet hquiet)
  · exact Task.finishes_of_todo htodo

/-- A thread whose call is over is in no backing. -/
theorem Base.settled (h : Base s) (hseat : (s.task t).seat = some e)
    (hidle : (s.backing e).pc t = .idle) (e' : Entity) : (s.backing e').pc t = .idle := by
  by_cases he : e' = e
  · rw [he]
    exact hidle
  · refine h.seats t e' ?_
    rw [hseat]
    exact fun heq => he (Option.some.inj heq).symm

/-- A thread inside a call. -/
theorem Base.inside (h : Base s) (hseat : (s.task t).seat = some e) {done : System → System}
    (hdone : (∀ e', (s.backing e').pc t = .idle) → Base (done s)) : Base (s.inside t e done) := by
  unfold System.inside
  split
  · next hidle => exact hdone (h.settled hseat hidle)
  · refine h.on (t := t) ⟨(h.sound e).step t, rfl, .inl hseat, ?_, ?_⟩
    · intro lease hmem
      exact absurd hmem List.not_mem_nil
    · intro hgrants
      cases hgrants

/-- Locking more children revives none. -/
theorem keep_expired {children : List ChildId} {c : ChildId}
    (h : (s.keep t children).expired c = true) : s.expired c = true := by
  obtain ⟨howned, hkeepers, hrefs⟩ := expired_iff.mp h
  refine expired_iff.mpr ⟨howned, ?_, hrefs⟩
  simp only [System.keep] at hkeepers
  split at hkeepers
  · exact absurd hkeepers (Finset.insert_ne_empty _ _)
  · exact hkeepers

/-- A child that is not locked stays expired. -/
theorem expired_keep {children : List ChildId} {c : ChildId} (hc : c ∉ children)
    (h : s.expired c = true) : (s.keep t children).expired c = true := by
  obtain ⟨howned, hkeepers, hrefs⟩ := expired_iff.mp h
  refine expired_iff.mpr ⟨howned, ?_, hrefs⟩
  simp only [System.keep,if_neg hc]
  exact hkeepers

/-- Letting go revives none either. -/
theorem expired_unkeep {c : ChildId} (h : s.expired c = true) :
    (s.unkeep t).expired c = true := by
  obtain ⟨howned, hkeepers, hrefs⟩ := expired_iff.mp h
  refine expired_iff.mpr ⟨howned, ?_, hrefs⟩
  simp only [System.unkeep,hkeepers]
  rfl

/-- Only the shared pointers change. -/
theorem Base.kept {keepers : ChildId → Finset ThreadId} (h : Base s)
    (hexpired : ∀ c, s.expired c = true → ({s with keepers := keepers} : System).expired c = true) :
    Base {s with keepers := keepers} :=
  {h with listed := fun c hadopted => (h.listed c hadopted).imp_right (hexpired c)}

/-- A child that can be locked. -/
theorem alive_not_expired {c : ChildId} (hc : c ∈ s.alive) : s.expired c = false := by
  have hkept := (List.mem_filter.mp hc).2
  cases hexpired : s.expired c with
  | false => rfl
  | true => simp [hexpired] at hkept

/-- Children that can be locked are locked. -/
theorem Base.keep (h : Base s) {children : List ChildId}
    (halive : ∀ c ∈ children, s.expired c = false) : Base (s.keep t children) := by
  refine h.kept fun c hexpired => expired_keep ?_ hexpired
  intro hc
  exact Bool.noConfusion (hexpired.symm.trans (halive c hc))

/-- A thread lets go. -/
theorem Base.unkeep (h : Base s) : Base (s.unkeep t) := h.kept fun _ => expired_unkeep

/-- A thread that is in no backing becomes idle. -/
theorem Base.rest (h : Base s) (hidle : ∀ e, (s.backing e).pc t = .idle) :
    Base (s.goto t .idle) := by
  exact h.goes (fun e _ => hidle e) (.inl rfl) (.inl rfl) rfl

/-- `finish_shutdown` returns. -/
theorem Base.finish (h : Base s) (hidle : ∀ e, (s.backing e).pc t = .idle)
    (hfinishes : (s.task t).finishes = true) : Base (s.finish t) := by
  have hrest := (h.unkeep (t := t)).rest (t := t) hidle
  have hnobody : ∀ t', ((s.goto t .idle).task t').finishes = false := by
    intro t'
    by_cases ht : t' = t
    · subst ht
      rw [goto_self]
      rfl
    · rw [goto_other ht]
      cases hfinishes' : (s.task t').finishes with
      | false => rfl
      | true =>
        have hsame := (h.finisher t' hfinishes').symm.trans (h.finisher t hfinishes)
        exact absurd (Option.some.inj hsame) ht
  refine {hrest with finisher := ?_, copied := ?_}
  · intro t' hfinishes'
    exact Bool.noConfusion (hfinishes'.symm.trans (hnobody t'))
  · intro t' todo htodo
    have hfinishes' : ((s.goto t .idle).task t').finishes = true := Task.finishes_of_todo htodo
    exact Bool.noConfusion (hfinishes'.symm.trans (hnobody t'))

end

section

variable {s : System} {t : ThreadId} {e : Entity} {lease : LeaseId} {c : ChildId}

/-- A thread in no call is in no backing. -/
theorem Base.away (h : Base s) (hseat : (s.task t).seat = none) (e : Entity) :
    (s.backing e).pc t = .idle := by
  refine h.seats t e ?_
  rw [hseat]
  exact (Option.some_ne_none e).symm

/-- A call of a backing begins. -/
theorem Base.call (h : Base s) {ev : EntityLeases.Event} (hidle : s.task t = .idle)
    (hcaller : ev.caller = some t)
    (henabled : EntityLeases.Enabled ⟨s.admission,s.backing e⟩ ev)
    (hreserved : ∀ lease ∈ ev.leases, s.reserved e lease = false)
    (haccessible : s.accessible e ev = true) : Base (next s (.call t e ev)) := by
  have haway : ∀ e', (s.backing e').pc t = .idle := h.away (by rw [hidle]; rfl)
  have hthread : ev.thread = some t := by
    cases ev <;> first | exact hcaller | cases hcaller
  have hcalls : ∀ {kept : System}, Base kept → kept.admission = s.admission →
      kept.backing = s.backing → kept.reserved = s.reserved →
      (∀ c, kept.expired c = true → s.expired c = true) →
      Base ((kept.goto t (.calling e)).on e ev) := by
    intro kept hkept hadmission hbacking hres hexpired
    have hgoes : Base (kept.goto t (.calling e)) := by
      refine hkept.goes ?_ (.inl rfl) (.inl rfl) rfl
      intro e' _
      rw [hbacking]
      exact haway e'
    refine hgoes.on (t := t) ⟨?_, hthread, .inl (by rw [goto_self]; rfl), ?_, ?_⟩
    · refine (hgoes.sound e).next (s := ⟨kept.admission,kept.backing e⟩) ?_
      rw [hadmission,hbacking]
      exact henabled
    · intro lease hlease t' hclaim
      have hclaimed : kept.reserved e lease = true := (hgoes.claims t' e lease hclaim).1
      rw [hres,hreserved lease hlease] at hclaimed
      cases hclaimed
    · rintro - c hc rfl
      have hrevived : s.expired c = true := hexpired c hc
      simp [System.accessible,hrevived] at haccessible
  cases e with
  | context => exact hcalls h rfl rfl rfl fun _ hc => hc
  | child c =>
    have halive : ∀ c' ∈ [c], s.expired c' = false := by
      intro c' hc'
      obtain rfl := List.mem_singleton.mp hc'
      cases hexpired : s.expired c' with
      | false => rfl
      | true => simp [System.accessible,hexpired] at haccessible
    exact hcalls (h.keep halive) rfl rfl rfl fun _ hc => keep_expired hc

/-- Who may create children is a `Creator`. -/
theorem creator_of_creates (hcreates : s.creates e = true) : s.Creator e := by
  cases e with
  | context => exact .inl rfl
  | child n =>
    simp only [System.creates,Bool.and_eq_true] at hcreates
    exact .inr ⟨n, rfl, hcreates.1.1⟩

/-- A create call begins. -/
theorem Base.create (h : Base s) (hidle : s.task t = .idle) (hcreates : s.creates e = true)
    (hvacant : (s.backing e).Vacant lease) (hreserved : s.reserved e lease = false) :
    Base (s.create t e lease) := by
  have haway : ∀ e', (s.backing e').pc t = .idle := h.away (by rw [hidle]; rfl)
  unfold System.create
  cases hacquire : (s.backing e).acquire s.admission .operation lease with
  | error fault => exact h
  | ok b =>
    have hresult : (EntityLeases.next ⟨s.admission,s.backing e⟩
        (.acquire t .operation lease)).backing = b := by
      show (s.backing e).orSame _ = b
      rw [hacquire]
      rfl
    have hgranted : b = ((s.backing e).retain .operation).give (.object lease)
        (some .operation) := by
      unfold Backing.acquire at hacquire
      split_ifs at hacquire
      exact (Except.ok.inj hacquire).symm
    have hpc : b.pc = (s.backing e).pc := by
      rw [hgranted]
      rfl
    have hunclaimed : ∀ t', (s.task t').claim ≠ some (e,lease) := by
      intro t' hclaim
      exact Bool.noConfusion (hreserved.symm.trans (h.claims t' e lease hclaim).1)
    have hleased : Base (s.on e (.acquire t .operation lease)) := by
      refine h.on (t := t) ⟨(h.sound e).acquire s.admission .operation hvacant, rfl, .inr ?_, ?_, ?_⟩
      · rw [hresult,hpc]
        exact haway e
      · intro lease' hmem t'
        obtain rfl := List.mem_singleton.mp hmem
        exact hunclaimed t'
      · rintro - c hexpired rfl
        simp [System.creates,hexpired] at hcreates
    have hobject : ((s.on e (.acquire t .operation lease)).backing e).object lease =
        (some .operation,false) := by
      rw [on_self,hresult,hgranted]
      simp only [Backing.object,Backing.give,Backing.retain,Function.update_self]
      rw [hvacant.1]
    have hbase : Base ((s.on e (.acquire t .operation lease)).reserve e lease true) := by
      refine {hleased with claims := ?_}
      intro t' e' lease' hclaim
      obtain ⟨hreserved', hrest⟩ := hleased.claims t' e' lease' hclaim
      refine ⟨?_, hrest⟩
      by_cases he : e' = e
      · subst he
        by_cases hlease : lease' = lease
        · subst hlease
          simp [System.reserve]
        · simpa [System.reserve,hlease] using hreserved'
      · simpa [System.reserve,he] using hreserved'
    refine hbase.turn ?_ ?_ ?_ ?_ ?_ ?_ ?_
    · intro e' _
      refine on_keeps (P := fun _ b => b.pc t = .idle) (haway e') fun _ => ?_
      rw [hresult,hpc]
      exact haway e
    · intro e' lease' hclaim
      obtain ⟨rfl, rfl⟩ := Prod.mk.inj (Option.some.inj hclaim)
      refine ⟨⟨?_, hobject, ?_⟩, fun t' hclaim' => absurd hclaim' (hunclaimed t')⟩
      · simp [System.reserve]
      · exact show s.Creator e from creator_of_creates hcreates
    · intro c hfalse
      cases hfalse
    · exact fun hfalse => Bool.noConfusion hfalse
    · exact fun hfalse => Bool.noConfusion hfalse
    · exact fun hfalse => Bool.noConfusion hfalse
    · intro todo hfalse
      cases hfalse

/-- Another entity. -/
theorem enlist_backing {e' : Entity} (he : e' ≠ .child c) :
    (s.enlist c).backing e' = s.backing e' := Function.update_of_ne he _ _

/-- The new child. -/
theorem enlist_self : (s.enlist c).backing (.child c) = .fresh ∧
    (s.enlist c).adopted c = true ∧ (s.enlist c).late c = !s.admission ∧
      (s.enlist c).owned c = true ∧ (s.enlist c).returned c = false := by
  simp [System.enlist]

/-- Another child. -/
theorem enlist_other {c' : ChildId} (hc : c' ≠ c) :
    (s.enlist c).adopted c' = s.adopted c' ∧ (s.enlist c).late c' = s.late c' ∧
      (s.enlist c).owned c' = s.owned c' ∧ (s.enlist c).returned c' = s.returned c' ∧
        (s.enlist c).expired c' = s.expired c' := by
  have hother : Entity.child c' ≠ .child c := fun heq => hc (Entity.child.inj heq)
  simp [System.enlist,System.expired,hc,hother]
  rfl

/-- Adoption leaves the other children on the list or expired. -/
theorem enlist_listed (h : Base s) {c' : ChildId} (hc : c' ≠ c) (hadopted : s.adopted c' = true) :
    c' ∈ (s.enlist c).children ∨ (s.enlist c).expired c' = true := by
  rw [(enlist_other hc).2.2.2.2]
  cases hexpired : s.expired c' with
  | true => exact .inr rfl
  | false =>
    have hlisted : c' ∈ s.children := by
      rcases h.listed c' hadopted with hmem | htrue
      · exact hmem
      · exact Bool.noConfusion (hexpired.symm.trans htrue)
    refine .inl (List.mem_append_left _ (List.mem_filter.mpr ⟨hlisted, ?_⟩))
    rw [hexpired]
    rfl

/-- A new child is adopted. -/
theorem Base.enlist (h : Base s) (hnew : s.adopted c = false) :
    Base (s.enlist c) := by
  have hne : ∀ {c'}, s.adopted c' = true → c' ≠ c := by
    rintro c' hadopted rfl
    exact Bool.noConfusion (hnew.symm.trans hadopted)
  have hentity : ∀ {e'}, s.Creator e' → e' ≠ .child c := by
    rintro e' (rfl | ⟨n, rfl, hadopted⟩) heq
    · cases heq
    · exact hne hadopted (Entity.child.inj heq)
  constructor
  · intro e'
    by_cases he : e' = .child c
    · rw [he,enlist_self.1]
      exact sound_initial
    · rw [enlist_backing he]
      exact h.sound e'
  · intro t' e' hseat
    by_cases he : e' = .child c
    · rw [he,enlist_self.1]
      rfl
    · rw [enlist_backing he]
      exact h.seats t' e' hseat
  · intro t' e' lease' hclaim'
    obtain ⟨hreserved, hobject, hcan⟩ := h.claims t' e' lease' hclaim'
    refine ⟨hreserved, ?_, ?_⟩
    · rw [enlist_backing (hentity hcan)]
      exact hobject
    · rcases hcan with rfl | ⟨n, rfl, hadopted⟩
      · exact .inl rfl
      · exact .inr ⟨n, rfl, (enlist_other (hne hadopted)).1.trans hadopted⟩
  · exact h.apart
  · intro t' c' hchild
    obtain ⟨hadopted, howned, hreturned⟩ := h.born t' c' hchild
    obtain ⟨hadopted', -, howned', hreturned', -⟩ := enlist_other (s := s) (hne hadopted)
    exact ⟨hadopted'.trans hadopted, howned'.trans howned, hreturned'.trans hreturned⟩
  · exact h.alone
  · intro c' hadopted
    by_cases hc : c' = c
    · exact .inl (hc ▸ List.mem_append_right _ (List.mem_singleton_self _))
    · rw [(enlist_other hc).1] at hadopted
      exact enlist_listed h hc hadopted
  · intro c' hmem
    by_cases hc : c' = c
    · rw [hc]
      exact enlist_self.2.1
    · rw [(enlist_other hc).1]
      rcases List.mem_append.mp hmem with halive | hlast
      · exact h.known c' (List.mem_filter.mp halive).1
      · exact absurd (List.mem_singleton.mp hlast) hc
  · intro c' hadopted
    by_cases hc : c' = c
    · rw [hc,enlist_self.2.1] at hadopted
      cases hadopted
    · obtain ⟨hadopted', hlate', -, hreturned', -⟩ := enlist_other (s := s) hc
      obtain ⟨hreturned, hlate⟩ := h.unborn c' (hadopted'.symm.trans hadopted)
      exact ⟨hreturned'.trans hreturned, hlate'.trans hlate⟩
  · exact h.refused
  · intro t' hquiet
    have hcontext : Entity.context ≠ .child c := Entity.noConfusion
    rw [enlist_backing hcontext]
    exact h.quiet t' hquiet
  · exact h.finisher
  · intro t' todo htodo
    obtain ⟨copy, hcopy, hadopted, hsub, hpast⟩ := h.copied t' todo htodo
    refine ⟨copy, hcopy, fun c' hc' => ?_, hsub, fun c' hc' => ?_⟩
    · rw [(enlist_other (hne (hadopted c' hc'))).1]
      exact hadopted c' hc'
    · have hother : Entity.child c' ≠ .child c :=
        fun heq => hne (hadopted c' hc') (Entity.child.inj heq)
      rw [enlist_backing hother]
      exact hpast c' hc'

/-- The section of `adopt`. -/
theorem Base.adopt (h : Base s) (htask : s.task t = .creating e lease)
    (hnew : s.adopted c = false) : Base (s.adopt t e lease c) := by
  have hclaim : (s.task t).claim = some (e,lease) := by
    rw [htask]
    rfl
  have hchildless : ∀ t', (s.task t').child ≠ some c := by
    intro t' hchild
    exact Bool.noConfusion (hnew.symm.trans (h.born t' c hchild).1)
  have hbase : Base (s.enlist c) := h.enlist hnew
  have hgoes : ∀ task : Task, task.claim = some (e,lease) → task.child = some c →
      task.finishes = false → Base ((s.enlist c).goto t task) := by
    intro task hclaim' hchild hfinishes
    have hrefused : task.refused = false := by
      cases task <;> first | rfl | exact hfinishes
    have hquiet : task.quiet = false := by
      cases task <;> first | rfl | exact hfinishes
    refine hbase.turn ?_ ?_ ?_ ?_ ?_ ?_ ?_
    · intro e' _
      exact hbase.away (by rw [show (s.enlist c).task t = _ from htask]; rfl) e'
    · intro e' lease' hsome
      obtain ⟨rfl, rfl⟩ := Prod.mk.inj (Option.some.inj (hclaim'.symm.trans hsome))
      exact ⟨hbase.claims t e lease hclaim, fun t' h' => h.apart t' t _ h' hclaim⟩
    · intro c' hsome
      obtain rfl := Option.some.inj (hchild.symm.trans hsome)
      obtain ⟨-, hadopted, -, howned, hreturned⟩ := enlist_self (s := s) (c := c)
      exact ⟨⟨hadopted, howned, hreturned⟩, fun t' h' => absurd h' (hchildless t')⟩
    · exact fun htrue => Bool.noConfusion (hrefused.symm.trans htrue)
    · exact fun htrue => Bool.noConfusion (hquiet.symm.trans htrue)
    · exact fun htrue => Bool.noConfusion (hfinishes.symm.trans htrue)
    · intro todo htodo
      exact Bool.noConfusion (hfinishes.symm.trans (Task.finishes_of_todo htodo))
  unfold System.adopt
  cases s.admission with
  | true => exact hgoes (.leaving e lease (some c)) rfl rfl rfl
  | false => exact hgoes (.adopting e lease c) rfl rfl rfl

end

section

variable {s : System} {t : ThreadId} {e : Entity} {lease : LeaseId} {c : ChildId} {task : Task}

/-- A thread begins a `close` and goes on inside of it. -/
theorem Base.closes (h : Base s) (haway : ∀ e, (s.backing e).pc t = .idle)
    (hgoes : Base (s.goto t task)) (hseat : task.seat = some e) :
    Base ((s.goto t task).on e (.close t)) := by
  refine hgoes.on (t := t) ⟨(h.sound e).close (haway e), rfl, .inl ?_, ?_, ?_⟩
  · rw [goto_self]
    exact hseat
  · intro lease hmem
    exact absurd hmem List.not_mem_nil
  · intro hgrants
    cases hgrants

/-- Without operations no create call runs under the Context. -/
theorem Base.no_operation (h : Base s) (hquiet : (s.task t).quiet = true) (t' : ThreadId)
    (lease : LeaseId) : (s.task t').claim ≠ some (.context,lease) := by
  intro hclaim
  have hheld := congrArg Prod.fst (h.claims t' .context lease hclaim).2.1
  have hpositive := (h.sound .context).leases.positive hheld
  exact absurd (h.quiet t hquiet) (Nat.ne_of_gt hpositive)

/-- `finish_shutdown` goes on after the operations of the Context. -/
theorem Base.onward (h : Base s) (hquiet : (s.task t).quiet = true)
    (haway : ∀ e, task.seat ≠ some e → (s.backing e).pc t = .idle) (hclaim : task.claim = none)
    (hchild : task.child = none)
    (htodo : ∀ todo, task.todo = some todo → s.Copied todo) : Base (s.goto t task) := by
  have hrefused := h.refused t (Task.refused_of_quiet hquiet)
  have hfinishes : (s.task t).finishes = true := Task.finishes_of_refused (Task.refused_of_quiet hquiet)
  exact h.goto haway (.inl hclaim) (.inl hchild) (fun _ => hrefused) (fun _ => h.quiet t hquiet)
    (fun _ => h.finisher t hfinishes) htodo

/-- The lease of a create call is given back. -/
theorem Base.leave (h : Base s) {child : Option ChildId}
    (htask : s.task t = .leaving e lease child) :
    Base (((s.reserve e lease false).goto t (.left e child)).on e (.reset t lease)) := by
  have haway := h.away (t := t) (by rw [htask]; rfl)
  have hclaim : (s.task t).claim = some (e,lease) := by
    rw [htask]
    rfl
  have hgoes : Base (s.goto t (.left e child)) := by
    exact h.goes (fun e' _ => haway e') (.inl rfl) (.inr (by rw [htask]; rfl)) rfl
  have hunclaimed : ∀ t', ((s.goto t (.left e child)).task t').claim ≠ some (e,lease) := by
    intro t' hclaim'
    by_cases ht : t' = t
    · rw [ht,goto_self] at hclaim'
      cases hclaim'
    · rw [goto_other ht] at hclaim'
      exact ht (h.apart t' t _ hclaim' hclaim)
  have hfreed : Base ((s.goto t (.left e child)).reserve e lease false) := by
    refine {hgoes with claims := ?_}
    intro t' e' lease' hclaim'
    obtain ⟨hreserved, hrest⟩ := hgoes.claims t' e' lease' hclaim'
    refine ⟨?_, hrest⟩
    by_cases he : e' = e
    · subst he
      by_cases hlease : lease' = lease
      · subst hlease
        exact absurd hclaim' (hunclaimed t')
      · simpa [System.reserve,hlease] using hreserved
    · simpa [System.reserve,he] using hreserved
  refine hfreed.on (t := t) ⟨(h.sound e).reset (haway e), rfl, .inl ?_, ?_, ?_⟩
  · show ((s.goto t (.left e child)).task t).seat = some e
    rw [goto_self]
    rfl
  · intro lease' hmem t'
    obtain rfl := List.mem_singleton.mp hmem
    exact hunclaimed t'
  · intro hgrants
    cases hgrants

/-- The wrapper is constructed. -/
theorem Base.construct (h : Base s) {child : Option ChildId} (haway : ∀ e, (s.backing e).pc t = .idle)
    (hchild : (s.task t).child = child) : Base ((s.construct child).goto t .idle) := by
  have hrest := h.rest haway
  cases child with
  | none => exact hrest
  | some c =>
    have hborn := h.born t c hchild
    refine {hrest with born := ?_, unborn := ?_}
    · intro t' c' hchild'
      obtain ⟨hadopted, howned, hreturned⟩ := hrest.born t' c' hchild'
      refine ⟨hadopted, howned, ?_⟩
      have hc : c' ≠ c := by
        rintro rfl
        by_cases ht : t' = t
        · rw [ht] at hchild'
          have hidle : ((s.goto t .idle).task t).child = some c' := hchild'
          rw [goto_self] at hidle
          cases hidle
        · have hother : ((s.goto t .idle).task t').child = some c' := hchild'
          rw [goto_other ht] at hother
          exact ht (h.alone t' t c' hother hchild)
      exact (Function.update_of_ne hc _ _).trans hreturned
    · intro c' hadopted
      have hc : c' ≠ c := by
        rintro rfl
        exact Bool.noConfusion (hborn.1.symm.trans hadopted)
      obtain ⟨hreturned, hlate⟩ := hrest.unborn c' hadopted
      exact ⟨(Function.update_of_ne hc _ _).trans hreturned, hlate⟩

/-- The children are copied. -/
theorem Base.copy (h : Base s) (htask : s.task t = .copying) :
    Base (({s with snapshot := some s.alive}.keep t s.alive).goto t (.draining s.alive)) := by
  have haway := h.away (t := t) (by rw [htask]; rfl)
  have hfinisher := h.finisher t (by rw [htask]; rfl)
  have hcopied : Base {s with snapshot := some s.alive} := by
    refine {h with copied := ?_}
    intro t' todo htodo
    have hsame := (h.finisher t' (Task.finishes_of_todo htodo)).symm.trans hfinisher
    obtain rfl := Option.some.inj hsame
    rw [show _ = Task.copying from htask] at htodo
    cases htodo
  have hkept : Base ({s with snapshot := some s.alive}.keep t s.alive) :=
    hcopied.keep fun c hc => alive_not_expired hc
  have hquiet : (s.task t).quiet = true := by
    rw [htask]
    rfl
  refine hkept.onward (t := t) hquiet (fun e _ => haway e) rfl rfl ?_
  intro todo htodo
  obtain rfl := Option.some.inj htodo
  exact ⟨s.alive, rfl, fun c hc => h.known c (List.mem_filter.mp hc).1, List.Subset.refl _,
    fun c hc => .inl hc⟩

/-- The next step of a thread. -/
theorem Base.step (h : Base s) (t : ThreadId) : Base (s.step t) := by
  have haway : (s.task t).seat = none → ∀ e, (s.backing e).pc t = .idle := h.away
  have hplain : ∀ {task}, task.claim = none → task.child = none → task.finishes = false →
      (∀ e, task.seat ≠ some e → (s.backing e).pc t = .idle) → Base (s.goto t task) := by
    intro task hclaim hchild hfinishes hseat
    exact h.goes hseat (.inl hclaim) (.inl hchild) hfinishes
  unfold System.step
  cases htask : s.task t with
  | idle => exact h
  | creating e lease => exact h
  | calling e =>
    exact h.inside (by rw [htask]; rfl) fun hidle => (h.unkeep (t := t)).rest hidle
  | adopting e lease c =>
    have hidle := haway (by rw [htask]; rfl)
    refine h.closes hidle ?_ rfl
    exact h.goes (fun e' _ => hidle e') (.inr (by rw [htask]; rfl)) (.inr (by rw [htask]; rfl)) rfl
  | selfClosing e lease c =>
    refine h.inside (by rw [htask]; rfl) fun hidle => ?_
    exact h.goes (fun e' _ => hidle e') (.inr (by rw [htask]; rfl)) (.inr (by rw [htask]; rfl)) rfl
  | leaving e lease child => exact h.leave htask
  | left e child =>
    refine h.inside (by rw [htask]; rfl) fun hidle => ?_
    exact h.construct hidle (by rw [htask]; rfl)
  | closeChildren todo =>
    have hidle := haway (by rw [htask]; rfl)
    cases todo with
    | nil => exact (h.unkeep (t := t)).rest hidle
    | cons c rest => exact h.closes hidle (hplain rfl rfl rfl fun e _ => hidle e) rfl
  | closingChild c rest =>
    refine h.inside (by rw [htask]; rfl) fun hidle => ?_
    exact hplain rfl rfl rfl fun e _ => hidle e
  | checking =>
    have hidle := haway (by rw [htask]; rfl)
    have hfinish := h.finish hidle (by rw [htask]; rfl)
    simp only []
    split
    · exact hfinish
    · split
      · exact hfinish
      · next hadmission =>
        refine h.goto (fun e _ => hidle e) (.inl rfl) (.inl rfl) ?_ ?_ ?_ ?_
        · exact fun _ => Bool.eq_false_iff.mpr hadmission
        · exact fun hfalse => Bool.noConfusion hfalse
        · exact fun _ => h.finisher t (by rw [htask]; rfl)
        · intro todo hfalse
          cases hfalse
  | waitingOperations =>
    have hidle := haway (by rw [htask]; rfl)
    simp only []
    split
    · next hnone =>
      refine h.goto (fun e _ => hidle e) (.inl rfl) (.inl rfl) ?_ ?_ ?_ ?_
      · exact fun _ => h.refused t (by rw [htask]; rfl)
      · exact fun _ => hnone
      · exact fun _ => h.finisher t (by rw [htask]; rfl)
      · intro todo hfalse
        cases hfalse
    · exact h
  | copying => exact h.copy htask
  | draining todo =>
    have hidle := haway (by rw [htask]; rfl)
    cases todo with
    | nil => exact h
    | cons c rest =>
      refine h.closes hidle ?_ rfl
      refine h.onward (by rw [htask]; rfl) (fun e _ => hidle e) rfl rfl ?_
      intro todo htodo
      obtain rfl := Option.some.inj htodo
      exact h.copied t _ (by rw [htask]; rfl)
  | drainingChild c rest =>
    refine h.inside (by rw [htask]; rfl) fun hidle => ?_
    refine h.onward (by rw [htask]; rfl) (fun e _ => hidle e) rfl rfl ?_
    intro todo htodo
    obtain rfl := Option.some.inj htodo
    exact h.copied t _ (by rw [htask]; rfl)
  | waitingChild c rest =>
    have hidle := haway (by rw [htask]; rfl)
    simp only []
    split
    · next hclosed =>
      refine h.onward (by rw [htask]; rfl) (fun e _ => hidle e) rfl rfl ?_
      intro todo htodo
      obtain rfl := Option.some.inj htodo
      obtain ⟨copy, hcopy, hadopted, hsub, hpast⟩ := h.copied t (c :: rest) (by rw [htask]; rfl)
      refine ⟨copy, hcopy, hadopted, fun c' hc' => hsub (List.mem_cons_of_mem _ hc'),
        fun c' hc' => ?_⟩
      rcases hpast c' hc' with htodo' | hdone
      · rcases List.mem_cons.mp htodo' with rfl | hrest
        · exact .inr hclosed
        · exact .inl hrest
      · exact .inr hdone
    · exact h
  | shutDown =>
    have hidle := haway (by rw [htask]; rfl)
    refine h.closes hidle ?_ rfl
    refine h.onward (by rw [htask]; rfl) (fun e _ => hidle e) rfl rfl ?_
    intro todo hfalse
    cases hfalse
  | closingContext =>
    refine h.inside (by rw [htask]; rfl) fun hidle => ?_
    refine h.onward (by rw [htask]; rfl) (fun e _ => hidle e) rfl rfl ?_
    intro todo hfalse
    cases hfalse
  | resetting =>
    have hidle := haway (by rw [htask]; rfl)
    have hgoes : Base (s.goto t .resettingControl) := by
      refine h.onward (by rw [htask]; rfl) (fun e _ => hidle e) rfl rfl ?_
      intro todo hfalse
      cases hfalse
    refine hgoes.on (t := t) ⟨(h.sound .context).reset (hidle .context), rfl, .inl ?_, ?_, ?_⟩
    · rw [goto_self]
      rfl
    · intro lease _ t'
      exact hgoes.no_operation (t := t) (by rw [goto_self]; rfl) t' lease
    · intro hgrants
      cases hgrants
  | resettingControl =>
    refine h.inside (by rw [htask]; rfl) fun hidle => ?_
    refine h.onward (by rw [htask]; rfl) (fun e _ => hidle e) rfl rfl ?_
    intro todo hfalse
    cases hfalse
  | waitingContext =>
    have hidle := haway (by rw [htask]; rfl)
    simp only []
    split
    · exact h.finish hidle (by rw [htask]; rfl)
    · exact h

end

/-- A new Context. -/
theorem base_initial : Base System.initial where
  sound := by
    rintro (_ | c)
    · exact sound_initial.opened rfl ⟨rfl, rfl⟩ .work
    · exact sound_initial
  seats := by
    rintro t (_ | c) -
    · rfl
    · rfl
  claims := fun _ _ _ hfalse => absurd hfalse (Option.some_ne_none _).symm
  apart := fun _ _ _ hfalse => absurd hfalse (Option.some_ne_none _).symm
  born := fun _ _ hfalse => absurd hfalse (Option.some_ne_none _).symm
  alone := fun _ _ _ hfalse => absurd hfalse (Option.some_ne_none _).symm
  listed := fun _ hfalse => Bool.noConfusion hfalse
  known := fun _ hmem => absurd hmem List.not_mem_nil
  unborn := fun _ _ => ⟨rfl, rfl⟩
  refused := fun _ hfalse => Bool.noConfusion hfalse
  quiet := fun _ hfalse => Bool.noConfusion hfalse
  finisher := fun _ hfalse => Bool.noConfusion hfalse
  copied := fun _ _ hfalse => absurd hfalse (Option.some_ne_none _).symm

section

variable {s : System} {t : ThreadId} {e : Event} {c : ChildId}

/-- A create call runs under a lease. -/
theorem creating_of (h : (s.task t).isCreating = true) :
    ∃ entity lease, s.task t = .creating entity lease := by
  cases htask : s.task t <;> rw [htask] at h <;> first | exact ⟨_, _, rfl⟩ | cases h

/-- Every event keeps the invariant. -/
theorem Base.next (h : Base s) (henabled : Enabled s e) : Base (next s e) := by
  cases e with
  | call t entity ev =>
    obtain ⟨hidle, hcaller, hev, hreserved, haccessible⟩ := henabled
    exact h.call hidle hcaller hev hreserved haccessible
  | stopAdmission => exact {h with refused := fun _ _ => rfl}
  | create t parent lease =>
    obtain ⟨hidle, hcreates, hvacant, hreserved⟩ := henabled
    exact h.create hidle hcreates hvacant hreserved
  | fail t =>
    obtain ⟨entity, lease, htask⟩ := creating_of henabled
    have haway := h.away (t := t) (by rw [htask]; rfl)
    simp only [ContextChildren.next,htask]
    exact h.goes (fun e _ => haway e) (.inr (by rw [htask]; rfl)) (.inl rfl) rfl
  | adopt t c =>
    obtain ⟨entity, lease, htask⟩ := creating_of henabled.1
    simp only [ContextChildren.next,htask]
    exact h.adopt htask henabled.2
  | closeChildren t =>
    have haway := h.away (t := t) (by rw [show s.task t = .idle from henabled]; rfl)
    have hkept : Base (s.keep t s.alive) := h.keep fun c hc => alive_not_expired hc
    exact hkept.goes (fun e _ => haway e) (.inl rfl) (.inl rfl) rfl
  | finishShutdown t =>
    obtain ⟨hidle, hfree⟩ := henabled
    have haway := h.away (t := t) (by rw [hidle]; rfl)
    have hlocked : Base {s with finisher := some t} := by
      refine {h with finisher := ?_}
      intro t' hfinishes
      exact absurd (hfree.symm.trans (h.finisher t' hfinishes)) (Option.some_ne_none _).symm
    refine hlocked.goto (fun e _ => haway e) (.inl rfl) (.inl rfl) ?_ ?_ ?_ ?_
    · exact fun hfalse => Bool.noConfusion hfalse
    · exact fun hfalse => Bool.noConfusion hfalse
    · exact fun _ => rfl
    · intro todo hfalse
      cases hfalse
  | shutdown t succeeds =>
    have htask : s.task t = .draining [] := henabled
    have haway := h.away (t := t) (by rw [htask]; rfl)
    cases succeeds with
    | false => exact h.finish haway (by rw [htask]; rfl)
    | true =>
      refine h.onward (by rw [htask]; rfl) (fun e _ => haway e) rfl rfl ?_
      intro todo hfalse
      cases hfalse
  | drop c =>
    refine {h with born := ?_, listed := ?_}
    · intro t' c' hchild
      obtain ⟨hadopted, howned, hreturned⟩ := h.born t' c' hchild
      have hc : c' ≠ c := by
        rintro rfl
        exact Bool.noConfusion (hreturned.symm.trans henabled.1)
      exact ⟨hadopted, (Function.update_of_ne hc _ _).trans howned, hreturned⟩
    · intro c' hadopted
      refine (h.listed c' hadopted).imp_right fun hexpired => ?_
      obtain ⟨howned, hkeepers, hrefs⟩ := expired_iff.mp hexpired
      refine expired_iff.mpr ⟨?_, hkeepers, hrefs⟩
      by_cases hc : c' = c
      · rw [hc]
        exact Function.update_self _ _ _
      · exact (Function.update_of_ne hc _ _).trans howned
  | step t => exact h.step t

end

/-- Every reachable Context has the invariant. -/
theorem run_base {ok : System → Event → Prop} {es : List Event} {s : System}
    (hrun : machine.RunWhen ok System.initial es s) : Base s :=
  hrun.invariant Base base_initial fun _ _ h henabled _ => h.next henabled

end Dmw.ContextChildren
