import Dmw.Counting
import Dmw.GuardedRuns
import Dmw.Identity

/-!
# The lease protocol of an entity

One `EntityBacking` shared by any number of threads and lease objects. Every
section of its mutex is one event, and so are the steps between the sections:
a lease that is taken out of its object, the destructor that runs outside of
the mutex, the second half of a move assignment. The Context's admission flag
is taken before the mutex, so an acquisition is one event too.
-/

namespace Dmw.EntityLeases

open Counting GuardedRuns

/-- Threads are numbered. -/
abbrev ThreadId := ℕ

/-- Lease objects are numbered. -/
abbrev LeaseId := ℕ

/-- `EntityState`. -/
inductive EntityState
  | opened
  | closing
  | closed
  deriving DecidableEq, Repr

/-- `LeaseKind`. -/
inductive LeaseKind
  | operation
  | dispatch
  | work
  deriving DecidableEq, Repr

/-- Where a lease is: in a lease object, or with a thread that resets one. -/
inductive Holder
  | object (lease : LeaseId)
  | call (thread : ThreadId)
  deriving DecidableEq, Repr

/-- What a call throws. -/
inductive Fault
  | contextShutdown
  | entityClosed
  | alreadyRegistered
  /-- Thrown by the function given to `prepare_operation`. -/
  | prepare
  deriving DecidableEq, Repr

/-- Source and target of a move assignment. -/
structure Move where
  /-- The lease is taken from here. -/
  source : LeaseId
  /-- And ends up here. -/
  target : LeaseId
  deriving DecidableEq, Repr

/-- Next step of a thread, with the move assignment that it is part of. -/
inductive Pc
  | idle
  /-- Before the section of `release`. -/
  | releasing (kind : LeaseKind) (move : Option Move)
  /-- Before the first section of `try_finalize`. -/
  | finalizing (move : Option Move)
  /-- The destructor runs. -/
  | destroying (move : Option Move)
  /-- Before the section that publishes `Closed`. -/
  | publishing (move : Option Move)
  deriving DecidableEq, Repr

/-- The lease a thread is about to give back. -/
def Pc.releases : Pc → Option LeaseKind
  | .releasing kind _ => some kind
  | _ => none

/-- The move assignment a thread is in. -/
def Pc.move : Pc → Option Move
  | .idle => none
  | .releasing _ move | .finalizing move | .destroying move | .publishing move => move

/-- The thread runs or has run the destructor, and has yet to say so. -/
@[grind =] def Pc.destroys : Pc → Bool
  | .destroying _ | .publishing _ => true
  | _ => false

/-- The thread is about to look whether the resource can go. -/
def Pc.finalizes : Pc → Bool
  | .finalizing _ => true
  | _ => false

/-- `EntityBacking` with the lease objects and the threads that use it. -/
structure Backing where
  /-- `state_`. -/
  state : EntityState
  /-- `refs_`. -/
  refs : LeaseKind → ℕ
  /-- `executor_registered_`. -/
  registered : Bool
  /-- `destroy_started_`. -/
  destroyStarted : Bool
  /-- Who has a lease. -/
  holds : Holder → Option LeaseKind
  /-- Lease objects that a move assignment is about. -/
  moving : LeaseId → Bool
  /-- Steps of the threads. -/
  pc : ThreadId → Pc
  /-- Destructors begun; history only. -/
  destructions : ℕ
  /-- Destructors finished; history only. -/
  destroyed : ℕ

namespace Backing

/-- A backing as it is constructed. -/
def fresh : Backing where
  state := .opened
  refs := fun _ => 0
  registered := false
  destroyStarted := false
  holds := fun _ => none
  moving := fun _ => false
  pc := fun _ => .idle
  destructions := 0
  destroyed := 0

/-- A thread goes on. -/
def goto (t : ThreadId) (pc : Pc) (b : Backing) : Backing :=
  {b with pc := Function.update b.pc t pc}

/-- A lease changes hands, or comes into being or to its end. -/
def give (holder : Holder) (lease : Option LeaseKind) (b : Backing) : Backing :=
  {b with holds := Function.update b.holds holder lease}

/-- Count one lease more. -/
def retain (kind : LeaseKind) (b : Backing) : Backing :=
  {b with refs := Function.update b.refs kind (b.refs kind + 1)}

/-- No lease is counted. -/
def unreferenced (b : Backing) : Bool :=
  b.refs .operation = 0 && b.refs .dispatch = 0 && b.refs .work = 0

/-- `acquire` into a new lease object, given the Context's admission flag. -/
def acquire (admitted : Bool) (kind : LeaseKind) (lease : LeaseId) (b : Backing) :
    Except Fault Backing :=
  if !admitted then .error .contextShutdown
  else if b.state ≠ .opened then .error .entityClosed
  else .ok ((b.retain kind).give (.object lease) (some kind))

/-- `prepare_operation`, given whether the function throws. -/
def prepareOperation (admitted throws : Bool) (lease : LeaseId) (b : Backing) :
    Except Fault Backing :=
  if !admitted then .error .contextShutdown
  else if b.state ≠ .opened then .error .entityClosed
  else if throws then .error .prepare
  else .ok ((b.retain .operation).give (.object lease) (some .operation))

/-- `derive_cleanup` into a new lease object. -/
def deriveCleanup (source lease : LeaseId) (b : Backing) : Except Fault Backing :=
  if b.holds (.object source) ≠ some .work then .error .entityClosed
  else if b.refs .work = 0 ∨ b.destroyStarted = true then .error .entityClosed
  else .ok ((b.retain .work).give (.object lease) (some .work))

/-- A lease object is taken over by another one. -/
def transfer (move : Move) (b : Backing) : Backing :=
  let lease := b.holds (.object move.source)
  (b.give (.object move.source) none).give (.object move.target) lease

/-- A call ends, or its move assignment goes on. -/
def finish (t : ThreadId) (move : Option Move) (b : Backing) : Backing :=
  match move with
  | none => b.goto t .idle
  | some move =>
    {(b.transfer move).goto t .idle with
      moving := Function.update (Function.update b.moving move.source false) move.target false}

/-- `reset` up to its section: the lease is taken out of its object. -/
def reset (t : ThreadId) (lease : LeaseId) (move : Option Move) (b : Backing) : Backing :=
  match b.holds (.object lease) with
  | none => b.finish t move
  | some kind =>
    ((b.give (.object lease) none).give (.call t) (some kind)).goto t (.releasing kind move)

/-- `operator=`: the target is reset first, unless it is the source. -/
def moveAssign (t : ThreadId) (move : Move) (b : Backing) : Backing :=
  if move.source = move.target then b
  else
    reset t move.target (some move)
      {b with
        moving := Function.update (Function.update b.moving move.source true) move.target true}

/-- `set_registered` up to `try_finalize`. -/
def setRegistered (t : ThreadId) (value : Bool) (b : Backing) : Except Fault Backing :=
  if value && decide (b.state ≠ .opened) then .error .entityClosed
  else if value && b.registered then .error .alreadyRegistered
  else .ok ({b with registered := value}.goto t (.finalizing none))

/-- `close` up to `try_finalize`; the hook only wakes waiting threads. -/
def close (t : ThreadId) (b : Backing) : Backing :=
  if b.state ≠ .opened then b
  else {b with state := .closing}.goto t (.finalizing none)

/-- The section of `release`. -/
def release (t : ThreadId) (kind : LeaseKind) (move : Option Move) (b : Backing) : Backing :=
  ({b with refs := Function.update b.refs kind (b.refs kind - 1)}.give (.call t) none).goto t
    (.finalizing move)

/-- The first section of `try_finalize`. -/
def tryFinalize (t : ThreadId) (move : Option Move) (b : Backing) : Backing :=
  if b.state ≠ .closing ∨ b.destroyStarted = true ∨ b.registered = true ∨ b.unreferenced = false then
    b.finish t move
  else
    {b with destroyStarted := true, destructions := b.destructions + 1}.goto t (.destroying move)

/-- The next step of a thread inside a call. -/
def step (t : ThreadId) (b : Backing) : Backing :=
  match b.pc t with
  | .idle => b
  | .releasing kind move => b.release t kind move
  | .finalizing move => b.tryFinalize t move
  | .destroying move => {b with destroyed := b.destroyed + 1}.goto t (.publishing move)
  | .publishing move => {b with state := .closed}.finish t move

end Backing

/-- A backing and the admission flag of its Context. -/
structure System where
  /-- `ContextAdmission::open`. -/
  admission : Bool
  /-- The entity. -/
  backing : Backing

/-- The beginning of a call of a thread, or its next step. -/
inductive Event
  | acquire (t : ThreadId) (kind : LeaseKind) (lease : LeaseId)
  | prepareOperation (t : ThreadId) (throws : Bool) (lease : LeaseId)
  | deriveCleanup (t : ThreadId) (source lease : LeaseId)
  | moveConstruct (t : ThreadId) (move : Move)
  | moveAssign (t : ThreadId) (move : Move)
  | reset (t : ThreadId) (lease : LeaseId)
  | setRegistered (t : ThreadId) (value : Bool)
  | close (t : ThreadId)
  | stopAdmission
  | step (t : ThreadId)

/-- The thread that begins a call. -/
def Event.caller : Event → Option ThreadId
  | .acquire t _ _ | .prepareOperation t _ _ | .deriveCleanup t _ _ | .moveConstruct t _
  | .moveAssign t _ | .reset t _ | .setRegistered t _ | .close t => some t
  | .stopAdmission | .step _ => none

/-- The lease objects a call is given. -/
def Event.leases : Event → List LeaseId
  | .acquire _ _ lease | .prepareOperation _ _ lease | .reset _ lease => [lease]
  | .deriveCleanup _ source lease => [source,lease]
  | .moveConstruct _ move | .moveAssign _ move => [move.source,move.target]
  | .setRegistered _ _ | .close _ | .stopAdmission | .step _ => []

/-- A lease object that no move assignment is about. -/
def Backing.Usable (b : Backing) (lease : LeaseId) : Prop := b.moving lease = false

instance (b : Backing) (lease : LeaseId) : Decidable (b.Usable lease) :=
  inferInstanceAs (Decidable (_ = _))

/-- A lease object that can be constructed. -/
def Backing.Vacant (b : Backing) (lease : LeaseId) : Prop :=
  b.Usable lease ∧ b.holds (.object lease) = none

instance (b : Backing) (lease : LeaseId) : Decidable (b.Vacant lease) :=
  inferInstanceAs (Decidable (_ ∧ _))

/-- A thread begins a call when it is in none. -/
def Enabled (s : System) : Event → Prop
  | .acquire t _ lease => s.backing.pc t = .idle ∧ s.backing.Vacant lease
  | .prepareOperation t _ lease => s.backing.pc t = .idle ∧ s.backing.Vacant lease
  | .deriveCleanup t source lease =>
    s.backing.pc t = .idle ∧ s.backing.Usable source ∧ s.backing.Vacant lease
  | .moveConstruct t move =>
    s.backing.pc t = .idle ∧ move.target ≠ move.source ∧ s.backing.Usable move.source ∧
      s.backing.Vacant move.target
  | .moveAssign t move =>
    s.backing.pc t = .idle ∧ s.backing.Usable move.source ∧ s.backing.Usable move.target
  | .reset t lease => s.backing.pc t = .idle ∧ s.backing.Usable lease
  | .setRegistered t _ => s.backing.pc t = .idle
  | .close t => s.backing.pc t = .idle
  | .stopAdmission => True
  | .step t => s.backing.pc t ≠ .idle

instance (s : System) (e : Event) : Decidable (Enabled s e) := by
  cases e <;> unfold Enabled <;> infer_instance

/-- A call that throws changes nothing. -/
def Backing.orSame (b : Backing) (result : Except Fault Backing) : Backing :=
  match result with
  | .error _ => b
  | .ok b => b

/-- Effect of an event. -/
def next (s : System) : Event → System
  | .acquire _ kind lease =>
    {s with backing := s.backing.orSame (s.backing.acquire s.admission kind lease)}
  | .prepareOperation _ throws lease =>
    {s with backing := s.backing.orSame (s.backing.prepareOperation s.admission throws lease)}
  | .deriveCleanup _ source lease =>
    {s with backing := s.backing.orSame (s.backing.deriveCleanup source lease)}
  | .moveConstruct _ move => {s with backing := s.backing.transfer move}
  | .moveAssign t move => {s with backing := s.backing.moveAssign t move}
  | .reset t lease => {s with backing := s.backing.reset t lease none}
  | .setRegistered t value => {s with backing := s.backing.orSame (s.backing.setRegistered t value)}
  | .close t => {s with backing := s.backing.close t}
  | .stopAdmission => {s with admission := false}
  | .step t => {s with backing := s.backing.step t}

/-- The lease protocol as a guarded machine. -/
def machine : Machine System Event where
  enabled := Enabled
  next := next
  decidableEnabled := inferInstance

/-- An open entity of an open Context. -/
def System.initial : System := ⟨true,.fresh⟩

/-- A move assignment is about a lease object. -/
def Move.About (move : Move) (lease : LeaseId) : Prop := lease = move.source ∨ lease = move.target

/-- The counters show who has a lease, and move assignments keep to their objects. -/
structure Leases (b : Backing) : Prop where
  /-- `refs_` counts the leases of each kind. -/
  counts : ∀ kind, Counts (fun holder => b.holds holder = some kind) (b.refs kind)
  /-- A thread has the lease it is about to give back. -/
  calls : ∀ t, b.holds (.call t) = (b.pc t).releases
  /-- The target of a move assignment is empty by then, and nobody uses its objects. -/
  moves : ∀ t move, (b.pc t).move = some move →
    move.source ≠ move.target ∧ b.moving move.source = true ∧ b.moving move.target = true ∧
      b.holds (.object move.target) = none
  /-- Two move assignments are about different objects. -/
  apart : ∀ t t' move move', t ≠ t' → (b.pc t).move = some move → (b.pc t').move = some move' →
    ∀ lease, move.About lease → ¬ move'.About lease

/-- Nobody has a lease. -/
def Empty (b : Backing) : Prop := ∀ holder, b.holds holder = none

/-- The resource goes once, when nobody needs it, and somebody sees to it. -/
structure Life (b : Backing) : Prop where
  /-- Once the destructor began nobody has a lease or a registration. -/
  begun : b.destroyStarted = true → b.state ≠ .opened ∧ Empty b ∧ b.registered = false
  /-- It begins once. -/
  destructions : b.destructions = b.destroyStarted.toNat
  /-- It has not ended before it began. -/
  unbegun : b.destroyStarted = false → b.destroyed = 0
  /-- Nor while it runs. -/
  running : ∀ t move, b.pc t = .destroying move → b.destroyed = 0
  /-- It has ended before `Closed` is published. -/
  ended : ∀ t move, b.pc t = .publishing move → b.destroyed = 1
  /-- Who destroys has begun and not published. -/
  worker : ∀ t, (b.pc t).destroys = true → b.destroyStarted = true ∧ b.state = .closing
  /-- There is one who destroys. -/
  alone : ∀ t t', (b.pc t).destroys = true → (b.pc t').destroys = true → t = t'
  /-- And there is one until `Closed` is published. -/
  owner : b.destroyStarted = true → b.state = .closing → ∃ t, (b.pc t).destroys = true
  /-- `Closed` is published after the destructor ended. -/
  closed : b.state = .closed → b.destroyStarted = true ∧ b.destroyed = 1
  /-- If the resource can go, somebody is about to look. -/
  pending : b.state = .closing → b.destroyStarted = false → b.registered = false → Empty b →
    ∃ t, (b.pc t).finalizes = true

section

variable {b : Backing} {t : ThreadId} {kind : LeaseKind} {lease : LeaseId} {move : Move}

/-- A thread in no call has no lease in its hands. -/
theorem Leases.call_empty (h : Leases b) (hreleases : (b.pc t).releases = none) :
    b.holds (.call t) = none := (h.calls t).trans hreleases

/-- `release` never finds a counter at zero. -/
theorem Leases.positive (h : Leases b) {holder : Holder} (hholds : b.holds holder = some kind) :
    0 < b.refs kind := (h.counts kind).pos hholds

/-- All counters at zero mean that nobody has a lease. -/
theorem Leases.empty_iff (h : Leases b) : b.unreferenced = true ↔ Empty b := by
  have hzero (kind : LeaseKind) : b.refs kind = 0 ↔ ∀ holder, b.holds holder ≠ some kind := by
    constructor
    · intro hrefs
      have hcounts := h.counts kind
      rw [hrefs] at hcounts
      exact hcounts.not_of_zero
    · intro hnone
      by_contra hrefs
      have hcounts := h.counts kind
      have hnot : Counts (fun holder => b.holds holder = some kind) 0 := Counts.none hnone
      have hsame := hcounts.symm.trans hnot
      exact hrefs (by exact_mod_cast hsame)
  simp only [Backing.unreferenced,Bool.and_eq_true,decide_eq_true_eq,hzero]
  constructor
  · rintro ⟨⟨hoperation, hdispatch⟩, hwork⟩ holder
    cases hholds : b.holds holder with
    | none => rfl
    | some kind => cases kind <;> simp_all
  · intro hempty
    simp [hempty _]

/-- A new lease in a vacant object. -/
theorem Leases.added (h : Leases b) (hvacant : b.Vacant lease) (kind : LeaseKind) :
    Leases ((b.retain kind).give (.object lease) (some kind)) where
  counts := by
    intro kind'
    refine Counts.shift (R := fun held => held = some kind') (h.counts kind') ?_
    by_cases hkind : kind' = kind
    · subst hkind
      simp [Backing.give,Backing.retain,hvacant.2]
    · simp [Backing.give,Backing.retain,hvacant.2,hkind,Ne.symm hkind]
  calls := fun t => by
    simp only [Backing.give,Backing.retain,Function.update_of_ne (Holder.noConfusion : Holder.call t ≠ .object lease)]
    exact h.calls t
  moves := by
    intro t move hmove
    obtain ⟨hne, hsource, htarget, hempty⟩ := h.moves t move hmove
    refine ⟨hne, hsource, htarget, ?_⟩
    have hother : Holder.object move.target ≠ .object lease := by
      intro heq
      obtain rfl := Holder.object.inj heq
      exact Bool.noConfusion (htarget.symm.trans hvacant.1)
    simp only [Backing.give,Backing.retain,Function.update_of_ne hother]
    exact hempty
  apart := h.apart

/-- Two lease objects, or an object and a call, change places. -/
theorem counts_swapped {holds : Holder → Option LeaseKind} {n : ℕ} {source target : Holder}
    (h : Counts (fun holder => holds holder = some kind) n) (hne : target ≠ source)
    (hempty : holds target = none) :
    Counts (fun holder => Function.update (Function.update holds source none) target (holds source)
      holder = some kind) n := by
  have hswap := Counts.swap (R := fun held => held = some kind) h hne
  rw [hempty] at hswap
  exact hswap

/-- A thread goes on without a lease changing hands. -/
theorem Leases.goto (h : Leases b) {pc : Pc} (hreleases : pc.releases = (b.pc t).releases)
    (hmove : pc.move = none ∨ pc.move = (b.pc t).move) : Leases (b.goto t pc) where
  counts := h.counts
  calls := by
    intro t'
    by_cases ht : t' = t
    · subst ht
      simp only [Backing.goto,Function.update_self]
      exact (h.calls t').trans hreleases.symm
    · simp only [Backing.goto,Function.update_of_ne ht]
      exact h.calls t'
  moves := by
    intro t' move hmove'
    by_cases ht : t' = t
    · subst ht
      simp only [Backing.goto,Function.update_self] at hmove'
      rcases hmove with hnone | hsame
      · exact absurd (hnone.symm.trans hmove') (Option.some_ne_none _).symm
      · exact h.moves t' move (hsame ▸ hmove')
    · simp only [Backing.goto,Function.update_of_ne ht] at hmove'
      exact h.moves t' move hmove'
  apart := by
    have hsub : ∀ t' move, ((b.goto t pc).pc t').move = some move → (b.pc t').move = some move := by
      intro t' move hmove'
      by_cases ht : t' = t
      · subst ht
        simp only [Backing.goto,Function.update_self] at hmove'
        rcases hmove with hnone | hsame
        · exact absurd (hnone.symm.trans hmove') (Option.some_ne_none _).symm
        · exact hsame ▸ hmove'
      · simpa only [Backing.goto,Function.update_of_ne ht] using hmove'
    intro t₁ t₂ m₁ m₂ hne h₁ h₂
    exact h.apart t₁ t₂ m₁ m₂ hne (hsub t₁ m₁ h₁) (hsub t₂ m₂ h₂)

/-- An object that a move assignment is about is not usable. -/
theorem Leases.not_usable (h : Leases b) {t : ThreadId} (hmove : (b.pc t).move = some move)
    (habout : move.About lease) : ¬ b.Usable lease := by
  obtain ⟨-, hsource, htarget, -⟩ := h.moves t move hmove
  intro husable
  rcases habout with rfl | rfl
  · exact Bool.noConfusion (hsource.symm.trans husable)
  · exact Bool.noConfusion (htarget.symm.trans husable)

/-- What a lease object holds after a transfer that is not about it. -/
theorem transfer_object (hsource : lease ≠ move.source) (htarget : lease ≠ move.target) :
    (b.transfer move).holds (.object lease) = b.holds (.object lease) := by
  have h₁ : Holder.object lease ≠ .object move.source := fun h => hsource (Holder.object.inj h)
  have h₂ : Holder.object lease ≠ .object move.target := fun h => htarget (Holder.object.inj h)
  simp only [Backing.transfer,Backing.give,Function.update_of_ne h₁,Function.update_of_ne h₂]

/-- A transfer changes the objects only. -/
theorem transfer_call (t : ThreadId) : (b.transfer move).holds (.call t) = b.holds (.call t) := by
  simp [Backing.transfer,Backing.give]

/-- A transfer into an empty object keeps the counters. -/
theorem Leases.transfer_counts (h : Leases b) (hne : move.target ≠ move.source)
    (hempty : b.holds (.object move.target) = none) (kind : LeaseKind) :
    Counts (fun holder => (b.transfer move).holds holder = some kind) (b.refs kind) :=
  counts_swapped (h.counts kind) (fun heq => hne (Holder.object.inj heq)) hempty

/-- A move construction. -/
theorem Leases.transferred (h : Leases b) (hne : move.target ≠ move.source)
    (husable : b.Usable move.source) (hvacant : b.Vacant move.target) : Leases (b.transfer move) where
  counts := h.transfer_counts hne hvacant.2
  calls := fun t => (transfer_call t).trans (h.calls t)
  moves := by
    intro t move' hmove
    obtain ⟨hne', hsource, htarget, hempty⟩ := h.moves t move' hmove
    refine ⟨hne', hsource, htarget, ?_⟩
    rw [transfer_object]
    · exact hempty
    · exact fun heq => h.not_usable hmove (.inr rfl) (heq ▸ husable)
    · exact fun heq => h.not_usable hmove (.inr rfl) (heq ▸ hvacant.1)
  apart := h.apart

/-- The end of a call, or the second half of its move assignment. -/
theorem Leases.finish (h : Leases b) (hmove : (b.pc t).move = some move)
    (hreleases : (b.pc t).releases = none) : Leases (b.finish t (some move)) := by
  obtain ⟨hne, hsource, htarget, hempty⟩ := h.moves t move hmove
  have hothers : ∀ t' move', ((b.finish t (some move)).pc t').move = some move' →
      t' ≠ t ∧ (b.pc t').move = some move' ∧ ∀ lease, move.About lease → ¬ move'.About lease := by
    intro t' move' hmove'
    have ht : t' ≠ t := by
      rintro rfl
      simp [Backing.finish,Backing.goto,Pc.move] at hmove'
    have hsame : (b.pc t').move = some move' := by
      simpa only [Backing.finish,Backing.goto,Function.update_of_ne ht] using! hmove'
    exact ⟨ht, hsame, h.apart t t' move move' ht.symm hmove hsame⟩
  constructor
  · exact h.transfer_counts hne.symm hempty
  · intro t'
    have hcall : (b.finish t (some move)).holds (.call t') = b.holds (.call t') :=
      @transfer_call b move t'
    rw [hcall]
    by_cases ht : t' = t
    · subst ht
      simp [Backing.finish,Backing.goto,Pc.releases,h.call_empty hreleases]
    · simp only [Backing.finish,Backing.goto,Function.update_of_ne ht]
      exact h.calls t'
  · intro t' move' hmove'
    obtain ⟨-, hsame, hapart⟩ := hothers t' move' hmove'
    obtain ⟨hne', hsource', htarget', hempty'⟩ := h.moves t' move' hsame
    have hkeep : ∀ lease, move'.About lease → lease ≠ move.source ∧ lease ≠ move.target :=
      fun lease habout => ⟨fun heq => hapart lease (.inl heq) habout,
        fun heq => hapart lease (.inr heq) habout⟩
    obtain ⟨hss, hst⟩ := hkeep move'.source (.inl rfl)
    obtain ⟨hts, htt⟩ := hkeep move'.target (.inr rfl)
    refine ⟨hne', ?_, ?_, (transfer_object hts htt).trans hempty'⟩
    · simpa only [Backing.finish,Function.update_of_ne hss,Function.update_of_ne hst] using hsource'
    · simpa only [Backing.finish,Function.update_of_ne hts,Function.update_of_ne htt] using htarget'
  · intro t₁ t₂ m₁ m₂ hne' h₁ h₂
    exact h.apart t₁ t₂ m₁ m₂ hne' (hothers t₁ m₁ h₁).2.1 (hothers t₂ m₂ h₂).2.1

/-- A lease is taken out of its object by a thread that resets it, perhaps for
a move assignment that begins. -/
theorem Leases.taken (h : Leases b) (hholds : b.holds (.object lease) = some kind)
    (hidle : b.pc t = .idle) {move : Option Move} {moving : LeaseId → Bool}
    (hlocked : ∀ lease, b.moving lease = true → moving lease = true)
    (hmove : ∀ m, move = some m → m.source ≠ m.target ∧ m.target = lease ∧ b.Usable m.source ∧
      b.Usable m.target ∧ moving m.source = true ∧ moving m.target = true) :
    Leases ((({b with moving := moving}.give (.object lease) none).give (.call t)
      (some kind)).goto t (.releasing kind move)) := by
  have hmine : ∀ m, (((({b with moving := moving}.give (.object lease) none).give (.call t)
      (some kind)).goto t (.releasing kind move)).pc t).move = some m → move = some m := by
    intro m hm
    simpa [Backing.goto,Pc.move] using hm
  have hother : ∀ t' m, t' ≠ t → (((({b with moving := moving}.give (.object lease) none).give
      (.call t) (some kind)).goto t (.releasing kind move)).pc t').move = some m →
      (b.pc t').move = some m := by
    intro t' m ht hm
    simpa only [Backing.goto,Function.update_of_ne ht] using! hm
  have hfree : ∀ m m', move = some m → ∀ t', (b.pc t').move = some m' →
      ∀ l, m.About l → ¬ m'.About l := by
    intro m m' hm t' hm' l habout habout'
    obtain ⟨-, -, hsource, htarget, -, -⟩ := hmove m hm
    refine h.not_usable hm' habout' ?_
    rcases habout with rfl | rfl
    · exact hsource
    · exact htarget
  constructor
  · intro kind'
    have hne : Holder.call t ≠ .object lease := Holder.noConfusion
    have hempty : b.holds (.call t) = none := h.call_empty (by rw [hidle]; rfl)
    have hswap := counts_swapped (h.counts kind') hne hempty
    rw [hholds] at hswap
    exact hswap
  · intro t'
    by_cases ht : t' = t
    · subst ht
      simp [Backing.goto,Backing.give,Pc.releases]
    · have hcall : Holder.call t' ≠ .call t := fun heq => ht (Holder.call.inj heq)
      simp only [Backing.goto,Backing.give,Function.update_of_ne ht,Function.update_of_ne hcall,
        Function.update_of_ne (Holder.noConfusion : Holder.call t' ≠ .object lease)]
      exact h.calls t'
  · intro t' m hm
    by_cases ht : t' = t
    · subst ht
      obtain ⟨hne, rfl, -, -, hsource, htarget⟩ := hmove m (hmine m hm)
      refine ⟨hne, hsource, htarget, ?_⟩
      simp [Backing.goto,Backing.give]
    · obtain ⟨hne, hsource, htarget, hempty⟩ := h.moves t' m (hother t' m ht hm)
      refine ⟨hne, hlocked _ hsource, hlocked _ htarget, ?_⟩
      have hobject : Holder.object m.target ≠ .object lease := by
        intro heq
        rw [heq] at hempty
        exact Option.some_ne_none _ (hholds.symm.trans hempty)
      simp only [Backing.goto,Backing.give,Function.update_of_ne hobject,
        Function.update_of_ne (Holder.noConfusion : Holder.object m.target ≠ .call t)]
      exact hempty
  · intro t₁ t₂ m₁ m₂ hne h₁ h₂
    by_cases ht₁ : t₁ = t
    · subst ht₁
      exact hfree m₁ m₂ (hmine m₁ h₁) t₂ (hother t₂ m₂ hne.symm h₂)
    · by_cases ht₂ : t₂ = t
      · subst ht₂
        intro l habout₁ habout₂
        exact hfree m₂ m₁ (hmine m₂ h₂) t₁ (hother t₁ m₁ ht₁ h₁) l habout₂ habout₁
      · exact h.apart t₁ t₂ m₁ m₂ hne (hother t₁ m₁ ht₁ h₁) (hother t₂ m₂ ht₂ h₂)

/-- The section of `release`. -/
theorem Leases.released (h : Leases b) {move : Option Move} (hpc : b.pc t = .releasing kind move) :
    Leases (b.release t kind move) := by
  have hcall : b.holds (.call t) = some kind := by
    rw [h.calls t,hpc]
    rfl
  have hpcs : ∀ t', ((b.release t kind move).pc t').move = (b.pc t').move := by
    intro t'
    by_cases ht : t' = t
    · subst ht
      simp [Backing.release,Backing.goto,hpc,Pc.move]
    · simp only [Backing.release,Backing.goto,Function.update_of_ne ht]
      rfl
  constructor
  · intro kind'
    refine Counts.shift (R := fun held => held = some kind') (h.counts kind') ?_
    have hpositive := h.positive hcall
    by_cases hkind : kind' = kind
    · subst hkind
      simp only [Backing.release,Backing.goto,Backing.give,Function.update_self,hcall,if_true,
        reduceCtorEq,if_false]
      omega
    · simp [Backing.release,Backing.goto,Backing.give,hcall,hkind,Ne.symm hkind]
  · intro t'
    by_cases ht : t' = t
    · subst ht
      simp [Backing.release,Backing.goto,Backing.give,Pc.releases]
    · have hother : Holder.call t' ≠ .call t := fun heq => ht (Holder.call.inj heq)
      simp only [Backing.release,Backing.goto,Backing.give,Function.update_of_ne ht,
        Function.update_of_ne hother]
      exact h.calls t'
  · intro t' move' hmove'
    obtain ⟨hne, hsource, htarget, hempty⟩ := h.moves t' move' ((hpcs t').symm.trans hmove')
    refine ⟨hne, hsource, htarget, ?_⟩
    simp only [Backing.release,Backing.goto,Backing.give,
      Function.update_of_ne (Holder.noConfusion : Holder.object move'.target ≠ .call t)]
    exact hempty
  · intro t₁ t₂ m₁ m₂ hne h₁ h₂
    exact h.apart t₁ t₂ m₁ m₂ hne ((hpcs t₁).symm.trans h₁) ((hpcs t₂).symm.trans h₂)

/-- What does not reach into the life of the resource. -/
theorem Life.kept {b' : Backing} (h : Life b)
    (hstate : b'.state = b.state) (hregistered : b'.registered = b.registered)
    (hstarted : b'.destroyStarted = b.destroyStarted)
    (hdestructions : b'.destructions = b.destructions) (hdestroyed : b'.destroyed = b.destroyed)
    (hpc : ∀ t, (b'.pc t).destroys = true ∨ (b.pc t).destroys = true → b'.pc t = b.pc t)
    (hempty : b.destroyStarted = true → Empty b → Empty b')
    (hpending : b.state = .closing → b.destroyStarted = false → b.registered = false → Empty b' →
      ∃ t, (b'.pc t).finalizes = true) : Life b' where
  begun := by
    rw [hstarted,hstate,hregistered]
    intro hbegun
    obtain ⟨hopened, hnobody, hfree⟩ := h.begun hbegun
    exact ⟨hopened, hempty hbegun hnobody, hfree⟩
  destructions := by
    rw [hdestructions,hstarted]
    exact h.destructions
  unbegun := by
    rw [hstarted,hdestroyed]
    exact h.unbegun
  running := by
    intro t move ht
    rw [hdestroyed]
    refine h.running t move ?_
    rw [← hpc t (.inl (by rw [ht]; rfl))]
    exact ht
  ended := by
    intro t move ht
    rw [hdestroyed]
    refine h.ended t move ?_
    rw [← hpc t (.inl (by rw [ht]; rfl))]
    exact ht
  worker := by
    intro t ht
    rw [hstarted,hstate]
    exact h.worker t (hpc t (.inl ht) ▸ ht)
  alone := by
    intro t t' ht ht'
    exact h.alone t t' (hpc t (.inl ht) ▸ ht) (hpc t' (.inl ht') ▸ ht')
  owner := by
    rw [hstarted,hstate]
    intro hbegun hclosing
    obtain ⟨t, ht⟩ := h.owner hbegun hclosing
    exact ⟨t, (hpc t (.inr ht)).symm ▸ ht⟩
  closed := by
    rw [hstate,hstarted,hdestroyed]
    exact h.closed
  pending := by
    rw [hstate,hstarted,hregistered]
    exact hpending

/-- A thread that is not about to look or to destroy does something else. -/
theorem Life.goto (h : Life b) {pc : Pc} (hbefore : (b.pc t).destroys = false)
    (hafter : pc.destroys = false)
    (hlooks : b.state = .closing → b.destroyStarted = false → b.registered = false → Empty b →
      (b.pc t).finalizes = true → pc.finalizes = true) : Life (b.goto t pc) := by
  refine h.kept rfl rfl rfl rfl rfl ?_ (fun _ hempty => hempty) ?_
  · intro t' ht'
    by_cases ht : t' = t
    · subst ht
      simp only [Backing.goto,Function.update_self,hafter,hbefore] at ht'
      simp at ht'
    · exact Function.update_of_ne ht _ _
  · intro hclosing hbegun hfree hempty
    obtain ⟨t', ht'⟩ := h.pending hclosing hbegun hfree hempty
    by_cases ht : t' = t
    · subst ht
      have hstill := hlooks hclosing hbegun hfree hempty ht'
      exact ⟨t', by simpa only [Backing.goto,Function.update_self] using hstill⟩
    · exact ⟨t', by simpa only [Backing.goto,Function.update_of_ne ht] using ht'⟩

/-- A transfer brings no lease into being and takes none away. -/
theorem transfer_empty (hempty : b.holds (.object move.target) = none) :
    Empty (b.transfer move) ↔ Empty b := by
  constructor
  · intro hnobody holder
    by_cases hsource : holder = .object move.source
    · rw [hsource]
      have htarget := hnobody (.object move.target)
      simpa [Backing.transfer,Backing.give] using htarget
    · by_cases htarget : holder = .object move.target
      · rw [htarget]
        exact hempty
      · have hholder := hnobody holder
        simpa only [Backing.transfer,Backing.give,Function.update_of_ne htarget,
          Function.update_of_ne hsource] using hholder
  · intro hnobody holder
    by_cases htarget : holder = .object move.target
    · simpa [Backing.transfer,Backing.give,htarget] using hnobody (.object move.source)
    · by_cases hsource : holder = .object move.source
      · simp only [Backing.transfer,Backing.give,Function.update_of_ne htarget]
        rw [hsource,Function.update_self]
      · simpa only [Backing.transfer,Backing.give,Function.update_of_ne htarget,
          Function.update_of_ne hsource] using hnobody holder

/-- A move construction. -/
theorem Life.transferred (h : Life b) (hempty : b.holds (.object move.target) = none) :
    Life (b.transfer move) := by
  refine h.kept rfl rfl rfl rfl rfl (fun _ _ => rfl)
    (fun _ hnobody => (transfer_empty hempty).mpr hnobody) ?_
  intro hclosing hbegun hfree hnobody
  exact h.pending hclosing hbegun hfree ((transfer_empty hempty).mp hnobody)

/-- The flags of the lease objects do not matter. -/
theorem Life.locked (h : Life b) (moving : LeaseId → Bool) : Life {b with moving := moving} :=
  ⟨h.begun,h.destructions,h.unbegun,h.running,h.ended,h.worker,h.alone,h.owner,h.closed,h.pending⟩

/-- A new lease, while nobody destroys. -/
theorem Life.added (h : Life b) (hbegun : b.destroyStarted = false) (kind : LeaseKind) :
    Life ((b.retain kind).give (.object lease) (some kind)) := by
  refine h.kept rfl rfl rfl rfl rfl (fun _ _ => rfl) ?_ ?_
  · intro htrue
    exact Bool.noConfusion (htrue.symm.trans hbegun)
  · intro _ _ _ hnobody
    have hheld := hnobody (.object lease)
    simp [Backing.give] at hheld

/-- A call ends after it looked, or before it did anything. -/
theorem Life.finished (h : Life b) (hleases : Leases b) {move : Option Move}
    (hmove : (b.pc t).move = move) (hdestroys : (b.pc t).destroys = false)
    (hlooked : ¬ (b.state = .closing ∧ b.destroyStarted = false ∧ b.registered = false ∧ Empty b)) :
    Life (b.finish t move) := by
  cases move with
  | none =>
    refine h.goto hdestroys rfl ?_
    intro hclosing hbegun hfree hempty _
    exact absurd ⟨hclosing, hbegun, hfree, hempty⟩ hlooked
  | some move =>
    obtain ⟨-, -, -, hempty⟩ := hleases.moves t move hmove
    refine Life.locked (Life.goto (h.transferred hempty) hdestroys rfl ?_) _
    intro hclosing hbegun hfree hnobody _
    exact absurd ⟨hclosing, hbegun, hfree, (transfer_empty hempty).mp hnobody⟩ hlooked

/-- A lease is taken out of its object. -/
theorem Life.taken (h : Life b) (hholds : b.holds (.object lease) = some kind)
    (hidle : b.pc t = .idle) (move : Option Move) :
    Life (((b.give (.object lease) none).give (.call t) (some kind)).goto t
      (.releasing kind move)) := by
  refine h.kept rfl rfl rfl rfl rfl ?_ ?_ ?_
  · intro t' ht'
    by_cases ht : t' = t
    · subst ht
      simp [Backing.goto,hidle,Pc.destroys] at ht'
    · exact Function.update_of_ne ht _ _
  · intro _ hnobody
    exact absurd (hholds.symm.trans (hnobody _)) (Option.some_ne_none _)
  · intro _ _ _ hnobody
    have hcall := hnobody (.call t)
    simp [Backing.goto,Backing.give] at hcall

/-- The section of `release`. -/
theorem Life.released (h : Life b) {move : Option Move} (hpc : b.pc t = .releasing kind move)
    (hleases : Leases b) : Life (b.release t kind move) := by
  have hcall : b.holds (.call t) = some kind := by
    rw [hleases.calls t,hpc]
    rfl
  refine h.kept rfl rfl rfl rfl rfl ?_ ?_ ?_
  · intro t' ht'
    by_cases ht : t' = t
    · subst ht
      simp [Backing.release,Backing.goto,hpc,Pc.destroys] at ht'
    · exact Function.update_of_ne ht _ _
  · intro _ hnobody
    exact absurd (hcall.symm.trans (hnobody _)) (Option.some_ne_none _)
  · intro _ _ _ _
    exact ⟨t, by simp [Backing.release,Backing.goto,Pc.finalizes]⟩

/-- `close` of an open entity. -/
theorem Life.closing (h : Life b) (hopened : b.state = .opened) (hidle : b.pc t = .idle) :
    Life ({b with state := .closing}.goto t (.finalizing none)) := by
  have hbegun : b.destroyStarted = false := by
    cases hstarted : b.destroyStarted with
    | false => rfl
    | true => exact absurd hopened (h.begun hstarted).1
  have hnobody : ∀ t', (b.pc t').destroys = false := by
    intro t'
    cases hdestroys : (b.pc t').destroys with
    | false => rfl
    | true => exact Bool.noConfusion ((h.worker t' hdestroys).1.symm.trans hbegun)
  have hnone : ∀ t', ((({b with state := .closing} : Backing).goto t (.finalizing none)).pc t').destroys =
      false := by
    intro t'
    by_cases ht : t' = t
    · subst ht
      simp [Backing.goto,Pc.destroys]
    · simpa only [Backing.goto,Function.update_of_ne ht] using! hnobody t'
  constructor
  · exact fun htrue => Bool.noConfusion (htrue.symm.trans hbegun)
  · exact h.destructions
  · exact h.unbegun
  · intro t' move ht'
    have hdestroys := hnone t'
    rw [ht'] at hdestroys
    exact Bool.noConfusion hdestroys
  · intro t' move ht'
    have hdestroys := hnone t'
    rw [ht'] at hdestroys
    exact Bool.noConfusion hdestroys
  · intro t' ht'
    exact Bool.noConfusion (ht'.symm.trans (hnone t'))
  · intro t' _ ht'
    exact Bool.noConfusion (ht'.symm.trans (hnone t'))
  · exact fun htrue => Bool.noConfusion (htrue.symm.trans hbegun)
  · intro hclosed
    cases hclosed
  · intro _ _ _ _
    exact ⟨t, by simp [Backing.goto,Pc.finalizes]⟩

/-- `set_registered` that is let through. -/
theorem Life.registering (h : Life b) (hidle : b.pc t = .idle) {value : Bool}
    (hopened : value = true → b.state = .opened) :
    Life ({b with registered := value}.goto t (.finalizing none)) := by
  have hpcs : ∀ t', ((({b with registered := value} : Backing).goto t (.finalizing none)).pc t').destroys =
      (b.pc t').destroys := by
    intro t'
    by_cases ht : t' = t
    · subst ht
      simp [Backing.goto,hidle,Pc.destroys]
    · simp only [Backing.goto,Function.update_of_ne ht]
  have hother : ∀ {t'}, ((({b with registered := value} : Backing).goto t (.finalizing none)).pc t').destroys =
      true → (({b with registered := value} : Backing).goto t (.finalizing none)).pc t' = b.pc t' := by
    intro t' ht'
    by_cases ht : t' = t
    · subst ht
      rw [hpcs,hidle] at ht'
      exact Bool.noConfusion ht'
    · exact Function.update_of_ne ht _ _
  constructor
  · intro hbegun
    obtain ⟨hstate, hempty, -⟩ := h.begun hbegun
    refine ⟨hstate, hempty, ?_⟩
    cases value with
    | false => rfl
    | true => exact absurd (hopened rfl) hstate
  · exact h.destructions
  · exact h.unbegun
  · intro t' move ht'
    exact h.running t' move ((hother (by rw [ht']; rfl)).symm.trans ht')
  · intro t' move ht'
    exact h.ended t' move ((hother (by rw [ht']; rfl)).symm.trans ht')
  · intro t' ht'
    exact h.worker t' ((hpcs t').symm.trans ht')
  · intro t' t'' ht' ht''
    exact h.alone t' t'' ((hpcs t').symm.trans ht') ((hpcs t'').symm.trans ht'')
  · intro hbegun hclosing
    obtain ⟨t', ht'⟩ := h.owner hbegun hclosing
    exact ⟨t', (hpcs t').trans ht'⟩
  · exact h.closed
  · intro _ _ _ _
    exact ⟨t, by simp [Backing.goto,Pc.finalizes]⟩

/-- The resource can go: the destructor begins. -/
theorem Life.begins (h : Life b) {move : Option Move} (hclosing : b.state = .closing)
    (hbegun : b.destroyStarted = false) (hfree : b.registered = false) (hempty : Empty b) :
    Life ({b with destroyStarted := true, destructions := b.destructions + 1}.goto t
      (.destroying move)) := by
  have hnobody : ∀ t', (b.pc t').destroys = false := by
    intro t'
    cases hdestroys : (b.pc t').destroys with
    | false => rfl
    | true => exact Bool.noConfusion ((h.worker t' hdestroys).1.symm.trans hbegun)
  have honly : ∀ t', ((({b with destroyStarted := true, destructions := b.destructions + 1} :
      Backing).goto t (.destroying move)).pc t').destroys = true → t' = t := by
    intro t' ht'
    by_contra ht
    simp only [Backing.goto,Function.update_of_ne ht] at ht'
    exact Bool.noConfusion (ht'.symm.trans (hnobody t'))
  constructor
  · intro _
    exact ⟨by rw [show _ = EntityState.closing from hclosing]; exact EntityState.noConfusion, hempty,
      hfree⟩
  · have hcount := h.destructions
    rw [hbegun] at hcount
    simp [Backing.goto,hcount]
  · intro hfalse
    cases hfalse
  · intro _ _ _
    exact h.unbegun hbegun
  · intro t' move' ht'
    obtain rfl := honly t' (by rw [ht']; rfl)
    simp [Backing.goto] at ht'
  · intro _ _
    exact ⟨rfl, hclosing⟩
  · intro t' t'' ht' ht''
    rw [honly t' ht',honly t'' ht'']
  · intro _ _
    exact ⟨t, by simp [Backing.goto,Pc.destroys]⟩
  · intro hclosed
    exact EntityState.noConfusion (hclosing.symm.trans hclosed)
  · intro _ hfalse
    cases hfalse

/-- The destructor ends. -/
theorem Life.destructed (h : Life b) {move : Option Move} (hpc : b.pc t = .destroying move) :
    Life ({b with destroyed := b.destroyed + 1}.goto t (.publishing move)) := by
  have hpcs : ∀ t', ((({b with destroyed := b.destroyed + 1} : Backing).goto t
      (.publishing move)).pc t').destroys = (b.pc t').destroys := by
    intro t'
    by_cases ht : t' = t
    · subst ht
      simp [Backing.goto,hpc,Pc.destroys]
    · simp only [Backing.goto,Function.update_of_ne ht]
  have hmine : (b.pc t).destroys = true := by
    rw [hpc]
    rfl
  have honly : ∀ t', (b.pc t').destroys = true → t' = t := fun t' ht' => h.alone t' t ht' hmine
  obtain ⟨hstarted, hclosing⟩ := h.worker t hmine
  constructor
  · exact h.begun
  · exact h.destructions
  · intro hbegun
    exact Bool.noConfusion (hstarted.symm.trans hbegun)
  · intro t' move' ht'
    obtain rfl := honly t' ((hpcs t').symm.trans (by rw [ht']; rfl))
    simp [Backing.goto] at ht'
  · intro _ _ _
    have hrunning := h.running t move hpc
    show b.destroyed + 1 = 1
    rw [hrunning]
  · intro t' ht'
    exact h.worker t' ((hpcs t').symm.trans ht')
  · intro t' t'' ht' ht''
    exact h.alone t' t'' ((hpcs t').symm.trans ht') ((hpcs t'').symm.trans ht'')
  · intro _ _
    exact ⟨t, (hpcs t).trans hmine⟩
  · intro hclosed
    exact EntityState.noConfusion (hclosing.symm.trans hclosed)
  · intro _ hbegun
    exact Bool.noConfusion (hstarted.symm.trans hbegun)

/-- `Closed` is published. -/
theorem Life.published (h : Life b) (hleases : Leases b) {move : Option Move}
    (hpc : b.pc t = .publishing move) : Life ({b with state := .closed}.finish t move) := by
  have hmine : (b.pc t).destroys = true := by
    rw [hpc]
    rfl
  obtain ⟨hstarted, hclosing⟩ := h.worker t hmine
  obtain ⟨-, hempty, hfree⟩ := h.begun hstarted
  have hended := h.ended t move hpc
  have hpcs : ∀ t', ((({b with state := .closed} : Backing).finish t move).pc t').destroys = false := by
    intro t'
    by_cases ht : t' = t
    · subst ht
      cases move <;> simp [Backing.finish,Backing.goto,Pc.destroys]
    · have hother : (b.pc t').destroys = false := by
        cases hdestroys : (b.pc t').destroys with
        | false => rfl
        | true => exact absurd (h.alone t' t hdestroys hmine) ht
      cases move <;> simpa only [Backing.finish,Backing.goto,Function.update_of_ne ht] using! hother
  have hfields : (({b with state := .closed} : Backing).finish t move).state = .closed ∧
      (({b with state := .closed} : Backing).finish t move).registered = b.registered ∧
      (({b with state := .closed} : Backing).finish t move).destroyStarted = b.destroyStarted ∧
      (({b with state := .closed} : Backing).finish t move).destructions = b.destructions ∧
      (({b with state := .closed} : Backing).finish t move).destroyed = b.destroyed := by
    cases move <;> exact ⟨rfl, rfl, rfl, rfl, rfl⟩
  obtain ⟨hstate', hregistered', hstarted', hdestructions', hdestroyed'⟩ := hfields
  have hempty' : Empty (({b with state := .closed} : Backing).finish t move) := by
    cases move with
    | none => exact hempty
    | some move =>
      obtain ⟨-, -, -, htarget⟩ := hleases.moves t move (by rw [hpc]; rfl)
      exact (@transfer_empty {b with state := .closed} move htarget).mpr hempty
  have hidle : ∀ {t' : ThreadId} {pc : Pc}, pc.destroys = true →
      (({b with state := .closed} : Backing).finish t move).pc t' = pc → False := by
    intro t' pc hdestroys heq
    have hnot := hpcs t'
    rw [heq,hdestroys] at hnot
    exact Bool.noConfusion hnot
  constructor
  · intro _
    refine ⟨?_, hempty', hregistered'.trans hfree⟩
    rw [hstate']
    exact EntityState.noConfusion
  · rw [hdestructions',hstarted']
    exact h.destructions
  · rw [hstarted',hstarted]
    exact fun hfalse => Bool.noConfusion hfalse
  · intro t' move' ht'
    exact (hidle rfl ht').elim
  · intro t' move' ht'
    exact (hidle rfl ht').elim
  · intro t' ht'
    exact (hidle ht' rfl).elim
  · intro t' t'' ht' _
    exact (hidle ht' rfl).elim
  · rw [hstate']
    intro _ hfalse
    cases hfalse
  · intro _
    exact ⟨hstarted'.trans hstarted, hdestroyed'.trans hended⟩
  · rw [hstate']
    intro hfalse
    cases hfalse

/-- What every reachable backing has. -/
structure Sound (b : Backing) : Prop where
  /-- The counters are right. -/
  leases : Leases b
  /-- The resource goes once and in time. -/
  life : Life b

/-- A new lease of an open entity. -/
theorem Sound.opened (h : Sound b) (hopened : b.state = .opened) (hvacant : b.Vacant lease)
    (kind : LeaseKind) : Sound ((b.retain kind).give (.object lease) (some kind)) := by
  refine ⟨h.leases.added hvacant kind, h.life.added ?_ kind⟩
  cases hstarted : b.destroyStarted with
  | false => rfl
  | true => exact absurd hopened (h.life.begun hstarted).1

/-- `acquire`. -/
theorem Sound.acquire (h : Sound b) (admitted : Bool) (kind : LeaseKind)
    (hvacant : b.Vacant lease) : Sound (b.orSame (b.acquire admitted kind lease)) := by
  unfold Backing.acquire
  split
  · exact h
  · split
    · exact h
    · next hopened => exact h.opened (not_not.mp hopened) hvacant kind

/-- `prepare_operation`. -/
theorem Sound.prepareOperation (h : Sound b) (admitted throws : Bool) (hvacant : b.Vacant lease) :
    Sound (b.orSame (b.prepareOperation admitted throws lease)) := by
  unfold Backing.prepareOperation
  split
  · exact h
  · split
    · exact h
    · next hopened =>
      split
      · exact h
      · exact h.opened (not_not.mp hopened) hvacant .operation

/-- `derive_cleanup`. -/
theorem Sound.deriveCleanup (h : Sound b) (source : LeaseId) (hvacant : b.Vacant lease) :
    Sound (b.orSame (b.deriveCleanup source lease)) := by
  unfold Backing.deriveCleanup
  split
  · exact h
  · split
    · exact h
    · next hlive =>
      have hbegun : b.destroyStarted = false := by
        cases hstarted : b.destroyStarted with
        | false => rfl
        | true => exact absurd (.inr hstarted) hlive
      exact ⟨h.leases.added hvacant .work, h.life.added hbegun .work⟩

/-- A call of a thread that has nothing to do. -/
theorem goto_idle (hidle : b.pc t = .idle) : b.goto t .idle = b := by
  have hsame : Function.update b.pc t .idle = b.pc := by
    rw [← hidle]
    exact Function.update_eq_self t b.pc
  simp only [Backing.goto,hsame]

/-- `reset`. -/
theorem Sound.reset (h : Sound b) (hidle : b.pc t = .idle) : Sound (b.reset t lease none) := by
  unfold Backing.reset
  cases hholds : b.holds (.object lease) with
  | none =>
    simp only [Backing.finish,goto_idle hidle]
    exact h
  | some kind =>
    refine ⟨h.leases.taken hholds hidle (fun _ hlocked => hlocked) ?_,
      h.life.taken hholds hidle none⟩
    intro m hm
    cases hm

/-- The flags of a move assignment are gone when it ends. -/
theorem unlock_lock (moving : LeaseId → Bool) (hsource : moving move.source = false)
    (htarget : moving move.target = false) :
    Function.update (Function.update (Function.update (Function.update moving move.source true)
      move.target true) move.source false) move.target false = moving := by
  funext lease
  by_cases ht : lease = move.target
  · rw [ht,Function.update_self,htarget]
  · rw [Function.update_of_ne ht]
    by_cases hs : lease = move.source
    · rw [hs,Function.update_self,hsource]
    · rw [Function.update_of_ne hs,Function.update_of_ne ht,Function.update_of_ne hs]

/-- `operator=`. -/
theorem Sound.moveAssign (h : Sound b) (hidle : b.pc t = .idle) (hsource : b.Usable move.source)
    (htarget : b.Usable move.target) : Sound (b.moveAssign t move) := by
  unfold Backing.moveAssign
  split
  · exact h
  · next hne =>
    unfold Backing.reset
    cases hholds : b.holds (.object move.target) with
    | none =>
      simp only [Backing.finish]
      have hvacant : b.Vacant move.target := ⟨htarget, hholds⟩
      have hmoved : Sound (b.transfer move) :=
        ⟨h.leases.transferred (Ne.symm hne) hsource hvacant, h.life.transferred hholds⟩
      have hidle' : (b.transfer move).pc t = .idle := hidle
      rw [← goto_idle hidle'] at hmoved
      have hflags := unlock_lock b.moving hsource htarget
      simpa only [Backing.goto,Backing.transfer,Backing.give,hflags] using hmoved
    | some kind =>
      refine ⟨h.leases.taken hholds hidle ?_ ?_, ?_⟩
      · intro lease hlocked
        by_cases ht : lease = move.target
        · rw [ht,Function.update_self]
        · rw [Function.update_of_ne ht]
          by_cases hs : lease = move.source
          · rw [hs,Function.update_self]
          · rw [Function.update_of_ne hs]
            exact hlocked
      · intro m hm
        obtain rfl := Option.some.inj hm
        refine ⟨hne, rfl, hsource, htarget, ?_, Function.update_self _ _ _⟩
        rw [Function.update_of_ne hne,Function.update_self]
      · exact (h.life.taken hholds hidle (some move)).locked _

/-- `set_registered`. -/
theorem Sound.setRegistered (h : Sound b) (hidle : b.pc t = .idle) (value : Bool) :
    Sound (b.orSame (b.setRegistered t value)) := by
  unfold Backing.setRegistered
  split
  · exact h
  · next hopened =>
    split
    · exact h
    · refine ⟨?_, h.life.registering hidle ?_⟩
      · have hpc : Leases (b.goto t (.finalizing none)) :=
          h.leases.goto (by rw [hidle]; rfl) (.inl rfl)
        exact ⟨hpc.counts, hpc.calls, hpc.moves, hpc.apart⟩
      · intro hvalue
        simpa [hvalue] using hopened

/-- `close`. -/
theorem Sound.close (h : Sound b) (hidle : b.pc t = .idle) : Sound (b.close t) := by
  unfold Backing.close
  split
  · exact h
  · next hopened =>
    refine ⟨?_, h.life.closing (not_not.mp hopened) hidle⟩
    have hpc : Leases (b.goto t (.finalizing none)) :=
      h.leases.goto (by rw [hidle]; rfl) (.inl rfl)
    exact ⟨hpc.counts, hpc.calls, hpc.moves, hpc.apart⟩

/-- The end of a call keeps the counters right. -/
theorem Leases.finished (h : Leases b) {move : Option Move} (hmove : (b.pc t).move = move)
    (hreleases : (b.pc t).releases = none) : Leases (b.finish t move) := by
  cases move with
  | none => exact h.goto (by rw [hreleases]; rfl) (.inl rfl)
  | some move => exact h.finish hmove hreleases

/-- The first section of `try_finalize`. -/
theorem Sound.tryFinalize (h : Sound b) {move : Option Move} (hpc : b.pc t = .finalizing move) :
    Sound (b.tryFinalize t move) := by
  have hmove : (b.pc t).move = move := by
    rw [hpc]
    rfl
  have hreleases : (b.pc t).releases = none := by
    rw [hpc]
    rfl
  unfold Backing.tryFinalize
  split
  · next hstays =>
    refine ⟨h.leases.finished hmove hreleases, h.life.finished h.leases hmove (by rw [hpc]; rfl) ?_⟩
    rintro ⟨hclosing, hbegun, hfree, hempty⟩
    have hcounted := h.leases.empty_iff.mpr hempty
    simp [hclosing,hbegun,hfree,hcounted] at hstays
  · next hgoes =>
    simp only [ne_eq,not_or,not_not,Bool.not_eq_true,Bool.not_eq_false] at hgoes
    obtain ⟨hclosing, hbegun, hfree, hcounted⟩ := hgoes
    refine ⟨?_, h.life.begins hclosing hbegun hfree (h.leases.empty_iff.mp hcounted)⟩
    have hnext : Leases (b.goto t (.destroying move)) :=
      h.leases.goto (by rw [hreleases]; rfl) (.inr hmove.symm)
    exact ⟨hnext.counts, hnext.calls, hnext.moves, hnext.apart⟩

/-- The next step of a call. -/
theorem Sound.step (h : Sound b) (t : ThreadId) : Sound (b.step t) := by
  unfold Backing.step
  cases hpc : b.pc t with
  | idle => exact h
  | releasing kind move => exact ⟨h.leases.released hpc, h.life.released hpc h.leases⟩
  | finalizing move => exact h.tryFinalize hpc
  | destroying move =>
    refine ⟨?_, h.life.destructed hpc⟩
    have hnext : Leases (b.goto t (.publishing move)) :=
      h.leases.goto (by rw [hpc]; rfl) (.inr (by rw [hpc]; rfl))
    exact ⟨hnext.counts, hnext.calls, hnext.moves, hnext.apart⟩
  | publishing move =>
    refine ⟨?_, h.life.published h.leases hpc⟩
    have hclosed : Leases {b with state := .closed} :=
      ⟨h.leases.counts, h.leases.calls, h.leases.moves, h.leases.apart⟩
    exact hclosed.finished (by rw [show _ = Pc.publishing move from hpc]; rfl)
      (by rw [show _ = Pc.publishing move from hpc]; rfl)

/-- No user work is let in any more. -/
def Refusing (s : System) : Prop := s.admission = false ∨ s.backing.state ≠ .opened

/-- The end of a call leaves the state of the entity. -/
theorem finish_state (move : Option Move) : (b.finish t move).state = b.state := by
  cases move <;> rfl

/-- So does taking a lease out of its object. -/
theorem reset_state (move : Option Move) : (b.reset t lease move).state = b.state := by
  unfold Backing.reset
  cases b.holds (.object lease) with
  | none => exact finish_state move
  | some kind => rfl

/-- Nothing opens an entity. -/
theorem step_state (hstate : b.state ≠ .opened) (t : ThreadId) : (b.step t).state ≠ .opened := by
  unfold Backing.step
  cases b.pc t with
  | idle => exact hstate
  | releasing kind move => exact hstate
  | finalizing move =>
    simp only [Backing.tryFinalize]
    split
    · rw [finish_state]
      exact hstate
    · exact hstate
  | destroying move => exact hstate
  | publishing move =>
    simp only [finish_state]
    exact EntityState.noConfusion

/-- A refused call leaves everything, an accepted one what it keeps. -/
theorem orSame_keeps {α : Type*} (read : Backing → α) {result : Except Fault Backing}
    (hok : ∀ b', result = .ok b' → read b' = read b) : read (b.orSame result) = read b := by
  cases hresult : result with
  | error fault => rfl
  | ok b' => exact hok b' hresult

/-- What a grant keeps. -/
theorem acquire_keeps {α : Type*} (read : Backing → α) (admitted : Bool) (kind : LeaseKind)
    (hkeep : read ((b.retain kind).give (.object lease) (some kind)) = read b) :
    read (b.orSame (b.acquire admitted kind lease)) = read b := by
  refine orSame_keeps read fun b' hok => ?_
  unfold Backing.acquire at hok
  split_ifs at hok
  obtain rfl := Except.ok.inj hok
  exact hkeep

theorem prepareOperation_keeps {α : Type*} (read : Backing → α) (admitted throws : Bool)
    (hkeep : read ((b.retain .operation).give (.object lease) (some .operation)) = read b) :
    read (b.orSame (b.prepareOperation admitted throws lease)) = read b := by
  refine orSame_keeps read fun b' hok => ?_
  unfold Backing.prepareOperation at hok
  split_ifs at hok
  obtain rfl := Except.ok.inj hok
  exact hkeep

theorem deriveCleanup_keeps {α : Type*} (read : Backing → α) (source : LeaseId)
    (hkeep : read ((b.retain .work).give (.object lease) (some .work)) = read b) :
    read (b.orSame (b.deriveCleanup source lease)) = read b := by
  refine orSame_keeps read fun b' hok => ?_
  unfold Backing.deriveCleanup at hok
  split_ifs at hok
  obtain rfl := Except.ok.inj hok
  exact hkeep

theorem setRegistered_keeps {α : Type*} (read : Backing → α) (value : Bool)
    (hkeep : read ({b with registered := value}.goto t (.finalizing none)) = read b) :
    read (b.orSame (b.setRegistered t value)) = read b := by
  refine orSame_keeps read fun b' hok => ?_
  unfold Backing.setRegistered at hok
  split_ifs at hok
  obtain rfl := Except.ok.inj hok
  exact hkeep

/-- No event opens an entity. -/
theorem next_not_opened {s : System} (h : s.backing.state ≠ .opened) (e : Event) :
    (next s e).backing.state ≠ .opened := by
  have hsame : ∀ {b' : Backing}, b'.state = s.backing.state → b'.state ≠ .opened := by
    intro b' hstate
    rw [hstate]
    exact h
  cases e with
  | acquire t kind lease => exact hsame (acquire_keeps (fun b => b.state) s.admission kind rfl)
  | prepareOperation t throws lease =>
    exact hsame (prepareOperation_keeps (fun b => b.state) s.admission throws rfl)
  | deriveCleanup t source lease =>
    exact hsame (deriveCleanup_keeps (fun b => b.state) source rfl)
  | moveConstruct t move => exact h
  | moveAssign t move =>
    refine hsame ?_
    show (s.backing.moveAssign t move).state = s.backing.state
    unfold Backing.moveAssign
    split
    · rfl
    · exact reset_state (some move)
  | reset t lease => exact hsame (reset_state none)
  | setRegistered t value => exact hsame (setRegistered_keeps (fun b => b.state) value rfl)
  | close t =>
    show (s.backing.close t).state ≠ .opened
    unfold Backing.close
    rw [if_pos h]
    exact h
  | stopAdmission => exact h
  | step t => exact step_state h t

/-- Nothing lets user work in again. -/
theorem Refusing.next {s : System} (h : Refusing s) (e : Event) : Refusing (next s e) := by
  rcases h with hadmission | hopened
  · left
    cases e with
    | stopAdmission => rfl
    | _ => exact hadmission
  · exact .inr (next_not_opened hopened e)

/-- An entity that refuses grants no lease. -/
theorem Refusing.refuses {s : System} (h : Refusing s) (throws : Bool) (kind : LeaseKind)
    (lease : LeaseId) :
    (∃ fault, s.backing.acquire s.admission kind lease = .error fault) ∧
      ∃ fault, s.backing.prepareOperation s.admission throws lease = .error fault := by
  unfold Backing.acquire Backing.prepareOperation
  rcases h with hadmission | hopened
  · rw [hadmission]
    exact ⟨⟨_, rfl⟩, ⟨_, rfl⟩⟩
  · cases s.admission with
    | false => exact ⟨⟨_, rfl⟩, ⟨_, rfl⟩⟩
    | true =>
      simp only [if_pos hopened]
      exact ⟨⟨_, rfl⟩, ⟨_, rfl⟩⟩

/-- A live work lease can be derived from. -/
theorem Sound.derives (h : Sound b) {source : LeaseId}
    (hlive : b.holds (.object source) = some .work) (lease : LeaseId) :
    b.deriveCleanup source lease =
      .ok ((b.retain .work).give (.object lease) (some .work)) := by
  have hpositive := h.leases.positive hlive
  have hbegun : b.destroyStarted ≠ true := by
    intro hstarted
    exact absurd (hlive.symm.trans ((h.life.begun hstarted).2.1 _)) (Option.some_ne_none _)
  unfold Backing.deriveCleanup
  rw [if_neg (not_not.mpr hlive),if_neg]
  rintro (hzero | hstarted)
  · exact Nat.ne_of_gt hpositive hzero
  · exact hbegun hstarted

end

/-- A new entity. -/
theorem sound_initial : Sound System.initial.backing := by
  refine ⟨⟨fun kind => Counts.none fun _ => Option.some_ne_none _ ∘ Eq.symm, fun _ => rfl, ?_, ?_⟩,
    ⟨?_, rfl, fun _ => rfl, ?_, ?_, ?_, ?_, ?_, ?_, ?_⟩⟩
  · intro _ _ hmove
    cases hmove
  · intro _ _ _ _ _ hmove
    cases hmove
  · intro hbegun
    cases hbegun
  · intro _ _ hpc
    cases hpc
  · intro _ _ hpc
    cases hpc
  · intro _ hdestroys
    cases hdestroys
  · intro _ _ hdestroys
    cases hdestroys
  · intro hbegun
    cases hbegun
  · intro hclosed
    cases hclosed
  · intro hclosing
    cases hclosing

/-- Every event keeps the invariant. -/
theorem Sound.next {s : System} {e : Event} (h : Sound s.backing) (henabled : Enabled s e) :
    Sound (next s e).backing := by
  cases e with
  | acquire t kind lease => exact h.acquire s.admission kind henabled.2
  | prepareOperation t throws lease => exact h.prepareOperation s.admission throws henabled.2
  | deriveCleanup t source lease => exact h.deriveCleanup source henabled.2.2
  | moveConstruct t move =>
    obtain ⟨-, hne, hsource, hvacant⟩ := henabled
    exact ⟨h.leases.transferred hne hsource hvacant, h.life.transferred hvacant.2⟩
  | moveAssign t move => exact h.moveAssign henabled.1 henabled.2.1 henabled.2.2
  | reset t lease => exact h.reset henabled.1
  | setRegistered t value => exact h.setRegistered henabled value
  | close t => exact h.close henabled
  | stopAdmission => exact h
  | step t => exact h.step t

/-- Every reachable backing is sound. -/
theorem run_sound {es : List Event} {s : System} (hrun : machine.Run System.initial es s) :
    Sound s.backing :=
  hrun.invariant (fun s => Sound s.backing) sound_initial fun _ _ h henabled _ => h.next henabled

/-- What refuses user work refuses it for ever. -/
theorem run_refusing {es : List Event} {s s' : System} (hrun : machine.Run s es s')
    (h : Refusing s) : Refusing s' :=
  hrun.invariant Refusing h fun _ e hrefusing _ _ => hrefusing.next e

/-- What the leases of an entity promise. -/
structure Protocol (s : System) : Prop where
  /-- The destructor begins once at most. -/
  once : s.backing.destructions ≤ 1
  /-- Never while somebody has a lease or the entity is registered. -/
  unused : 0 < s.backing.destructions →
    (∀ holder, s.backing.holds holder = none) ∧ s.backing.registered = false
  /-- Whoever has a lease is counted, while leases move and are derived. -/
  counted : ∀ holder kind, s.backing.holds holder = some kind → 0 < s.backing.refs kind
  /-- Without admission or an open entity no lease is granted, and never again. -/
  refused : s.admission = false ∨ s.backing.state ≠ .opened →
    ∀ es s', machine.Run s es s' → ∀ throws kind lease,
      (∃ fault, s'.backing.acquire s'.admission kind lease = .error fault) ∧
        ∃ fault, s'.backing.prepareOperation s'.admission throws lease = .error fault
  /-- A cleanup lease is derived from a live work lease, whatever the state. -/
  derived : ∀ source lease, s.backing.holds (.object source) = some .work →
    s.backing.deriveCleanup source lease =
      .ok ((s.backing.retain .work).give (.object lease) (some .work))
  /-- `Closed` is published after the destructor has finished. -/
  published : s.backing.state = .closed → s.backing.destructions = 1 ∧ s.backing.destroyed = 1
  /-- With no call in progress an unused entity does not stay `Closing`. -/
  settled : (∀ t, s.backing.pc t = .idle) →
    ¬ (s.backing.state = .closing ∧ (∀ holder, s.backing.holds holder = none) ∧
      s.backing.registered = false)

/-- Every interleaving keeps the lease protocol. -/
theorem lease_protocol {es : List Event} {s : System} (hrun : machine.Run System.initial es s) :
    Protocol s := by
  obtain ⟨hleases, hlife⟩ := run_sound hrun
  constructor
  · rw [hlife.destructions]
    exact Bool.toNat_le _
  · intro hdestructions
    cases hstarted : s.backing.destroyStarted with
    | false =>
      rw [hlife.destructions,hstarted] at hdestructions
      exact absurd hdestructions (Nat.lt_irrefl 0)
    | true => exact (hlife.begun hstarted).2
  · exact fun holder kind hholds => hleases.positive hholds
  · exact fun hrefusing es s' hmore throws kind lease =>
      (run_refusing hmore hrefusing).refuses throws kind lease
  · exact fun source lease hlive => (run_sound hrun).derives hlive lease
  · intro hclosed
    obtain ⟨hstarted, hdestroyed⟩ := hlife.closed hclosed
    refine ⟨?_, hdestroyed⟩
    rw [hlife.destructions,hstarted]
    rfl
  · rintro hquiet ⟨hclosing, hempty, hfree⟩
    cases hstarted : s.backing.destroyStarted with
    | false =>
      obtain ⟨t, ht⟩ := hlife.pending hclosing hstarted hfree hempty
      rw [hquiet t] at ht
      cases ht
    | true =>
      obtain ⟨t, ht⟩ := hlife.owner hstarted hclosing
      rw [hquiet t] at ht
      cases ht

/-- A work lease outlives `close` and is derived from; its cleanup lease is the last one. -/
def cleanupRun : List Event :=
  [.acquire 0 .work 0,.setRegistered 1 true,.step 1,.close 2,.step 2,.deriveCleanup 0 0 1,
    .setRegistered 1 false,.step 1,.reset 0 0,.step 0,.step 0,.moveConstruct 0 ⟨1,2⟩,
    .reset 0 2,.step 0,.step 0,.step 0,.step 0]

/-- The entity at the end of it. -/
def cleanupEnd : System := (machine.exec System.initial cleanupRun).getD System.initial

/-- The entity is closed then, and was destroyed once. -/
theorem lease_protocol_cleanup :
    cleanupEnd.backing.state = .closed ∧ cleanupEnd.backing.destructions = 1 ∧
      Protocol cleanupEnd := by
  have hexec : machine.exec System.initial cleanupRun = some cleanupEnd := by
    have hsome : (machine.exec System.initial cleanupRun).isSome = true := by decide +kernel
    obtain ⟨s, hs⟩ := Option.isSome_iff_exists.mp hsome
    rw [cleanupEnd,hs]
    rfl
  exact ⟨by decide +kernel, by decide +kernel, lease_protocol (Machine.run_of_exec hexec)⟩

end Dmw.EntityLeases
