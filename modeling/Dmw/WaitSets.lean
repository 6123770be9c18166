import Dmw.GuardedRuns
import Dmw.KeyedTable
import Mathlib.Logic.Function.Basic

/-!
# WaitSets and GuardConditions

Any number of threads trigger and close GuardConditions, change WaitSets and
wait on them. One event is one critical section, one atomic access or one
straight line of code between two of these. Waitables of other kinds take
part with whatever readiness and closing state the environment gives them.
-/

namespace Dmw.WaitSets

open KeyedTable GuardedRuns

/-- GuardConditions are numbered. -/
abbrev GuardId := ℕ

/-- WaitSet ids; 0 stands for none. -/
abbrev WaitSetId := ℕ

/-- Threads are numbered. -/
abbrev ThreadId := ℕ

/-- Registration objects are numbered in the order of their allocation. -/
abbrev Ref := ℕ

/-- Largest 64-bit generation. -/
def generationMax : ℕ := UInt64.size-1

/-- WaitSet and registration number of a `WaitableRegistration`. -/
structure Token where
  /-- The WaitSet. -/
  waitSetId : WaitSetId
  /-- The registration within it. -/
  registrationId : ℕ
  deriving DecidableEq

/-- State of one GuardCondition. -/
structure GuardConditionState where
  /-- Triggers so far. -/
  triggerGeneration : ℕ
  /-- Triggers consumed so far. -/
  consumedGeneration : ℕ
  /-- `close` has begun. -/
  closing : Bool
  /-- WaitSet and registration id, both 0 while unregistered. -/
  registered : Token
  /-- Registration the detach callback is bound to. -/
  detachCallback : Option Ref
  deriving DecidableEq

namespace GuardConditionState

/-- A new GuardCondition. -/
def initial : GuardConditionState := ⟨0,0,false,⟨0,0⟩,none⟩

/-- A trigger, unless the generations are exhausted. -/
def trigger (guard : GuardConditionState) : GuardConditionState :=
  if guard.triggerGeneration = generationMax then guard
  else {guard with triggerGeneration := guard.triggerGeneration+1}

/-- The claim of an unregistered GuardCondition. -/
def claim (token : Token) (ref : Ref) (guard : GuardConditionState) : GuardConditionState :=
  {guard with registered := token, detachCallback := some ref}

/-- Release by a registration, which does nothing under another one. -/
def release (token : Token) (guard : GuardConditionState) : GuardConditionState :=
  if guard.registered = token then {guard with registered := ⟨0,0⟩, detachCallback := none}
  else guard

/-- The token of the registration, if there is one. -/
def holder (guard : GuardConditionState) : Option Token :=
  if guard.registered.waitSetId = 0 then none else some guard.registered

end GuardConditionState

/-- What a registration is for. -/
inductive Waitable
  | guard (g : GuardId)
  /-- Subscriber, Client, Server, Event, Timer, GraphEvent or Action. -/
  | other
  deriving DecidableEq

/-- Where a registration stands. -/
inductive RegistrationPhase
  | attached
  | detaching
  | detached
  deriving DecidableEq

/-- One registration object. -/
structure Registration where
  /-- Its public token. -/
  token : Token
  /-- Its waitable. -/
  waitable : Waitable
  /-- Its phase. -/
  phase : RegistrationPhase
  deriving DecidableEq

/-- State of one WaitSet. -/
structure WaitSetState where
  /-- `close` has begun. -/
  closing : Bool
  /-- A native reconciliation failed or the generations are exhausted. -/
  poisoned : Bool
  /-- Topology changes so far. -/
  topologyGeneration : ℕ
  /-- Next registration id; 0 once they are exhausted. -/
  nextRegistrationId : ℕ
  /-- Registrations by id. -/
  registrations : Table ℕ Ref
  /-- A wait is active. -/
  waiting : Bool
  /-- Owner of the topology mutex. -/
  mutex : Option ThreadId

namespace WaitSetState

/-- A new WaitSet, its control condition attached. -/
def initial : WaitSetState := ⟨false,false,2,1,∅,false,none⟩

/-- Count a topology change; an exhausted counter poisons the WaitSet. -/
def noteTopologyMutation (waitSet : WaitSetState) : WaitSetState :=
  if waitSet.topologyGeneration = generationMax then {waitSet with poisoned := true}
  else {waitSet with topologyGeneration := waitSet.topologyGeneration+1}

/-- Why an `add` is refused before it starts. -/
def refusesAdd (waitSet : WaitSetState) : Bool :=
  waitSet.closing || waitSet.poisoned || waitSet.nextRegistrationId == 0

/-- Enter a registration under the next id. -/
def publish (ref : Ref) (waitSet : WaitSetState) : WaitSetState :=
  {waitSet with
    registrations := waitSet.registrations.insert waitSet.nextRegistrationId ref
    nextRegistrationId := (waitSet.nextRegistrationId+1)%UInt64.size}

/-- Erase a registration, unless its id stands for another one by now. -/
def erase (id : ℕ) (ref : Ref) (waitSet : WaitSetState) : WaitSetState :=
  if waitSet.registrations.lookup id = some ref then
    {waitSet with registrations := waitSet.registrations.erase id}
  else waitSet

end WaitSetState

/-- Progress of one iteration of `wait`. -/
structure Scan where
  /-- The WaitSet waited on. -/
  waitSetId : WaitSetId
  /-- Topology generation observed before the snapshot. -/
  observedTopology : ℕ
  /-- Snapshot registrations not visited yet. -/
  todo : List Ref
  /-- The ready list so far. -/
  ready : List Token
  deriving DecidableEq

/-- What a thread does after a detach. -/
inductive Resume
  /-- Return from `remove` or a GuardCondition's `close`. -/
  | leave
  /-- Go on with a WaitSet's `close`. -/
  | closeSet (w : WaitSetId)
  /-- Go on with a wait iteration. -/
  | scan (scan : Scan)
  deriving DecidableEq

/-- Next step of one thread. -/
inductive Pc
  | idle
  /-- `add`: topology mutex held, claim outstanding. -/
  | claiming (w : WaitSetId) (ref : Ref)
  /-- `add`: claimed, phase test and publication outstanding. -/
  | publishing (w : WaitSetId) (ref : Ref)
  /-- `add`: claimed in vain, release outstanding. -/
  | withdrawing (w : WaitSetId) (ref : Ref)
  /-- `add`: topology bump and unlock outstanding. -/
  | addLeaving (w : WaitSetId)
  /-- `detach` outstanding. -/
  | detaching (ref : Ref) (next : Resume)
  /-- `detach`: phase taken, release outstanding. -/
  | releasing (ref : Ref) (next : Resume)
  /-- `detach`: native detach failed, poisoning outstanding. -/
  | poisoning (ref : Ref) (next : Resume)
  /-- `detach`: released, erase outstanding. -/
  | erasing (ref : Ref) (next : Resume)
  /-- `detach`: final phase and topology bump outstanding. -/
  | detachLeaving (ref : Ref) (next : Resume)
  /-- GuardCondition `close`: flag set, detach callback outstanding. -/
  | closingGuard (g : GuardId)
  /-- WaitSet `close`: loop over the registrations. -/
  | closingSet (w : WaitSetId)
  /-- `wait`: top of the loop. -/
  | waiting (w : WaitSetId)
  /-- `wait`: admitted, topology to be observed. -/
  | checked (w : WaitSetId)
  /-- `wait`: topology observed, snapshot outstanding. -/
  | observed (w : WaitSetId) (topology : ℕ)
  /-- `wait`: next registration, or the topology test at the end. -/
  | scanning (scan : Scan)
  /-- `consume_trigger`: consumed generation loaded. -/
  | consuming (scan : Scan) (g : GuardId) (token : Token) (consumed : ℕ)
  /-- `consume_trigger`: generations differ, exchange outstanding. -/
  | exchanging (scan : Scan) (g : GuardId) (token : Token) (consumed triggered : ℕ)
  /-- `wait`: the ready list is final. -/
  | delivering (w : WaitSetId) (ready : List Token)
  /-- `wait`: return without a ready list. -/
  | waitLeaving (w : WaitSetId)
  deriving DecidableEq

/-- The step after a detach, by whether it succeeded. -/
def Resume.pc (detached : Bool) : Resume → Pc
  | .leave => .idle
  | .closeSet w => if detached then .closingSet w else .idle
  | .scan progress => .scanning progress

/-- All GuardConditions and WaitSets of a process and its threads. -/
structure System where
  /-- GuardConditions. -/
  guards : GuardId → GuardConditionState
  /-- WaitSets. -/
  waitSets : WaitSetId → WaitSetState
  /-- Registration objects. -/
  objects : Ref → Registration
  /-- Number of registration objects allocated so far. -/
  allocated : ℕ
  /-- Next step of every thread. -/
  pc : ThreadId → Pc
  /-- A trigger completed under the current registration, or was pending when
  it began, and no returned ready list has contained it since; history only. -/
  owed : GuardId → Bool

namespace System

/-- Nothing registered, nobody waiting. -/
def initial : System where
  guards := fun _ => GuardConditionState.initial
  waitSets := fun _ => WaitSetState.initial
  objects := fun _ => ⟨⟨0,0⟩,.other,.detached⟩
  allocated := 0
  pc := fun _ => .idle
  owed := fun _ => false

/-- Move one thread. -/
def goto (t : ThreadId) (next : Pc) (s : System) : System :=
  {s with pc := Function.update s.pc t next}

/-- Change one GuardCondition. -/
def setGuard (g : GuardId) (guard : GuardConditionState) (s : System) : System :=
  {s with guards := Function.update s.guards g guard}

/-- Change one WaitSet. -/
def setWaitSet (w : WaitSetId) (waitSet : WaitSetState) (s : System) : System :=
  {s with waitSets := Function.update s.waitSets w waitSet}

/-- Change the phase of one registration. -/
def setPhase (ref : Ref) (phase : RegistrationPhase) (s : System) : System :=
  {s with objects := Function.update s.objects ref {s.objects ref with phase := phase}}

/-- Record what is owed to a GuardCondition. -/
def setOwed (g : GuardId) (owed : Bool) (s : System) : System :=
  {s with owed := Function.update s.owed g owed}

/-- Release the waitable of a registration. -/
def release (ref : Ref) (s : System) : System :=
  match (s.objects ref).waitable with
  | .guard g => s.setGuard g ((s.guards g).release (s.objects ref).token)
  | .other => s

/-- Count a topology change of one WaitSet. -/
def noteTopologyMutation (w : WaitSetId) (s : System) : System :=
  s.setWaitSet w (s.waitSets w).noteTopologyMutation

/-- Release a WaitSet's topology mutex. -/
def unlock (w : WaitSetId) (s : System) : System :=
  s.setWaitSet w {s.waitSets w with mutex := none}

/-- Registrations in phase Attached. -/
def attached (w : WaitSetId) (s : System) : List Ref :=
  ((s.waitSets w).registrations.entries.map (·.2)).filter fun ref => (s.objects ref).phase = .attached

end System

/-- `GuardConditionState::trigger`. -/
def trigger (g : GuardId) (s : System) : System :=
  if (s.guards g).triggerGeneration = generationMax then s
  else (s.setGuard g (s.guards g).trigger).setOwed g true

/-- `add` up to the claim. -/
def addBegin (t : ThreadId) (w : WaitSetId) (waitable : Waitable) (s : System) : System :=
  let waitSet := s.waitSets w
  if waitSet.refusesAdd then s
  else
    {(s.setWaitSet w {waitSet with mutex := some t}).goto t (.claiming w s.allocated) with
      objects := Function.update s.objects s.allocated
        ⟨⟨w,waitSet.nextRegistrationId⟩,waitable,.attached⟩
      allocated := s.allocated+1}

/-- `Registration::claim`; claims of other waitables end as they may. -/
def addClaim (t : ThreadId) (w : WaitSetId) (ref : Ref) (claimed : Bool) (s : System) : System :=
  match (s.objects ref).waitable with
  | .guard g =>
    let guard := s.guards g
    if guard.closing || guard.registered.waitSetId != 0 then s.goto t (.addLeaving w)
    else
      ((s.setGuard g (guard.claim (s.objects ref).token ref)).setOwed g
        (guard.triggerGeneration ≠ guard.consumedGeneration)).goto t (.publishing w ref)
  | .other => s.goto t (if claimed then .publishing w ref else .addLeaving w)

/-- Phase test and publication; `threw` is a failed map insertion. -/
def addPublish (t : ThreadId) (w : WaitSetId) (ref : Ref) (threw : Bool) (s : System) : System :=
  if (s.objects ref).phase ≠ .attached || threw then s.goto t (.withdrawing w ref)
  else (s.setWaitSet w ((s.waitSets w).publish ref)).goto t (.addLeaving w)

/-- Release after a claim in vain. -/
def addWithdraw (t : ThreadId) (w : WaitSetId) (ref : Ref) (s : System) : System :=
  (s.release ref).goto t (.addLeaving w)

/-- Topology bump and unlock at the end of `add`. -/
def addLeave (t : ThreadId) (w : WaitSetId) (s : System) : System :=
  ((s.noteTopologyMutation w).unlock w).goto t .idle

/-- `remove` up to its detach. -/
def removeBegin (t : ThreadId) (w : WaitSetId) (id : ℕ) (s : System) : System :=
  match (s.waitSets w).registrations.lookup id with
  | none => s
  | some ref => s.goto t (.detaching ref .leave)

/-- `detach` takes the phase, once. -/
def detachBegin (t : ThreadId) (ref : Ref) (next : Resume) (s : System) : System :=
  if (s.objects ref).phase = .attached then
    (s.setPhase ref .detaching).goto t (.releasing ref next)
  else s.goto t (next.pc false)

/-- The release; it only fails for native conditions. -/
def detachRelease (t : ThreadId) (ref : Ref) (next : Resume) (failed : Bool) (s : System) : System :=
  if failed && (s.objects ref).waitable = .other then
    (s.setPhase ref .attached).goto t (.poisoning ref next)
  else (s.release ref).goto t (.erasing ref next)

/-- A failed detach poisons the WaitSet. -/
def detachPoison (t : ThreadId) (ref : Ref) (next : Resume) (s : System) : System :=
  let w := (s.objects ref).token.waitSetId
  ((s.setWaitSet w {s.waitSets w with poisoned := true}).noteTopologyMutation w).goto t
    (next.pc false)

/-- The registration leaves its WaitSet. -/
def detachErase (t : ThreadId) (ref : Ref) (next : Resume) (s : System) : System :=
  let token := (s.objects ref).token
  (s.setWaitSet token.waitSetId ((s.waitSets token.waitSetId).erase token.registrationId ref)).goto t
    (.detachLeaving ref next)

/-- Final phase and topology bump. -/
def detachLeave (t : ThreadId) (ref : Ref) (next : Resume) (s : System) : System :=
  ((s.setPhase ref .detached).noteTopologyMutation (s.objects ref).token.waitSetId).goto t
    (next.pc true)

/-- `GuardConditionState::close` up to its detach callback. -/
def closeGuard (t : ThreadId) (g : GuardId) (s : System) : System :=
  (s.setGuard g {s.guards g with closing := true}).goto t (.closingGuard g)

/-- The detach callback, if there is one. -/
def detachCallback (t : ThreadId) (g : GuardId) (s : System) : System :=
  match (s.guards g).detachCallback with
  | none => s.goto t .idle
  | some ref => s.goto t (.detaching ref .leave)

/-- `WaitSetState::close` up to its loop. -/
def closeSet (t : ThreadId) (w : WaitSetId) (s : System) : System :=
  if (s.waitSets w).closing then s
  else (s.setWaitSet w {s.waitSets w with closing := true}).goto t (.closingSet w)

/-- One turn of the closing loop. -/
def closeTurn (t : ThreadId) (w : WaitSetId) (s : System) : System :=
  match (s.waitSets w).registrations.entries with
  | [] => s.goto t .idle
  | entry :: _ => s.goto t (.detaching entry.2 (.closeSet w))

/-- `begin_wait`. -/
def waitBegin (t : ThreadId) (w : WaitSetId) (s : System) : System :=
  let waitSet := s.waitSets w
  if waitSet.closing || waitSet.poisoned || waitSet.waiting then s
  else (s.setWaitSet w {waitSet with waiting := true}).goto t (.waiting w)

/-- Repair, shutdown and closing tests at the top of the loop. -/
def waitCheck (t : ThreadId) (w : WaitSetId) (refused : Bool) (s : System) : System :=
  s.goto t (if refused || (s.waitSets w).closing then .waitLeaving w else .checked w)

/-- The topology generation is observed before the snapshot. -/
def observe (t : ThreadId) (w : WaitSetId) (s : System) : System :=
  s.goto t (.observed w (s.waitSets w).topologyGeneration)

/-- The visit of the next registration up to its first atomic access; closing
state and readiness of other waitables come from the environment. -/
def visit (t : ThreadId) (scan : Scan) (ref : Ref) (closing ready : Bool) (s : System) : System :=
  match (s.objects ref).waitable with
  | .guard g =>
    if (s.guards g).closing then s.goto t (.detaching ref (.scan scan))
    else s.goto t (.consuming scan g (s.objects ref).token (s.guards g).consumedGeneration)
  | .other =>
    if closing then s.goto t (.detaching ref (.scan scan))
    else if ready then
      s.goto t (.scanning {scan with ready := scan.ready ++ [(s.objects ref).token]})
    else s.goto t (.scanning scan)

/-- `consume_trigger` loads the trigger generation and compares. -/
def compare (t : ThreadId) (scan : Scan) (g : GuardId) (token : Token) (consumed : ℕ) (s : System) :
    System :=
  let triggered := (s.guards g).triggerGeneration
  if consumed = triggered then s.goto t (.scanning scan)
  else s.goto t (.exchanging scan g token consumed triggered)

/-- The exchange of the consumed generation, which may also fail spuriously. -/
def exchange (t : ThreadId) (scan : Scan) (g : GuardId) (token : Token) (consumed triggered : ℕ)
    (spurious : Bool) (s : System) : System :=
  let guard := s.guards g
  if !spurious && guard.consumedGeneration = consumed then
    (s.setGuard g {guard with consumedGeneration := triggered}).goto t
      (.scanning {scan with ready := scan.ready ++ [token]})
  else s.goto t (.consuming scan g token guard.consumedGeneration)

/-- What an iteration with nothing ready does. -/
inductive Rest
  /-- Poll, or deadline passed. -/
  | timeout
  /-- The native wait fails. -/
  | failed
  /-- Woken, or to be evaluated again. -/
  | again
  deriving DecidableEq

/-- The topology test and the decisions after it. -/
def decideReady (t : ThreadId) (scan : Scan) (rest : Rest) (s : System) : System :=
  if (s.waitSets scan.waitSetId).topologyGeneration ≠ scan.observedTopology then
    s.goto t (.waiting scan.waitSetId)
  else if scan.ready ≠ [] then s.goto t (.delivering scan.waitSetId scan.ready)
  else s.goto t (if rest = .again then .waiting scan.waitSetId else .waitLeaving scan.waitSetId)

/-- What a returned ready list settles. -/
def settle (ready : List Token) (s : System) : GuardId → Bool :=
  fun g => s.owed g && !((s.guards g).holder.any (· ∈ ready))

/-- `wait` returns its ready list. -/
def deliver (t : ThreadId) (w : WaitSetId) (ready : List Token) (s : System) : System :=
  {(s.setWaitSet w {s.waitSets w with waiting := false}).goto t .idle with owed := settle ready s}

/-- `wait` returns without one. -/
def waitLeave (t : ThreadId) (w : WaitSetId) (s : System) : System :=
  (s.setWaitSet w {s.waitSets w with waiting := false}).goto t .idle

/-- A reader's condition or an interest changes, or the control guard is
repaired; a failed reconciliation poisons the WaitSet. -/
def mutate (w : WaitSetId) (failed : Bool) (s : System) : System :=
  (s.setWaitSet w {s.waitSets w with
    poisoned := (s.waitSets w).poisoned || failed}).noteTopologyMutation w

/-- One atomic event. -/
inductive Event
  | trigger (g : GuardId)
  | addBegin (t : ThreadId) (w : WaitSetId) (waitable : Waitable)
  | addClaim (t : ThreadId) (w : WaitSetId) (ref : Ref) (claimed : Bool)
  | addPublish (t : ThreadId) (w : WaitSetId) (ref : Ref) (threw : Bool)
  | addWithdraw (t : ThreadId) (w : WaitSetId) (ref : Ref)
  | addLeave (t : ThreadId) (w : WaitSetId)
  | removeBegin (t : ThreadId) (w : WaitSetId) (id : ℕ)
  | detachBegin (t : ThreadId) (ref : Ref) (next : Resume)
  | detachRelease (t : ThreadId) (ref : Ref) (next : Resume) (failed : Bool)
  | detachPoison (t : ThreadId) (ref : Ref) (next : Resume)
  | detachErase (t : ThreadId) (ref : Ref) (next : Resume)
  | detachLeave (t : ThreadId) (ref : Ref) (next : Resume)
  | closeGuard (t : ThreadId) (g : GuardId)
  | detachCallback (t : ThreadId) (g : GuardId)
  | closeSet (t : ThreadId) (w : WaitSetId)
  | closeTurn (t : ThreadId) (w : WaitSetId)
  | waitBegin (t : ThreadId) (w : WaitSetId)
  | waitCheck (t : ThreadId) (w : WaitSetId) (refused : Bool)
  | observe (t : ThreadId) (w : WaitSetId)
  | snapshot (t : ThreadId) (w : WaitSetId) (topology : ℕ) (order : List Ref)
  | visit (t : ThreadId) (scan : Scan) (ref : Ref) (closing ready : Bool)
  | compare (t : ThreadId) (scan : Scan) (g : GuardId) (token : Token) (consumed : ℕ)
  | exchange (t : ThreadId) (scan : Scan) (g : GuardId) (token : Token) (consumed triggered : ℕ)
      (spurious : Bool)
  | decideReady (t : ThreadId) (scan : Scan) (rest : Rest)
  | deliver (t : ThreadId) (w : WaitSetId) (ready : List Token)
  | waitLeave (t : ThreadId) (w : WaitSetId)
  | mutate (w : WaitSetId) (failed : Bool)

/-- The topology mutex is free. -/
def free (s : System) (w : WaitSetId) : Prop := (s.waitSets w).mutex = none

/-- The acting thread stands at the event's step and gets the mutex it needs. -/
def enabled (s : System) : Event → Prop
  | .trigger _ => True
  | .addBegin t w _ => s.pc t = .idle ∧ w ≠ 0 ∧ free s w
  | .addClaim t w ref _ => s.pc t = .claiming w ref
  | .addPublish t w ref _ => s.pc t = .publishing w ref
  | .addWithdraw t w ref => s.pc t = .withdrawing w ref
  | .addLeave t w => s.pc t = .addLeaving w
  | .removeBegin t w _ => s.pc t = .idle ∧ free s w
  | .detachBegin t ref next => s.pc t = .detaching ref next
  | .detachRelease t ref next _ => s.pc t = .releasing ref next
  | .detachPoison t ref next => s.pc t = .poisoning ref next ∧ free s (s.objects ref).token.waitSetId
  | .detachErase t ref next => s.pc t = .erasing ref next ∧ free s (s.objects ref).token.waitSetId
  | .detachLeave t ref next => s.pc t = .detachLeaving ref next
  | .closeGuard t _ => s.pc t = .idle
  | .detachCallback t g => s.pc t = .closingGuard g
  | .closeSet t w => s.pc t = .idle ∧ free s w
  | .closeTurn t w => s.pc t = .closingSet w ∧ free s w
  | .waitBegin t w => s.pc t = .idle ∧ free s w
  | .waitCheck t w _ => s.pc t = .waiting w ∧ free s w
  | .observe t w => s.pc t = .checked w
  | .snapshot t w topology order =>
    s.pc t = .observed w topology ∧ free s w ∧ order.Perm (s.attached w)
  | .visit t scan ref _ _ => s.pc t = .scanning {scan with todo := ref :: scan.todo}
  | .compare t scan g token consumed => s.pc t = .consuming scan g token consumed
  | .exchange t scan g token consumed triggered _ =>
    s.pc t = .exchanging scan g token consumed triggered
  | .decideReady t scan _ => s.pc t = .scanning scan ∧ scan.todo = []
  | .deliver t w ready => s.pc t = .delivering w ready ∧ free s w
  | .waitLeave t w => s.pc t = .waitLeaving w ∧ free s w
  | .mutate .. => True

/-- Effect of an enabled event. -/
def next (s : System) : Event → System
  | .trigger g => trigger g s
  | .addBegin t w waitable => addBegin t w waitable s
  | .addClaim t w ref claimed => addClaim t w ref claimed s
  | .addPublish t w ref threw => addPublish t w ref threw s
  | .addWithdraw t w ref => addWithdraw t w ref s
  | .addLeave t w => addLeave t w s
  | .removeBegin t w id => removeBegin t w id s
  | .detachBegin t ref next => detachBegin t ref next s
  | .detachRelease t ref next failed => detachRelease t ref next failed s
  | .detachPoison t ref next => detachPoison t ref next s
  | .detachErase t ref next => detachErase t ref next s
  | .detachLeave t ref next => detachLeave t ref next s
  | .closeGuard t g => closeGuard t g s
  | .detachCallback t g => detachCallback t g s
  | .closeSet t w => closeSet t w s
  | .closeTurn t w => closeTurn t w s
  | .waitBegin t w => waitBegin t w s
  | .waitCheck t w refused => waitCheck t w refused s
  | .observe t w => observe t w s
  | .snapshot t w topology order => s.goto t (.scanning ⟨w,topology,order,[]⟩)
  | .visit t scan ref closing ready => visit t scan ref closing ready s
  | .compare t scan g token consumed => compare t scan g token consumed s
  | .exchange t scan g token consumed triggered spurious =>
    exchange t scan g token consumed triggered spurious s
  | .decideReady t scan rest => decideReady t scan rest s
  | .deliver t w ready => deliver t w ready s
  | .waitLeave t w => waitLeave t w s
  | .mutate w failed => mutate w failed s

instance (s : System) (w : WaitSetId) : Decidable (free s w) := inferInstanceAs (Decidable (_ = _))

instance (s : System) : (e : Event) → Decidable (enabled s e)
  | .trigger _ | .mutate .. => isTrue trivial
  | .addBegin .. => inferInstanceAs (Decidable (_ ∧ _ ≠ _ ∧ free _ _))
  | .snapshot .. => inferInstanceAs (Decidable (_ ∧ free _ _ ∧ _))
  | .removeBegin .. | .detachPoison .. | .detachErase .. | .closeSet .. | .closeTurn ..
  | .waitBegin .. | .waitCheck .. | .deliver .. | .waitLeave .. =>
    inferInstanceAs (Decidable (_ ∧ free _ _))
  | .decideReady .. => inferInstanceAs (Decidable (_ ∧ _ = _))
  | .addClaim .. | .addPublish .. | .addWithdraw .. | .addLeave .. | .detachBegin ..
  | .detachRelease .. | .detachLeave .. | .closeGuard .. | .detachCallback .. | .observe ..
  | .visit .. | .compare .. | .exchange .. => inferInstanceAs (Decidable (_ = _))

/-- WaitSets, GuardConditions and their threads. -/
def machine : Machine System Event where
  enabled := enabled
  next := next
  decidableEnabled := inferInstance

/-- The acting thread of an event; a trigger and a change of conditions may
come from any. -/
def Event.thread : Event → Option ThreadId
  | .trigger _ | .mutate .. => none
  | .addBegin t .. | .addClaim t .. | .addPublish t .. | .addWithdraw t .. | .addLeave t ..
  | .removeBegin t .. | .detachBegin t .. | .detachRelease t .. | .detachPoison t ..
  | .detachErase t .. | .detachLeave t .. | .closeGuard t _ | .detachCallback t _ | .closeSet t _
  | .closeTurn t _ | .waitBegin t _ | .waitCheck t .. | .observe t _ | .snapshot t ..
  | .visit t .. | .compare t .. | .exchange t .. | .decideReady t .. | .deliver t ..
  | .waitLeave t _ => some t

/-- Moving one thread moves no other. -/
theorem goto_pc_ne {s : System} {t u : ThreadId} {next : Pc} (hne : some u ≠ some t) :
    (s.goto t next).pc u = s.pc u :=
  Function.update_of_ne (fun heq => hne (congrArg some heq)) ..

/-- A release moves nobody. -/
theorem release_pc (s : System) (ref : Ref) : (s.release ref).pc = s.pc := by
  unfold System.release
  split <;> rfl

/-- An event moves its own thread only. -/
theorem next_pc_ne {s : System} {e : Event} {u : ThreadId} (hne : some u ≠ e.thread) :
    (next s e).pc u = s.pc u := by
  cases e with
  | trigger g =>
    simp only [next, trigger]
    split <;> rfl
  | addBegin t w waitable =>
    simp only [next, addBegin]
    split
    · rfl
    · exact goto_pc_ne hne
  | addClaim t w ref claimed =>
    simp only [next, addClaim]
    split
    · split <;> exact goto_pc_ne hne
    · exact goto_pc_ne hne
  | addPublish t w ref threw =>
    simp only [next, addPublish]
    split <;> exact goto_pc_ne hne
  | addWithdraw t w ref => exact (goto_pc_ne hne).trans (congrFun (release_pc s ref) u)
  | removeBegin t w id =>
    simp only [next, removeBegin]
    split
    · rfl
    · exact goto_pc_ne hne
  | detachBegin t ref next =>
    simp only [WaitSets.next, detachBegin]
    split <;> exact goto_pc_ne hne
  | detachRelease t ref next failed =>
    simp only [WaitSets.next, detachRelease]
    split
    · exact goto_pc_ne hne
    · exact (goto_pc_ne hne).trans (congrFun (release_pc s ref) u)
  | detachCallback t g =>
    simp only [next, detachCallback]
    split <;> exact goto_pc_ne hne
  | closeSet t w =>
    simp only [next, closeSet]
    split
    · rfl
    · exact goto_pc_ne hne
  | closeTurn t w =>
    simp only [next, closeTurn]
    split <;> exact goto_pc_ne hne
  | waitBegin t w =>
    simp only [next, waitBegin]
    split
    · rfl
    · exact goto_pc_ne hne
  | visit t scan ref closing ready =>
    simp only [next, visit]
    split
    · split <;> exact goto_pc_ne hne
    · split
      · exact goto_pc_ne hne
      · split <;> exact goto_pc_ne hne
  | compare t scan g token consumed =>
    simp only [next, WaitSets.compare]
    split <;> exact goto_pc_ne hne
  | exchange t scan g token consumed triggered spurious =>
    simp only [next, exchange]
    split <;> exact goto_pc_ne hne
  | decideReady t scan rest =>
    simp only [next, decideReady]
    split
    · exact goto_pc_ne hne
    · split <;> exact goto_pc_ne hne
  | mutate w failed => rfl
  | _ => exact goto_pc_ne hne

/-- A thread that does not act stays where it is. -/
theorem exec_pc_ne {s s' : System} {es : List Event} {u : ThreadId}
    (hexec : machine.exec s es = some s') (hne : ∀ e ∈ es, some u ≠ e.thread) :
    s'.pc u = s.pc u := by
  refine Machine.exec_keeps (fun s => s.pc u) ?_ hexec
  intro _ e he
  exact next_pc_ne (hne e he)

end Dmw.WaitSets
