import Dmw.GuardedRuns
import Dmw.WaitSetAdd

/-!
# Native conditions of readers

Any number of WaitSets register endpoints made of readers while capacity,
interest and lifetime of the readers change. Every section of a mutex and every
access of an atomic outside of one is an event; a call that has to wait for a
mutex or for a claim is not enabled. Native conditions are attached and detached
without failure, a registration has an identity of its own instead of its pair
of ids, and an endpoint is always added with the same readers.
-/

namespace Dmw.ReaderConditions

open GuardedRuns
open WaitSetAdd (RegistrationPhase)

/-- Calls are numbered. -/
abbrev CallId := ℕ

/-- WaitSets are numbered. -/
abbrev WaitSetId := ℕ

/-- Endpoints are numbered. -/
abbrev EndpointId := ℕ

/-- Registrations are numbered in the order of their adds. -/
abbrev RegistrationId := ℕ

/-- `WaitableKind`. -/
inductive WaitableKind
  | subscriber
  | client
  | server
  | timer
  | actionClient
  | actionServer
  | event
  | graphEvent
  | guardCondition
  deriving DecidableEq

/-- Set of sub-channels. -/
abbrev Mask := BitVec 32

/-- `kWaitableReadyBit`. -/
def kWaitableReadyBit : Mask := 1

/-- The bits of an action client, by reader. -/
def actionClientBits : List Mask := [1,2,4,8,16]

/-- The bits of an action server, by reader. -/
def actionServerBits : List Mask := [1,2,4]

/-- `kActionGoalExpiredBit`. -/
def kActionGoalExpiredBit : Mask := 8

/-- The bits that interest in an action server may have. -/
def allowed : Mask := 1 ||| 2 ||| 4 ||| kActionGoalExpiredBit

/-- `reader_detail_bit`. -/
def readerDetailBit : WaitableKind → ℕ → Mask
  | .actionClient, index => actionClientBits.getD index kWaitableReadyBit
  | .actionServer, index => actionServerBits.getD index kWaitableReadyBit
  | _, _ => kWaitableReadyBit

/-- What an endpoint is added with. -/
structure Endpoint where
  /-- Its kind. -/
  kind : WaitableKind
  /-- Number of its readers. -/
  size : ℕ

/-- A reader, by its endpoint and its index there. -/
structure ReaderId where
  /-- The endpoint. -/
  endpoint : EndpointId
  /-- The index. -/
  index : ℕ
  deriving DecidableEq

/-- `ReaderWaitState`. -/
structure ReaderWaitState where
  /-- `closing`. -/
  closing : Bool
  /-- `blocking_enabled`. -/
  blockingEnabled : Bool
  /-- Owner of `callback_mutex` beyond an event: a call that waits for it again. -/
  callbackMutex : Option CallId
  /-- `claim_in_progress`, with the call that set it. -/
  claim : Option CallId
  /-- `wait_set_id` and `registration_id`. -/
  registration : Option RegistrationId
  /-- Registration that `detach_callback` detaches. -/
  detachCallback : Option RegistrationId
  /-- Registration that `topology_callback` reconciles. -/
  topologyCallback : Option RegistrationId

/-- A reader as it is constructed. -/
def ReaderWaitState.fresh : ReaderWaitState where
  closing := false
  blockingEnabled := true
  callbackMutex := none
  claim := none
  registration := none
  detachCallback := none
  topologyCallback := none

/-- How far a registration has come; history only. -/
inductive Stage
  | unissued
  /-- This call claims and attaches its readers. -/
  | claimed (t : CallId)
  /-- This call publishes it. -/
  | published (t : CallId)
  /-- Its add is over. -/
  | settled
  deriving DecidableEq

/-- `Registration`. -/
structure Registration where
  /-- Its WaitSet. -/
  waitSet : WaitSetId
  /-- Its endpoint. -/
  endpoint : EndpointId
  /-- `phase`. -/
  phase : RegistrationPhase
  /-- `interest`. -/
  interest : Mask
  /-- The entries of `reader_conditions` that are attached. -/
  readerConditions : ℕ → Bool
  /-- Owner of `conditions_mutex`. -/
  conditionsMutex : Option CallId
  /-- It is in `registrations_`. -/
  listed : Bool
  /-- How far it has come; history only. -/
  stage : Stage

/-- A registration as it is constructed. -/
def Registration.fresh (w : WaitSetId) (e : EndpointId) (stage : Stage) : Registration where
  waitSet := w
  endpoint := e
  phase := .attached
  interest := BitVec.allOnes 32
  readerConditions := fun _ => false
  conditionsMutex := none
  listed := false
  stage := stage

/-- Who releases a registration. -/
inductive Caller
  | remove
  | close
  /-- The detachment of a claim that found a closing reader. -/
  | rollback
  /-- The end of an add that was detached meanwhile. -/
  | add
  deriving DecidableEq

/-- Next step of a call. -/
inductive Pc
  | idle
  /-- `claim`, at a reader. -/
  | claiming (r : RegistrationId) (k : ℕ)
  /-- `clear_reader_claims` at a reader, while `claim` has locked reader `k`. -/
  | rejecting (r : RegistrationId) (k j : ℕ)
  /-- `clear_reader_claims` after the attachment failed, at a reader. -/
  | clearing (r : RegistrationId) (k : ℕ)
  /-- `attach_reader_conditions`, at a reader. -/
  | attaching (r : RegistrationId) (k : ℕ)
  /-- `attach_single_reader_condition`, before its section. -/
  | attachingNative (r : RegistrationId) (k : ℕ)
  /-- `detach_attached_reader_conditions`. -/
  | unattaching (r : RegistrationId)
  /-- The second loop of `claim`, at a reader. -/
  | publishing (r : RegistrationId) (k : ℕ) (closed : Bool)
  /-- Before `add` looks at the phase. -/
  | checking (r : RegistrationId)
  /-- The loop that installs the topology callbacks. -/
  | installing (r : RegistrationId) (k : ℕ)
  /-- Before the registration is stored. -/
  | listing (r : RegistrationId)
  /-- `detach`, before the exchange of the phase. -/
  | detaching (r : RegistrationId) (caller : Caller)
  /-- Before `conditions_mutex`. -/
  | locking (r : RegistrationId) (caller : Caller)
  /-- `release`, at a reader. -/
  | releasing (r : RegistrationId) (k : ℕ) (caller : Caller)
  /-- Before the second section for a reader. -/
  | clearingReader (r : RegistrationId) (k : ℕ) (caller : Caller)
  /-- Before the registration is erased. -/
  | erasing (r : RegistrationId) (caller : Caller)
  /-- Before the phase is `Detached`. -/
  | finishing (r : RegistrationId) (caller : Caller)
  /-- `close` of a reader, waiting for a claim. -/
  | waiting (x : ReaderId)
  /-- `set_blocking_enabled`, before it copies the callback. -/
  | copying (x : ReaderId)
  /-- `set_reader_blocking`, before `conditions_mutex`. -/
  | calling (r : RegistrationId) (k : ℕ)
  /-- `set_interest`, before `conditions_mutex`. -/
  | interesting (r : RegistrationId) (mask : Mask)
  /-- `reconcile_reader_condition`; `set_interest` goes on with the next reader. -/
  | deciding (r : RegistrationId) (k : ℕ) (all : Bool)
  /-- Before `attach_single_reader_condition` looks at the flags. -/
  | rechecking (r : RegistrationId) (k : ℕ) (all : Bool)
  /-- Before its section. -/
  | fixing (r : RegistrationId) (k : ℕ) (all : Bool)
  /-- Before the WaitSet is poisoned. -/
  | poisoning (r : RegistrationId)
  deriving DecidableEq

/-- WaitSets, readers and calls. -/
structure System where
  /-- The readers. -/
  readers : ReaderId → ReaderWaitState
  /-- The registrations. -/
  registrations : RegistrationId → Registration
  /-- Number of the next registration. -/
  nextRegistration : RegistrationId
  /-- Owner of each `mutex_`. -/
  mutex : WaitSetId → Option CallId
  /-- `poisoned_`. -/
  poisoned : WaitSetId → Bool
  /-- The calls. -/
  pc : CallId → Pc

namespace System

/-- Nothing is registered. -/
def initial : System where
  readers := fun _ => .fresh
  registrations := fun _ => .fresh 0 0 .unissued
  nextRegistration := 0
  mutex := fun _ => none
  poisoned := fun _ => false
  pc := fun _ => .idle

/-- Move one call. -/
def goto (t : CallId) (p : Pc) (s : System) : System :=
  {s with pc := Function.update s.pc t p}

/-- Change one reader. -/
def setReader (x : ReaderId) (f : ReaderWaitState → ReaderWaitState) (s : System) : System :=
  {s with readers := Function.update s.readers x (f (s.readers x))}

/-- Change one registration. -/
def setRegistration (r : RegistrationId) (f : Registration → Registration) (s : System) : System :=
  {s with registrations := Function.update s.registrations r (f (s.registrations r))}

/-- Change the owner of a `mutex_`. -/
def setMutex (w : WaitSetId) (owner : Option CallId) (s : System) : System :=
  {s with mutex := Function.update s.mutex w owner}

section Accessors

variable (t : CallId) (p : Pc) (x : ReaderId) (r : RegistrationId) (w : WaitSetId)
variable (f : ReaderWaitState → ReaderWaitState) (g : Registration → Registration)
variable (owner : Option CallId) (s : System)

@[simp] theorem goto_readers : (s.goto t p).readers = s.readers := rfl

@[simp] theorem goto_registrations : (s.goto t p).registrations = s.registrations := rfl

@[simp] theorem goto_pc : (s.goto t p).pc = Function.update s.pc t p := rfl

@[simp] theorem setReader_readers :
    (s.setReader x f).readers = Function.update s.readers x (f (s.readers x)) := rfl

@[simp] theorem setRegistration_registrations :
    (s.setRegistration r g).registrations =
      Function.update s.registrations r (g (s.registrations r)) := rfl

@[simp] theorem setMutex_registrations : (s.setMutex w owner).registrations = s.registrations := rfl

end Accessors

/-- A reader of the endpoint of a registration. -/
def reader (r : RegistrationId) (k : ℕ) (s : System) : ReaderId :=
  ⟨(s.registrations r).endpoint,k⟩

/-- The add of a registration fails. -/
def failAdd (t : CallId) (r : RegistrationId) (s : System) : System :=
  ((s.setMutex (s.registrations r).waitSet none).setRegistration r
    fun reg => {reg with stage := .settled}).goto t .idle

/-- A condition is attached or detached. -/
def setCondition (r : RegistrationId) (k : ℕ) (attached : Bool) (s : System) : System :=
  s.setRegistration r fun reg =>
    {reg with readerConditions := Function.update reg.readerConditions k attached}

/-- `conditions_mutex` is unlocked. -/
def unlock (r : RegistrationId) (s : System) : System :=
  s.setRegistration r fun reg => {reg with conditionsMutex := none}

/-- A detachment returns to its caller. -/
def leaveDetach (t : CallId) (r : RegistrationId) (caller : Caller) (s : System) : System :=
  match caller with
  | .rollback => s.failAdd t r
  | _ => s.goto t .idle

/-- `clear_reader_claims` begins while the lock of a reader is held. -/
def rejectClaim (t : CallId) (r : RegistrationId) (k : ℕ) (s : System) : System :=
  (s.setReader (s.reader r k) fun reader => {reader with callbackMutex := some t}).goto t
    (.rejecting r k 0)

/-- A claim marker is dropped. -/
def dropClaim (r : RegistrationId) (k : ℕ) (s : System) : System :=
  s.setReader (s.reader r k) fun reader => {reader with claim := none}

end System

section Steps

variable (endpoints : EndpointId → Endpoint)

namespace System

/-- Number of readers of a registration. -/
def size (r : RegistrationId) (s : System) : ℕ := (endpoints (s.registrations r).endpoint).size

/-- `reader_interested`. -/
def interested (r : RegistrationId) (k : ℕ) (s : System) : Bool :=
  decide ((s.registrations r).interest &&&
    readerDetailBit (endpoints (s.registrations r).endpoint).kind k ≠ 0)

/-- `add` up to the claim. -/
def add (t : CallId) (w : WaitSetId) (e : EndpointId) (s : System) : System :=
  if (endpoints e).size = 0 ∨ s.poisoned w = true then s
  else
    {((s.setRegistration s.nextRegistration fun _ => .fresh w e (.claimed t)).setMutex w
      (some t)).goto t (.claiming s.nextRegistration 0) with
      nextRegistration := s.nextRegistration+1}

/-- One reader of the first loop of `claim`. -/
def claim (t : CallId) (r : RegistrationId) (k : ℕ) (s : System) : System :=
  let x := s.reader r k
  if k < s.size endpoints r then
    if (s.readers x).closing then s.rejectClaim t r k
    else if (s.readers x).registration ≠ none ∨ (s.readers x).claim ≠ none then s.rejectClaim t r k
    else (s.setReader x fun reader => {reader with claim := some t}).goto t (.claiming r (k+1))
  else s.goto t (.attaching r 0)

/-- One reader of `clear_reader_claims`, where `claim` has locked one. -/
def reject (t : CallId) (r : RegistrationId) (k j : ℕ) (s : System) : System :=
  (s.dropClaim r j).goto t (.rejecting r k (j+1))

/-- One reader of `clear_reader_claims`. -/
def clearClaim (t : CallId) (r : RegistrationId) (k : ℕ) (s : System) : System :=
  if k < s.size endpoints r then (s.dropClaim r k).goto t (.clearing r (k+1)) else s.failAdd t r

/-- The end of the attachment; the registration is known from now on. -/
def beginPublish (t : CallId) (r : RegistrationId) (s : System) : System :=
  (s.setRegistration r fun reg => {reg with stage := .published t}).goto t (.publishing r 0 false)

/-- One reader of `attach_reader_conditions`, up to the section. -/
def attach (t : CallId) (r : RegistrationId) (k : ℕ) (s : System) : System :=
  if k < s.size endpoints r then
    if s.interested endpoints r k = false ∨ (s.readers (s.reader r k)).blockingEnabled = false then
      s.goto t (.attaching r (k+1))
    else s.goto t (.attachingNative r k)
  else s.beginPublish t r

/-- The section that attaches the condition of a reader. -/
def attachNative (t : CallId) (r : RegistrationId) (k : ℕ) (s : System) : System :=
  if (s.readers (s.reader r k)).closing then s.goto t (.unattaching r)
  else (s.setCondition r k true).goto t (.attaching r (k+1))

/-- `detach_attached_reader_conditions`. -/
def unattach (t : CallId) (r : RegistrationId) (s : System) : System :=
  (s.setRegistration r fun reg => {reg with readerConditions := fun _ => false}).goto t
    (.clearing r 0)

/-- One reader of the second loop of `claim`. -/
def publish (t : CallId) (r : RegistrationId) (k : ℕ) (closed : Bool) (s : System) : System :=
  if k < s.size endpoints r then
    let closing := (s.readers (s.reader r k)).closing
    (s.setReader (s.reader r k) fun reader =>
      {reader with
        claim := none
        registration := some r
        detachCallback := some r}).goto t (.publishing r (k+1) (closed || closing))
  else if closed then s.goto t (.detaching r .rollback)
  else s.goto t (.checking r)

/-- `add` looks at the phase. -/
def check (t : CallId) (r : RegistrationId) (s : System) : System :=
  if (s.registrations r).phase = .attached then s.goto t (.installing r 0)
  else s.goto t (.releasing r 0 .add)

/-- One topology callback is installed. -/
def install (t : CallId) (r : RegistrationId) (k : ℕ) (s : System) : System :=
  if k < s.size endpoints r then
    (s.setReader (s.reader r k) fun reader => {reader with topologyCallback := some r}).goto t
      (.installing r (k+1))
  else s.goto t (.listing r)

/-- The registration is stored, and `add` returns. -/
def list (t : CallId) (r : RegistrationId) (s : System) : System :=
  ((s.setMutex (s.registrations r).waitSet none).setRegistration r
    fun reg => {reg with listed := true, stage := .settled}).goto t .idle

/-- `remove` up to `detach`. -/
def remove (t : CallId) (r : RegistrationId) (s : System) : System :=
  if (s.registrations r).listed then s.goto t (.detaching r .remove) else s

/-- The exchange of the phase. -/
def detach (t : CallId) (r : RegistrationId) (caller : Caller) (s : System) : System :=
  if (s.registrations r).phase = .attached then
    (s.setRegistration r fun reg => {reg with phase := .detaching}).goto t (.locking r caller)
  else s.leaveDetach t r caller

/-- `detach` locks `conditions_mutex`. -/
def lock (t : CallId) (r : RegistrationId) (caller : Caller) (s : System) : System :=
  (s.setRegistration r fun reg => {reg with conditionsMutex := some t}).goto t
    (.releasing r 0 caller)

/-- First section of `release` for a reader. -/
def release (t : CallId) (r : RegistrationId) (k : ℕ) (caller : Caller) (s : System) : System :=
  if k < s.size endpoints r then
    if (s.readers (s.reader r k)).registration ≠ some r then s.goto t (.releasing r (k+1) caller)
    else s.goto t (.clearingReader r k caller)
  else
    match caller with
    | .add => s.failAdd t r
    | _ => s.goto t (.erasing r caller)

/-- Second section of `release` for a reader. -/
def clearReader (t : CallId) (r : RegistrationId) (k : ℕ) (caller : Caller) (s : System) : System :=
  if (s.readers (s.reader r k)).registration ≠ some r then s.goto t (.releasing r (k+1) caller)
  else
    ((s.setReader (s.reader r k) fun reader =>
      {reader with
        registration := none
        detachCallback := none
        topologyCallback := none}).setCondition r k false).goto t (.releasing r (k+1) caller)

/-- The registration is erased. -/
def erase (t : CallId) (r : RegistrationId) (caller : Caller) (s : System) : System :=
  (s.setRegistration r fun reg => {reg with listed := false}).goto t (.finishing r caller)

/-- The detachment is over. -/
def finish (t : CallId) (r : RegistrationId) (caller : Caller) (s : System) : System :=
  (s.setRegistration r fun reg =>
    {reg with phase := .detached, conditionsMutex := none}).leaveDetach t r caller

/-- `close` of a reader, up to its wait for a claim. -/
def close (t : CallId) (x : ReaderId) (s : System) : System :=
  (s.setReader x fun reader => {reader with closing := true}).goto t (.waiting x)

/-- `close` copies the detach callback and calls it. -/
def callDetach (t : CallId) (x : ReaderId) (s : System) : System :=
  match (s.readers x).detachCallback with
  | none => s.goto t .idle
  | some r => s.goto t (.detaching r .close)

/-- The exchange of `set_blocking_enabled`. -/
def setBlockingEnabled (t : CallId) (x : ReaderId) (enabled : Bool) (s : System) : System :=
  if (s.readers x).blockingEnabled = enabled then s
  else (s.setReader x fun reader => {reader with blockingEnabled := enabled}).goto t (.copying x)

/-- `set_blocking_enabled` copies the topology callback and calls it. -/
def copyCallback (t : CallId) (x : ReaderId) (s : System) : System :=
  match (s.readers x).topologyCallback with
  | none => s.goto t .idle
  | some r => s.goto t (.calling r x.index)

/-- `set_reader_blocking` up to the reconciliation. -/
def setReaderBlocking (t : CallId) (r : RegistrationId) (k : ℕ) (s : System) : System :=
  if (s.registrations r).phase = .attached ∧ k < s.size endpoints r then
    (s.setRegistration r fun reg => {reg with conditionsMutex := some t}).goto t
      (.deciding r k false)
  else s.goto t .idle

/-- `set_interest` up to `conditions_mutex`. -/
def setInterest (t : CallId) (r : RegistrationId) (mask : Mask) (s : System) : System :=
  if (s.registrations r).listed then s.goto t (.interesting r mask) else s

/-- `set_interest` stores the mask. -/
def storeInterest (t : CallId) (r : RegistrationId) (mask : Mask) (s : System) : System :=
  if (s.registrations r).phase ≠ .attached ∨
      (endpoints (s.registrations r).endpoint).kind ≠ .actionServer ∨ mask &&& ~~~allowed ≠ 0 then
    s.goto t .idle
  else
    (s.setRegistration r fun reg =>
      {reg with interest := mask, conditionsMutex := some t}).goto t (.deciding r 0 true)

/-- A reader is reconciled. -/
def leaveReader (t : CallId) (r : RegistrationId) (k : ℕ) (all : Bool) (s : System) : System :=
  if all = true ∧ k+1 < s.size endpoints r then s.goto t (.deciding r (k+1) all)
  else (s.unlock r).goto t .idle

/-- `reconcile_reader_condition` looks at the flags; detaching is done at once. -/
def decide (t : CallId) (r : RegistrationId) (k : ℕ) (all : Bool) (s : System) : System :=
  let reader := s.readers (s.reader r k)
  if s.interested endpoints r k && reader.blockingEnabled && !reader.closing then
    if (s.registrations r).readerConditions k then s.leaveReader endpoints t r k all
    else s.goto t (.rechecking r k all)
  else (s.setCondition r k false).leaveReader endpoints t r k all

/-- `attach_single_reader_condition` looks at the flags. -/
def recheck (t : CallId) (r : RegistrationId) (k : ℕ) (all : Bool) (s : System) : System :=
  if s.interested endpoints r k = false ∨ (s.readers (s.reader r k)).blockingEnabled = false then
    s.leaveReader endpoints t r k all
  else s.goto t (.fixing r k all)

/-- Its section. -/
def fix (t : CallId) (r : RegistrationId) (k : ℕ) (all : Bool) (s : System) : System :=
  if (s.readers (s.reader r k)).closing then s.goto t (.poisoning r)
  else (s.setCondition r k true).leaveReader endpoints t r k all

/-- The WaitSet is poisoned and the reconciliation fails. -/
def poison (t : CallId) (r : RegistrationId) (s : System) : System :=
  {(s.unlock r).goto t .idle with
    poisoned := Function.update s.poisoned (s.registrations r).waitSet true}

/-- The next step of a call. -/
def step (t : CallId) (s : System) : System :=
  match s.pc t with
  | .idle => s
  | .claiming r k => s.claim endpoints t r k
  | .rejecting r k j => s.reject t r k j
  | .clearing r k => s.clearClaim endpoints t r k
  | .attaching r k => s.attach endpoints t r k
  | .attachingNative r k => s.attachNative t r k
  | .unattaching r => s.unattach t r
  | .publishing r k closed => s.publish endpoints t r k closed
  | .checking r => s.check t r
  | .installing r k => s.install endpoints t r k
  | .listing r => s.list t r
  | .detaching r caller => s.detach t r caller
  | .locking r caller => s.lock t r caller
  | .releasing r k caller => s.release endpoints t r k caller
  | .clearingReader r k caller => s.clearReader t r k caller
  | .erasing r caller => s.erase t r caller
  | .finishing r caller => s.finish t r caller
  | .waiting x => s.callDetach t x
  | .copying x => s.copyCallback t x
  | .calling r k => s.setReaderBlocking endpoints t r k
  | .interesting r mask => s.storeInterest endpoints t r mask
  | .deciding r k all => s.decide endpoints t r k all
  | .rechecking r k all => s.recheck endpoints t r k all
  | .fixing r k all => s.fix endpoints t r k all
  | .poisoning r => s.poison t r

/-- `callback_mutex` of a reader is free. -/
def Free (x : ReaderId) (s : System) : Prop := (s.readers x).callbackMutex = none

instance (x : ReaderId) (s : System) : Decidable (s.Free x) :=
  inferInstanceAs (Decidable ((s.readers x).callbackMutex = none))

/-- A call need not wait. The marker of the locked reader is never dropped. -/
def Ready (t : CallId) (s : System) : Prop :=
  match s.pc t with
  | .idle => False
  | .claiming r k | .clearing r k | .publishing r k _ | .installing r k | .releasing r k _ =>
    k < s.size endpoints r → s.Free (s.reader r k)
  | .rejecting r _ j => s.Free (s.reader r j)
  | .clearingReader r k _ => s.Free (s.reader r k)
  | .locking r _ | .calling r _ | .interesting r _ => (s.registrations r).conditionsMutex = none
  | .erasing r _ | .poisoning r => s.mutex (s.registrations r).waitSet = none
  | .waiting x => s.Free x ∧ (s.readers x).claim = none
  | .copying x => s.Free x
  | _ => True

instance (t : CallId) (s : System) : Decidable (s.Ready endpoints t) := by
  unfold Ready
  cases s.pc t <;> infer_instance

end System

/-- One atomic event. -/
inductive Event
  | add (t : CallId) (w : WaitSetId) (e : EndpointId)
  | remove (t : CallId) (r : RegistrationId)
  | close (t : CallId) (x : ReaderId)
  | setBlockingEnabled (t : CallId) (x : ReaderId) (enabled : Bool)
  | setInterest (t : CallId) (r : RegistrationId) (mask : Mask)
  /-- A call in progress goes on. -/
  | step (t : CallId)
  deriving DecidableEq

/-- Calls begin at any time, those of a WaitSet when its `mutex_` is free. -/
def Enabled (s : System) : Event → Prop
  | .add t w _ => s.pc t = .idle ∧ s.mutex w = none
  | .remove t r | .setInterest t r _ =>
    s.pc t = .idle ∧ s.mutex (s.registrations r).waitSet = none
  | .close t x => s.pc t = .idle ∧ x.index < (endpoints x.endpoint).size ∧ s.Free x
  | .setBlockingEnabled t x _ => s.pc t = .idle ∧ x.index < (endpoints x.endpoint).size
  | .step t => s.Ready endpoints t

/-- Effect of an enabled event. -/
def next (s : System) : Event → System
  | .add t w e => s.add endpoints t w e
  | .remove t r => s.remove t r
  | .close t x => s.close t x
  | .setBlockingEnabled t x enabled => s.setBlockingEnabled t x enabled
  | .setInterest t r mask => s.setInterest t r mask
  | .step t => s.step endpoints t

instance (s : System) (e : Event) : Decidable (Enabled endpoints s e) := by
  cases e <;> unfold Enabled <;> infer_instance

/-- WaitSets over these endpoints as a guarded machine. -/
def machine : Machine System Event where
  enabled := Enabled endpoints
  next := next endpoints
  decidableEnabled := inferInstance

end Steps

end Dmw.ReaderConditions
