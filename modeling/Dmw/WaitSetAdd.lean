import Dmw.LockScopes

/-!
# Adding readers to a WaitSet

`WaitSetState::add` for waitables made of readers: `claim` with its two loops,
the attachment of the native conditions, the rollback through `detach` and the
rest of `add`. The thread that adds runs in order; what other threads and DDS
contribute is the input of the call.
-/

namespace Dmw.WaitSetAdd

open LockScopes LockScopes.Call

/-- Readers are numbered. -/
abbrev ReaderId := ℕ

/-- Mutexes an add locks. -/
inductive Mutex
  | mutex
  | nativeMutex
  | topologyHandoffMutex
  | wakeMutex
  | conditionsMutex
  | callbackMutex (r : ReaderId)
  | readerMutex (r : ReaderId)
  deriving DecidableEq

/-- Life of a registration. -/
inductive RegistrationPhase
  | attached
  | detaching
  | detached
  deriving DecidableEq

/-- Outcome of a claim. -/
inductive AttachResult
  | attached
  | alreadyRegistered
  | closing
  | ddsError
  deriving DecidableEq

/-- Registration fields of one reader; id 0 is none. -/
structure ReaderWaitState where
  /-- A claim holds the reader. -/
  claimInProgress : Bool
  /-- WaitSet the reader is registered in. -/
  waitSetId : ℕ
  /-- Registration it belongs to. -/
  registrationId : ℕ
  /-- The ids are set and cleared together. -/
  paired : waitSetId = 0 → registrationId = 0

/-- Cleared ids are paired. -/
theorem paired_cleared : (0 : ℕ) = 0 → (0 : ℕ) = 0 := fun _ => rfl

/-- The WaitSet, its new registration and the readers. -/
structure World where
  /-- Identity of the WaitSet. -/
  waitSetId : ℕ
  /-- 0 is no WaitSet. -/
  positive : 0 < waitSetId
  /-- `close` has begun. -/
  closing : Bool
  /-- The native WaitSet may be out of step. -/
  poisoned : Bool
  /-- Next registration id; 0 once they are used up. -/
  nextRegistrationId : ℕ
  /-- Registrations by id. -/
  registrations : List ℕ
  /-- Topology mutations so far. -/
  topologyGeneration : ℕ
  /-- Topology mutations in progress. -/
  activeTopologyMutations : ℕ
  /-- Phase of the new registration. -/
  phase : RegistrationPhase
  /-- Native conditions attached for it, by index. -/
  readerConditions : ℕ → Bool
  /-- The readers. -/
  readers : ReaderId → ReaderWaitState

/-- What other threads and DDS contribute. The visits of the three loops over
the readers are numbered through: claims, attachments, publications. -/
structure Surroundings where
  /-- `close` of a reader has begun by a visit. -/
  closing : ℕ → ReaderId → Bool
  /-- It is not taken back. -/
  stays : ∀ t r, closing t r = true → closing (t+1) r = true
  /-- The reader blocks on data. -/
  blockingEnabled : ReaderId → Bool
  /-- The DDS reader exists. -/
  present : ReaderId → Bool
  /-- Native attachment of an index succeeds. -/
  attaches : ℕ → Bool
  /-- Native detachment of an index succeeds. -/
  detaches : ℕ → Bool
  /-- The deletion of a reader was deferred. -/
  deferred : ReaderId → Bool
  /-- The `close` of a published reader has taken the registration over by the
  end of the claim and has released these readers. -/
  takeover : Option (ReaderId → Bool)
  /-- The registration can be stored. -/
  allocates : Bool

namespace World

/-- The ids stored for this WaitSet are paired. -/
theorem paired (w : World) {id : ℕ} : w.waitSetId = 0 → id = 0 :=
  fun h => absurd h (Nat.ne_of_gt w.positive)

/-- Replace one reader. -/
def setReader (r : ReaderId) (reader : ReaderWaitState) (w : World) : World :=
  {w with readers := Function.update w.readers r reader}

/-- A reader belongs to a registration of this WaitSet. -/
def registered (id : ℕ) (w : World) (r : ReaderId) : Bool :=
  (w.readers r).waitSetId == w.waitSetId && (w.readers r).registrationId == id

/-- Store the registration in a reader. -/
def publish (id : ℕ) (r : ReaderId) (w : World) : World :=
  w.setReader r ⟨false,w.waitSetId,id,w.paired⟩

/-- Clear the registration of a reader. -/
def unpublish (r : ReaderId) (w : World) : World :=
  w.setReader r ⟨(w.readers r).claimInProgress,0,0,paired_cleared⟩

/-- `note_topology_mutation`. -/
def noteTopologyMutation (w : World) : World :=
  if w.topologyGeneration = UInt64.size-1 then {w with poisoned := true}
  else {w with topologyGeneration := w.topologyGeneration+1}

/-- What a concurrent `detach` has done to the registration. -/
def takeOver (readers : List ReaderId) : Option (ReaderId → Bool) → World → World
  | none, w => w
  | some released, w =>
    {w with
      phase := .detaching
      readerConditions := fun index => w.readerConditions index && !(readers[index]?.any released)
      readers := fun r =>
        if r ∈ readers ∧ released r = true then ⟨(w.readers r).claimInProgress,0,0,paired_cleared⟩
        else w.readers r}

end World

/-- Calls of the thread that adds. -/
abbrev AddCall := Call Mutex World

/-- Trigger the control condition. -/
def notify : AddCall Unit := locked .wakeMutex (pure ())

/-- The scope of a `TopologyMutationGuard`. -/
def topologyMutation {α : Type} (body : AddCall α) : AddCall α := do
  locked .topologyHandoffMutex
    (update fun w => {w with activeTopologyMutations := w.activeTopologyMutations+1})
  notify
  let result ← body
  update World.noteTopologyMutation
  locked .topologyHandoffMutex
    (update fun w => {w with activeTopologyMutations := w.activeTopologyMutations-1})
  notify
  return result

/-- Drop claim markers taken by a claim attempt that did not commit. -/
def clearReaderClaims : List ReaderId → AddCall Unit :=
  forEach fun r => locked (.callbackMutex r)
    (update fun w => w.setReader r {w.readers r with claimInProgress := false})

/-- A visit of the first loop of `claim`; `t` is its number. -/
def claimReader (env : Surroundings) (readers : List ReaderId) (t : ℕ) (r : ReaderId) :
    AddCall AttachResult :=
  locked (.callbackMutex r) do
    let reader ← read fun w => w.readers r
    if env.closing t r then do
      clearReaderClaims readers
      return .closing
    else if reader.waitSetId ≠ 0 || reader.claimInProgress then do
      clearReaderClaims readers
      return .alreadyRegistered
    else do
      update (World.setReader r {reader with claimInProgress := true})
      return .attached

/-- The first loop of `claim`. -/
def claimReaders (env : Surroundings) (readers : List ReaderId) : ℕ → List ReaderId → AddCall AttachResult
  | _, [] => pure .attached
  | t, r :: rest => do
    let result ← claimReader env readers t r
    if result = .attached then claimReaders env readers (t+1) rest else return result

/-- `detach_native_condition` of an index. -/
def detachNativeCondition (env : Surroundings) (index : ℕ) : AddCall Bool :=
  locked .nativeMutex (pure (env.detaches index))

/-- The native part of `attach_single_reader_condition`, under the reader's lock. -/
def attachNativeCondition (env : Surroundings) (t index : ℕ) (r : ReaderId) : AddCall AttachResult :=
  locked (.readerMutex r)
    (if env.closing t r || !env.present r then pure .closing
    else locked .nativeMutex (pure (if env.attaches index then .attached else .ddsError)))

/-- `attach_single_reader_condition`; a new registration is interested in every reader. -/
def attachSingleReaderCondition (env : Surroundings) (t index : ℕ) (r : ReaderId) :
    AddCall AttachResult :=
  if !env.blockingEnabled r then pure .attached
  else do
    let result ← attachNativeCondition env t index r
    if result = .attached then
      update fun w => {w with readerConditions := Function.update w.readerConditions index true}
    return result

/-- The loop of `attach_reader_conditions`. -/
def attachEach (env : Surroundings) (t : ℕ) : ℕ → List ReaderId → AddCall AttachResult
  | _, [] => pure .attached
  | index, r :: rest => do
    let result ← attachSingleReaderCondition env (t+index) index r
    if result = .attached then attachEach env t (index+1) rest else return result

/-- Roll one condition back; a failed detachment is ignored. -/
def detachAttachedReaderCondition (env : Surroundings) (index : ℕ) : AddCall Unit := do
  let condition ← read fun w => w.readerConditions index
  if condition then do
    let _ ← detachNativeCondition env index
    update fun w => {w with readerConditions := Function.update w.readerConditions index false}
  else return ()

/-- Roll back partially attached conditions without touching waitable state. -/
def detachAttachedReaderConditions (env : Surroundings) (readers : List ReaderId) : AddCall Unit :=
  forEach (detachAttachedReaderCondition env) (List.range readers.length)

/-- Attach every constituent reader that currently blocks on data. -/
def attachReaderConditions (env : Surroundings) (t : ℕ) (readers : List ReaderId) : AddCall AttachResult := do
  let outcome ← attachEach env t 0 readers
  if outcome ≠ .attached then detachAttachedReaderConditions env readers
  return outcome

/-- A visit of the second loop of `claim`: whether the reader is closing. -/
def publishReader (env : Surroundings) (id t : ℕ) (r : ReaderId) : AddCall Bool :=
  locked (.callbackMutex r) do
    update (World.publish id r)
    return env.closing t r

/-- The second loop of `claim`: whether a reader is closing. -/
def publishReaders (env : Surroundings) (id : ℕ) : ℕ → List ReaderId → AddCall Bool
  | _, [] => pure false
  | t, r :: rest => do
    let closing ← publishReader env id t r
    let others ← publishReaders env id (t+1) rest
    return closing || others

/-- The native condition of a reader that is released, if there is one. -/
def detachPresent (env : Surroundings) (index : ℕ) (present : Bool) : AddCall Bool :=
  if present then detachNativeCondition env index else pure true

/-- Clear a reader if it is still registered. -/
def clearReader (id index : ℕ) (r : ReaderId) : AddCall Bool :=
  locked (.callbackMutex r) do
    let current ← read fun w => w.registered id r
    if current then do
      update fun w =>
        {w.unpublish r with readerConditions := Function.update w.readerConditions index false}
      return true
    else return false

/-- `complete_deferred_delete`. -/
def completeDeferredDelete (env : Surroundings) (r : ReaderId) : AddCall Unit :=
  if env.deferred r then locked (.readerMutex r) (pure ()) else pure ()

/-- `release` of one reader: detach and clear it if it is still registered. -/
def releaseReader (env : Surroundings) (id index : ℕ) (r : ReaderId) : AddCall Bool := do
  let condition ← locked (.callbackMutex r)
    (read fun w => if w.registered id r then some (w.readerConditions index) else none)
  match condition with
  | none => return true
  | some present => do
    let detached ← detachPresent env index present
    if detached then do
      let current ← clearReader id index r
      if current then do
        completeDeferredDelete env r
        return true
      else return true
    else return false

/-- `release`: reader by reader, up to a failed detachment. -/
def releaseReaders (env : Surroundings) (id : ℕ) : ℕ → List ReaderId → AddCall Bool
  | _, [] => pure true
  | index, r :: rest => do
    let released ← releaseReader env id index r
    if released then releaseReaders env id (index+1) rest else return false

/-- `WaitSetState::detach` of the new registration. -/
def detach (env : Surroundings) (readers : List ReaderId) (id : ℕ) : AddCall Bool := do
  let phase ← read World.phase
  if phase ≠ .attached then return false
  else do
    update fun w => {w with phase := .detaching}
    locked .conditionsMutex (topologyMutation do
      let released ← releaseReaders env id 0 readers
      if released then do
        locked .mutex (update fun w => {w with registrations := w.registrations.erase id})
        update fun w => {w with phase := .detached}
        return true
      else do
        forEach (fun r => locked (.callbackMutex r) (pure ())) readers
        update fun w => {w with phase := .attached}
        locked .mutex (update fun w => {w with poisoned := true})
        return false)

/-- `Registration::claim` for readers. -/
def claim (env : Surroundings) (readers : List ReaderId) (id : ℕ) : AddCall AttachResult := do
  let claimed ← claimReaders env readers 0 readers
  if claimed ≠ .attached then return claimed
  else do
    let result ← attachReaderConditions env readers.length readers
    if result ≠ .attached then do
      clearReaderClaims readers
      return result
    else do
      let closedDuringClaim ← publishReaders env id (2*readers.length) readers
      update (World.takeOver readers env.takeover)
      if closedDuringClaim then do
        let _ ← detach env readers id
        return .closing
      else return .attached

/-- Error codes of an add. -/
inductive ErrorCode
  | parentDestroyed
  | ddsError
  | resourceExhausted
  | alreadyRegistered
  deriving DecidableEq

/-- Outcome of an add: a registration, an error or an exception. -/
inductive Added
  | success (id : ℕ)
  | failure (code : ErrorCode) (message : String)
  | threw
  deriving DecidableEq

/-- What `add` makes of a claim that failed. -/
def claimFailure : AttachResult → Option Added
  | .attached => none
  | .alreadyRegistered => some (.failure .alreadyRegistered "Waitable is already registered")
  | .closing => some (.failure .parentDestroyed "Waitable is closing")
  | .ddsError => some (.failure .ddsError "Fast DDS failed to attach a reader condition")

/-- `add` after a successful claim. -/
def finishAdd (env : Surroundings) (readers : List ReaderId) (id : ℕ) : AddCall Added := do
  let phase ← read World.phase
  if phase ≠ .attached then do
    let _ ← releaseReaders env id 0 readers
    return .failure .parentDestroyed "Waitable is closing"
  else do
    forEach (fun r => locked (.callbackMutex r) (pure ())) readers
    if env.allocates then do
      update fun w => {w with
        registrations := w.registrations ++ [id]
        nextRegistrationId := (w.nextRegistrationId+1)%UInt64.size}
      return .success id
    else do
      let _ ← releaseReaders env id 0 readers
      return .threw

/-- The claim of an add and what follows it. -/
def claimAndFinish (env : Surroundings) (readers : List ReaderId) (id : ℕ) : AddCall Added := do
  let result ← claim env readers id
  match claimFailure result with
  | some outcome => return outcome
  | none => finishAdd env readers id

/-- An add that is refused at once. -/
def refusal (w : World) : Option Added :=
  if w.closing then some (.failure .parentDestroyed "WaitSet is closing")
  else if w.poisoned then some (.failure .ddsError "WaitSet topology is poisoned")
  else if w.nextRegistrationId = 0 then
    some (.failure .resourceExhausted "WaitSet registration IDs are exhausted")
  else none

/-- `WaitSetState::add`. -/
def add (env : Surroundings) (readers : List ReaderId) : AddCall Added :=
  locked .mutex do
    let refused ← read refusal
    match refused with
    | some outcome => return outcome
    | none => do
      let id ← read World.nextRegistrationId
      update fun w => {w with phase := .attached,readerConditions := fun _ => false}
      topologyMutation (claimAndFinish env readers id)

end Dmw.WaitSetAdd
