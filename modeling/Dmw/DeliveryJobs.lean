import Dmw.GoalRegistry
import Dmw.NativeIo

/-!
# Settling one inbound request

A taken service or Action request, its prepared delivery job and its slot in
the native I/O dispatcher. A response is written up to three times, then the
request is discarded; a busy discard is polled until it ends otherwise. Every
write, every discard and the order of the calls are arbitrary. Nobody but the
worker touches a job that is enqueued, so one turn of the worker is one event;
deadlines are left out.
-/

namespace Dmw.DeliveryJobs

open GuardedRuns Identity
open GoalRegistry (GoalInfo GoalAcceptMode)
open NativeIo (CompletionRecord Fault NativeJobKind Slot SlotState Step Thrown executeStep)

/-- What kind of request a work holds. -/
inductive WorkKind
  /-- `ServiceRequestWork`. -/
  | service
  /-- `ActionServerRequestWork` of each `ActionServerRequestKind`. -/
  | goal
  | cancel
  | result
  deriving DecidableEq, Repr

/-- The type a frozen sample belongs to. -/
inductive Descriptor
  | serviceResponse
  | goalResponse
  | cancelResponse
  | resultResponse
  | foreign
  deriving DecidableEq, Repr

/-- `OwnedSample`, with the type it was frozen as. -/
structure OwnedSample where
  /-- Type of the sample. -/
  binding : Descriptor
  deriving DecidableEq, Repr

namespace WorkKind

/-- Type of a response. -/
def descriptor : WorkKind → Descriptor
  | .service => .serviceResponse
  | .goal => .goalResponse
  | .cancel => .cancelResponse
  | .result => .resultResponse

/-- Kind of the completion. -/
def jobKind : WorkKind → NativeJobKind
  | .service => .serviceResponse
  | .goal => .goalResponse
  | .cancel => .cancelResponse
  | .result => .resultResponse

/-- Goal and Cancel transactions use the control capacity. -/
def control (kind : WorkKind) : Bool := kind = .goal || kind = .cancel

/-- Refusal of a response of another type. -/
def foreignResponse : WorkKind → Fault
  | .service => .failure .typeMismatch "Foreign service response descriptor"
  | _ => .failure .typeMismatch "Foreign Action response descriptor"

/-- Refusal of a response to a request that waits for none. -/
def notAwaiting : WorkKind → Fault
  | .service => .failure .invalidState "Service work is not awaiting its response"
  | _ => .failure .invalidState "Action request is not awaiting a response"

/-- Refusal to discard a request that was not taken. -/
def notTaken : WorkKind → Fault
  | .service => .failure .invalidState "Service request has not been taken"
  | _ => .failure .invalidState "Action request has not been taken"

/-- Refusal to take a second request. -/
def consumed : WorkKind → Fault
  | .service => .failure .invalidState "Service work already consumed its request"
  | _ => .failure .invalidState "Action request work was already consumed"

/-- Refusal to take a request of another server. -/
def foreignServer : WorkKind → Fault
  | .service => .failure .typeMismatch "Service work belongs to another server"
  | _ => .failure .typeMismatch "Action request work belongs to another server"

end WorkKind

/-- `ServiceDeliveryJob` and `ActionServerDeliveryJob`. -/
structure DeliveryJob where
  /-- Kind of the request. -/
  kind : WorkKind
  /-- `request_id_`. -/
  requestId : Option RequestId
  /-- `response_`. -/
  response : Option OwnedSample
  /-- `accepted_goal_`. -/
  acceptedGoal : Option (GoalInfo × GoalAcceptMode)
  /-- `failure_`. -/
  failure : Option CompletionRecord
  /-- `discard_`. -/
  discarding : Bool
  /-- `cleanup_pending_`. -/
  cleanupPending : Bool

/-- Something that is done about a request; history only. -/
inductive Deed
  /-- Its job is enqueued, to respond or to discard. -/
  | enqueue (respond : Bool)
  /-- A response is written, with what the write throws. -/
  | write (outcome : Option Thrown)
  /-- The request is discarded. -/
  | discard (outcome : Result Unit)
  /-- Its completion is published. -/
  | publish (record : CompletionRecord)

namespace DeliveryJob

/-- A job as it is constructed. -/
def fresh (kind : WorkKind) : DeliveryJob where
  kind := kind
  requestId := none
  response := none
  acceptedGoal := none
  failure := none
  discarding := true
  cleanupPending := false

/-- `response`. -/
def setResponse (sample : OwnedSample) (job : DeliveryJob) : Except Fault DeliveryJob :=
  if sample.binding ≠ job.kind.descriptor then .error job.kind.foreignResponse
  else .ok {job with response := some sample, acceptedGoal := none, discarding := false}

/-- `accept`. -/
def accept (sample : OwnedSample) (info : GoalInfo) (mode : GoalAcceptMode) (job : DeliveryJob) :
    Except Fault DeliveryJob :=
  if job.kind ≠ .goal then .error (.failure .invalidState "Only Goal requests may be accepted")
  else if sample.binding ≠ .goalResponse then
    .error (.failure .typeMismatch "Foreign Action Goal response descriptor")
  else .ok {job with response := some sample, acceptedGoal := some (info,mode), discarding := false}

/-- `discard`. -/
def discard (job : DeliveryJob) : DeliveryJob := {job with discarding := true}

/-- `discard_request`, given what the endpoint answers. -/
def discardRequest (outcome : Result Unit) (job : DeliveryJob) : DeliveryJob × Step :=
  match outcome with
  | .ok () => (job,⟨id,none⟩)
  | .error error =>
    if error.code = .notFound then (job,⟨id,none⟩)
    else
      let pending := decide (error.code = .busy)
      ({job with cleanupPending := pending},
        ⟨fun record => {record with cleanupFailed := !pending},some (.failure error.code error.message)⟩)

/-- `run`, given what a write throws and what a discard answers. -/
def run (write : Option Thrown) (discarded : Result Unit) (job : DeliveryJob) :
    DeliveryJob × Step × List Deed :=
  let job := {job with cleanupPending := false}
  if job.discarding then
    let (job,step) := job.discardRequest discarded
    match step.thrown, job.failure with
    | none, some failure => (job,⟨fun _ => failure,none⟩,[.discard discarded])
    | _, _ => (job,step,[.discard discarded])
  else if job.response.isNone then
    (job,⟨id,some (.failure .invalidState "Action request has no response payload")⟩,[])
  else (job,⟨id,write⟩,[.write write])

/-- `max_attempts`. -/
def maxAttempts : ℕ := 3

/-- `retryable`. -/
def retryable (record : CompletionRecord) (job : DeliveryJob) : Bool :=
  if job.discarding then job.cleanupPending
  else record.errorCode = .ddsError || record.errorCode = .busy

/-- `after_failed_delivery`. -/
def afterFailedDelivery (record : CompletionRecord) (outcome : Result Unit) (job : DeliveryJob) :
    DeliveryJob × Step :=
  discardRequest outcome
    {job with
      failure := if job.discarding then job.failure else some record
      discarding := true}

end DeliveryJob

/-- `ServiceRequestWork` or `ActionServerRequestWork` with its slot. -/
structure Work where
  /-- The prepared job. -/
  job : DeliveryJob
  /-- `job_` is not reset. -/
  held : Bool
  /-- `accepted_`. -/
  accepted : Bool
  /-- `submitted_`. -/
  submitted : Bool
  /-- The object was destroyed. -/
  destroyed : Bool
  /-- The slot of its ticket. -/
  slot : Slot
  /-- What was done; history only. -/
  log : List Deed

namespace Work

/-- A work as it is constructed around a completion record. -/
def initial (kind : WorkKind) (record : CompletionRecord) : Work where
  job := .fresh kind
  held := true
  accepted := false
  submitted := false
  destroyed := false
  slot := {Slot.fresh with
    state := .reserved
    control := kind.control
    priority := true
    completion := {record with kind := kind.jobKind}}
  log := []

/-- `enqueue_prepared`. -/
def enqueuePrepared (respond : Bool) (w : Work) : Except Fault Work :=
  match w.slot.state with
  | .free => .error (.failure .notFound "Native I/O ticket has retired")
  | .reserved =>
    .ok {w with slot := {w.slot with state := .queued}, log := w.log ++ [.enqueue respond]}
  | _ => .error (.failure .invalidState
      "Native ticket has no prepared job or was already enqueued")

/-- Enqueue a job that is ready. -/
def submit (respond : Bool) (job : DeliveryJob) (w : Work) : Except Fault Unit × Work :=
  match enqueuePrepared respond {w with job := job} with
  | .error fault => (.error fault,{w with job := job})
  | .ok w => (.ok (),{w with submitted := true})

/-- `validate_take` and `accepted`. -/
def receive (own : Bool) (id : RequestId) (w : Work) : Except Fault Unit × Work :=
  if w.accepted || w.submitted || !w.held then (.error w.job.kind.consumed,w)
  else if !own then (.error w.job.kind.foreignServer,w)
  else (.ok (),{w with job := {w.job with requestId := some id}, accepted := true})

/-- `respond`. -/
def respond (sample : OwnedSample) (w : Work) : Except Fault Unit × Work :=
  if w.submitted || !w.accepted then (.error w.job.kind.notAwaiting,w)
  else
    match w.job.setResponse sample with
    | .error fault => (.error fault,w)
    | .ok job => w.submit true job

/-- `respond_payload`. -/
def respondPayload (sample : OwnedSample) (w : Work) : Except Fault Unit × Work :=
  if w.job.kind ≠ .result then
    (.error (.failure .invalidState "Only GetResult accepts a ResultPayload"),w)
  else w.respond sample

/-- `accept`. -/
def accept (sample : OwnedSample) (info : GoalInfo) (mode : GoalAcceptMode) (w : Work) :
    Except Fault Unit × Work :=
  if w.submitted || !w.accepted then (.error w.job.kind.notAwaiting,w)
  else
    match w.job.accept sample info mode with
    | .error fault => (.error fault,w)
    | .ok job => w.submit true job

/-- `submit_discard`, also `discard`. -/
def submitDiscard (w : Work) : Except Fault Unit × Work :=
  if w.submitted then (.ok (),w)
  else if !w.accepted then (.error w.job.kind.notTaken,w)
  else w.submit false w.job.discard

/-- `abandon`. A service work counts as submitted then. -/
def abandon (w : Work) : Except Fault Unit × Work :=
  match w.slot.state with
  | .free => (.error (.failure .notFound "Native I/O ticket has retired"),w)
  | .reserved =>
    (.ok (),{w with
      slot := {w.slot with state := .free}
      submitted := w.submitted || decide (w.job.kind = .service)})
  | _ => (.error (.failure .busy "An accepted job must retire through its completion owner"),w)

/-- `finish_task`, also `release`. -/
def finishTask (w : Work) : Except Fault Unit × Work :=
  if !w.held then (.ok (),w)
  else
    match if w.accepted then w.submitDiscard else w.abandon with
    | (.error fault,w) => (.error fault,w)
    | (.ok (),w) => (.ok (),{w with held := false})

/-- The destructor. -/
def destroy (w : Work) : Work := {w.finishTask.2 with destroyed := true}

/-- Wait for another turn. -/
def wait (job : DeliveryJob) (slot : Slot) (deeds : List Deed) (w : Work) : Work :=
  {w with job := job, slot := {slot with state := .retryWaiting}, log := w.log ++ deeds}

/-- Complete the slot and put its completion into the mailbox. -/
def publish (job : DeliveryJob) (slot : Slot) (deeds : List Deed) (w : Work) : Work :=
  {w with
    job := job
    slot := {slot with state := .completed}
    log := w.log ++ deeds ++ [.publish slot.completion]}

/-- What follows a run that is not repeated, after a failed one was told. -/
def settle (job : DeliveryJob) (slot : Slot) (deeds : List Deed) (w : Work) : Work :=
  if job.cleanupPending then w.wait job slot deeds else w.publish job slot deeds

/-- One turn of the worker: the run, and what its outcome leads to. -/
def turn (write : Option Thrown) (discarded cleaned : Result Unit) (w : Work) : Work :=
  let (job,step,deeds) := w.job.run write discarded
  let record := w.slot.ran step
  let slot := {w.slot with completion := record}
  if w.slot.again step (job.retryable record) DeliveryJob.maxAttempts then
    w.wait job {slot with retries := slot.retries + 1} deeds
  else if record.failed then
    let (job,step) := job.afterFailedDelivery record cleaned
    w.settle job {slot with completion := slot.told step} (deeds ++ [.discard cleaned])
  else w.settle job slot deeds

end Work

/-- A call on the work, or a step of the worker. -/
inductive Event
  | receive (own : Bool) (id : RequestId)
  | respond (sample : OwnedSample)
  | respondPayload (sample : OwnedSample)
  | accept (sample : OwnedSample) (info : GoalInfo) (mode : GoalAcceptMode)
  | discard
  | release
  | destroy
  /-- The delay of the next turn has passed. -/
  | requeue
  | turn (write : Option Thrown) (discarded cleaned : Result Unit)

/-- Calls need the object, two of them an Action; turns need a queued job. -/
def Enabled (w : Work) : Event → Prop
  | .requeue => w.slot.state = .retryWaiting
  | .turn .. => w.slot.state = .queued
  | .respondPayload _ | .accept .. => w.destroyed = false ∧ w.job.kind ≠ .service
  | _ => w.destroyed = false

instance (w : Work) (e : Event) : Decidable (Enabled w e) := by
  cases e <;> unfold Enabled <;> infer_instance

/-- Effect of an event; calls that throw are caught by their caller. -/
def next (w : Work) : Event → Work
  | .receive own id => (w.receive own id).2
  | .respond sample => (w.respond sample).2
  | .respondPayload sample => (w.respondPayload sample).2
  | .accept sample info mode => (w.accept sample info mode).2
  | .discard => w.submitDiscard.2
  | .release => w.finishTask.2
  | .destroy => w.destroy
  | .requeue => {w with slot := {w.slot with state := .queued}}
  | .turn write discarded cleaned => w.turn write discarded cleaned

/-- One work as a guarded machine. -/
def machine : Machine Work Event where
  enabled := Enabled
  next := next
  decidableEnabled := inferInstance

/-- How the enqueued jobs of a log are meant. -/
def enqueues (log : List Deed) : List Bool :=
  log.filterMap fun
    | .enqueue respond => some respond
    | _ => none

/-- Response writes of a log. -/
def writes (log : List Deed) : List (Option Thrown) :=
  log.filterMap fun
    | .write outcome => some outcome
    | _ => none

/-- Discards of a log. -/
def discards (log : List Deed) : List (Result Unit) :=
  log.filterMap fun
    | .discard outcome => some outcome
    | _ => none

/-- Completions of a log. -/
def completions (log : List Deed) : List CompletionRecord :=
  log.filterMap fun
    | .publish record => some record
    | _ => none

/-- The request is gone: it was discarded or is not there. -/
def Benign (outcome : Result Unit) : Prop := ∀ error, outcome = .error error → error.code = .notFound

/-- The endpoint is busy with the request. -/
def Busy (outcome : Result Unit) : Prop := ∃ error, outcome = .error error ∧ error.code = .busy

/-- A record tells what a write threw. -/
structure Carries (record : CompletionRecord) (thrown : Thrown) : Prop where
  /-- Its code. -/
  errorCode : record.errorCode = (executeStep .fresh (some thrown)).errorCode
  /-- Its text. -/
  diagnostic : record.diagnostic = (executeStep .fresh (some thrown)).diagnostic

/-- What may happen to one request: its job is enqueued, some writes fail, then
one succeeds or the request is discarded, and a completion is published. -/
structure Course where
  /-- The job was enqueued to respond. -/
  respond : Bool
  /-- What the failed writes threw. -/
  failed : List Thrown
  /-- A write succeeded. -/
  written : Bool
  /-- What the discards answered. -/
  discards : List (Result Unit)
  /-- The completion. -/
  published : Option CompletionRecord

namespace Course

/-- The deeds of a course. -/
def log (c : Course) : List Deed :=
  .enqueue c.respond :: (c.failed.map fun thrown => .write (some thrown)) ++
    (if c.written then [.write none] else []) ++ c.discards.map .discard ++
    c.published.toList.map .publish

/-- The course after another failed write. -/
def fail (thrown : Thrown) (c : Course) : Course := {c with failed := c.failed ++ [thrown]}

/-- The course after another discard. -/
def discard (outcome : Result Unit) (c : Course) : Course :=
  {c with discards := c.discards ++ [outcome]}

/-- The course with its completion. -/
def publish (record : CompletionRecord) (c : Course) : Course := {c with published := some record}

/-- No write is repeated too often, none follows a success or a discard, and a
completion has its reason and tells why a response was not delivered. -/
structure Sound (c : Course) : Prop where
  /-- At most three writes. -/
  few : c.failed.length + c.written.toNat ≤ 3
  /-- Without a response nothing is written. -/
  silent : c.respond = false → c.failed = [] ∧ c.written = false
  /-- A written response is not discarded. -/
  kept : c.written = true → c.discards = []
  /-- Why the completion is published. -/
  reason : ∀ record, c.published = some record →
    c.written = true ∨ (∃ outcome, c.discards.getLast? = some outcome ∧ Benign outcome) ∨
      record.cleanupFailed = true
  /-- What the completion of an undelivered response tells. -/
  carries : ∀ record, c.published = some record → c.respond = true → c.written = false →
    (∀ outcome ∈ c.discards, Benign outcome ∨ Busy outcome) →
      record.failed = true ∧ ∃ thrown, c.failed.getLast? = some thrown ∧ Carries record thrown

section

variable {c : Course}

theorem log_fail (hwritten : c.written = false) (hdiscards : c.discards = [])
    (hpublished : c.published = none) (thrown : Thrown) :
    (c.fail thrown).log = c.log ++ [.write (some thrown)] := by
  simp [log,fail,hwritten,hdiscards,hpublished]

theorem log_discard (hpublished : c.published = none) (outcome : Result Unit) :
    (c.discard outcome).log = c.log ++ [.discard outcome] := by
  simp [log,discard,hpublished]

theorem log_publish (hpublished : c.published = none) (record : CompletionRecord) :
    (c.publish record).log = c.log ++ [.publish record] := by
  cases hwritten : c.written <;> simp [log,publish,hpublished,hwritten]

theorem enqueues_log : enqueues c.log = [c.respond] := by
  cases hwritten : c.written <;>
    simp [log,enqueues,hwritten,List.filterMap_append,List.filterMap_map]

theorem writes_log : writes c.log = c.failed.map some ++ if c.written then [none] else [] := by
  cases hwritten : c.written <;>
    simp [log,writes,hwritten,List.filterMap_append,List.filterMap_map]

theorem discards_log : DeliveryJobs.discards c.log = c.discards := by
  cases hwritten : c.written <;>
    simp [log,DeliveryJobs.discards,hwritten,List.filterMap_append,List.filterMap_map]

theorem completions_log : completions c.log = c.published.toList := by
  cases hwritten : c.written <;>
    simp [log,completions,hwritten,List.filterMap_append,List.filterMap_map]

end

end Course

/-- A job that discards after a failed response remembers the failure. -/
structure Discarding (c : Course) (job : DeliveryJob) : Prop where
  /-- `discard_` is set. -/
  discarding : job.discarding = true
  /-- `failure_` is the record of the last failed write. -/
  failure : (c.respond = false ∧ job.failure = none) ∨
    c.respond = true ∧ ∃ record thrown, job.failure = some record ∧ record.failed = true ∧
      c.failed.getLast? = some thrown ∧ Carries record thrown

/-- A job that still responds. -/
structure Responding (c : Course) (job : DeliveryJob) (retries : ℕ) : Prop where
  /-- `discard_` is not set. -/
  responding : job.discarding = false
  /-- There is a response. -/
  response : job.response.isSome = true
  /-- The job was enqueued with it. -/
  respond : c.respond = true
  /-- Nothing was discarded. -/
  undiscarded : c.discards = []
  /-- Every failed write was repeated. -/
  repeated : c.failed.length = retries
  /-- Another write is allowed. -/
  allowed : retries ≤ 2

/-- A work is on its course and not done. -/
structure Active (c : Course) (w : Work) : Prop where
  /-- Nothing else happened. -/
  log : w.log = c.log
  /-- There is no completion. -/
  unpublished : c.published = none
  /-- No write succeeded. -/
  unwritten : c.written = false
  /-- What happened is sound. -/
  sound : c.Sound
  /-- The request was taken. -/
  accepted : w.accepted = true
  /-- The job was enqueued. -/
  submitted : w.submitted = true
  /-- The job fits the course. -/
  fits : Discarding c w.job ∨ Responding c w.job w.slot.retries

/-- A work is at the end of its course. -/
structure Closed (c : Course) (w : Work) : Prop where
  /-- Nothing else happened. -/
  log : w.log = c.log
  /-- There is a completion. -/
  published : c.published.isSome = true
  /-- What happened is sound. -/
  sound : c.Sound
  /-- The request was taken. -/
  accepted : w.accepted = true
  /-- The job was enqueued. -/
  submitted : w.submitted = true

/-- A turn leaves a work that waits or one that is done. -/
def Turned (w : Work) : Prop :=
  (∃ c, Active c w ∧ w.slot.state = .retryWaiting) ∨ ∃ c, Closed c w ∧ w.slot.state = .completed

section

variable {c : Course} {w : Work} {job : DeliveryJob} {slot : Slot} {deeds : List Deed}

/-- What a discard does: it ends, it is to be repeated, or it fails for good. -/
theorem discardRequest_cases (outcome : Result Unit) (job : DeliveryJob) :
    (Benign outcome ∧ job.discardRequest outcome = (job,⟨id,none⟩)) ∨
    (Busy outcome ∧ ∃ thrown, job.discardRequest outcome =
      ({job with cleanupPending := true},
        ⟨fun record => {record with cleanupFailed := false},some thrown⟩)) ∨
    ¬ Benign outcome ∧ ¬ Busy outcome ∧ ∃ thrown, job.discardRequest outcome =
      ({job with cleanupPending := false},
        ⟨fun record => {record with cleanupFailed := true},some thrown⟩) := by
  cases outcome with
  | ok value => exact .inl ⟨fun _ h => (by cases h), rfl⟩
  | error error =>
    by_cases hnotFound : error.code = .notFound
    · refine .inl ⟨fun error' h => ?_, by simp [DeliveryJob.discardRequest,hnotFound]⟩
      cases h
      exact hnotFound
    by_cases hbusy : error.code = .busy
    · exact .inr (.inl ⟨⟨error, rfl, hbusy⟩, _, by simp [DeliveryJob.discardRequest,hbusy]; rfl⟩)
    · refine .inr (.inr ⟨fun h => hnotFound (h error rfl), ?_, _, by
        simp [DeliveryJob.discardRequest,hnotFound,hbusy]; rfl⟩)
      rintro ⟨error', h, hcode⟩
      cases h
      exact hbusy hcode

/-- A step that throws leaves a failed record and no other flag changed. -/
theorem executeStep_thrown (record : CompletionRecord) (thrown : Thrown) :
    (executeStep record (some thrown)).failed = true ∧
      (executeStep record (some thrown)).cleanupFailed = record.cleanupFailed ∧
      Carries (executeStep record (some thrown)) thrown := by
  cases thrown <;> exact ⟨rfl, rfl, rfl, rfl⟩

/-- Another discard keeps what happened sound. -/
theorem Course.Sound.discard (h : c.Sound) (hunpublished : c.published = none)
    (hunwritten : c.written = false) (outcome : Result Unit) : (c.discard outcome).Sound where
  few := h.few
  silent := h.silent
  kept := fun hwritten => absurd (hunwritten.symm.trans hwritten) Bool.false_ne_true
  reason := fun _ hrecord => absurd (hunpublished.symm.trans hrecord) (Option.some_ne_none _).symm
  carries := fun _ hrecord => absurd (hunpublished.symm.trans hrecord) (Option.some_ne_none _).symm

/-- A job that discards fits after every discard. -/
theorem Discarding.discard (h : Discarding c job) (outcome : Result Unit) (pending : Bool) :
    Discarding (c.discard outcome) {job with cleanupPending := pending} := ⟨h.discarding, h.failure⟩

/-- Telling a job that discards already changes nothing about its failure. -/
theorem Discarding.told (h : Discarding c job) (outcome : Result Unit) (pending : Bool)
    (record : CompletionRecord) :
    Discarding (c.discard outcome) {job with
      cleanupPending := pending
      failure := if job.discarding then job.failure else some record
      discarding := true} := by
  refine ⟨rfl, ?_⟩
  dsimp only
  rw [if_pos h.discarding]
  exact h.failure

/-- A work whose job waits for its next turn. -/
theorem wait_active (hlog : w.log ++ deeds = c.log) (hunpublished : c.published = none)
    (hunwritten : c.written = false) (hsound : c.Sound) (haccepted : w.accepted = true)
    (hsubmitted : w.submitted = true)
    (hfits : Discarding c job ∨ Responding c job slot.retries) :
    Turned (w.wait job slot deeds) :=
  .inl ⟨c, ⟨hlog, hunpublished, hunwritten, hsound, haccepted, hsubmitted, hfits⟩, rfl⟩

/-- A work whose completion is published. -/
theorem publish_closed (hlog : w.log ++ deeds = c.log) (hunpublished : c.published = none)
    (hsound : (c.publish slot.completion).Sound) (haccepted : w.accepted = true)
    (hsubmitted : w.submitted = true) : Turned (w.publish job slot deeds) := by
  refine .inr ⟨c.publish slot.completion, ⟨?_, rfl, hsound, haccepted, hsubmitted⟩, rfl⟩
  rw [Course.log_publish hunpublished,← hlog]
  rfl

/-- The last discard of a course. -/
theorem getLast?_discard (outcome : Result Unit) :
    (c.discard outcome).discards.getLast? = some outcome := by simp [Course.discard]

/-- A failed run is told, which discards the request. -/
theorem tell (hlog : w.log ++ deeds = c.log) (hunpublished : c.published = none)
    (hunwritten : c.written = false) (hsound : c.Sound) (haccepted : w.accepted = true)
    (hsubmitted : w.submitted = true) (hfailed : slot.completion.failed = true)
    (hfits : Discarding c {job with
      failure := if job.discarding then job.failure else some slot.completion
      discarding := true})
    (htells : c.respond = true → job.cleanupPending = false →
      (∀ outcome ∈ c.discards, Benign outcome ∨ Busy outcome) →
        ∃ thrown, c.failed.getLast? = some thrown ∧ Carries slot.completion thrown)
    (outcome : Result Unit) :
    Turned (w.settle (job.afterFailedDelivery slot.completion outcome).1
      {slot with completion := slot.told (job.afterFailedDelivery slot.completion outcome).2}
      (deeds ++ [.discard outcome])) := by
  have hlog' : w.log ++ (deeds ++ [.discard outcome]) = (c.discard outcome).log := by
    rw [Course.log_discard hunpublished,← hlog,List.append_assoc]
  have hsound' := hsound.discard hunpublished hunwritten outcome
  have hpending : ({job with
      failure := if job.discarding then job.failure else some slot.completion
      discarding := true} : DeliveryJob).cleanupPending = job.cleanupPending := rfl
  unfold DeliveryJob.afterFailedDelivery
  generalize ({job with
      failure := if job.discarding then job.failure else some slot.completion
      discarding := true} : DeliveryJob) = told at hfits hpending ⊢
  rcases discardRequest_cases outcome told with
    ⟨hbenign, hafter⟩ | ⟨-, thrown, hafter⟩ | ⟨hnot, hbusy, thrown, hafter⟩ <;> rw [hafter]
  · -- The request is gone; a poll left over from the run is kept.
    have htold : slot.told ⟨id,none⟩ = slot.completion := by
      unfold Slot.told
      rw [if_pos hfailed]
      rfl
    rw [htold]
    unfold Work.settle
    split
    · exact wait_active hlog' hunpublished hunwritten hsound' haccepted hsubmitted
        (.inl ⟨hfits.discarding, hfits.failure⟩)
    · next hsettled =>
      refine publish_closed hlog' hunpublished ?_ haccepted hsubmitted
      refine ⟨hsound'.few, hsound'.silent, hsound'.kept, fun record hrecord => ?_,
        fun record hrecord hrespond _ hdiscards => ?_⟩
      · exact .inr (.inl ⟨outcome, getLast?_discard outcome, hbenign⟩)
      · cases hrecord
        have hquiet : job.cleanupPending = false := by
          rw [← hpending]
          exact Bool.not_eq_true _ ▸ hsettled
        refine ⟨hfailed, htells hrespond hquiet fun r hr => ?_⟩
        exact hdiscards r (List.mem_append_left _ hr)
  · -- Busy: another poll follows.
    exact wait_active hlog' hunpublished hunwritten hsound' haccepted hsubmitted
      (.inl ⟨hfits.discarding, hfits.failure⟩)
  · -- The cleanup failed for good.
    refine publish_closed hlog' hunpublished ?_ haccepted hsubmitted
    refine ⟨hsound'.few, hsound'.silent, hsound'.kept, fun record hrecord => ?_,
      fun record hrecord hrespond _ hdiscards => ?_⟩
    · cases hrecord
      refine .inr (.inr ?_)
      simp only [Slot.told,hfailed,if_true]
      exact (executeStep_thrown _ thrown).2.1
    · have hmem := hdiscards outcome (List.mem_append_right _ (List.mem_singleton.mpr rfl))
      exact hmem.elim (fun h => absurd h hnot) fun h => absurd h hbusy

/-- Another failed write keeps what happened sound. -/
theorem Course.Sound.fail (h : c.Sound) (hunpublished : c.published = none)
    (hunwritten : c.written = false) (hrespond : c.respond = true) (hroom : c.failed.length ≤ 2)
    (thrown : Thrown) : (c.fail thrown).Sound where
  few := by
    simp only [Course.fail,List.length_append,List.length_singleton,hunwritten,Bool.toNat_false]
    omega
  silent := fun hsilent => absurd (hrespond.symm.trans hsilent) Bool.false_ne_true.symm
  kept := h.kept
  reason := fun _ hrecord => absurd (hunpublished.symm.trans hrecord) (Option.some_ne_none _).symm
  carries := fun _ hrecord => absurd (hunpublished.symm.trans hrecord) (Option.some_ne_none _).symm

/-- A run that throws fails. -/
theorem ran_thrown (slot : Slot) (effect : CompletionRecord → CompletionRecord) (thrown : Thrown) :
    (slot.ran ⟨effect,some thrown⟩).failed = true := (executeStep_thrown _ thrown).1

/-- The completion of a slot is what was stored there. -/
theorem completed_failed (slot : Slot) {record : CompletionRecord} (h : record.failed = true) :
    ({slot with completion := record} : Slot).completion.failed = true := h

/-- A turn that writes: it succeeds, is repeated, or gives the response up. -/
theorem responding_turned (h : Active c w) (hfits : Responding c w.job w.slot.retries)
    (write : Option Thrown) (discarded cleaned : Result Unit) :
    Turned (w.turn write discarded cleaned) := by
  have hresponse : w.job.response.isNone = false := by
    rw [← Option.not_isSome,hfits.response]
    rfl
  have hrun : w.job.run write discarded =
      ({w.job with cleanupPending := false},⟨id,write⟩,[.write write]) := by
    simp [DeliveryJob.run,hfits.responding,hresponse]
  unfold Work.turn
  rw [hrun]
  dsimp only
  cases write with
  | none =>
    have hran : (w.slot.ran ⟨id,none⟩).failed = false := rfl
    have hagain (retryable : Bool) (attempts : ℕ) :
        w.slot.again ⟨id,none⟩ retryable attempts = false := rfl
    rw [hagain,if_neg Bool.false_ne_true,hran,if_neg Bool.false_ne_true]
    have hlog : w.log ++ [.write none] = ({c with written := true} : Course).log := by
      rw [h.log]
      simp [Course.log,h.unwritten,hfits.undiscarded,h.unpublished]
    refine publish_closed hlog h.unpublished ?_ h.accepted h.submitted
    refine ⟨?_, fun hsilent => absurd (hfits.respond.symm.trans hsilent) Bool.false_ne_true.symm,
      fun _ => hfits.undiscarded, fun _ _ => .inl rfl, fun _ _ _ hunwritten => ?_⟩
    · have hrepeated := hfits.repeated
      have hallowed := hfits.allowed
      simp only [Course.publish,Bool.toNat_true]
      omega
    · exact absurd hunwritten Bool.false_ne_true.symm
  | some thrown =>
    have hran := executeStep_thrown {w.slot.completion with failed := false, diagnostic := ""} thrown
    have hroom : c.failed.length ≤ 2 := hfits.repeated ▸ hfits.allowed
    have hlog : w.log ++ [.write (some thrown)] = (c.fail thrown).log := by
      rw [h.log,Course.log_fail h.unwritten hfits.undiscarded h.unpublished]
    have hsound := h.sound.fail h.unpublished h.unwritten hfits.respond hroom thrown
    have hlast : (c.fail thrown).failed.getLast? = some thrown := by simp [Course.fail]
    split
    · next hagain =>
      refine wait_active hlog h.unpublished h.unwritten hsound h.accepted h.submitted (.inr ?_)
      refine ⟨hfits.responding, hfits.response, hfits.respond, hfits.undiscarded, ?_, ?_⟩
      · simp [Course.fail,hfits.repeated]
      · have hattempts := (Bool.and_eq_true_iff.mp hagain).2
        have hless : w.slot.retries + 1 < DeliveryJob.maxAttempts := of_decide_eq_true hattempts
        unfold DeliveryJob.maxAttempts at hless
        dsimp only
        omega
    · have hfailed := ran_thrown w.slot id thrown
      rw [if_pos hfailed]
      refine tell hlog h.unpublished h.unwritten hsound h.accepted h.submitted
        (completed_failed w.slot hfailed) ?_ ?_ cleaned
      · refine ⟨rfl, .inr ⟨hfits.respond, _, thrown, ?_, hfailed, hlast, hran.2.2⟩⟩
        simp [hfits.responding]
      · exact fun _ _ _ => ⟨thrown, hlast, hran.2.2⟩

/-- A run that discards, by what its discard does. -/
theorem run_discarding {step : Step} {told : DeliveryJob} {discarded : Result Unit}
    (h : job.discarding = true) (write : Option Thrown)
    (hrequest : DeliveryJob.discardRequest discarded {job with cleanupPending := false} =
      (told,step)) :
    job.run write discarded =
      match step.thrown, told.failure with
      | none, some failure => (told,⟨fun _ => failure,none⟩,[.discard discarded])
      | _, _ => (told,step,[.discard discarded]) := by
  unfold DeliveryJob.run
  dsimp only
  rw [if_pos h,hrequest]

/-- A turn that discards: it restores the failure of the response once the
request is gone, and polls while it is busy. -/
theorem discarding_turned (h : Active c w) (hfits : Discarding c w.job)
    (write : Option Thrown) (discarded cleaned : Result Unit) :
    Turned (w.turn write discarded cleaned) := by
  have hsound := h.sound.discard h.unpublished h.unwritten discarded
  have hlog : w.log ++ [.discard discarded] = (c.discard discarded).log := by
    rw [h.log,Course.log_discard h.unpublished]
  have hmem : discarded ∈ (c.discard discarded).discards :=
    List.mem_append_right _ (List.mem_singleton.mpr rfl)
  unfold Work.turn
  rcases discardRequest_cases discarded {w.job with cleanupPending := false} with
    ⟨hbenign, hrequest⟩ | ⟨-, thrown, hrequest⟩ | ⟨hnot, hbusy, thrown, hrequest⟩
  · rcases hfits.failure with ⟨hsilent, hnone⟩ | ⟨hrespond, record, thrown, hsome, hfailed, hlast, hcarries⟩
    · -- Nothing was to be delivered: the completion reports success.
      have hrun : w.job.run write discarded =
          ({w.job with cleanupPending := false},⟨id,none⟩,[.discard discarded]) := by
        rw [run_discarding hfits.discarding write hrequest]
        dsimp only
        rw [hnone]
      rw [hrun]
      have hran : (w.slot.ran ⟨id,none⟩).failed = false := rfl
      have hagain (retryable : Bool) (attempts : ℕ) :
          w.slot.again ⟨id,none⟩ retryable attempts = false := rfl
      dsimp only
      rw [hagain,if_neg Bool.false_ne_true,hran,if_neg Bool.false_ne_true]
      refine publish_closed hlog h.unpublished ?_ h.accepted h.submitted
      refine ⟨hsound.few, hsound.silent, hsound.kept, fun _ _ => ?_, fun _ _ hresponds => ?_⟩
      · exact .inr (.inl ⟨discarded, getLast?_discard discarded, hbenign⟩)
      · exact absurd (hsilent.symm.trans hresponds) Bool.false_ne_true
    · -- The failure of the response is restored, so the job is told once more.
      have hrun : w.job.run write discarded =
          ({w.job with cleanupPending := false},⟨fun _ => record,none⟩,[.discard discarded]) := by
        rw [run_discarding hfits.discarding write hrequest]
        dsimp only
        rw [hsome]
      rw [hrun]
      have hran : w.slot.ran ⟨fun _ => record,none⟩ = record := rfl
      have hretryable : DeliveryJob.retryable record {w.job with cleanupPending := false} = false := by
        simp [DeliveryJob.retryable,hfits.discarding]
      dsimp only
      rw [hran,hretryable,if_neg (by simp [Slot.again]),if_pos hfailed]
      refine tell hlog h.unpublished h.unwritten hsound h.accepted h.submitted
        (completed_failed w.slot hfailed) ?_ ?_ cleaned
      · exact hfits.told discarded false _
      · exact fun _ _ _ => ⟨thrown, hlast, hcarries⟩
  · have hrun : w.job.run write discarded =
        ({w.job with cleanupPending := true},
          ⟨fun record => {record with cleanupFailed := false},some thrown⟩,[.discard discarded]) :=
      run_discarding hfits.discarding write hrequest
    rw [hrun]
    dsimp only
    split
    · exact wait_active hlog h.unpublished h.unwritten hsound h.accepted h.submitted
        (.inl (hfits.discard discarded true))
    · have hfailed := ran_thrown w.slot (fun record => {record with cleanupFailed := false}) thrown
      rw [if_pos hfailed]
      refine tell hlog h.unpublished h.unwritten hsound h.accepted h.submitted
        (completed_failed w.slot hfailed) ?_ ?_ cleaned
      · exact hfits.told discarded true _
      · exact fun _ hquiet => absurd hquiet Bool.false_ne_true.symm
  · have hrun : w.job.run write discarded =
        ({w.job with cleanupPending := false},
          ⟨fun record => {record with cleanupFailed := true},some thrown⟩,[.discard discarded]) :=
      run_discarding hfits.discarding write hrequest
    rw [hrun]
    have hretryable (record : CompletionRecord) :
        DeliveryJob.retryable record {w.job with cleanupPending := false} = false := by
      simp [DeliveryJob.retryable,hfits.discarding]
    have hfailed := ran_thrown w.slot (fun record => {record with cleanupFailed := true}) thrown
    dsimp only
    rw [hretryable,if_neg (by simp [Slot.again]),if_pos hfailed]
    refine tell hlog h.unpublished h.unwritten hsound h.accepted h.submitted
        (completed_failed w.slot hfailed) ?_ ?_ cleaned
    · exact hfits.told discarded false _
    · intro _ _ hdiscards
      exact (hdiscards discarded hmem).elim (fun h => absurd h hnot) fun h => absurd h hbusy

/-- A turn leaves a work that waits or one that is done. -/
theorem turn_turned (h : Active c w) (write : Option Thrown) (discarded cleaned : Result Unit) :
    Turned (w.turn write discarded cleaned) :=
  h.fits.elim (fun hfits => discarding_turned h hfits write discarded cleaned)
    fun hfits => responding_turned h hfits write discarded cleaned

end

/-- What is promised of a taken request, whatever is called on its work and
whatever the endpoint answers. -/
structure SettledOnce (w : Work) : Prop where
  /-- No second job is enqueued for the ticket. -/
  enqueued_once : (enqueues w.log).length ≤ 1
  /-- One is, once the work of a taken request is let go. -/
  enqueued : w.accepted = true → w.held = false → (enqueues w.log).length = 1
  /-- Destruction lets it go. -/
  released : w.destroyed = true → w.held = false
  /-- At most three responses are written. -/
  few : (writes w.log).length ≤ 3
  /-- None after one that succeeded, and none after a discard. -/
  ordered : w.log.Pairwise fun earlier later => ∀ outcome, later = .write outcome →
    earlier ≠ .write none ∧ ∀ discarded, earlier ≠ .discard discarded
  /-- No second completion is published. -/
  completed_once : (completions w.log).length ≤ 1
  /-- Nothing follows a completion. -/
  completed_last : w.log.Pairwise fun earlier _ => ∀ record, earlier ≠ .publish record
  /-- A completion is published once a write succeeded, the last discard ended,
  or the cleanup failed. -/
  reason : ∀ record ∈ completions w.log,
    none ∈ writes w.log ∨
      (∃ outcome, (discards w.log).getLast? = some outcome ∧ Benign outcome) ∨
      record.cleanupFailed = true
  /-- An undelivered response fails with the error of its last write, however
  often the endpoint was busy. -/
  carries : ∀ record ∈ completions w.log, true ∈ enqueues w.log → none ∉ writes w.log →
    (∀ outcome ∈ discards w.log, Benign outcome ∨ Busy outcome) →
      record.failed = true ∧
        ∃ thrown, (writes w.log).getLast? = some (some thrown) ∧ Carries record thrown

/-- Whether anything was enqueued, and what may still happen. -/
inductive Inv (w : Work) : Prop
  /-- Nothing was enqueued yet. -/
  | fresh (log : w.log = []) (held : w.held = true) (submitted : w.submitted = false)
      (destroyed : w.destroyed = false) (state : w.slot.state = .reserved)
      (retries : w.slot.retries = 0) (failure : w.job.failure = none)
  /-- There was no request. -/
  | abandoned (log : w.log = []) (held : w.held = false) (accepted : w.accepted = false)
      (state : w.slot.state = .free)
  /-- The worker is about it. -/
  | active (c : Course) (active : Active c w) (released : w.destroyed = true → w.held = false)
      (state : w.slot.state = .queued ∨ w.slot.state = .retryWaiting)
  /-- It is done. -/
  | closed (c : Course) (closed : Closed c w) (released : w.destroyed = true → w.held = false)
      (state : w.slot.state = .completed)

section

variable {c : Course} {w : Work}

/-- A sound course keeps the promises about what is logged. -/
theorem SettledOnce.of_course (hlog : w.log = c.log) (hsound : c.Sound)
    (hreleased : w.destroyed = true → w.held = false) : SettledOnce w where
  enqueued_once := by
    rw [hlog,Course.enqueues_log]
    exact Nat.le_refl 1
  enqueued := fun _ _ => by
    rw [hlog,Course.enqueues_log]
    rfl
  released := hreleased
  few := by
    have hfew := hsound.few
    rw [hlog,Course.writes_log,List.length_append,List.length_map]
    cases hwritten : c.written <;> rw [hwritten] at hfew <;> exact hfew
  ordered := by
    rw [hlog]
    cases hwritten : c.written with
    | false =>
      simp [Course.log,hwritten,List.pairwise_append,List.pairwise_map,
        List.pairwise_of_forall fun _ _ => trivial]
    | true =>
      simp [Course.log,hwritten,hsound.kept hwritten,List.pairwise_append,List.pairwise_map,
        List.pairwise_of_forall fun _ _ => trivial]
  completed_once := by
    rw [hlog,Course.completions_log]
    cases c.published <;> simp
  completed_last := by
    rw [hlog]
    cases hwritten : c.written <;> cases hpublished : c.published <;>
      simp [Course.log,hwritten,hpublished,List.pairwise_append,List.pairwise_map,
        List.pairwise_of_forall fun _ _ => trivial]
  reason := by
    intro record hrecord
    rw [hlog,Course.completions_log,Option.mem_toList] at hrecord
    rw [hlog,Course.writes_log,Course.discards_log]
    rcases hsound.reason record hrecord with hwritten | hrest
    · exact .inl (by simp [hwritten])
    · exact .inr hrest
  carries := by
    intro record hrecord hrespond hunwritten hdiscards
    rw [hlog,Course.completions_log,Option.mem_toList] at hrecord
    rw [hlog,Course.enqueues_log,List.mem_singleton] at hrespond
    rw [hlog,Course.writes_log] at hunwritten ⊢
    rw [hlog,Course.discards_log] at hdiscards
    have hwritten : c.written = false := by
      cases hwritten : c.written with
      | false => rfl
      | true => exact absurd (by simp [hwritten]) hunwritten
    obtain ⟨hfailed, thrown, hlast, hcarries⟩ :=
      hsound.carries record hrecord hrespond.symm hwritten hdiscards
    refine ⟨hfailed, thrown, ?_, hcarries⟩
    simp [hwritten,hlast]

/-- The invariant implies the promises. -/
theorem Inv.settledOnce (h : Inv w) : SettledOnce w := by
  cases h with
  | active c active released => exact .of_course active.log active.sound released
  | closed c closed released => exact .of_course closed.log closed.sound released
  | fresh log held submitted destroyed =>
    have hempty : ∀ {P : CompletionRecord → Prop}, ∀ record ∈ completions w.log, P record := by
      intro P record hrecord
      rw [log] at hrecord
      exact absurd hrecord List.not_mem_nil
    refine ⟨by simp [log,enqueues], fun _ hlet => ?_, fun hgone => ?_, by simp [log,writes],
      by simp [log], by simp [log,completions], by simp [log], hempty, hempty⟩
    · exact absurd (held.symm.trans hlet) Bool.false_ne_true.symm
    · exact absurd (destroyed.symm.trans hgone) Bool.false_ne_true
  | abandoned log held accepted =>
    have hempty : ∀ {P : CompletionRecord → Prop}, ∀ record ∈ completions w.log, P record := by
      intro P record hrecord
      rw [log] at hrecord
      exact absurd hrecord List.not_mem_nil
    refine ⟨by simp [log,enqueues], fun htaken _ => ?_, fun _ => held, by simp [log,writes],
      by simp [log], by simp [log,completions], by simp [log], hempty, hempty⟩
    exact absurd (accepted.symm.trans htaken) Bool.false_ne_true

/-- A work is constructed with nothing enqueued. -/
theorem Inv.initial (kind : WorkKind) (record : CompletionRecord) : Inv (Work.initial kind record) :=
  .fresh rfl rfl rfl rfl rfl rfl rfl

end

section

variable {c : Course} {w : Work} {job : DeliveryJob} {respond : Bool}

/-- The course of a job that was just enqueued. -/
def Course.start (respond : Bool) : Course := ⟨respond,[],false,[],none⟩

theorem Course.start_sound (respond : Bool) : (Course.start respond).Sound where
  few := by simp [Course.start]
  silent := fun _ => ⟨rfl, rfl⟩
  kept := fun _ => rfl
  reason := fun _ hrecord => absurd hrecord (Option.some_ne_none _).symm
  carries := fun _ hrecord => absurd hrecord (Option.some_ne_none _).symm

/-- The job of a reserved ticket is enqueued without failure. -/
theorem submit_reserved (hstate : w.slot.state = .reserved) (respond : Bool) (job : DeliveryJob) :
    w.submit respond job = (.ok (),{w with
      job := job
      slot := {w.slot with state := .queued}
      log := w.log ++ [.enqueue respond]
      submitted := true}) := by
  simp [Work.submit,Work.enqueuePrepared,hstate]

/-- A job that was just enqueued begins its course. -/
theorem submit_active (hlog : w.log = []) (haccepted : w.accepted = true)
    (hstate : w.slot.state = .reserved)
    (hfits : Discarding (.start respond) job ∨ Responding (.start respond) job w.slot.retries) :
    Active (.start respond) (w.submit respond job).2 := by
  rw [submit_reserved hstate]
  refine ⟨?_, rfl, rfl, Course.start_sound respond, haccepted, rfl, hfits⟩
  simp [hlog,Course.start,Course.log]

/-- A response of the right type is set. -/
theorem setResponse_responding {sample : OwnedSample} {retries : ℕ} {told : DeliveryJob}
    (h : job.setResponse sample = .ok told) (hretries : retries = 0) :
    Responding (.start true) told retries := by
  unfold DeliveryJob.setResponse at h
  split at h
  · cases h
  · cases h
    exact ⟨rfl, rfl, rfl, rfl, hretries.symm, by omega⟩

/-- An acceptance of the right type is set. -/
theorem accept_responding {sample : OwnedSample} {info : GoalInfo} {mode : GoalAcceptMode}
    {retries : ℕ} {told : DeliveryJob} (h : job.accept sample info mode = .ok told)
    (hretries : retries = 0) : Responding (.start true) told retries := by
  unfold DeliveryJob.accept at h
  split at h
  · cases h
  · split at h
    · cases h
    · cases h
      exact ⟨rfl, rfl, rfl, rfl, hretries.symm, by omega⟩

/-- Once a job is enqueued, calls on its work change at most whether it is held. -/
structure Settled (w w' : Work) : Prop where
  /-- The job. -/
  job : w'.job = w.job
  /-- The slot. -/
  slot : w'.slot = w.slot
  /-- What was done. -/
  log : w'.log = w.log
  /-- The flags. -/
  accepted : w'.accepted = w.accepted
  /-- The flags. -/
  submitted : w'.submitted = w.submitted
  /-- A work that is let go stays so. -/
  released : (w.destroyed = true → w.held = false) → w'.destroyed = true → w'.held = false

theorem Settled.refl : Settled w w := ⟨rfl, rfl, rfl, rfl, rfl, id⟩

theorem Active.settled {w' : Work} (h : Active c w) (hsettled : Settled w w') : Active c w' :=
  ⟨hsettled.log.trans h.log, h.unpublished, h.unwritten, h.sound, hsettled.accepted.trans h.accepted,
    hsettled.submitted.trans h.submitted, by rw [hsettled.job,hsettled.slot]; exact h.fits⟩

theorem Closed.settled {w' : Work} (h : Closed c w) (hsettled : Settled w w') : Closed c w' :=
  ⟨hsettled.log.trans h.log, h.published, h.sound, hsettled.accepted.trans h.accepted,
    hsettled.submitted.trans h.submitted⟩

/-- Letting an enqueued work go. -/
theorem finishTask_settled (haccepted : w.accepted = true) (hsubmitted : w.submitted = true) :
    Settled w w.finishTask.2 ∧ w.finishTask.2.held = false := by
  unfold Work.finishTask
  cases hheld : w.held with
  | false => exact ⟨Settled.refl, hheld⟩
  | true =>
    simp only [Bool.not_true,Bool.false_eq_true,if_false,haccepted,if_true,Work.submitDiscard,
      hsubmitted]
    exact ⟨⟨rfl, rfl, rfl, haccepted.symm, hsubmitted.symm, fun _ _ => rfl⟩, trivial⟩

/-- The events that are calls on the object. -/
def Event.calls : Event → Bool
  | .requeue | .turn .. => false
  | _ => true

/-- Every call leaves an enqueued job alone. -/
theorem call_settled {e : Event} (hcall : e.calls = true) (haccepted : w.accepted = true)
    (hsubmitted : w.submitted = true) : Settled w (next w e) := by
  have hrespond (sample : OwnedSample) : Settled w (w.respond sample).2 := by
    simp only [Work.respond,hsubmitted,Bool.true_or,if_true]
    exact .refl
  cases e with
  | receive own id =>
    simp only [next,Work.receive,haccepted,Bool.true_or,if_true]
    exact .refl
  | respond sample => exact hrespond sample
  | respondPayload sample =>
    simp only [next,Work.respondPayload]
    split
    · exact .refl
    · exact hrespond sample
  | accept sample info mode =>
    simp only [next,Work.accept,hsubmitted,Bool.true_or,if_true]
    exact .refl
  | discard =>
    simp only [next,Work.submitDiscard,hsubmitted,if_true]
    exact .refl
  | release => exact (finishTask_settled haccepted hsubmitted).1
  | destroy =>
    obtain ⟨hsettled, hheld⟩ := finishTask_settled haccepted hsubmitted
    exact ⟨hsettled.job, hsettled.slot, hsettled.log, hsettled.accepted, hsettled.submitted,
      fun _ _ => hheld⟩
  | requeue => exact absurd hcall Bool.false_ne_true
  | turn write discarded cleaned => exact absurd hcall Bool.false_ne_true

/-- A turn does not touch the flags of the work. -/
theorem turn_released (write : Option Thrown) (discarded cleaned : Result Unit) :
    (w.turn write discarded cleaned).destroyed = w.destroyed ∧
      (w.turn write discarded cleaned).held = w.held := by
  unfold Work.turn Work.settle Work.wait Work.publish
  dsimp only
  split
  · exact ⟨rfl, rfl⟩
  · split <;> split <;> exact ⟨rfl, rfl⟩

end

section

variable {w : Work}

/-- Enqueuing the first job of a taken request. -/
theorem Inv.submit {job : DeliveryJob} {respond : Bool} (hlog : w.log = [])
    (haccepted : w.accepted = true) (hstate : w.slot.state = .reserved)
    (hdestroyed : w.destroyed = false)
    (hfits : Discarding (.start respond) job ∨ Responding (.start respond) job w.slot.retries) :
    Inv (w.submit respond job).2 := by
  have hactive := submit_active hlog haccepted hstate hfits
  have hsubmit := submit_reserved hstate respond job
  refine .active _ hactive (fun hgone => ?_) ?_
  · rw [hsubmit] at hgone
    exact absurd (hdestroyed.symm.trans hgone) Bool.false_ne_true
  · rw [hsubmit]
    exact .inl rfl

/-- Letting a work go that holds nothing enqueued: the ticket is abandoned, or
the taken request is discarded. -/
theorem finishTask_fresh (hlog : w.log = []) (hheld : w.held = true)
    (hsubmitted : w.submitted = false) (hstate : w.slot.state = .reserved)
    (hfailure : w.job.failure = none) :
    w.finishTask.2.held = false ∧
      ((w.finishTask.2.log = [] ∧ w.finishTask.2.accepted = false ∧
        w.finishTask.2.slot.state = .free) ∨
      Active (.start false) w.finishTask.2 ∧ w.finishTask.2.slot.state = .queued) := by
  unfold Work.finishTask
  cases haccepted : w.accepted with
  | false =>
    simp only [hheld,Bool.not_true,Bool.false_eq_true,if_false,Work.abandon,hstate]
    exact ⟨trivial, .inl ⟨hlog, haccepted, trivial⟩⟩
  | true =>
    have hfits : Discarding (.start false) w.job.discard := ⟨rfl, .inl ⟨rfl, hfailure⟩⟩
    have hactive := submit_active hlog haccepted hstate (.inl hfits)
    rw [submit_reserved hstate] at hactive
    simp only [hheld,Bool.not_true,Bool.false_eq_true,if_false,if_true,Work.submitDiscard,
      hsubmitted,haccepted,submit_reserved hstate]
    exact ⟨trivial, .inr ⟨⟨hactive.log, rfl, rfl, hactive.sound, rfl, rfl, hactive.fits⟩, trivial⟩⟩

/-- A call on a work with nothing enqueued. -/
theorem Inv.call_fresh {e : Event} (hcall : e.calls = true) (hlog : w.log = [])
    (hheld : w.held = true) (hsubmitted : w.submitted = false) (hdestroyed : w.destroyed = false)
    (hstate : w.slot.state = .reserved) (hretries : w.slot.retries = 0)
    (hfailure : w.job.failure = none) : Inv (next w e) := by
  have hsame : Inv w := .fresh hlog hheld hsubmitted hdestroyed hstate hretries hfailure
  have hrespond (sample : OwnedSample) : Inv (w.respond sample).2 := by
    unfold Work.respond
    cases haccepted : w.accepted with
    | false => simpa only [hsubmitted,Bool.not_false,Bool.or_true,if_true] using hsame
    | true =>
      simp only [hsubmitted,Bool.not_true,Bool.or_false,Bool.false_eq_true,if_false]
      cases hset : w.job.setResponse sample with
      | error fault => exact hsame
      | ok job =>
        exact .submit hlog haccepted hstate hdestroyed (.inr (setResponse_responding hset hretries))
  have hlet := finishTask_fresh hlog hheld hsubmitted hstate hfailure
  cases e with
  | receive own id =>
    simp only [next,Work.receive]
    split
    · exact hsame
    · split
      · exact hsame
      · exact .fresh hlog hheld hsubmitted hdestroyed hstate hretries hfailure
  | respond sample => exact hrespond sample
  | respondPayload sample =>
    simp only [next,Work.respondPayload]
    split
    · exact hsame
    · exact hrespond sample
  | accept sample info mode =>
    simp only [next,Work.accept]
    cases haccepted : w.accepted with
    | false => simpa only [hsubmitted,Bool.not_false,Bool.or_true,if_true] using hsame
    | true =>
      simp only [hsubmitted,Bool.not_true,Bool.or_false,Bool.false_eq_true,if_false]
      cases hset : w.job.accept sample info mode with
      | error fault => exact hsame
      | ok job =>
        exact .submit hlog haccepted hstate hdestroyed (.inr (accept_responding hset hretries))
  | discard =>
    simp only [next,Work.submitDiscard,hsubmitted,Bool.false_eq_true,if_false]
    cases haccepted : w.accepted with
    | false => simpa only [Bool.not_false,if_true] using hsame
    | true =>
      simp only [Bool.not_true,Bool.false_eq_true,if_false]
      exact .submit hlog haccepted hstate hdestroyed (.inl ⟨rfl, .inl ⟨rfl, hfailure⟩⟩)
  | release =>
    rcases hlet with ⟨hlet, ⟨hnothing, huntaken, hfree⟩ | ⟨hactive, hqueued⟩⟩
    · exact .abandoned hnothing hlet huntaken hfree
    · exact .active _ hactive (fun _ => hlet) (.inl hqueued)
  | destroy =>
    rcases hlet with ⟨hlet, ⟨hnothing, huntaken, hfree⟩ | ⟨hactive, hqueued⟩⟩
    · exact .abandoned hnothing hlet huntaken hfree
    · exact .active _ ⟨hactive.log, hactive.unpublished, hactive.unwritten, hactive.sound,
        hactive.accepted, hactive.submitted, hactive.fits⟩ (fun _ => hlet) (.inl hqueued)
  | requeue => exact absurd hcall Bool.false_ne_true
  | turn write discarded cleaned => exact absurd hcall Bool.false_ne_true

/-- A call on a work that had no request. -/
theorem Inv.call_abandoned {e : Event} (hcall : e.calls = true) (hlog : w.log = [])
    (hheld : w.held = false) (haccepted : w.accepted = false) (hstate : w.slot.state = .free) :
    Inv (next w e) := by
  have hsame : Inv w := .abandoned hlog hheld haccepted hstate
  have hrespond (sample : OwnedSample) : Inv (w.respond sample).2 := by
    simpa only [Work.respond,haccepted,Bool.not_false,Bool.or_true,if_true] using hsame
  have hlet : w.finishTask.2 = w := by
    simp only [Work.finishTask,hheld,Bool.not_false,if_true]
  cases e with
  | receive own id =>
    simpa only [next,Work.receive,hheld,Bool.not_false,Bool.or_true,if_true] using hsame
  | respond sample => exact hrespond sample
  | respondPayload sample =>
    simp only [next,Work.respondPayload]
    split
    · exact hsame
    · exact hrespond sample
  | accept sample info mode =>
    simpa only [next,Work.accept,haccepted,Bool.not_false,Bool.or_true,if_true] using hsame
  | discard =>
    simp only [next,Work.submitDiscard,haccepted,Bool.not_false,if_true]
    split <;> exact hsame
  | release => simpa only [next,hlet] using hsame
  | destroy =>
    simp only [next,Work.destroy,hlet]
    exact .abandoned hlog hheld haccepted hstate
  | requeue => exact absurd hcall Bool.false_ne_true
  | turn write discarded cleaned => exact absurd hcall Bool.false_ne_true

/-- Every event keeps the invariant. -/
theorem Inv.next (h : Inv w) (e : Event) (henabled : Enabled w e) : Inv (next w e) := by
  cases hcall : e.calls with
  | true =>
    cases h with
    | fresh log held submitted destroyed state retries failure =>
      exact .call_fresh hcall log held submitted destroyed state retries failure
    | abandoned log held accepted state => exact .call_abandoned hcall log held accepted state
    | active c active released state =>
      have hsettled := call_settled hcall active.accepted active.submitted
      refine .active c (active.settled hsettled) (hsettled.released released) ?_
      rw [hsettled.slot]
      exact state
    | closed c closed released state =>
      have hsettled := call_settled hcall closed.accepted closed.submitted
      refine .closed c (closed.settled hsettled) (hsettled.released released) ?_
      rw [hsettled.slot]
      exact state
  | false =>
    cases e with
    | requeue =>
      have hwaiting : w.slot.state = .retryWaiting := henabled
      cases h with
      | active c active released =>
        exact .active c ⟨active.log, active.unpublished, active.unwritten, active.sound,
          active.accepted, active.submitted, active.fits⟩ released (.inl rfl)
      | fresh _ _ _ _ state => exact SlotState.noConfusion (hwaiting.symm.trans state)
      | abandoned _ _ _ state => exact SlotState.noConfusion (hwaiting.symm.trans state)
      | closed _ _ _ state => exact SlotState.noConfusion (hwaiting.symm.trans state)
    | turn write discarded cleaned =>
      have hqueued : w.slot.state = .queued := henabled
      cases h with
      | active c active released =>
        obtain ⟨hdestroyed, hheld⟩ := turn_released (w := w) write discarded cleaned
        have hreleased : (w.turn write discarded cleaned).destroyed = true →
            (w.turn write discarded cleaned).held = false := by
          rw [hdestroyed,hheld]
          exact released
        rcases turn_turned active write discarded cleaned with
          ⟨c', hactive, hstate⟩ | ⟨c', hclosed, hstate⟩
        · exact .active c' hactive hreleased (.inr hstate)
        · exact .closed c' hclosed hreleased hstate
      | fresh _ _ _ _ state => exact SlotState.noConfusion (hqueued.symm.trans state)
      | abandoned _ _ _ state => exact SlotState.noConfusion (hqueued.symm.trans state)
      | closed _ _ _ state => exact SlotState.noConfusion (hqueued.symm.trans state)
    | _ => exact absurd hcall Bool.false_ne_true.symm

end

/-- A turn in which the endpoint does what it is asked ends the course. -/
theorem turn_completes {w : Work} (h : Inv w) (hqueued : w.slot.state = .queued) :
    (w.turn none (.ok ()) (.ok ())).slot.state = .completed := by
  cases h with
  | fresh _ _ _ _ state => exact SlotState.noConfusion (hqueued.symm.trans state)
  | abandoned _ _ _ state => exact SlotState.noConfusion (hqueued.symm.trans state)
  | closed _ _ _ state => exact SlotState.noConfusion (hqueued.symm.trans state)
  | active c active =>
    rcases active.fits with hfits | hfits
    · rcases hfits.failure with ⟨-, hnone⟩ | ⟨-, record, -, hsome, hfailed, -⟩
      · simp [Work.turn,Work.settle,Work.publish,DeliveryJob.run,DeliveryJob.discardRequest,
          hfits.discarding,hnone,Slot.again,Slot.ran,executeStep]
      · simp [Work.turn,Work.settle,Work.publish,DeliveryJob.run,DeliveryJob.discardRequest,
          DeliveryJob.afterFailedDelivery,DeliveryJob.retryable,hfits.discarding,hsome,hfailed,
          Slot.again,Slot.ran,executeStep]
    · have hresponse : w.job.response.isNone = false := by
        rw [← Option.not_isSome,hfits.response]
        rfl
      simp [Work.turn,Work.settle,Work.publish,DeliveryJob.run,hfits.responding,hresponse,
        Slot.again,Slot.ran,executeStep]

/-- Every run of calls and turns settles a request once: one job, at most three
writes, one completion with its reason and with the error of the last write;
and a turn in which the endpoint does what it is asked publishes it. -/
theorem request_settled_once (kind : WorkKind) (record : CompletionRecord) {es : List Event}
    {w : Work} (hrun : machine.Run (Work.initial kind record) es w) :
    SettledOnce w ∧ (w.slot.state = .queued →
      (w.turn none (.ok ()) (.ok ())).slot.state = .completed) := by
  have hinv : Inv w :=
    hrun.invariant Inv (Inv.initial kind record) fun _ e h henabled _ => h.next e henabled
  exact ⟨hinv.settledOnce, turn_completes hinv⟩

/-- A busy endpoint. -/
def busyEndpoint : Error := ⟨.busy,"Request is being answered"⟩

/-- A response that is written three times in vain while the discard is polled,
and succeeds when it is asked again. -/
def busyDelivery : List Event :=
  [.receive true ⟨⟨Vector.replicate 16 1⟩,1⟩,.respond ⟨.serviceResponse⟩,.destroy,
    .turn (some (.failure .ddsError "no transport")) (.ok ()) (.ok ()),.requeue,
    .turn (some (.failure .busy "history is full")) (.ok ()) (.ok ()),.requeue,
    .turn (some (.failure .timeout "no acknowledgement")) (.ok ()) (.error busyEndpoint),.requeue,
    .turn none (.error busyEndpoint) (.ok ()),.requeue,
    .turn none (.ok ()) (.ok ())]

/-- The delivery ends with one completion that carries the third error. -/
theorem request_settled_once_busy :
    ∃ w, SettledOnce w ∧ (enqueues w.log).length = 1 ∧ (writes w.log).length = 3 ∧
      (completions w.log).map (fun record => (record.failed,record.errorCode,record.diagnostic)) =
        [(true,.timeout,"no acknowledgement")] := by
  have hexec : (machine.exec (.initial .service .fresh) busyDelivery).isSome = true := by
    decide +kernel
  obtain ⟨w, hw⟩ := Option.isSome_iff_exists.mp hexec
  refine ⟨w, (request_settled_once .service .fresh (Machine.run_of_exec hw)).1, ?_, ?_, ?_⟩
  · have h : (machine.exec (.initial .service .fresh) busyDelivery).map
        (fun w => (enqueues w.log).length) = some 1 := by decide +kernel
    rw [hw] at h
    exact Option.some.inj h
  · have h : (machine.exec (.initial .service .fresh) busyDelivery).map
        (fun w => (writes w.log).length) = some 3 := by decide +kernel
    rw [hw] at h
    exact Option.some.inj h
  · have h : (machine.exec (.initial .service .fresh) busyDelivery).map
        (fun w => (completions w.log).map
          fun record => (record.failed,record.errorCode,record.diagnostic)) =
        some [(true,.timeout,"no acknowledgement")] := by decide +kernel
    rw [hw] at h
    exact Option.some.inj h

end Dmw.DeliveryJobs
