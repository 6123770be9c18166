import Dmw.ResponseClaim
import Dmw.ResultRequests

/-!
# Result requests between the registry and the result Server

A goal's waiting list names requests of the result Server's pending table.
`result_coordination_mutex_` joins the two tables while a request is claimed,
discarded, registered or taken; the Server's own reads, the end of a claimed
write and every other registry operation run outside it.
-/

namespace Dmw.ResultCoordination

open Identity KeyedTable GuardedRuns ServerPending ServerCalls ClaimProtocol ResponseClaim
open GoalRegistry ResultRequests

/-- What the owner of the coordination mutex still has to do. -/
inductive Section
  /-- Claim granted, removal from the goal lists outstanding. -/
  | claimed (id : RequestId)
  /-- `discard_request` entered, removal outstanding if it drops the request. -/
  | discarding (id : RequestId)
  /-- Pending check passed, registration outstanding. -/
  | checked (goalId : GoalId) (id : RequestId)
  deriving DecidableEq

/-- The result Server with its calls, the goal registry and the mutex. -/
structure System where
  /-- Result Server and the threads inside it. -/
  calls : ServerCalls.System
  /-- The goal registry. -/
  registry : Registry
  /-- Owner of `result_coordination_mutex_` and the rest of its section. -/
  mutex : Option (ThreadId × Section)

/-- A fresh Server, a new registry, a free mutex. -/
def System.initial (maxPendingRequests : ℕ) (resultTimeout : ℤ) : System :=
  ⟨ServerCalls.System.initial maxPendingRequests,Registry.new resultTimeout,none⟩

/-- How the call of a thread ends, where that is settled. -/
def outcome : Pc → Option Reply
  | .returning _ reply => some reply
  | .settingFlag _ next => outcome next
  | _ => none

/-- `write_result_response` up to its claim. -/
def writeBegin (t : ThreadId) (responseNull : Bool) (id : RequestId) (s : System) : System :=
  let calls := respondBegin t (responseAdmission responseNull true) id s.calls
  if responseNull then {s with calls := calls}
  else
    match s.calls.server.claimResponse id with
    | .error _ => {s with calls := calls}
    | .ok _ => {s with calls := calls, mutex := some (t,.claimed id)}

/-- The claimed request leaves the goal lists. -/
def writeEnd (id : RequestId) (s : System) : System :=
  {s with registry := s.registry.removeResultRequest id, mutex := none}

/-- `discard_result_request` enters its section. -/
def discardBegin (t : ThreadId) (operation : Bool) (id : RequestId) (s : System) : System :=
  {s with
    calls := ServerCalls.discardBegin t operation id s.calls
    mutex := some (t,.discarding id)}

/-- A discarded or unknown request leaves the goal lists. -/
def removesAfter : Reply → Bool
  | .success => true
  | .failure e => e.code = .notFound
  | _ => false

/-- The end of the discard section. -/
def discardEnd (id : RequestId) (reply : Reply) (s : System) : System :=
  if removesAfter reply then
    {s with registry := s.registry.removeResultRequest id, mutex := none}
  else {s with mutex := none}

/-- `register_result_request` up to its pending check. -/
def registerBegin (t : ThreadId) (operation : Bool) (goalId : GoalId) (id : RequestId) (s : System) :
    System :=
  if !operation then s
  else
    match s.calls.server.checkPendingRequest id with
    | .error _ => s
    | .ok _ => {s with mutex := some (t,.checked goalId id)}

/-- The registration under the same lock. -/
def registerEnd (now : ℤ) (goalId : GoalId) (id : RequestId) (s : System) : System :=
  {s with registry := (s.registry.apply now (.registerResultRequest goalId id)).2, mutex := none}

/-- A registry operation of its own. -/
def operate (now : ℤ) (op : Op) (s : System) : System :=
  {s with registry := (s.registry.apply now op).2}

/-- One atomic event. -/
inductive Event
  /-- A step inside the result Server. -/
  | call (e : ServerCalls.Event)
  | writeBegin (t : ThreadId) (responseNull : Bool) (id : RequestId)
  | writeEnd (t : ThreadId) (id : RequestId)
  | discardBegin (t : ThreadId) (operation : Bool) (id : RequestId)
  | discardEnd (t : ThreadId) (id : RequestId) (reply : Reply)
  | registerBegin (t : ThreadId) (operation : Bool) (goalId : GoalId) (id : RequestId)
  | registerEnd (t : ThreadId) (now : ℤ) (goalId : GoalId) (id : RequestId)
  /-- `take_pending_result_requests`, in one section. -/
  | take (t : ThreadId) (now : ℤ) (goalId : GoalId)
  /-- A registry operation outside the mutex. -/
  | registry (now : ℤ) (op : Op)

/-- Registry operations that only run under the mutex. -/
def coordinated : Op → Bool
  | .registerResultRequest .. | .takePendingResultRequests _ | .removeResultRequest _ => true
  | _ => false

/-- Claims and discards enter the result Server through a section; a flag
exchange is the only Server step left inside one. -/
def callable (mutex : Option (ThreadId × Section)) : ServerCalls.Event → Bool
  | .respondBegin .. | .discardBegin .. => false
  | .setFlag .. => true
  | e => mutex.map (·.1) ≠ some e.thread

/-- Sections exclude each other, and their owner does nothing else. -/
def enabled (s : System) : Event → Prop
  | .call e => ServerCalls.enabled s.calls e ∧ callable s.mutex e = true
  | .writeBegin t responseNull _ =>
    s.calls.pc t = .idle ∧ s.mutex.map (·.1) ≠ some t ∧ (responseNull = false → s.mutex = none)
  | .writeEnd t id => s.mutex = some (t,.claimed id)
  | .discardBegin t _ _ => s.calls.pc t = .idle ∧ s.mutex = none
  | .discardEnd t id reply =>
    s.mutex = some (t,.discarding id) ∧ ∃ report, s.calls.pc t = .returning report reply
  | .registerBegin t _ _ _ => s.calls.pc t = .idle ∧ s.mutex = none
  | .registerEnd t _ goalId id => s.mutex = some (t,.checked goalId id)
  | .take t _ _ => s.calls.pc t = .idle ∧ s.mutex = none
  | .registry _ op => coordinated op = false

/-- Effect of an enabled event. -/
def next (s : System) : Event → System
  | .call e => {s with calls := ServerCalls.next s.calls e}
  | .writeBegin t responseNull id => writeBegin t responseNull id s
  | .writeEnd _ id => writeEnd id s
  | .discardBegin t operation id => discardBegin t operation id s
  | .discardEnd _ id reply => discardEnd id reply s
  | .registerBegin t operation goalId id => registerBegin t operation goalId id s
  | .registerEnd _ now goalId id => registerEnd now goalId id s
  | .take _ now goalId => operate now (.takePendingResultRequests goalId) s
  | .registry now op => operate now op s

/-- Whether a thread is about to return a reply. -/
def returns (reply : Reply) : Pc → Bool
  | .returning _ reply' => reply' = reply
  | _ => false

theorem returns_iff {reply : Reply} {pc : Pc} :
    returns reply pc = true ↔ ∃ report, pc = .returning report reply := by
  cases pc <;> simp [returns]

instance (s : System) : (e : Event) → Decidable (enabled s e)
  | .call .. => inferInstanceAs (Decidable (_ ∧ _))
  | .writeBegin .. => inferInstanceAs (Decidable (_ ∧ _ ∧ (_ → _)))
  | .writeEnd .. => inferInstanceAs (Decidable (_ = _))
  | .discardBegin .. => inferInstanceAs (Decidable (_ ∧ _))
  | .discardEnd .. => @instDecidableAnd _ _ _ (decidable_of_iff _ returns_iff)
  | .registerBegin .. => inferInstanceAs (Decidable (_ ∧ _))
  | .registerEnd .. => inferInstanceAs (Decidable (_ = _))
  | .take .. => inferInstanceAs (Decidable (_ ∧ _))
  | .registry .. => inferInstanceAs (Decidable (_ = _))

/-- The two tables under the coordination mutex. -/
def machine : Machine System Event where
  enabled := enabled
  next := next
  decidableEnabled := inferInstance

/-- The request, if any, that a Server step may erase. -/
def erases : ServerCalls.Event → Option RequestId
  | .rollback _ id _ | .release _ id _ | .discardBegin _ _ id => some id
  | _ => none

/-- The request, if any, that a Server step may claim. -/
def claims : ServerCalls.Event → Option RequestId
  | .respondBegin _ _ _ id => some id
  | _ => none

/-- No call holds a claim on the request, no goal keeps it and no section is
about to register it. -/
structure Untouched (s : System) (id : RequestId) : Prop where
  /-- It is not claimed. -/
  unclaimed : ∀ t n, (role (s.calls.pc t)).owned ≠ some (id,n)
  /-- It is in no goal's list. -/
  unlisted : ∀ goalId, ¬ s.registry.Keeps goalId id
  /-- It was not just checked. -/
  unchecked : ∀ t goalId, s.mutex ≠ some (t,.checked goalId id)

/-- No claim is granted over a stale one, and a failed read takes back only a
request that nobody has used. -/
def Ordered (s : System) : Event → Prop
  | .call (.rollback _ id _) => Untouched s id
  | .writeBegin t responseNull id => Undisturbed s.calls (.respondBegin t responseNull true id)
  | _ => True

section

variable {s : ServerCalls.System} {e : ServerCalls.Event} {id : RequestId} {b : Bool} {n : ℕ}

/-- An entry that is not erased keeps its ticket, and stays unclaimed unless
it is claimed. -/
theorem entries_next (herases : erases e ≠ some id) (hentry : entries s.server id = some (b,n)) :
    ∃ b', entries (ServerCalls.next s e).server id = some (b',n) ∧
      (b = false → claims e ≠ some id → b' = false) := by
  have hkeep : ∀ server : Server, server.pending = s.server.pending →
      ∃ b', entries server id = some (b',n) ∧ (b = false → claims e ≠ some id → b' = false) := by
    intro server hpending
    refine ⟨b, ?_, fun h _ => h⟩
    rw [← hentry, entries, entries, hpending]
  have hother : ∀ (server : Server) (id' : RequestId) (value : Option (Bool × ℕ)), id' ≠ id →
      entries server = Function.update (entries s.server) id' value →
        ∃ b', entries server id = some (b',n) ∧
          (b = false → claims e ≠ some id → b' = false) := by
    intro server id' value hne heq
    exact ⟨b, by rw [heq, Function.update_of_ne (Ne.symm hne), hentry], fun h _ => h⟩
  have hrestore : ∀ id', ∃ b', entries (s.server.restorePending id') id = some (b',n) ∧
      (b = false → claims e ≠ some id → b' = false) := by
    intro id'
    rw [entries_restorePending]
    by_cases hid : id = id'
    · subst hid
      exact ⟨false, by simp [unclaim, hentry], fun _ _ => rfl⟩
    · exact ⟨b, by rwa [unclaim, Function.update_of_ne hid], fun h _ => h⟩
  cases e with
  | readBegin t requestNull operation remaining =>
    simp only [ServerCalls.next, readBegin]
    split <;> exact hkeep _ rfl
  | readTurn t remaining =>
    simp only [ServerCalls.next]
    unfold readTurn
    split
    · exact hkeep _ rfl
    · split
      · exact hkeep _ rfl
      · next hreserve =>
        obtain ⟨-, -, rfl⟩ := Server.reserveRequestSlot_some.mp hreserve
        exact hkeep _ rfl
  | take t remaining becameFull outcome =>
    simp only [ServerCalls.next, ServerCalls.take]
    split <;> exact hkeep _ rfl
  | insert t remaining becameFull id' identity threw =>
    simp only [ServerCalls.next, ServerCalls.insert]
    cases threw with
    | true => exact hkeep _ rfl
    | false =>
      by_cases hmem : id' ∈ s.server.pending
      · simp only [Server.insertRequest, if_pos hmem]
        exact hkeep _ rfl
      · have hne : id' ≠ id := by
          rintro rfl
          simp [entries, AList.lookup_eq_none.mpr hmem] at hentry
        have hentries := entries_insertRequest identity hmem
        simp only [Server.insertRequest, if_neg hmem] at hentries ⊢
        exact hother _ id' _ hne hentries
  | commit t id' acceptance outcome =>
    simp only [ServerCalls.next, commit]
    split <;> exact hkeep _ rfl
  | rollback t id' reply =>
    exact hother _ id' _ (by simpa [erases] using herases) (entries_erase rfl)
  | discardBegin t operation id' =>
    simp only [ServerCalls.next, ServerCalls.discardBegin]
    cases operation with
    | false => exact hkeep _ rfl
    | true =>
      cases hdiscard : s.server.discardRequest id' with
      | error e => exact hkeep _ rfl
      | ok outcome =>
        obtain ⟨entry, wasFull, server⟩ := outcome
        obtain ⟨-, -, -, rfl⟩ := Server.discardRequest_ok.mp hdiscard
        exact hother _ id' _ (by simpa [erases] using herases) (entries_erase rfl)
  | respondBegin t responseNull operation id' =>
    simp only [ServerCalls.next, respondBegin]
    split
    · exact hkeep _ rfl
    · cases hclaim : s.server.claimResponse id' with
      | error e => exact hkeep _ rfl
      | ok outcome =>
        obtain ⟨entry, server⟩ := outcome
        obtain ⟨-, -, rfl⟩ := Server.claimResponse_ok.mp hclaim
        by_cases hid : id' = id
        · subst hid
          refine ⟨true, ?_, fun _ hclaims => absurd rfl hclaims⟩
          rw [show entries _ id' = _ from congrFun (entries_setPhase .responding) id']
          simp [hentry]
        · exact hother _ id' _ hid (entries_setPhase .responding)
  | decideResponse t id' identity acceptance env =>
    simp only [ServerCalls.next, decideResponse]
    split <;> exact hkeep _ rfl
  | restore t id' acceptance reply => exact hrestore id'
  | release t id' acceptance =>
    exact hother _ id' _ (by simpa [erases] using herases) (entries_erase rfl)
  | unwind t id' acceptance reply => exact hrestore id'
  | _ => exact hkeep _ rfl

/-- A discard leaves a claimed entry alone. -/
theorem entries_discardBegin {t : ThreadId} {operation : Bool}
    (hentry : entries s.server id = some (true,n)) :
    entries (ServerCalls.discardBegin t operation id s).server = entries s.server := by
  unfold ServerCalls.discardBegin
  cases operation with
  | false => rfl
  | true =>
    cases hdiscard : s.server.discardRequest id with
    | error e => rfl
    | ok outcome =>
      obtain ⟨entry, wasFull, server⟩ := outcome
      obtain ⟨hlookup, hphase, -, -⟩ := Server.discardRequest_ok.mp hdiscard
      rw [entries_of_findUnclaimed (Server.findUnclaimed_ok.mpr ⟨hlookup, hphase⟩)] at hentry
      cases hentry

end

/-- A disposition that gives the claim back does not report success. -/
def fails : Disposition → Prop
  | .unwind reply | .restore reply => reply ≠ .success
  | .release _ => True

theorem notReady_fails (status : TargetStatus) (timeoutMessage : String) :
    fails (notReady status timeoutMessage) := by
  cases status <;> simp [notReady, fails]

theorem writeSample_fails (env : ResponseEnv) : fails (writeSample env) := by
  unfold writeSample
  split <;> simp [fails]

theorem recheckTarget_fails (env : ResponseEnv) : fails (recheckTarget env) := by
  simp only [recheckTarget]
  split
  · simp [fails]
  · exact writeSample_fails env
  · exact notReady_fails ..

theorem commitResponse_fails (hasTargetReader : Bool) (env : ResponseEnv) :
    fails (commitResponse hasTargetReader env) := by
  unfold commitResponse
  split
  · simp [fails]
  · split
    · exact recheckTarget_fails env
    · exact writeSample_fails env

/-- Only a released claim ends in success. -/
theorem respond_fails (identity : SampleIdentity) (env : ResponseEnv) :
    fails (respond identity env) := by
  unfold respond
  split
  · simp [fails]
  · split
    · simp [fails]
    · dsimp only
      split
      · simp [fails]
      · simp [fails]
      · split
        · split
          · simp [fails]
          · exact commitResponse_fails true env
          · exact notReady_fails ..
        · exact commitResponse_fails false env

/-- The accepted request a call reports as answered or discarded. -/
def reported : Pc → Option (RequestId × ℕ)
  | .unwinding id acceptance reply => if reply = .success then some (id,acceptance) else none
  | .returning (some (.answered id acceptance)) _ => some (id,acceptance)
  | .returning (some (.discarded id acceptance)) _ => some (id,acceptance)
  | .settingFlag _ next => reported next
  | _ => none

/-- The reply of a call that is about to restore its claim. -/
def givesBack : Pc → Option Reply
  | .restoring _ _ reply => some reply
  | .settingFlag _ next => givesBack next
  | _ => none

/-- The accepted request of a report. -/
def request : Report → RequestId × ℕ
  | .answered id acceptance | .discarded id acceptance => (id,acceptance)

/-- What is reported as answered or discarded has left the table for good. -/
structure Spent (s : ServerCalls.System) : Prop where
  /-- A restored claim ends in a failure. -/
  honest : ∀ t, givesBack (s.pc t) ≠ some .success
  /-- A request about to be reported is gone. -/
  gone : ∀ t id n, reported (s.pc t) = some (id,n) → Gone (abstract s) id n
  /-- A reported request is gone. -/
  logged : ∀ report, .returned report ∈ s.log →
    Gone (abstract s) (request report).1 (request report).2

/-- The result Server in an orderly run. -/
structure Sane (s : ServerCalls.System) : Prop where
  /-- Claims follow the protocol. -/
  protocol : Inv (abstract s)
  /-- Claimed entries stay with their owners. -/
  held : Held (abstract s)
  /-- Reports are final. -/
  spent : Spent s

section

variable {s : ServerCalls.System} {e : ServerCalls.Event}

@[simp] theorem reported_showWhen (wasFull : Bool) (next : Pc) :
    reported (showWhen wasFull next) = reported next := by
  cases wasFull <;> rfl

@[simp] theorem givesBack_showWhen (wasFull : Bool) (next : Pc) :
    givesBack (showWhen wasFull next) = givesBack next := by
  cases wasFull <;> rfl

/-- A request is reported once its own call erased it. -/
theorem reported_next {id : RequestId} {n : ℕ} (hspent : Spent s) (hen : ServerCalls.enabled s e)
    (hreported : reported ((ServerCalls.next s e).pc e.thread) = some (id,n)) :
    reported (s.pc e.thread) = some (id,n) ∨
      (role (s.pc e.thread)).owned = some (id,n) ∧
        entries (ServerCalls.next s e).server id = none ∨
      role ((ServerCalls.next s e).pc e.thread) = .dropped id n := by
  cases e with
  | readBegin t requestNull operation remaining =>
    simp only [ServerCalls.next, readBegin, ServerCalls.Event.thread] at hreported
    split at hreported <;> simp [reported] at hreported
  | readTurn t remaining =>
    simp only [ServerCalls.next, ServerCalls.Event.thread] at hreported
    unfold readTurn at hreported
    split at hreported
    · simp [reported] at hreported
    · split at hreported
      · simp [reported] at hreported
      · next becameFull _ _ => cases becameFull <;> simp [reported] at hreported
  | take t remaining becameFull outcome =>
    simp only [ServerCalls.next, ServerCalls.take, ServerCalls.Event.thread] at hreported
    split at hreported <;> simp [reported] at hreported
  | retract t next =>
    cases next <;>
      simp [ServerCalls.next, retract, ServerCalls.Event.thread, reported, ReadNext.pc] at hreported
  | insert t remaining becameFull id' identity threw =>
    simp only [ServerCalls.next, ServerCalls.insert, ServerCalls.Event.thread] at hreported
    split at hreported
    · simp [reported] at hreported
    · split at hreported <;> simp [reported] at hreported
  | commit t id' acceptance outcome =>
    simp only [ServerCalls.next, commit, ServerCalls.Event.thread] at hreported
    split at hreported <;> simp [reported] at hreported
  | rollback t id' reply =>
    simp [ServerCalls.next, rollback, ServerCalls.Event.thread, reported] at hreported
  | leave t reply =>
    simp [ServerCalls.next, leave, ServerCalls.Event.thread, reported] at hreported
  | discardBegin t operation id' =>
    simp only [ServerCalls.next, ServerCalls.discardBegin, ServerCalls.Event.thread] at hreported ⊢
    split at hreported
    · simp [reported] at hreported
    · split at hreported
      · simp [reported] at hreported
      · next hoperation _ entry wasFull server hdiscard =>
        refine Or.inr (Or.inr ?_)
        simp only [System.goto_pc_self, reported_showWhen, reported, Option.some.injEq,
          Prod.mk.injEq] at hreported
        simp [hoperation, role, hreported]
  | respondBegin t responseNull operation id' =>
    simp only [ServerCalls.next, respondBegin, ServerCalls.Event.thread] at hreported
    split at hreported
    · simp [reported] at hreported
    · split at hreported <;> simp [reported] at hreported
  | decideResponse t id' identity acceptance env =>
    have hfails := respond_fails identity env
    simp only [ServerCalls.next, decideResponse, ServerCalls.Event.thread] at hreported
    split at hreported
    · next reply hrespond =>
      rw [hrespond] at hfails
      have hreply : reply ≠ .success := hfails
      simp [reported, hreply] at hreported
    · simp [reported] at hreported
    · simp [reported] at hreported
    · simp [reported] at hreported
  | restore t id' acceptance reply =>
    have hpc : s.pc t = .restoring id' acceptance reply := hen
    have hreply : reply ≠ .success := by simpa [hpc, givesBack] using hspent.honest t
    simp [ServerCalls.next, restore, ServerCalls.Event.thread, reported, hreply] at hreported
  | release t id' acceptance =>
    have hpc : s.pc t = .releasing id' acceptance := hen
    simp only [ServerCalls.next, release, ServerCalls.Event.thread, System.goto_pc_self,
      reported_showWhen, reported, if_true, Option.some.injEq, Prod.mk.injEq] at hreported
    obtain ⟨rfl, rfl⟩ := hreported
    refine Or.inr (Or.inl ⟨by rw [ServerCalls.Event.thread, hpc]; rfl, ?_⟩)
    rw [show entries (ServerCalls.next s _).server = _ from entries_erase rfl]
    simp
  | unwind t id' acceptance reply =>
    have hpc : s.pc t = .unwinding id' acceptance reply := hen
    left
    simp only [ServerCalls.Event.thread, hpc]
    simp only [ServerCalls.next, unwind, ServerCalls.Event.thread, System.goto_pc_self] at hreported
    split at hreported
    · next hsuccess => simpa [reported, hsuccess] using hreported
    · simp [reported] at hreported
  | setFlag t value next =>
    have hpc : s.pc t = .settingFlag value next := hen
    left
    simpa [ServerCalls.next, ServerCalls.Event.thread, hpc, reported] using hreported
  | finish t report reply =>
    simp [ServerCalls.next, finish, ServerCalls.Event.thread, reported] at hreported

/-- A claim is restored with a failure. -/
theorem honest_next (hspent : Spent s) (hen : ServerCalls.enabled s e) :
    givesBack ((ServerCalls.next s e).pc e.thread) ≠ some .success := by
  cases e with
  | readBegin t requestNull operation remaining =>
    simp only [ServerCalls.next, readBegin, ServerCalls.Event.thread]
    split <;> simp [givesBack]
  | readTurn t remaining =>
    simp only [ServerCalls.next, ServerCalls.Event.thread]
    unfold readTurn
    split
    · simp [givesBack]
    · split
      · simp [givesBack]
      · next becameFull _ _ => cases becameFull <;> simp [givesBack]
  | take t remaining becameFull outcome =>
    simp only [ServerCalls.next, ServerCalls.take, ServerCalls.Event.thread]
    split <;> simp [givesBack]
  | retract t next =>
    cases next <;>
      simp [ServerCalls.next, retract, ServerCalls.Event.thread, givesBack, ReadNext.pc]
  | insert t remaining becameFull id' identity threw =>
    simp only [ServerCalls.next, ServerCalls.insert, ServerCalls.Event.thread]
    split
    · simp [givesBack]
    · split <;> simp [givesBack]
  | commit t id' acceptance outcome =>
    simp only [ServerCalls.next, commit, ServerCalls.Event.thread]
    split <;> simp [givesBack]
  | discardBegin t operation id' =>
    simp only [ServerCalls.next, ServerCalls.discardBegin, ServerCalls.Event.thread]
    split
    · simp [givesBack]
    · split <;> simp [givesBack]
  | respondBegin t responseNull operation id' =>
    simp only [ServerCalls.next, respondBegin, ServerCalls.Event.thread]
    split
    · simp [givesBack]
    · split <;> simp [givesBack]
  | decideResponse t id' identity acceptance env =>
    have hfails := respond_fails identity env
    simp only [ServerCalls.next, decideResponse, ServerCalls.Event.thread]
    split
    · simp [givesBack]
    · next reply hrespond =>
      rw [hrespond] at hfails
      have hreply : reply ≠ .success := hfails
      simpa [givesBack] using hreply
    · simp [givesBack]
    · simp [givesBack]
  | setFlag t value next =>
    have hpc : s.pc t = .settingFlag value next := hen
    have hold := hspent.honest t
    simpa [ServerCalls.next, ServerCalls.Event.thread, hpc, givesBack] using hold
  | _ =>
    simp [ServerCalls.next, rollback, leave, restore, release, unwind, finish,
      ServerCalls.Event.thread, givesBack]

/-- Only a call that reports a request logs the report. -/
theorem logged_next {report : Report} (hen : ServerCalls.enabled s e)
    (hlogged : .returned report ∈ (ServerCalls.next s e).log) :
    .returned report ∈ s.log ∨ reported (s.pc e.thread) = some (request report) := by
  cases e with
  | readBegin t requestNull operation remaining =>
    simp only [ServerCalls.next, readBegin] at hlogged
    split at hlogged <;> exact Or.inl hlogged
  | readTurn t remaining =>
    simp only [ServerCalls.next] at hlogged
    unfold readTurn at hlogged
    split at hlogged
    · exact Or.inl hlogged
    · split at hlogged <;> exact Or.inl hlogged
  | take t remaining becameFull outcome =>
    simp only [ServerCalls.next, ServerCalls.take] at hlogged
    split at hlogged <;> exact Or.inl hlogged
  | insert t remaining becameFull id' identity threw =>
    simp only [ServerCalls.next, ServerCalls.insert] at hlogged
    split at hlogged
    · exact Or.inl hlogged
    · split at hlogged
      · exact Or.inl hlogged
      · exact Or.inl (by simpa using hlogged)
  | commit t id' acceptance outcome =>
    simp only [ServerCalls.next, commit] at hlogged
    split at hlogged <;> exact Or.inl hlogged
  | discardBegin t operation id' =>
    simp only [ServerCalls.next, ServerCalls.discardBegin] at hlogged
    split at hlogged
    · exact Or.inl hlogged
    · split at hlogged <;> exact Or.inl hlogged
  | respondBegin t responseNull operation id' =>
    simp only [ServerCalls.next, respondBegin] at hlogged
    split at hlogged
    · exact Or.inl hlogged
    · split at hlogged <;> exact Or.inl hlogged
  | decideResponse t id' identity acceptance env =>
    simp only [ServerCalls.next, decideResponse] at hlogged
    split at hlogged
    · exact Or.inl hlogged
    · exact Or.inl hlogged
    · exact Or.inl hlogged
    · exact Or.inl (by simpa using hlogged)
  | finish t report' reply =>
    have hpc : s.pc t = .returning report' reply := hen
    rcases List.mem_append.mp hlogged with hold | hnew
    · exact Or.inl hold
    · right
      obtain rfl : report' = some report := by simpa [Option.mem_toList] using hnew
      simp only [ServerCalls.Event.thread, hpc]
      cases report <;> rfl
  | _ => exact Or.inl hlogged

/-- Orderly steps keep the reports final. -/
theorem Sane.spent_next (h : Sane s) (hen : ServerCalls.enabled s e) (hok : Undisturbed s e) :
    Spent (ServerCalls.next s e) := by
  have hstep : Step (abstract s) (abstract (ServerCalls.next s e)) := next_simulates hen hok
  refine ⟨fun t => ?_, fun t id n hreported => ?_, fun report hlogged => ?_⟩
  · by_cases ht : t = e.thread
    · subst ht
      exact honest_next h.spent hen
    · rw [next_pc_ne ht]
      exact h.spent.honest t
  · by_cases ht : t = e.thread
    · subst ht
      rcases reported_next h.spent hen hreported with hold | ⟨hown, herased⟩ | hdropped
      · exact (h.spent.gone _ id n hold).step hstep
      · have hnone : (abstract (ServerCalls.next s e)).entry id = none := herased
        exact ⟨Nat.lt_of_lt_of_le (h.protocol.owned_issued hown) (issued_step hstep),
          fun b => by simp [hnone]⟩
      · exact (h.protocol.step hstep).dropped _ id n hdropped
    · rw [next_pc_ne ht] at hreported
      exact (h.spent.gone t id n hreported).step hstep
  · rcases logged_next hen hlogged with hold | hnew
    · exact (h.spent.logged report hold).step hstep
    · exact (h.spent.gone _ _ _ hnew).step hstep

/-- Orderly steps keep the result Server sane, as long as a failed read takes
back no claimed request. -/
theorem Sane.next (h : Sane s) (hen : ServerCalls.enabled s e) (hok : Undisturbed s e)
    (hrollback : ∀ t id reply, e = .rollback t id reply →
      ∀ u n, (role (s.pc u)).owned ≠ some (id,n)) : Sane (ServerCalls.next s e) where
  protocol := h.protocol.step (next_simulates hen hok)
  spent := h.spent_next hen hok
  held := by
    refine h.held.step h.protocol (next_simulates hen hok) fun t id n hbefore hafter => ?_
    have hentry : entries s.server id = some (true,n) := h.held t id n hbefore
    by_cases herases : erases e = some id
    · cases e with
      | rollback u id' reply =>
        obtain rfl : id' = id := Option.some.inj herases
        exact absurd hbefore (hrollback u id' reply rfl t n)
      | release u id' acceptance =>
        obtain rfl : id' = id := Option.some.inj herases
        have hpc : s.pc u = .releasing id' acceptance := hen
        have hwork : ((abstract s).role u).working = some (id',acceptance) := by
          simp [abstract, hpc, role, Role.working]
        obtain rfl := h.protocol.exclusive t u id' n acceptance (Role.working_of_owned hbefore) hwork
        simp [abstract, ServerCalls.next, release, role, Role.owned] at hafter
      | discardBegin u operation id' =>
        obtain rfl : id' = id := Option.some.inj herases
        have hsame : (abstract (ServerCalls.next s (.discardBegin u operation id'))).entry =
            entries s.server := entries_discardBegin hentry
        rw [hsame, hentry]
        simp
      | _ => cases herases
    · obtain ⟨b', hentry', -⟩ := entries_next herases hentry
      rw [show (abstract (ServerCalls.next s e)).entry id = _ from hentry']
      simp

end

/-- A fresh Server is sane. -/
theorem Sane.initial (maxPendingRequests : ℕ) :
    Sane (ServerCalls.System.initial maxPendingRequests) where
  protocol := Inv.initial 0
  held := nofun
  spent := ⟨nofun, nofun, nofun⟩

/-- The request is pending and nobody answers it. -/
def Unclaimed (s : System) (id : RequestId) : Prop :=
  ∃ n, entries s.calls.server id = some (false,n)

/-- The section under way ends with the removal of the request. -/
def Removing (s : System) (id : RequestId) : Prop :=
  ∃ t, s.mutex = some (t,.claimed id) ∨
    s.mutex = some (t,.discarding id) ∧ outcome (s.calls.pc t) = some .success

/-- The two tables in an orderly run. -/
structure Coordinated (s : System) : Prop where
  /-- The result Server is sane. -/
  sane : Sane s.calls
  /-- A kept request is pending, or about to leave its list. -/
  listed : ∀ goalId id, s.registry.Keeps goalId id → Unclaimed s id ∨ Removing s id
  /-- A checked request stays pending until it is registered. -/
  checked : ∀ t goalId id, s.mutex = some (t,.checked goalId id) → Unclaimed s id
  /-- Every request waits with one goal, once. -/
  associated : Associated s.registry

section

variable {s : System} {e : Event} {id : RequestId}

/-- A claimed request is in no list, unless its section is not over. -/
theorem Coordinated.not_unclaimed (h : Coordinated s) {t : ThreadId} {n : ℕ}
    (hown : (role (s.calls.pc t)).owned = some (id,n)) : ¬ Unclaimed s id := by
  rintro ⟨m, hentry⟩
  have hclaimed : entries s.calls.server id = some (true,n) := h.sane.held t id n hown
  rw [hentry] at hclaimed
  cases hclaimed

/-- The Server's own steps keep the tables in agreement. -/
theorem Coordinated.call (h : Coordinated s) {e : ServerCalls.Event}
    (hen : machine.enabled s (.call e)) (hok : Ordered s (.call e)) :
    Coordinated (machine.next s (.call e)) := by
  obtain ⟨hcall, hcallable⟩ := hen
  have hundisturbed : Undisturbed s.calls e := by
    cases e with
    | respondBegin => cases hcallable
    | _ => trivial
  have hsane := h.sane.next hcall hundisturbed (by
    rintro t id reply rfl
    exact hok.unclaimed)
  have hunclaims : ∀ id, claims e ≠ some id := by
    intro id
    cases e with
    | respondBegin => cases hcallable
    | _ => exact nofun
  have hkept : ∀ id, Unclaimed s id → (∀ t reply, e ≠ .rollback t id reply) →
      Unclaimed (machine.next s (.call e)) id := by
    rintro id ⟨n, hentry⟩ hne
    have herases : erases e ≠ some id := by
      cases e with
      | rollback t id' reply =>
        rintro ⟨⟩
        exact hne t reply rfl
      | release t id' acceptance =>
        rintro ⟨⟩
        have hpc : s.calls.pc t = .releasing id acceptance := hcall
        have hown : (role (s.calls.pc t)).owned = some (id,acceptance) := by rw [hpc]; rfl
        exact h.not_unclaimed hown ⟨n, hentry⟩
      | discardBegin => cases hcallable
      | _ => exact nofun
    obtain ⟨b, hentry', hstays⟩ := entries_next herases hentry
    rw [hstays rfl (hunclaims id)] at hentry'
    exact ⟨n, hentry'⟩
  have houtcome : ∀ t id, s.mutex = some (t,.discarding id) →
      outcome ((ServerCalls.next s.calls e).pc t) = outcome (s.calls.pc t) := by
    intro t id hmutex
    by_cases ht : t = e.thread
    · subst ht
      cases e with
      | setFlag t value next =>
        have hpc : s.calls.pc t = .settingFlag value next := hcall
        simp [ServerCalls.next, ServerCalls.Event.thread, hpc, outcome]
      | _ => simp [callable, hmutex] at hcallable
    · rw [next_pc_ne ht]
  refine ⟨hsane, fun goalId id hkeeps => ?_, fun t goalId id hmutex => ?_, h.associated⟩
  · have hno : ∀ t reply, e ≠ .rollback t id reply := by
      rintro t reply rfl
      exact hok.unlisted goalId hkeeps
    rcases h.listed goalId id hkeeps with hunclaimed | ⟨t, hremoving⟩
    · exact Or.inl (hkept id hunclaimed hno)
    · refine Or.inr ⟨t, hremoving.imp_right ?_⟩
      rintro ⟨hmutex, hsuccess⟩
      exact ⟨hmutex, (houtcome t id hmutex).trans hsuccess⟩
  · refine hkept id (h.checked t goalId id hmutex) ?_
    rintro u reply rfl
    exact hok.unchecked t goalId hmutex

/-- With the mutex free a kept request is pending. -/
theorem Coordinated.unclaimed (h : Coordinated s) (hfree : s.mutex = none) {goalId : GoalId}
    (hkeeps : s.registry.Keeps goalId id) : Unclaimed s id := by
  rcases h.listed goalId id hkeeps with hunclaimed | ⟨t, hremoving⟩
  · exact hunclaimed
  · simp [hfree] at hremoving

/-- A claim starts the removal of its request. -/
theorem Coordinated.writeBegin (h : Coordinated s) {t : ThreadId} {responseNull : Bool}
    (hen : machine.enabled s (.writeBegin t responseNull id))
    (hok : Ordered s (.writeBegin t responseNull id)) :
    Coordinated (writeBegin t responseNull id s) := by
  obtain ⟨hidle, hthread, hfree⟩ := hen
  have hsane : Sane (respondBegin t (responseAdmission responseNull true) id s.calls) :=
    h.sane.next (e := .respondBegin t responseNull true id) hidle hok nofun
  unfold ResultCoordination.writeBegin
  cases responseNull with
  | true =>
    refine ⟨hsane, fun goalId id' hkeeps => ?_, h.checked, h.associated⟩
    refine (h.listed goalId id' hkeeps).imp_right fun ⟨u, hremoving⟩ => ⟨u, hremoving.imp_right ?_⟩
    rintro ⟨hmutex, hsuccess⟩
    have hut : u ≠ t := by
      rintro rfl
      exact hthread (by rw [hmutex]; rfl)
    exact ⟨hmutex, by rwa [← System.goto_pc_ne hut] at hsuccess⟩
  | false =>
    have hnone := hfree rfl
    have hkept : ∀ goalId id', s.registry.Keeps goalId id' → id' ≠ id →
        ∃ n, entries (respondBegin t (responseAdmission false true) id s.calls).server id' =
          some (false,n) := by
      intro goalId id' hkeeps hne
      obtain ⟨n, hentry⟩ := h.unclaimed hnone hkeeps
      have herases : erases (.respondBegin t false true id) ≠ some id' := nofun
      obtain ⟨b, hentry', hstays⟩ := entries_next herases hentry
      rw [hstays rfl (by simpa [claims] using Ne.symm hne)] at hentry'
      exact ⟨n, hentry'⟩
    simp only [Bool.false_eq_true, if_false]
    cases hclaim : s.calls.server.claimResponse id with
    | error e =>
      refine ⟨hsane, fun goalId id' hkeeps => Or.inl ?_,
        fun u goalId id' hmutex => by simp [hnone] at hmutex, h.associated⟩
      have hserver : (respondBegin t (responseAdmission false true) id s.calls).server =
          s.calls.server := by
        simp [respondBegin, responseAdmission, hclaim]
      obtain ⟨n, hentry⟩ := h.unclaimed hnone hkeeps
      exact ⟨n, by rwa [← hserver] at hentry⟩
    | ok claimed =>
      refine ⟨hsane, fun goalId id' hkeeps => ?_, fun u goalId id' hmutex => ?_, h.associated⟩
      · by_cases hid : id' = id
        · exact Or.inr ⟨t, Or.inl (by rw [hid])⟩
        · exact Or.inl (hkept goalId id' hkeeps hid)
      · simp at hmutex

/-- A discard starts the removal of the request it drops. -/
theorem Coordinated.discardBegin (h : Coordinated s) {t : ThreadId} {operation : Bool}
    (hen : machine.enabled s (.discardBegin t operation id)) :
    Coordinated (discardBegin t operation id s) := by
  obtain ⟨hidle, hfree⟩ := hen
  have hsane : Sane (ServerCalls.discardBegin t operation id s.calls) :=
    h.sane.next (e := .discardBegin t operation id) hidle trivial (by simp)
  refine ⟨hsane, fun goalId id' hkeeps => ?_, fun u goalId id' hmutex => ?_, h.associated⟩
  · obtain ⟨n, hentry⟩ := h.unclaimed hfree hkeeps
    by_cases hid : id' = id
    · subst hid
      cases operation with
      | false => exact Or.inl ⟨n, hentry⟩
      | true =>
        obtain ⟨entry, hlookup, hstate⟩ := Option.map_eq_some_iff.mp hentry
        have hphase : entry.phase = .pending := by
          cases hphase : entry.phase with
          | pending => rfl
          | responding => simp [claimState, hphase] at hstate
        have hdiscard := Server.discardRequest_ok.mpr ⟨hlookup, hphase, rfl, rfl⟩
        refine Or.inr ⟨t, Or.inr ⟨rfl, ?_⟩⟩
        simp only [ResultCoordination.discardBegin, ServerCalls.discardBegin, hdiscard]
        cases s.calls.server.occupied == s.calls.server.maxPendingRequests <;>
          simp [showWhen, outcome]
    · have herases : erases (.discardBegin t operation id) ≠ some id' := by
        simpa [erases] using Ne.symm hid
      obtain ⟨b, hentry', hstays⟩ := entries_next herases hentry
      rw [hstays rfl fun hclaims => by cases hclaims] at hentry'
      exact Or.inl ⟨n, hentry'⟩
  · simp [ResultCoordination.discardBegin] at hmutex

/-- The removal of a claimed request ends its section. -/
theorem Coordinated.remove (h : Coordinated s) (hremoving : ∀ id', Removing s id' → id' = id) :
    Coordinated {s with registry := s.registry.removeResultRequest id, mutex := none} where
  sane := h.sane
  listed := by
    intro goalId id' hkeeps
    obtain ⟨hne, hkeeps⟩ := keeps_remove.mp hkeeps
    rcases h.listed goalId id' hkeeps with hunclaimed | hremoved
    · exact Or.inl hunclaimed
    · exact absurd (hremoving id' hremoved) hne
  checked := nofun
  associated :=
    (h.associated.apply : Associated (s.registry.apply 0 (.removeResultRequest id)).2)

/-- A registry operation that registers nothing keeps the agreement. -/
theorem Coordinated.operate (h : Coordinated s) {now : ℤ} {op : Op}
    (hop : ∀ goalId id, op ≠ .registerResultRequest goalId id) :
    Coordinated (operate now op s) where
  sane := h.sane
  listed := by
    intro goalId id hkeeps
    rcases keeps_apply hkeeps with ⟨record, hfound, hmem, -⟩ | ⟨⟨rfl, -⟩, -⟩
    · exact h.listed goalId id ⟨record, hfound, hmem⟩
    · exact absurd rfl (hop goalId id)
  checked := h.checked
  associated := h.associated.apply

/-- A registration enters a request that passed its check. -/
theorem Coordinated.registerEnd (h : Coordinated s) {t : ThreadId} {now : ℤ} {goalId : GoalId}
    (hmutex : s.mutex = some (t,.checked goalId id)) :
    Coordinated (registerEnd now goalId id s) where
  sane := h.sane
  listed := by
    intro goalId' id' hkeeps
    rcases keeps_apply hkeeps with ⟨record, hfound, hmem, -⟩ | ⟨⟨hregistered, -⟩, -⟩
    · rcases h.listed goalId' id' ⟨record, hfound, hmem⟩ with hunclaimed | ⟨u, hremoving⟩
      · exact Or.inl hunclaimed
      · simp [hmutex] at hremoving
    · obtain ⟨rfl, rfl⟩ := Op.registerResultRequest.inj hregistered
      exact Or.inl (h.checked t goalId id hmutex)
  checked := nofun
  associated := h.associated.apply

/-- The end of a discard removes what it dropped. -/
theorem Coordinated.discardEnd (h : Coordinated s) {t : ThreadId} {reply : Reply}
    (hen : machine.enabled s (.discardEnd t id reply)) : Coordinated (discardEnd id reply s) := by
  obtain ⟨hmutex, report, hpc⟩ := hen
  have hremoving : ∀ id', Removing s id' → id' = id ∧ reply = .success := by
    rintro id' ⟨u, hclaimed | ⟨hdiscarding, hsuccess⟩⟩
    · simp [hmutex] at hclaimed
    · obtain ⟨rfl, rfl⟩ : t = u ∧ id = id' := by simpa [hmutex] using hdiscarding
      rw [hpc] at hsuccess
      exact ⟨rfl, Option.some.inj hsuccess⟩
  unfold ResultCoordination.discardEnd
  split
  · exact h.remove fun id' hremoved => (hremoving id' hremoved).1
  · next hkeeps =>
    refine ⟨h.sane, fun goalId id' hkept => Or.inl ?_, nofun, h.associated⟩
    rcases h.listed goalId id' hkept with hunclaimed | hremoved
    · exact hunclaimed
    · rw [(hremoving id' hremoved).2] at hkeeps
      exact absurd rfl hkeeps

/-- A check that passes finds its request pending. -/
theorem Coordinated.registerBegin (h : Coordinated s) {t : ThreadId} {operation : Bool}
    {goalId : GoalId} (hfree : s.mutex = none) :
    Coordinated (registerBegin t operation goalId id s) := by
  unfold ResultCoordination.registerBegin
  cases operation with
  | false => exact h
  | true =>
    cases hcheck : s.calls.server.checkPendingRequest id with
    | error e => exact h
    | ok _ =>
      refine ⟨h.sane, fun goalId' id' hkeeps => Or.inl (h.unclaimed hfree hkeeps), ?_, h.associated⟩
      intro u goalId' id' hmutex
      obtain ⟨-, -, rfl⟩ : t = u ∧ goalId = goalId' ∧ id = id' := by simpa using hmutex
      cases hfound : s.calls.server.findUnclaimed id with
      | error e => simp [Server.checkPendingRequest, hfound, Except.map] at hcheck
      | ok entry => exact ⟨entry.acceptance, entries_of_findUnclaimed hfound⟩

/-- Every orderly event keeps the tables in agreement. -/
theorem Coordinated.next (h : Coordinated s) (hen : machine.enabled s e) (hok : Ordered s e) :
    Coordinated (machine.next s e) := by
  cases e with
  | call e => exact h.call hen hok
  | writeBegin t responseNull id => exact h.writeBegin hen hok
  | writeEnd t id =>
    have hmutex : s.mutex = some (t,.claimed id) := hen
    refine h.remove ?_
    rintro id' ⟨u, hclaimed | ⟨hdiscarding, -⟩⟩
    · obtain ⟨-, rfl⟩ : t = u ∧ id = id' := by simpa [hmutex] using hclaimed
      rfl
    · simp [hmutex] at hdiscarding
  | discardBegin t operation id => exact h.discardBegin hen
  | discardEnd t id reply => exact h.discardEnd hen
  | registerBegin t operation goalId id => exact h.registerBegin hen.2
  | registerEnd t now goalId id => exact h.registerEnd hen
  | take t now goalId => exact h.operate nofun
  | registry now op =>
    refine h.operate ?_
    rintro goalId id rfl
    cases hen

end

/-- The goal lists agree with the result Server's pending table. -/
structure Consistent (s : System) : Prop where
  /-- Outside a section every kept request is pending. -/
  listed_pending : s.mutex = none → ∀ goalId id, s.registry.Keeps goalId id →
    ∃ entry, s.calls.server.pending.lookup id = some entry ∧ entry.phase = .pending
  /-- A request waits with at most one goal, and there once. -/
  associated : Associated s.registry
  /-- After an answer or a discard was reported as a success, a list names the
  request only if a later read accepted it anew. -/
  settled : s.mutex = none → ∀ report, .returned report ∈ s.calls.log →
    ∀ goalId, s.registry.Keeps goalId (request report).1 →
      ∃ entry, s.calls.server.pending.lookup (request report).1 = some entry ∧
        entry.acceptance ≠ (request report).2

/-- An unclaimed entry is registered as pending. -/
theorem unclaimed_iff {s : System} {id : RequestId} : Unclaimed s id ↔
    ∃ entry, s.calls.server.pending.lookup id = some entry ∧ entry.phase = .pending := by
  constructor
  · rintro ⟨n, hentry⟩
    obtain ⟨entry, hlookup, hstate⟩ := Option.map_eq_some_iff.mp hentry
    refine ⟨entry, hlookup, ?_⟩
    cases hphase : entry.phase with
    | pending => rfl
    | responding => simp [claimState, hphase] at hstate
  · rintro ⟨entry, hlookup, hphase⟩
    exact ⟨entry.acceptance, entries_of_findUnclaimed (Server.findUnclaimed_ok.mpr ⟨hlookup, hphase⟩)⟩

/-- The agreement of the tables gives their consistency. -/
theorem Coordinated.consistent {s : System} (h : Coordinated s) : Consistent s where
  listed_pending := fun hfree _ _ hkeeps => unclaimed_iff.mp (h.unclaimed hfree hkeeps)
  associated := h.associated
  settled := by
    intro hfree report hlogged goalId hkeeps
    obtain ⟨entry, hlookup, -⟩ := unclaimed_iff.mp (h.unclaimed hfree hkeeps)
    refine ⟨entry, hlookup, fun hsame => ?_⟩
    refine (h.sane.spent.logged report hlogged).2 (entry.phase = .responding) ?_
    simp [abstract, entries, hlookup, claimState, hsame]

/-- In every orderly run the tables are consistent throughout. -/
theorem consistent_throughout (maxPendingRequests : ℕ) (resultTimeout : ℤ) (es : List Event)
    (s : System)
    (hrun : machine.RunWhen Ordered (System.initial maxPendingRequests resultTimeout) es s) :
    machine.Always Consistent (System.initial maxPendingRequests resultTimeout) es := by
  refine hrun.always fun h => ?_
  refine (h.invariant Coordinated ?_ fun _ _ hc hen hok => hc.next hen hok).consistent
  exact ⟨Sane.initial maxPendingRequests, nofun, nofun, ⟨nofun, nofun⟩⟩

/-- The goal of the sample runs. -/
def sampleGoal : GoalId := ⟨Vector.replicate 16 1⟩

/-- Thread 0 accepts a result request; the goal it asks for is executing. -/
def prepared : List Event :=
  acceptance.map .call ++
    [.registry 0 (.reserve sampleGoal),.registry 0 (.commit ⟨sampleGoal,0⟩ .execute)]

/-- The request is registered, and discarded while it waits. -/
def registeredThenDiscarded : List Event :=
  prepared ++
    [.registerBegin 1 true sampleGoal sampleRequest,.registerEnd 1 0 sampleGoal sampleRequest,
      .discardBegin 2 true sampleRequest,.discardEnd 2 sampleRequest .success,
      .call (.finish 2 (some (.discarded sampleRequest 0)) .success)]

/-- A run without claims and failed reads is orderly. -/
def unhurried : Event → Bool
  | .call (.rollback ..) => false
  | .writeBegin .. => false
  | _ => true

/-- An unhurried event is orderly. -/
theorem ordered_of_unhurried (s : System) (e : Event) (h : unhurried e = true) : Ordered s e := by
  unfold Ordered
  split
  · cases h
  · cases h
  · trivial

/-- The law where a waiting request is discarded. -/
theorem consistent_throughout_discarded :
    ∃ s, machine.exec (System.initial 2 0) registeredThenDiscarded = some s ∧
      machine.Always Consistent (System.initial 2 0) registeredThenDiscarded := by
  have hsome : (machine.exec (System.initial 2 0) registeredThenDiscarded).isSome := by decide
  obtain ⟨s, hexec⟩ := Option.isSome_iff_exists.mp hsome
  refine ⟨s, hexec, consistent_throughout 2 0 registeredThenDiscarded s ?_⟩
  exact Machine.runWhen_of_exec (fun _ e => unhurried e) ordered_of_unhurried hexec (by decide)

/-- The claim of thread 2 is restored by the destructor of thread 1, so the
request passes the check of thread 3 while its answer is on the way. -/
def registeredWhileAnswered : List Event :=
  let failed := Reply.failure ⟨.ddsError,"Fast DDS response write failed"⟩
  prepared ++
    [.writeBegin 1 false sampleRequest,.writeEnd 1 sampleRequest,
      .call (.decideResponse 1 sampleRequest sampleClient 0 (writing false)),
      .call (.restore 1 sampleRequest 0 failed),
      .writeBegin 2 false sampleRequest,.writeEnd 2 sampleRequest,
      .call (.unwind 1 sampleRequest 0 failed),
      .registerBegin 3 true sampleGoal sampleRequest,.registerEnd 3 0 sampleGoal sampleRequest,
      .call (.decideResponse 2 sampleRequest sampleClient 0 (writing true)),
      .call (.release 2 sampleRequest 0)]

/-- A goal waits with a request the result Server no longer knows. -/
theorem registeredWhileAnswered_inconsistent :
    ¬ ∀ maxPendingRequests resultTimeout es,
      machine.Always Consistent (System.initial maxPendingRequests resultTimeout) es := by
  intro hclaim
  have hend : (machine.exec (System.initial 2 0) registeredWhileAnswered).map (fun s =>
      (decide (s.mutex = none),
        (s.registry.goals.lookup sampleGoal).map (·.pendingResultRequests),
        s.calls.server.pending.lookup sampleRequest)) =
          some (true,some [sampleRequest],none) := by decide
  obtain ⟨s, hexec, hfinal⟩ := Option.map_eq_some_iff.mp hend
  simp only [Prod.mk.injEq, decide_eq_true_eq, Option.map_eq_some_iff] at hfinal
  obtain ⟨hfree, ⟨record, hfound, hkept⟩, hgone⟩ := hfinal
  have hconsistent := hclaim 2 0 registeredWhileAnswered registeredWhileAnswered s
    List.prefix_rfl hexec
  obtain ⟨entry, hentry, -⟩ :=
    hconsistent.listed_pending hfree sampleGoal sampleRequest ⟨record, hfound, by simp [hkept]⟩
  rw [hgone] at hentry
  cases hentry

end Dmw.ResultCoordination
