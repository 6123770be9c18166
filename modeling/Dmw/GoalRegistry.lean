import Dmw.Identity
import Dmw.KeyedTable

/-!
# The goal registry of one ActionServer

Goal states, accept reservations, waiting result requests and result expiry.
Every operation runs under the registry's one mutex, so each is a total
function of the registry and, where the source reads the steady clock, of that
one reading. Records carry the facts the source keeps about their flags.
-/

namespace Dmw.GoalRegistry

open Identity KeyedTable

/-- Protocol identity of one goal. -/
structure GoalId where
  /-- UUID bytes. -/
  data : Vector UInt8 16
  deriving DecidableEq

/-- The all-zero identity selects every goal. -/
def isZeroGoalId (goalId : GoalId) : Bool := goalId.data.all (· == 0)

/-- A goal and its protocol time stamp. -/
structure GoalInfo where
  /-- Identity of the goal. -/
  goalId : GoalId
  /-- Nanoseconds of the protocol clock; not an expiry deadline. -/
  acceptedStamp : ℤ
  deriving DecidableEq

/-- States of a goal. -/
inductive GoalState
  | unknown
  | accepted
  | executing
  | canceling
  | succeeded
  | canceled
  | aborted
  deriving DecidableEq, Repr

/-- Events of the goal state machine. -/
inductive GoalEvent
  | execute
  | cancelGoal
  | succeed
  | abort
  | canceled
  deriving DecidableEq, Repr

/-- Whether an accepted goal starts at once. -/
inductive GoalAcceptMode
  | defer
  | execute
  deriving DecidableEq, Repr

/-- A completed transition. -/
structure GoalTransition where
  /-- State before. -/
  previous : GoalState
  /-- State after. -/
  current : GoalState
  /-- The goal just ended. -/
  becameTerminal : Bool
  deriving DecidableEq

/-- Terminal states never change again. -/
def isTerminalGoalState (state : GoalState) : Bool :=
  state = .succeeded || state = .canceled || state = .aborted

/-- States a cancel request may act on. -/
def isCancelableGoalState (state : GoalState) : Bool := state = .accepted || state = .executing

/-- The goal state machine; any other transition is invalid. -/
def nextGoalState : GoalState → GoalEvent → Option GoalState
  | .accepted, .execute => some .executing
  | .accepted, .cancelGoal => some .canceling
  | .executing, .cancelGoal => some .canceling
  | .executing, .succeed => some .succeeded
  | .executing, .abort => some .aborted
  | .canceling, .succeed => some .succeeded
  | .canceling, .abort => some .aborted
  | .canceling, .canceled => some .canceled
  | _, _ => none

/-- State of a goal right after its acceptance. -/
def GoalAcceptMode.state : GoalAcceptMode → GoalState
  | .defer => .accepted
  | .execute => .executing

/-- One reserved or committed goal. -/
structure GoalRecord where
  /-- Identity and stamp, meaningful once committed. -/
  info : GoalInfo
  /-- State of the goal. -/
  state : GoalState
  /-- The accepted response was written. -/
  committed : Bool
  /-- The goal ended and waits for its expiry. -/
  expiryScheduled : Bool
  /-- Steady clock reading at the terminal transition. -/
  terminalTime : ℤ
  /-- Result requests that wait for the terminal transition. -/
  pendingResultRequests : List RequestId
  /-- Expiry is scheduled by the terminal transition and by nothing else. -/
  scheduled_eq_terminal : expiryScheduled = isTerminalGoalState state
  /-- A reservation has neither a state nor waiting requests. -/
  reservation_blank : committed = false → state = .unknown ∧ pendingResultRequests = []

/-- The record a reservation inserts. -/
def GoalRecord.reservation : GoalRecord where
  info := ⟨⟨Vector.replicate 16 0⟩,0⟩
  state := .unknown
  committed := false
  expiryScheduled := false
  terminalTime := 0
  pendingResultRequests := []
  scheduled_eq_terminal := rfl
  reservation_blank := fun _ => ⟨rfl, rfl⟩

/-- The record a commit leaves behind. -/
def GoalRecord.commit (info : GoalInfo) (mode : GoalAcceptMode) (record : GoalRecord) : GoalRecord where
  info := info
  state := mode.state
  committed := true
  expiryScheduled := false
  terminalTime := record.terminalTime
  pendingResultRequests := []
  scheduled_eq_terminal := by cases mode <;> rfl
  reservation_blank := nofun

/-- A committed record in its next state; a terminal one schedules its expiry. -/
def GoalRecord.enter (now : ℤ) (next : GoalState) (record : GoalRecord)
    (hcommitted : record.committed = true) (hactive : isTerminalGoalState record.state = false) :
    GoalRecord where
  info := record.info
  state := next
  committed := record.committed
  expiryScheduled := if isTerminalGoalState next then true else record.expiryScheduled
  terminalTime := if isTerminalGoalState next then now else record.terminalTime
  pendingResultRequests := record.pendingResultRequests
  scheduled_eq_terminal := by
    rw [record.scheduled_eq_terminal, hactive]
    cases isTerminalGoalState next <;> rfl
  reservation_blank := by simp [hcommitted]

/-- A record with another list of waiting requests, empty for a reservation. -/
def GoalRecord.withRequests (requests : List RequestId) (record : GoalRecord)
    (hblank : record.committed = false → requests = []) : GoalRecord :=
  {record with
    pendingResultRequests := requests
    reservation_blank := fun h => ⟨(record.reservation_blank h).1, hblank h⟩}

/-- A record that forgets one waiting request. -/
def GoalRecord.withoutRequest (requestId : RequestId) (record : GoalRecord) : GoalRecord :=
  record.withRequests (record.pendingResultRequests.filter (· ≠ requestId))
    fun h => by simp [(record.reservation_blank h).2]

/-- Goals by identity and the queue of undelivered expiry notifications. -/
structure Registry where
  /-- Retention of a terminal goal in nanoseconds. -/
  resultTimeout : ℕ
  /-- Reserved and committed goals. -/
  goals : Table GoalId GoalRecord
  /-- Expired goals nobody asked for yet. -/
  expiredNotifications : List GoalId

/-- Reported status of one goal. -/
structure GoalStatusInfo where
  /-- Goal and stamp. -/
  goalInfo : GoalInfo
  /-- Its state. -/
  state : GoalState
  deriving DecidableEq

/-- Which goals a cancel request is about. -/
structure CancelGoalCriteria where
  /-- All-zero means every cancelable goal. -/
  goalId : GoalId
  /-- Zero means no time bound. -/
  stamp : ℤ
  deriving DecidableEq

/-- Answer to the registration of a result request. -/
inductive ResultRequestDisposition
  | unknownGoal
  | pending
  | terminal
  deriving DecidableEq, Repr

/-- Largest steady clock reading. -/
def steadyMax : ℤ := Int64.maxValue.toInt

/-- Add a duration to a steady clock reading without overflow. -/
def saturatingSteadyAdd (base : ℤ) (duration : ℕ) : ℤ :=
  if duration = 0 then base
  else if steadyMax - base ≤ duration then steadyMax
  else base + duration

namespace Registry

/-- A new registry; a negative timeout counts as zero. -/
def new (resultTimeout : ℤ) : Registry := ⟨resultTimeout.toNat,∅,[]⟩

/-- Reserve an identity that is neither reserved nor committed. -/
def reserve (goalId : GoalId) (r : Registry) : Bool × Registry :=
  if goalId ∈ r.goals then (false,r)
  else (true,{r with goals := r.goals.insert goalId GoalRecord.reservation})

/-- Drop a reservation; a committed goal stays. -/
def rollbackReservation (goalId : GoalId) (r : Registry) : Registry :=
  match r.goals.lookup goalId with
  | none => r
  | some record => if record.committed then r else {r with goals := r.goals.erase goalId}

/-- Whether an identity is reserved or committed. -/
def isReserved (goalId : GoalId) (r : Registry) : Bool := goalId ∈ r.goals

/-- Turn a reservation into a goal. -/
def commit (info : GoalInfo) (mode : GoalAcceptMode) (r : Registry) : Bool × Registry :=
  match r.goals.lookup info.goalId with
  | none => (false,r)
  | some record =>
    if record.committed then (false,r)
    else (true,{r with goals := r.goals.insert info.goalId (record.commit info mode)})

/-- A terminal goal was retained for the whole timeout. -/
def expiredLocked (record : GoalRecord) (now : ℤ) (r : Registry) : Bool :=
  record.expiryScheduled && decide (now - record.terminalTime ≥ r.resultTimeout)

/-- A committed goal that a pruning operation erases. -/
def prunable (now : ℤ) (r : Registry) (record : GoalRecord) : Bool :=
  record.committed && r.expiredLocked record now

/-- Queue and erase every expired goal. -/
def pruneExpiredLocked (now : ℤ) (r : Registry) : Registry :=
  {r with
    goals := Table.filter (fun _ record => !r.prunable now record) r.goals
    expiredNotifications := r.expiredNotifications ++
      (r.goals.entries.filter fun e => r.prunable now e.2).map (·.1)}

/-- The committed record of a goal. -/
def findCommitted (goalId : GoalId) (r : Registry) : Option GoalRecord :=
  (r.goals.lookup goalId).filter (·.committed)

/-- The error of every query about a goal that is not committed. -/
def notRegistered : Error := ⟨.notFound,"Goal is not registered"⟩

/-- State of a committed goal. -/
def state (goalId : GoalId) (r : Registry) : Result GoalState :=
  match r.findCommitted goalId with
  | none => .error notRegistered
  | some record => .ok record.state

/-- Apply an event to a committed goal that has not ended. -/
def updateState (now : ℤ) (goalId : GoalId) (event : GoalEvent) (r : Registry) :
    Result GoalTransition × Registry :=
  match r.goals.lookup goalId with
  | none => (.error notRegistered,r)
  | some record =>
    if hcommitted : record.committed = true then
      if hactive : isTerminalGoalState record.state = false then
        match nextGoalState record.state event with
        | none => (.error ⟨.invalidState,"Goal transition is not allowed"⟩,r)
        | some next =>
          (.ok ⟨record.state,next,isTerminalGoalState next⟩,
            {r with goals := r.goals.insert goalId (record.enter now next hcommitted hactive)})
      else (.error ⟨.invalidState,"Goal is already terminal"⟩,r)
    else (.error notRegistered,r)

/-- Whether a cancel request selects a committed record. -/
def cancelSelects (criteria : CancelGoalCriteria) (record : GoalRecord) : Bool :=
  let wildcard := isZeroGoalId criteria.goalId
  let timeBounded := criteria.stamp ≠ 0
  let exactMatch := !wildcard && record.info.goalId == criteria.goalId
  let beforeStamp := timeBounded && record.info.acceptedStamp ≤ criteria.stamp
  record.committed && isCancelableGoalState record.state &&
    if wildcard then if timeBounded then beforeStamp else true
    else if timeBounded then exactMatch || beforeStamp else exactMatch

/-- Cancelable goals that match the criteria, by acceptance stamp. -/
def selectCancelGoals (criteria : CancelGoalCriteria) (r : Registry) : Result (List GoalInfo) :=
  if criteria.stamp < 0 then .error ⟨.invalidArgument,"Cancel stamp must not be negative"⟩
  else
    .ok (((r.goals.entries.filter fun e => cancelSelects criteria e.2).map (·.2.info)).mergeSort
      fun lhs rhs => lhs.acceptedStamp ≤ rhs.acceptedStamp)

/-- Some goal already keeps the request. -/
def hasRequest (requestId : RequestId) (r : Registry) : Bool :=
  r.goals.entries.any fun e => e.2.pendingResultRequests.contains requestId

/-- Keep a result request for an active goal, after pruning. -/
def registerResultRequest (now : ℤ) (goalId : GoalId) (requestId : RequestId) (r : Registry) :
    Result ResultRequestDisposition × Registry :=
  let pruned := r.pruneExpiredLocked now
  match pruned.goals.lookup goalId with
  | none => (.ok .unknownGoal,pruned)
  | some record =>
    if hcommitted : record.committed = true then
      if isTerminalGoalState record.state then (.ok .terminal,pruned)
      else if pruned.hasRequest requestId then
        (.error ⟨.alreadyExists,"Result request is already associated"⟩,pruned)
      else
        (.ok .pending,{pruned with
          goals := pruned.goals.insert goalId
            (record.withRequests (record.pendingResultRequests ++ [requestId])
              (by simp [hcommitted]))})
    else (.ok .unknownGoal,pruned)

/-- A goal keeps a request. -/
def Keeps (goalId : GoalId) (requestId : RequestId) (r : Registry) : Prop :=
  ∃ record, r.goals.lookup goalId = some record ∧ requestId ∈ record.pendingResultRequests

/-- Forget a result request wherever it is kept. -/
def removeResultRequest (requestId : RequestId) (r : Registry) : Registry :=
  {r with goals := Table.mapValues (GoalRecord.withoutRequest requestId) r.goals}

/-- Hand the waiting result requests of a goal over. -/
def takePendingResultRequests (goalId : GoalId) (r : Registry) :
    Result (List RequestId) × Registry :=
  match r.findCommitted goalId with
  | none => (.error notRegistered,r)
  | some record =>
    (.ok record.pendingResultRequests,
      {r with goals := r.goals.insert goalId (record.withRequests [] fun _ => rfl)})

/-- Status of every committed goal by acceptance stamp, after pruning. -/
def statusSnapshot (now : ℤ) (r : Registry) : List GoalStatusInfo × Registry :=
  let pruned := r.pruneExpiredLocked now
  ((((pruned.goals.entries.filter fun e => e.2.committed).map
      fun e => ⟨e.2.info,e.2.state⟩).mergeSort
        fun lhs rhs => lhs.goalInfo.acceptedStamp ≤ rhs.goalInfo.acceptedStamp),pruned)

/-- Drain the expiry notifications, after pruning. -/
def takeExpiredGoals (now : ℤ) (r : Registry) : List GoalId × Registry :=
  let pruned := r.pruneExpiredLocked now
  (pruned.expiredNotifications,{pruned with expiredNotifications := []})

/-- Whether a drain would report anything. -/
def expiryReady (now : ℤ) (r : Registry) : Bool :=
  !r.expiredNotifications.isEmpty || r.goals.entries.any fun e => r.prunable now e.2

/-- Earliest deadline of a terminal goal. -/
def earliestExpiry (r : Registry) : Option ℤ :=
  ((r.goals.entries.filter fun e => e.2.committed && e.2.expiryScheduled).map
    fun e => saturatingSteadyAdd e.2.terminalTime r.resultTimeout).min?

/-- Number of committed goals. -/
def committedGoalCount (r : Registry) : ℕ := (r.goals.entries.filter fun e => e.2.committed).length

end Registry

/-- Public operations of the registry. -/
inductive Op
  | reserve (goalId : GoalId)
  | rollbackReservation (goalId : GoalId)
  | isReserved (goalId : GoalId)
  | commit (info : GoalInfo) (mode : GoalAcceptMode)
  | state (goalId : GoalId)
  | updateState (goalId : GoalId) (event : GoalEvent)
  | selectCancelGoals (criteria : CancelGoalCriteria)
  | registerResultRequest (goalId : GoalId) (requestId : RequestId)
  | takePendingResultRequests (goalId : GoalId)
  | removeResultRequest (requestId : RequestId)
  | statusSnapshot
  | takeExpiredGoals
  | expiryReady
  | earliestExpiry
  | committedGoalCount
  deriving DecidableEq

/-- What an operation returns. -/
inductive Outcome
  | done
  | flag (value : Bool)
  | state (value : Result GoalState)
  | transition (value : Result GoalTransition)
  | selection (value : Result (List GoalInfo))
  | disposition (value : Result ResultRequestDisposition)
  | requests (value : Result (List RequestId))
  | snapshot (value : List GoalStatusInfo)
  | expired (value : List GoalId)
  | deadline (value : Option ℤ)
  | count (value : ℕ)

/-- Run one operation at a clock reading. -/
def Registry.apply (now : ℤ) (op : Op) (r : Registry) : Outcome × Registry :=
  match op with
  | .reserve goalId => (r.reserve goalId).map .flag id
  | .rollbackReservation goalId => (.done,r.rollbackReservation goalId)
  | .isReserved goalId => (.flag (r.isReserved goalId),r)
  | .commit info mode => (r.commit info mode).map .flag id
  | .state goalId => (.state (r.state goalId),r)
  | .updateState goalId event => (r.updateState now goalId event).map .transition id
  | .selectCancelGoals criteria => (.selection (r.selectCancelGoals criteria),r)
  | .registerResultRequest goalId requestId =>
    (r.registerResultRequest now goalId requestId).map .disposition id
  | .takePendingResultRequests goalId => (r.takePendingResultRequests goalId).map .requests id
  | .removeResultRequest requestId => (.done,r.removeResultRequest requestId)
  | .statusSnapshot => (r.statusSnapshot now).map .snapshot id
  | .takeExpiredGoals => (r.takeExpiredGoals now).map .expired id
  | .expiryReady => (.flag (r.expiryReady now),r)
  | .earliestExpiry => (.deadline r.earliestExpiry,r)
  | .committedGoalCount => (.count r.committedGoalCount,r)

/-- The operations that erase expired goals first. -/
def Op.prunes : Op → Bool
  | .registerResultRequest .. | .statusSnapshot | .takeExpiredGoals => true
  | _ => false

/-- The operations of the accept transaction. -/
def Op.transactional : Op → Bool
  | .reserve _ | .rollbackReservation _ | .commit .. => true
  | _ => false

/-- The outcome announces a change of one goal's record. -/
def Op.affects (goalId : GoalId) : Op → Outcome → Bool
  | .reserve goalId', .flag true => goalId' = goalId
  | .commit info _, .flag true => info.goalId = goalId
  | .updateState goalId' _, .transition (.ok _) => goalId' = goalId
  | .registerResultRequest goalId' _, .disposition (.ok .pending) => goalId' = goalId
  | .takePendingResultRequests goalId', .requests (.ok _) => goalId' = goalId
  | _, _ => false

/-- The operation has no business with a record it keeps. -/
structure Op.Spares (op : Op) (r : Registry) (now : ℤ) (goalId : GoalId)
    (record : GoalRecord) : Prop where
  /-- It would have been pruned. -/
  unexpired : op.prunes = true → r.prunable now record = false
  /-- It would have been rolled back. -/
  committed : op = .rollbackReservation goalId → record.committed = true
  /-- A removal reaches every record. -/
  noRemoval : ∀ requestId, op ≠ .removeResultRequest requestId

/-- What an operation and its outcome can mean for the record of one goal. -/
inductive RecordStep (r : Registry) (now : ℤ) (goalId : GoalId) :
    Op → Outcome → Option GoalRecord → Option GoalRecord → Prop
  | keep (op : Op) (outcome : Outcome) (found : Option GoalRecord) :
      op.affects goalId outcome = false →
      (∀ record, found = some record → op.Spares r now goalId record) →
      RecordStep r now goalId op outcome found found
  | prune (op : Op) (outcome : Outcome) (record : GoalRecord) :
      op.affects goalId outcome = false → op.prunes = true → r.prunable now record = true →
      RecordStep r now goalId op outcome (some record) none
  | reserve :
      RecordStep r now goalId (.reserve goalId) (.flag true) none (some GoalRecord.reservation)
  | rollback (record : GoalRecord) : record.committed = false →
      RecordStep r now goalId (.rollbackReservation goalId) .done (some record) none
  | commit (info : GoalInfo) (mode : GoalAcceptMode) (record : GoalRecord) :
      info.goalId = goalId → record.committed = false →
      RecordStep r now goalId (.commit info mode) (.flag true) (some record)
        (some (record.commit info mode))
  | enter (event : GoalEvent) (next : GoalState) (record : GoalRecord)
      (hcommitted : record.committed = true) (hactive : isTerminalGoalState record.state = false) :
      nextGoalState record.state event = some next →
      RecordStep r now goalId (.updateState goalId event)
        (.transition (.ok ⟨record.state,next,isTerminalGoalState next⟩)) (some record)
        (some (record.enter now next hcommitted hactive))
  | append (requestId : RequestId) (record : GoalRecord) (hcommitted : record.committed = true) :
      isTerminalGoalState record.state = false →
      (∀ other, ¬ (r.pruneExpiredLocked now).Keeps other requestId) →
      RecordStep r now goalId (.registerResultRequest goalId requestId)
        (.disposition (.ok .pending)) (some record)
        (some (record.withRequests (record.pendingResultRequests ++ [requestId])
          (by simp [hcommitted])))
  | take (record : GoalRecord) : record.committed = true →
      RecordStep r now goalId (.takePendingResultRequests goalId)
        (.requests (.ok record.pendingResultRequests)) (some record)
        (some (record.withRequests [] fun _ => rfl))
  | forget (requestId : RequestId) (record : GoalRecord) :
      RecordStep r now goalId (.removeResultRequest requestId) .done (some record)
        (some (record.withoutRequest requestId))

namespace Registry

variable {r : Registry} {now : ℤ} {goalId goalId' : GoalId}

/-- Pruning keeps exactly the records that are not prunable. -/
theorem lookup_prune :
    (r.pruneExpiredLocked now).goals.lookup goalId =
      (r.goals.lookup goalId).filter fun record => !r.prunable now record :=
  Table.lookup_filter _ r.goals goalId

/-- A prunable goal ended. -/
theorem terminal_of_prunable {record : GoalRecord} (h : r.prunable now record = true) :
    record.committed = true ∧ isTerminalGoalState record.state = true ∧
      now - record.terminalTime ≥ r.resultTimeout := by
  simp only [prunable, expiredLocked, Bool.and_eq_true, decide_eq_true_eq] at h
  exact ⟨h.1, record.scheduled_eq_terminal ▸ h.2.1, h.2.2⟩

/-- A goal that has not ended is not prunable. -/
theorem not_prunable_of_active {record : GoalRecord}
    (hactive : isTerminalGoalState record.state = false) : r.prunable now record = false := by
  by_contra hprunable
  have hterminal := (terminal_of_prunable (by simpa using hprunable)).2.1
  rw [hactive] at hterminal
  cases hterminal

/-- Pruning alone keeps or erases a record. -/
theorem prune_recordStep {op : Op} {outcome : Outcome} (hop : op.prunes = true)
    (hquiet : op.affects goalId outcome = false) :
    RecordStep r now goalId op outcome (r.goals.lookup goalId)
      ((r.pruneExpiredLocked now).goals.lookup goalId) := by
  have hspares : ∀ record, r.prunable now record = false → op.Spares r now goalId record := by
    intro record hprunable
    refine ⟨fun _ => hprunable, ?_, ?_⟩
    · rintro rfl
      cases hop
    · rintro requestId rfl
      cases hop
  rw [lookup_prune]
  cases hfound : r.goals.lookup goalId with
  | none => exact .keep op outcome none hquiet nofun
  | some record =>
    cases hprunable : r.prunable now record with
    | true =>
      rw [Option.filter_some, hprunable]
      exact .prune op outcome record hquiet hop hprunable
    | false =>
      rw [Option.filter_some, hprunable]
      exact .keep op outcome (some record) hquiet
        fun _ heq => hspares _ (Option.some.inj heq ▸ hprunable)

/-- An operation that neither prunes nor removes leaves other records alone. -/
theorem keep_recordStep {op : Op} {outcome : Outcome} {found : Option GoalRecord}
    (hquiet : op.affects goalId outcome = false) (hop : op.prunes = false)
    (hrollback : op ≠ .rollbackReservation goalId)
    (hremove : ∀ requestId, op ≠ .removeResultRequest requestId) :
    RecordStep r now goalId op outcome found found :=
  .keep op outcome found hquiet fun _ _ =>
    ⟨fun h => by simp [hop] at h, fun h => absurd h hrollback, hremove⟩

/-- A request is found exactly where a goal keeps it. -/
theorem hasRequest_iff {requestId : RequestId} :
    r.hasRequest requestId = true ↔ ∃ goalId, r.Keeps goalId requestId := by
  simp only [hasRequest, List.any_eq_true, List.contains_iff_mem]
  constructor
  · rintro ⟨entry, hentry, hmem⟩
    exact ⟨entry.1, entry.2, Table.lookup_of_mem_entries hentry, hmem⟩
  · rintro ⟨goalId, record, hfound, hmem⟩
    exact ⟨⟨goalId, record⟩, Table.mem_entries_of_lookup hfound, hmem⟩

/-- A registration prunes and may append to the record of its goal. -/
theorem register_recordStep (requestId : RequestId) :
    RecordStep r now goalId (.registerResultRequest goalId' requestId)
      (.disposition (r.registerResultRequest now goalId' requestId).1) (r.goals.lookup goalId)
      ((r.registerResultRequest now goalId' requestId).2.goals.lookup goalId) := by
  unfold registerResultRequest
  dsimp only
  split
  · exact prune_recordStep rfl rfl
  · next record hfound =>
    split
    · next hcommitted =>
      split
      · exact prune_recordStep rfl rfl
      · next hactive =>
        split
        · exact prune_recordStep rfl rfl
        · next hfresh =>
          by_cases hid : goalId = goalId'
          · subst hid
            have hbefore : r.goals.lookup goalId = some record := by
              rw [lookup_prune, Option.filter_eq_some_iff] at hfound
              exact hfound.1
            rw [hbefore, AList.lookup_insert]
            exact .append requestId record hcommitted (by simpa using hactive)
              fun other hkeeps => hfresh (hasRequest_iff.mpr ⟨other, hkeeps⟩)
          · rw [AList.lookup_insert_ne hid]
            exact prune_recordStep rfl (decide_eq_false (Ne.symm hid))
    · exact prune_recordStep rfl rfl

/-- What each operation does to the record of each goal. -/
theorem apply_recordStep (now : ℤ) (op : Op) (r : Registry) (goalId : GoalId) :
    RecordStep r now goalId op (r.apply now op).1 (r.goals.lookup goalId)
      ((r.apply now op).2.goals.lookup goalId) := by
  cases op with
  | reserve goalId' =>
    simp only [apply, reserve]
    split
    · exact keep_recordStep rfl rfl nofun nofun
    · next hfree =>
      by_cases hid : goalId = goalId'
      · subst hid
        simp only [Prod.map, id, AList.lookup_insert, AList.lookup_eq_none.mpr hfree]
        exact .reserve
      · simp only [Prod.map, id, AList.lookup_insert_ne hid]
        exact keep_recordStep (decide_eq_false (Ne.symm hid)) rfl nofun nofun
  | rollbackReservation goalId' =>
    simp only [apply, rollbackReservation]
    split
    · next hmissing =>
      refine .keep _ _ _ rfl fun record hfound => ⟨nofun, ?_, nofun⟩
      rintro ⟨⟩
      rw [hmissing] at hfound
      cases hfound
    · next record hfound =>
      split
      · next hcommitted =>
        refine .keep _ _ _ rfl fun record' hfound' => ⟨nofun, ?_, nofun⟩
        rintro ⟨⟩
        rw [hfound, Option.some.injEq] at hfound'
        exact hfound' ▸ hcommitted
      · next huncommitted =>
        by_cases hid : goalId = goalId'
        · subst hid
          simp only [hfound, AList.lookup_erase]
          exact .rollback record (by simpa using huncommitted)
        · simp only [AList.lookup_erase_ne hid]
          exact keep_recordStep rfl rfl (by simpa using Ne.symm hid) nofun
  | commit info mode =>
    simp only [apply, commit]
    split
    · exact keep_recordStep rfl rfl nofun nofun
    · next record hfound =>
      split
      · exact keep_recordStep rfl rfl nofun nofun
      · next huncommitted =>
        by_cases hid : goalId = info.goalId
        · subst hid
          simp only [Prod.map, id, hfound, AList.lookup_insert]
          exact .commit info mode record rfl (by simpa using huncommitted)
        · simp only [Prod.map, id, AList.lookup_insert_ne hid]
          exact keep_recordStep (decide_eq_false (Ne.symm hid)) rfl nofun nofun
  | updateState goalId' event =>
    simp only [apply, updateState]
    split
    · exact keep_recordStep rfl rfl nofun nofun
    · next record hfound =>
      split
      · next hcommitted =>
        split
        · next hactive =>
          split
          · exact keep_recordStep rfl rfl nofun nofun
          · next next hnext =>
            by_cases hid : goalId = goalId'
            · subst hid
              simp only [Prod.map, id, hfound, AList.lookup_insert]
              exact .enter event next record hcommitted hactive hnext
            · simp only [Prod.map, id, AList.lookup_insert_ne hid]
              exact keep_recordStep (decide_eq_false (Ne.symm hid)) rfl nofun nofun
        · exact keep_recordStep rfl rfl nofun nofun
      · exact keep_recordStep rfl rfl nofun nofun
  | registerResultRequest goalId' requestId => exact register_recordStep requestId
  | takePendingResultRequests goalId' =>
    simp only [apply, takePendingResultRequests]
    split
    · exact keep_recordStep rfl rfl nofun nofun
    · next record hfound =>
      rw [findCommitted, Option.filter_eq_some_iff] at hfound
      by_cases hid : goalId = goalId'
      · subst hid
        simp only [Prod.map, id, hfound.1, AList.lookup_insert]
        exact .take record hfound.2
      · simp only [Prod.map, id, AList.lookup_insert_ne hid]
        exact keep_recordStep (decide_eq_false (Ne.symm hid)) rfl nofun nofun
  | removeResultRequest requestId =>
    simp only [apply, removeResultRequest, Table.lookup_mapValues]
    cases hfound : r.goals.lookup goalId with
    | none => exact .keep _ _ none rfl nofun
    | some record => exact .forget requestId record
  | statusSnapshot => exact prune_recordStep rfl rfl
  | takeExpiredGoals => exact prune_recordStep rfl rfl
  | isReserved goalId' => exact keep_recordStep rfl rfl nofun nofun
  | state goalId' => exact keep_recordStep rfl rfl nofun nofun
  | selectCancelGoals criteria => exact keep_recordStep rfl rfl nofun nofun
  | expiryReady => exact keep_recordStep rfl rfl nofun nofun
  | earliestExpiry => exact keep_recordStep rfl rfl nofun nofun
  | committedGoalCount => exact keep_recordStep rfl rfl nofun nofun

/-- A reservation succeeds on a free identity. -/
theorem reserve_true {r' : Registry} :
    r.reserve goalId = (true,r') ↔
      goalId ∉ r.goals ∧ r' = {r with goals := r.goals.insert goalId GoalRecord.reservation} := by
  unfold reserve
  split
  · next hmem => simp [hmem]
  · next hfree => simp [hfree, eq_comm]

/-- A rollback erases a reservation. -/
theorem rollbackReservation_eq {record : GoalRecord} (hfound : r.goals.lookup goalId = some record)
    (hreserved : record.committed = false) :
    r.rollbackReservation goalId = {r with goals := r.goals.erase goalId} := by
  simp [rollbackReservation, hfound, hreserved]

/-- A commit succeeds on a reservation. -/
theorem commit_eq {info : GoalInfo} {record : GoalRecord}
    (hfound : r.goals.lookup info.goalId = some record) (hreserved : record.committed = false)
    (mode : GoalAcceptMode) :
    r.commit info mode =
      (true,{r with goals := r.goals.insert info.goalId (record.commit info mode)}) := by
  simp [commit, hfound, hreserved]

/-- Outside the accept transaction no record appears, none is committed and
only committed ones disappear. -/
theorem apply_nontransactional (r : Registry) (now : ℤ) (goalId : GoalId) {op : Op}
    (hop : op.transactional = false) :
    match r.goals.lookup goalId, (r.apply now op).2.goals.lookup goalId with
    | none, after => after = none
    | some record, some record' => record'.committed = record.committed
    | some record, none => record.committed = true := by
  have hstep := apply_recordStep now op r goalId
  generalize r.goals.lookup goalId = before at hstep ⊢
  generalize (r.apply now op).2.goals.lookup goalId = after at hstep ⊢
  generalize (r.apply now op).1 = outcome at hstep
  cases hstep with
  | keep => cases before <;> rfl
  | prune _ _ record hquiet hprunes hprunable => exact (terminal_of_prunable hprunable).1
  | reserve => cases hop
  | rollback => cases hop
  | commit => cases hop
  | enter => rfl
  | append => rfl
  | take => rfl
  | forget => rfl

/-- The timeout never changes; the queue grows by pruning and is drained by
its own operation. -/
theorem apply_frame (now : ℤ) (op : Op) (r : Registry) :
    (r.apply now op).2.resultTimeout = r.resultTimeout ∧
      (r.apply now op).2.expiredNotifications =
        if op = .takeExpiredGoals then []
        else if op.prunes then (r.pruneExpiredLocked now).expiredNotifications
        else r.expiredNotifications := by
  cases op with
  | reserve goalId =>
    simp only [apply, reserve]
    split <;> exact ⟨rfl, rfl⟩
  | rollbackReservation goalId =>
    simp only [apply, rollbackReservation]
    split
    · exact ⟨rfl, rfl⟩
    · split <;> exact ⟨rfl, rfl⟩
  | commit info mode =>
    simp only [apply, commit]
    split
    · exact ⟨rfl, rfl⟩
    · split <;> exact ⟨rfl, rfl⟩
  | updateState goalId event =>
    simp only [apply, updateState]
    split
    · exact ⟨rfl, rfl⟩
    · split
      · split
        · split <;> exact ⟨rfl, rfl⟩
        · exact ⟨rfl, rfl⟩
      · exact ⟨rfl, rfl⟩
  | registerResultRequest goalId requestId =>
    simp only [apply, registerResultRequest]
    split
    · exact ⟨rfl, rfl⟩
    · split
      · split
        · exact ⟨rfl, rfl⟩
        · split <;> exact ⟨rfl, rfl⟩
      · exact ⟨rfl, rfl⟩
  | takePendingResultRequests goalId =>
    simp only [apply, takePendingResultRequests]
    split <;> exact ⟨rfl, rfl⟩
  | _ => exact ⟨rfl, rfl⟩

end Registry

end Dmw.GoalRegistry
