import Dmw.GeneratedMessages
import Dmw.GoalRegistry

/-!
# Cancel responses and status messages of an ActionServer

Two loops fill a message entry by entry: the goals a cancel request moved to
CANCELING, and the goals of a status snapshot. Both append to the list that a
sequence getter returned. What the application decides and what native calls
raise is arbitrary; lane and work bookkeeping are left to the protocol model.
-/

namespace Dmw.ActionMessages

open Identity KeyedTable GoalRegistry Scripts GeneratedMessages

/-- An unsigned byte. -/
def uint8 : FieldType := .integer 0 255

/-- A signed byte. -/
def int8 : FieldType := .integer (-128) 127

/-- A signed 32-bit integer. -/
def int32 : FieldType := .integer (-2147483648) 2147483647

/-- An unsigned 32-bit integer. -/
def uint32 : FieldType := .integer 0 4294967295

/-- Sixteen identity bytes. -/
def uuidClass : MessageClass where
  typeName := "UUID"
  members := [⟨"uuid",.array 16 uint8,.elements (List.replicate 16 (.integer 0))⟩]

/-- Seconds and nanoseconds. -/
def timeClass : MessageClass where
  typeName := "Time"
  members := [⟨"sec",int32,.integer 0⟩,⟨"nanosec",uint32,.integer 0⟩]

/-- A goal and its stamp. -/
def goalInfoClass : MessageClass where
  typeName := "GoalInfo"
  members := [⟨"goal_id",.nested "UUID",uuidClass.initial⟩,⟨"stamp",.nested "Time",timeClass.initial⟩]

/-- Which goals to cancel. -/
def cancelRequestClass : MessageClass where
  typeName := "CancelGoal_Request"
  members := [⟨"goal_info",.nested "GoalInfo",goalInfoClass.initial⟩]

/-- Which goals are being canceled. -/
def cancelResponseClass : MessageClass where
  typeName := "CancelGoal_Response"
  members := [⟨"return_code",int8,.integer 0⟩,
    ⟨"goals_canceling",.sequence none (.nested "GoalInfo"),.elements []⟩]

/-- A goal and its state. -/
def goalStatusClass : MessageClass where
  typeName := "GoalStatus"
  members := [⟨"goal_info",.nested "GoalInfo",goalInfoClass.initial⟩,⟨"status",int8,.integer 0⟩]

/-- The states of all goals. -/
def goalStatusMessageClass : MessageClass where
  typeName := "GoalStatusArray"
  members := [⟨"status_list",.sequence none (.nested "GoalStatus"),.elements []⟩]

/-- Every class the two loops use. -/
def classes : List MessageClass :=
  [uuidClass,timeClass,goalInfoClass,cancelRequestClass,cancelResponseClass,goalStatusClass,
    goalStatusMessageClass]

/-- The request was granted for at least one goal. -/
def errorNone : ℤ := 0

/-- No goal was moved. -/
def errorRejected : ℤ := 1

/-- The named goal is not known. -/
def errorUnknownGoalId : ℤ := 2

/-- The named goal cannot be canceled any more. -/
def errorGoalTerminated : ℤ := 3

/-- The number of a state on the wire. -/
def stateNumber : GoalState → ℤ
  | .unknown => 0
  | .accepted => 1
  | .executing => 2
  | .canceling => 3
  | .succeeded => 4
  | .canceled => 5
  | .aborted => 6

/-- An answer to a cancel request. -/
inductive CancelResponse
  | reject
  | accept
  deriving DecidableEq, Repr

/-- What an ActionServer and its native endpoint hold besides messages. -/
structure Shared where
  /-- The native goal registry. -/
  registry : Registry
  /-- Its clock. -/
  clock : ℤ
  /-- Status of the handle tracked for a goal. -/
  goals : Table GoalId GoalState
  /-- The calling thread owns the server. -/
  owned : Bool
  /-- The server has an executor attachment. -/
  attached : Bool
  /-- Close was requested. -/
  closing : Bool
  /-- State changes announced so far. -/
  statusRevision : ℕ
  /-- Ticket of the publication in flight. -/
  statusInflightTicket : Option ℕ
  /-- Revision it reports. -/
  statusInflightRevision : ℕ
  /-- Next native ticket. -/
  nextTicket : ℕ
  /-- Failures of the native calls to come, in order. -/
  faults : List (Option Error)

/-- Something the two functions did to the outside. -/
inductive Event
  /-- A goal was moved to CANCELING. -/
  | canceled (info : GoalInfo)
  /-- A message was handed to `respond`. -/
  | responded (message : Datum)
  /-- A snapshot was taken. -/
  | snapshot (goals : List GoalStatusInfo)
  /-- A message was handed to `_publish`. -/
  | published (message : Datum)

/-- Messages, server and what happened; the events are history only. -/
structure World where
  /-- Message and list objects. -/
  memory : Memory
  /-- Server and endpoint. -/
  shared : Shared
  /-- What was done so far. -/
  history : List Event

/-- Statements of the server. -/
abbrev Act := Script World Exception

/-- A statement on messages. -/
def onMemory {α : Type} (x : MessageScript α) : Act α :=
  Script.zoom (·.memory) (fun memory w => {w with memory := memory}) x

/-- A statement on the server and its endpoint. -/
def onShared {α : Type} (x : Script Shared Exception α) : Act α :=
  Script.zoom (·.shared) (fun shared w => {w with shared := shared}) x

/-- Note an event. -/
def note (event : Event) : Act Unit := Script.modify fun w => {w with history := w.history ++ [event]}

/-- Run a native call unless it raises. -/
def nativeCall {α : Type} (call : Shared → Result α × Shared) : Act α := onShared do
  let s ← Script.get
  Script.modify fun s => {s with faults := s.faults.tail}
  match s.faults.head? with
  | some (some error) => Script.raise (.failure error)
  | _ => fun s => ((call s).1.mapError .failure,(call s).2)

/-- State of a goal. -/
def goalState (goalId : GoalId) : Act GoalState := nativeCall fun s => (s.registry.state goalId,s)

/-- Move a goal. -/
def updateGoalState (goalId : GoalId) (event : GoalEvent) : Act GoalTransition :=
  nativeCall fun s =>
    let updated := s.registry.updateState s.clock goalId event
    (updated.1,{s with registry := updated.2})

/-- The goals a cancel request is about. -/
def selectCancelGoals (goalId : GoalId) (stamp : ℤ) : Act (List GoalInfo) :=
  nativeCall fun s => (s.registry.selectCancelGoals ⟨goalId,stamp⟩,s)

/-- The states of all goals. -/
def statusSnapshot : Act (List GoalStatusInfo) :=
  nativeCall fun s =>
    let taken := s.registry.statusSnapshot s.clock
    (.ok taken.1,{s with registry := taken.2})

/-- Freeze a message that is handed over. -/
def freeze (message : Value) : Act Datum := do
  let w ← Script.get
  match message with
  | .view view =>
    match w.memory.read view with
    | some datum => pure datum
    | none => Script.raise (.typeError "Sample has the wrong generated type")
  | _ => Script.raise (.typeError "Sample has the wrong generated type")

/-- Hand a response to the work. -/
def respond (response : Value) : Act Unit := do
  let datum ← freeze response
  note (.responded datum)
  nativeCall fun s => (.ok (),s)

/-- The bytes of a list of integers. -/
def bytes (memory : Memory) (value : Value) : Except Exception (List UInt8) :=
  match memory.items value with
  | none => .error (.typeError "cannot convert object to bytes")
  | some items => items.mapM fun item =>
      match item with
      | .integer number =>
        if 0 ≤ number ∧ number ≤ 255 then .ok (UInt8.ofNat number.toNat)
        else .error (.valueError "bytes must be in range(0, 256)")
      | _ => .error (.typeError "cannot convert object to bytes")

/-- An identity of sixteen bytes. -/
def goalIdOf (data : List UInt8) : Option GoalId :=
  if h : data.length = 16 then some ⟨⟨data.toArray,by simpa using h⟩⟩ else none

/-- The identity a UUID message carries, if it has the right form. -/
def uuidFromGoal (message : Value) : Act (Option GoalId) := do
  let outcome ← Script.attempt (onMemory do
    let field ← Memory.getAttribute message "uuid"
    let memory ← Script.get
    Script.lift (bytes memory field))
  match outcome with
  | .ok data => pure (goalIdOf data)
  | .error (.attributeError _) => pure none
  | .error (.typeError _) => pure none
  | .error (.valueError _) => pure none
  | .error e => Script.raise e

/-- The integer a value holds. -/
def integer : Value → Except Exception ℤ
  | .integer number => .ok number
  | _ => .error (.typeError "int() argument must be a number")

/-- Nanoseconds of a Time message, zero for anything without its fields. -/
def stampNs (stamp : Value) : Act ℤ := do
  let outcome ← Script.attempt (onMemory do
    let sec ← Memory.getAttribute stamp "sec"
    let seconds ← Script.lift (integer sec)
    let nanosec ← Memory.getAttribute stamp "nanosec"
    let nanoseconds ← Script.lift (integer nanosec)
    pure (seconds * 1000000000 + nanoseconds))
  match outcome with
  | .ok total => pure total
  | .error (.attributeError _) => pure 0
  | .error e => Script.raise e

/-- A new message of the viewed message's class. -/
def newInstance (template : Value) : MessageScript Value := do
  let memory ← Script.get
  match template with
  | .view view =>
    match memory.read view with
    | some (.message typeName _) =>
      match classes.find? (·.typeName = typeName) with
      | some type => Memory.newMessage type.initial
      | none => Script.raise (.attributeError "__class__")
    | _ => Script.raise (.attributeError "__class__")
  | _ => Script.raise (.attributeError "__class__")

/-- Assign an attribute of a message. -/
def assign (target : Value) (name : String) (value : Value) : MessageScript Unit :=
  Memory.setAttribute classes target name value

/-- The integers of a goal identity. -/
def idList (goalId : GoalId) : MessageScript Value :=
  Memory.newList (goalId.data.toList.map fun byte => .integer byte.toNat)

/-- The entry of one canceled goal. -/
def cancelGoalInfo (info : GoalInfo) (template : Value) : MessageScript Value := do
  let message ← newInstance template
  let data ← idList info.goalId
  let goalId ← Memory.getAttribute message "goal_id"
  assign goalId "uuid" data
  let stamp ← Memory.getAttribute message "stamp"
  assign stamp "sec" (.integer (info.acceptedStamp / 1000000000))
  let stamp ← Memory.getAttribute message "stamp"
  assign stamp "nanosec" (.integer (info.acceptedStamp % 1000000000))
  pure message

/-- The entry of one goal in a snapshot. -/
def statusEntry (item : GoalStatusInfo) : MessageScript Value := do
  let status ← Memory.newMessage goalStatusClass.initial
  let data ← idList item.goalInfo.goalId
  let goalInfo ← Memory.getAttribute status "goal_info"
  let goalId ← Memory.getAttribute goalInfo "goal_id"
  assign goalId "uuid" data
  let goalInfo ← Memory.getAttribute status "goal_info"
  let stamp ← Memory.getAttribute goalInfo "stamp"
  assign stamp "sec" (.integer (item.goalInfo.acceptedStamp / 1000000000))
  let goalInfo ← Memory.getAttribute status "goal_info"
  let stamp ← Memory.getAttribute goalInfo "stamp"
  assign stamp "nanosec" (.integer (item.goalInfo.acceptedStamp % 1000000000))
  assign status "status" (.integer (stateNumber item.state))
  pure status

/-- Mutation needs the owner's thread. -/
def assertOwnerThread : Act Unit := do
  let w ← Script.get
  if w.shared.owned then pure ()
  else Script.raise (.failure ⟨.invalidState,"Action goal mutation must run on its owner Executor"⟩)

/-- Publishing needs an attachment. -/
def requireAttachment : Act Unit := do
  let w ← Script.get
  if w.shared.attached then pure ()
  else Script.raise (.failure ⟨.invalidState,"ActionServer has no executor attachment"⟩)

/-- Hand a status message to the dispatcher. -/
def publish (message : Value) : Act ℕ := do
  assertOwnerThread
  nativeCall fun s => (.ok (),s)
  requireAttachment
  let datum ← freeze message
  note (.published datum)
  nativeCall fun s => (.ok s.nextTicket,{s with nextTicket := s.nextTicket + 1})

/-- Publish a fresh snapshot unless one is in flight or the server closes. -/
def startStatusPublication : Act Unit := do
  assertOwnerThread
  let w ← Script.get
  if w.shared.closing || w.shared.statusInflightTicket.isSome then pure ()
  else do
    let message ← onMemory (Memory.newMessage goalStatusMessageClass.initial)
    let goals ← statusSnapshot
    note (.snapshot goals)
    Script.each (fun item => onMemory do
      let status ← statusEntry item
      let list ← Memory.getAttribute message "status_list"
      Memory.append list status) goals
    onShared (Script.modify fun s => {s with statusInflightRevision := s.statusRevision})
    let ticket ← publish message
    onShared (Script.modify fun s => {s with statusInflightTicket := some ticket})

/-- Announce a state change. -/
def publishStatus : Act Unit := do
  assertOwnerThread
  onShared (Script.modify fun s => {s with statusRevision := s.statusRevision + 1})
  let w ← Script.get
  if w.shared.statusInflightTicket.isSome then pure () else startStatusPublication

section

variable (cancelCallback : GoalId → Script Shared Exception CancelResponse)

/-- Ask the application about one candidate. -/
def considerCandidate (accepted : List GoalInfo) (info : GoalInfo) : Act (List GoalInfo) := do
  let w ← Script.get
  match w.shared.goals.lookup info.goalId with
  | none => pure accepted
  | some _ => do
    let answer ← onShared (cancelCallback info.goalId)
    pure (if answer = .accept then accepted ++ [info] else accepted)

/-- Move one goal and enter it into the response. -/
def commitCancel (request response : Value) (committed : ℕ) (info : GoalInfo) : Act ℕ := do
  let outcome ← Script.attempt (updateGoalState info.goalId .cancelGoal)
  match outcome with
  | .error _ => pure committed
  | .ok transition => do
    note (.canceled info)
    onShared (Script.modify fun s =>
      {s with goals := Table.modify info.goalId (fun _ => transition.current) s.goals})
    onMemory do
      let list ← Memory.getAttribute response "goals_canceling"
      let template ← Memory.getAttribute request "goal_info"
      let entry ← cancelGoalInfo info template
      Memory.append list entry
    pure (committed + 1)

/-- Answer with a code and no goals. -/
def refuseCancel (response : Value) (code : ℤ) : Act Unit := do
  onMemory (assign response "return_code" (.integer code))
  respond response

/-- Announce that goals were moved, if any was. -/
def announceCanceling (committed : ℕ) : Act Unit := if committed = 0 then pure () else publishStatus

/-- Cancel the goals that a request selects and the application gives up. -/
def cancelSelected (request response : Value) (goalId : GoalId) (stamp : ℤ) : Act Unit := do
  let candidates ← selectCancelGoals goalId stamp
  let asked ← Script.attempt (Script.fold (considerCandidate cancelCallback) [] candidates)
  let accepted := match asked with
    | .ok accepted => accepted
    | .error _ => []
  let committed ← Script.fold (commitCancel request response) 0 accepted
  onMemory (assign response "return_code"
    (.integer (if committed = 0 then errorRejected else errorNone)))
  announceCanceling committed
  respond response

/-- Answer a cancel request. -/
def takeCancel (request : Value) : Act Unit := do
  let response ← onMemory (Memory.newMessage cancelResponseClass.initial)
  let goalInfo ← onMemory (Memory.getAttribute request "goal_info")
  let uuid ← onMemory (Memory.getAttribute goalInfo "goal_id")
  let identifier ← uuidFromGoal uuid
  let goalInfo ← onMemory (Memory.getAttribute request "goal_info")
  let time ← onMemory (Memory.getAttribute goalInfo "stamp")
  let stamp ← stampNs time
  match identifier with
  | none => cancelSelected cancelCallback request response ⟨Vector.replicate 16 0⟩ stamp
  | some goalId =>
    if !isZeroGoalId goalId && decide (stamp = 0) then do
      let state ← Script.attempt (goalState goalId)
      match state with
      | .error _ => refuseCancel response errorUnknownGoalId
      | .ok state =>
        if isCancelableGoalState state then
          cancelSelected cancelCallback request response goalId stamp
        else refuseCancel response errorGoalTerminated
    else cancelSelected cancelCallback request response goalId stamp

end


/-- A value is no view of a message object. -/
def Elsewhere (root : ℕ) (value : Value) : Prop := ∀ view, value = .view view → view.root ≠ root

/-- A sequence member of a message object is empty, and so it is in every
message that was handed over. -/
def Blank (root : ℕ) (field : String) (handed : Datum → Event) (w : World) : Prop :=
  Memory.Stores root field (.elements []) w.memory ∧
    ∀ message, handed message ∈ w.history → message.member field = some (.elements [])

section

variable {root : ℕ} {field : String} {handed : Datum → Event} {α : Type}

theorem onMemory_keeps {x : MessageScript α}
    (hx : Script.Keeps (Memory.Stores root field (.elements [])) x) :
    Script.Keeps (Blank root field handed) (onMemory x) := by
  intro w hw
  have h := hx w.memory hw.1
  simp only [onMemory,Script.zoom]
  rcases hresult : x w.memory with ⟨_ | _, memory⟩ <;> rw [hresult] at h <;> exact ⟨h, hw.2⟩

/-- The server and its endpoint hold no messages. -/
theorem onShared_keeps (x : Script Shared Exception α) :
    Script.Keeps (Blank root field handed) (onShared x) := by
  intro w hw
  simp only [onShared,Script.zoom]
  rcases x w.shared with ⟨_ | _, shared⟩ <;> exact hw

theorem nativeCall_keeps (call : Shared → Result α × Shared) :
    Script.Keeps (Blank root field handed) (nativeCall call) := onShared_keeps _

/-- An event that hands nothing over, or something empty. -/
theorem note_keeps {event : Event}
    (h : ∀ message, event = handed message → message.member field = some (.elements [])) :
    Script.Keeps (Blank root field handed) (note event) := by
  refine Script.Ensures.modify fun w hw => ⟨hw.1, fun message hmem => ?_⟩
  rcases List.mem_append.mp hmem with hold | hnew
  · exact hw.2 message hold
  · exact h message (List.mem_singleton.mp hnew).symm

theorem get_keeps {inv : World → Prop} :
    Script.Ensures inv (Script.get : Act World) (fun _ => inv) fun _ => inv :=
  Script.Ensures.get fun _ h => h

/-- Freezing changes nothing, and a frozen message is what its object stores. -/
theorem freeze_ensures :
    Script.Ensures (Blank root field handed) (freeze (.view ⟨root,[]⟩))
      (fun datum w => datum.member field = some (.elements []) ∧ Blank root field handed w)
      fun _ => Blank root field handed := by
  intro w hw
  obtain ⟨datum, hroot, hmember⟩ := Option.bind_eq_some_iff.mp hw.1
  have hread : w.memory.read ⟨root,[]⟩ = some datum := by
    simp only [Memory.read,hroot]
    rfl
  have hfreeze : freeze (.view ⟨root,[]⟩) w = (.ok datum,w) := by
    change (match w.memory.read ⟨root,[]⟩ with
      | some datum => (pure datum : Act Datum)
      | none => _) w = _
    rw [hread]
    rfl
  rw [hfreeze]
  exact ⟨hmember, hw⟩

theorem freeze_keeps (message : Value) :
    Script.Keeps (Blank root field handed) (freeze message) := by
  refine get_keeps.bind fun w => ?_
  cases message with
  | view view =>
    dsimp only
    split
    · exact Script.Ensures.pure fun _ h => h
    · exact Script.Ensures.raise fun _ h => h
  | _ => exact Script.Ensures.raise fun _ h => h

/-- An assignment inside another message object leaves the sequence alone. -/
theorem assign_keeps {target assigned : Value} {name : String}
    (helsewhere : Elsewhere root target) :
    Script.Keeps (Memory.Stores root field (.elements [])) (assign target name assigned) :=
  Memory.setAttribute_keeps classes assigned fun view h => .inl (helsewhere view h)

/-- A member of another message object, or a copy, is elsewhere. -/
theorem getAttribute_elsewhere {target : Value} {name : String}
    (helsewhere : Elsewhere root target) :
    Script.Ensures (Memory.Stores root field (.elements [])) (Memory.getAttribute target name)
      (fun value memory => Elsewhere root value ∧
        Memory.Stores root field (.elements []) memory)
      fun _ => Memory.Stores root field (.elements []) := by
  refine Script.Ensures.bind (Script.Ensures.get fun _ h => h) fun memory => ?_
  cases target with
  | view view =>
    dsimp only
    split
    · exact Script.Ensures.raise fun _ h => h
    · refine Script.Ensures.pure fun _ h => ⟨fun inner hinner => ?_, h⟩
      cases hinner
      exact helsewhere view rfl
    · next datum hnested _ =>
      cases datum with
      | message => exact absurd rfl (hnested _ _)
      | elements values =>
        rw [Memory.copy]
        refine (Memory.copies_keeps values).bind fun items => ?_
        exact fun _ hs => ⟨fun _ hview => Value.noConfusion hview, hs⟩
      | _ => exact Script.Ensures.pure fun _ h => ⟨fun _ hview => Value.noConfusion hview, h⟩
  | _ => exact Script.Ensures.raise fun _ h => h

/-- A new message is elsewhere. -/
theorem newMessage_elsewhere (storage : Datum) :
    Script.Ensures (Memory.Stores root field (.elements [])) (Memory.newMessage storage)
      (fun value memory => Elsewhere root value ∧ Memory.Stores root field (.elements []) memory)
      fun _ => Memory.Stores root field (.elements []) := by
  refine (Memory.newMessage_ensures storage).weaken (fun _ h => h) ?_ fun _ _ h => h
  rintro _ memory ⟨⟨fresh, rfl, hfresh⟩, hstores⟩
  refine ⟨fun view hview => ?_, hstores⟩
  cases hview
  exact hfresh

theorem newInstance_elsewhere (template : Value) :
    Script.Ensures (Memory.Stores root field (.elements [])) (newInstance template)
      (fun value memory => Elsewhere root value ∧ Memory.Stores root field (.elements []) memory)
      fun _ => Memory.Stores root field (.elements []) := by
  refine Script.Ensures.bind (Script.Ensures.get fun _ h => h) fun memory => ?_
  cases template with
  | view view =>
    dsimp only
    split
    · split
      · exact newMessage_elsewhere _
      · exact Script.Ensures.raise fun _ h => h
    · exact Script.Ensures.raise fun _ h => h
  | _ => exact Script.Ensures.raise fun _ h => h

/-- What is known of a value stays known while the messages change. -/
theorem given {x : MessageScript α} {known : Prop} {pre : Memory → Prop}
    {post : α → Memory → Prop} {failed : Exception → Memory → Prop}
    (hx : known → Script.Ensures pre x post failed) :
    Script.Ensures (fun memory => known ∧ pre memory) x post failed :=
  fun memory h => hx h.1 memory h.2

theorem idList_keeps (goalId : GoalId) :
    Script.Keeps (Memory.Stores root field (.elements [])) (idList goalId) :=
  Memory.newList_keeps _

/-- Building an entry touches only the entry. -/
theorem cancelGoalInfo_keeps (info : GoalInfo) (template : Value) :
    Script.Keeps (Memory.Stores root field (.elements [])) (cancelGoalInfo info template) := by
  refine (newInstance_elsewhere template).bind fun message => given fun hmessage => ?_
  refine (idList_keeps _).bind fun data => ?_
  refine (getAttribute_elsewhere hmessage).bind fun goalId => given fun hgoalId => ?_
  refine (assign_keeps hgoalId).bind fun _ => ?_
  refine (getAttribute_elsewhere hmessage).bind fun stamp => given fun hstamp => ?_
  refine (assign_keeps hstamp).bind fun _ => ?_
  refine (getAttribute_elsewhere hmessage).bind fun stamp => given fun hstamp => ?_
  refine (assign_keeps hstamp).bind fun _ => ?_
  exact Script.Ensures.pure fun _ h => h

/-- Building an entry touches only the entry. -/
theorem statusEntry_keeps (item : GoalStatusInfo) :
    Script.Keeps (Memory.Stores root field (.elements [])) (statusEntry item) := by
  refine (newMessage_elsewhere _).bind fun status => given fun hstatus => ?_
  refine (idList_keeps _).bind fun data => ?_
  refine (getAttribute_elsewhere hstatus).bind fun goalInfo => given fun hgoalInfo => ?_
  refine (getAttribute_elsewhere hgoalInfo).bind fun goalId => given fun hgoalId => ?_
  refine (assign_keeps hgoalId).bind fun _ => ?_
  refine (getAttribute_elsewhere hstatus).bind fun goalInfo => given fun hgoalInfo => ?_
  refine (getAttribute_elsewhere hgoalInfo).bind fun stamp => given fun hstamp => ?_
  refine (assign_keeps hstamp).bind fun _ => ?_
  refine (getAttribute_elsewhere hstatus).bind fun goalInfo => given fun hgoalInfo => ?_
  refine (getAttribute_elsewhere hgoalInfo).bind fun stamp => given fun hstamp => ?_
  refine (assign_keeps hstamp).bind fun _ => ?_
  refine (assign_keeps hstatus).bind fun _ => ?_
  exact Script.Ensures.pure fun _ h => h

theorem assertOwnerThread_keeps {inv : World → Prop} : Script.Keeps inv assertOwnerThread := by
  refine get_keeps.bind fun w => ?_
  split
  · exact Script.Ensures.pure fun _ h => h
  · exact Script.Ensures.raise fun _ h => h

theorem requireAttachment_keeps {inv : World → Prop} : Script.Keeps inv requireAttachment := by
  refine get_keeps.bind fun w => ?_
  split
  · exact Script.Ensures.pure fun _ h => h
  · exact Script.Ensures.raise fun _ h => h

/-- Publishing another message, or an empty one, hands over no entries. -/
theorem publish_keeps {message : Value}
    (hhanded : (∀ datum, Event.published datum ≠ handed datum) ∨ message = .view ⟨root,[]⟩)
    (hpublished : ∀ datum datum', Event.published datum = handed datum' → datum = datum') :
    Script.Keeps (Blank root field handed) (publish message) := by
  refine assertOwnerThread_keeps.bind fun _ => ?_
  refine (nativeCall_keeps _).bind fun _ => requireAttachment_keeps.bind fun _ => ?_
  rcases hhanded with hother | rfl
  · refine (freeze_keeps message).bind fun datum => ?_
    refine (note_keeps fun datum' h => ?_).bind fun _ => nativeCall_keeps _
    obtain rfl := hpublished datum datum' h
    exact absurd h (hother datum)
  · refine freeze_ensures.bind fun datum => ?_
    intro w' hw'
    refine ((note_keeps fun datum' h => ?_).bind fun _ => nativeCall_keeps _) w' hw'.2
    obtain rfl := hpublished datum datum' h
    exact hw'.1

/-- Filling the status list fills a detached list. -/
theorem fillStatus_keeps (message : Value) (goals : List GoalStatusInfo) :
    Script.Keeps (Blank root field handed)
      (Script.each (fun item => onMemory do
        let status ← statusEntry item
        let list ← Memory.getAttribute message "status_list"
        Memory.append list status) goals) := by
  refine Script.Ensures.each fun item _ => onMemory_keeps ?_
  refine (statusEntry_keeps item).bind fun status => ?_
  exact (Memory.getAttribute_keeps _ _).bind fun list => Memory.append_keeps _ _

/-- No message with entries was handed over so far. -/
def Quiet (field : String) (handed : Datum → Event) (w : World) : Prop :=
  ∀ message, handed message ∈ w.history → message.member field = some (.elements [])

/-- A new message starts with an empty sequence. -/
theorem newMessage_blank {storage : Datum} (hempty : storage.member field = some (.elements [])) :
    Script.Ensures (Quiet field handed) (onMemory (Memory.newMessage storage))
      (fun value w => ∃ root, value = .view ⟨root,[]⟩ ∧ Blank root field handed w)
      fun _ => Quiet field handed := by
  intro w hw
  refine ⟨w.memory.messages.length, rfl, ?_, hw⟩
  change ((w.memory.messages ++ [storage])[w.memory.messages.length]?).bind (Datum.member field) = _
  rw [List.getElem?_concat_length]
  exact hempty

/-- The message itself need not be remembered. -/
theorem quiet_of_blank {x : Act α} (hx : Script.Keeps (Blank root field handed) x) :
    Script.Ensures (Blank root field handed) x (fun _ => Quiet field handed)
      fun _ => Quiet field handed :=
  hx.weaken (fun _ h => h) (fun _ _ h => h.2) fun _ _ h => h.2

/-- What a fresh message becomes does not depend on where it is. -/
theorem fresh {x : Act α} {value : Value} {post : α → World → Prop}
    {failed : Exception → World → Prop}
    (hx : ∀ root, value = .view ⟨root,[]⟩ → Script.Ensures (Blank root field handed) x post failed) :
    Script.Ensures (fun w => ∃ root, value = .view ⟨root,[]⟩ ∧ Blank root field handed w) x post
      failed := by
  rintro w ⟨root, hvalue, hblank⟩
  exact hx root hvalue w hblank

/-- A status publication hands over no cancel response. -/
theorem startStatusPublication_keeps :
    Script.Keeps (Blank root field .responded) startStatusPublication := by
  refine assertOwnerThread_keeps.bind fun _ => get_keeps.bind fun w => ?_
  split
  · exact Script.Ensures.pure fun _ h => h
  refine (onMemory_keeps (Memory.newMessage_keeps _)).bind fun message => ?_
  refine (nativeCall_keeps _).bind fun goals => ?_
  refine (note_keeps fun _ h => Event.noConfusion h).bind fun _ => ?_
  refine (fillStatus_keeps message goals).bind fun _ => ?_
  refine (onShared_keeps _).bind fun _ => ?_
  have hpublish : Script.Keeps (Blank root field .responded) (publish message) :=
    publish_keeps (.inl fun _ h => Event.noConfusion h) fun _ _ h => Event.noConfusion h
  exact hpublish.bind fun ticket => onShared_keeps _

theorem publishStatus_keeps : Script.Keeps (Blank root field .responded) publishStatus := by
  refine assertOwnerThread_keeps.bind fun _ => (onShared_keeps _).bind fun _ => ?_
  refine get_keeps.bind fun w => ?_
  split
  · exact Script.Ensures.pure fun _ h => h
  · exact startStatusPublication_keeps

/-- Every published status message is empty. -/
theorem startStatusPublication_quiet :
    Script.Keeps (Quiet "status_list" .published) startStatusPublication := by
  refine assertOwnerThread_keeps.bind fun _ => get_keeps.bind fun w => ?_
  split
  · exact Script.Ensures.pure fun _ h => h
  refine (newMessage_blank rfl).bind fun message => fresh fun root hmessage => ?_
  refine quiet_of_blank ?_
  refine (nativeCall_keeps _).bind fun goals => ?_
  refine (note_keeps fun _ h => Event.noConfusion h).bind fun _ => ?_
  refine (fillStatus_keeps message goals).bind fun _ => ?_
  refine (onShared_keeps _).bind fun _ => ?_
  have hpublish : Script.Keeps (Blank root "status_list" .published) (publish message) :=
    publish_keeps (.inr hmessage) fun _ _ h => Event.published.inj h
  exact hpublish.bind fun ticket => onShared_keeps _

/-- A response whose list is empty is handed over with an empty list. -/
theorem respond_keeps :
    Script.Keeps (Blank root field .responded) (respond (.view ⟨root,[]⟩)) := by
  refine freeze_ensures.bind fun datum w hw => ?_
  refine ((note_keeps fun datum' h => ?_).bind fun _ => nativeCall_keeps _) w hw.2
  obtain rfl := Event.responded.inj h
  exact hw.1

theorem uuidFromGoal_keeps (message : Value) :
    Script.Keeps (Blank root field handed) (uuidFromGoal message) := by
  refine Script.Ensures.bind (m := fun _ => Blank root field handed) ?_ fun outcome => ?_
  · refine Script.Ensures.attempt (g := fun _ => Blank root field handed) ?_
    refine onMemory_keeps ((Memory.getAttribute_keeps _ _).bind fun value => ?_)
    refine Script.Ensures.bind (Script.Ensures.get fun _ h => h) fun memory => ?_
    exact Script.Ensures.lift (fun _ _ h _ => h) fun _ _ h _ => h
  · split <;> first | exact Script.Ensures.pure fun _ h => h | exact Script.Ensures.raise fun _ h => h

theorem stampNs_keeps (stamp : Value) :
    Script.Keeps (Blank root field handed) (stampNs stamp) := by
  refine Script.Ensures.bind (m := fun _ => Blank root field handed) ?_ fun outcome => ?_
  · refine Script.Ensures.attempt (g := fun _ => Blank root field handed) ?_
    refine onMemory_keeps ((Memory.getAttribute_keeps _ _).bind fun sec => ?_)
    refine Script.Ensures.bind (Script.Ensures.lift (fun _ _ h _ => h) fun _ _ h _ => h) fun _ => ?_
    refine (Memory.getAttribute_keeps _ _).bind fun nanosec => ?_
    refine Script.Ensures.bind (Script.Ensures.lift (fun _ _ h _ => h) fun _ _ h _ => h) fun _ => ?_
    exact Script.Ensures.pure fun _ h => h
  · split <;> first | exact Script.Ensures.pure fun _ h => h | exact Script.Ensures.raise fun _ h => h

/-- The code of a response is not its list. -/
theorem assignCode_keeps (code : Value) :
    Script.Keeps (Blank root "goals_canceling" handed)
      (onMemory (assign (.view ⟨root,[]⟩) "return_code" code)) := by
  refine onMemory_keeps (Memory.setAttribute_keeps classes code fun view hview => .inr ?_)
  cases hview
  simp

theorem refuseCancel_keeps (code : ℤ) :
    Script.Keeps (Blank root "goals_canceling" .responded) (refuseCancel (.view ⟨root,[]⟩) code) :=
  (assignCode_keeps _).bind fun _ => respond_keeps

theorem considerCandidate_keeps (cancelCallback : GoalId → Script Shared Exception CancelResponse)
    (accepted : List GoalInfo) (info : GoalInfo) :
    Script.Keeps (Blank root field handed) (considerCandidate cancelCallback accepted info) := by
  refine get_keeps.bind fun w => ?_
  split
  · exact Script.Ensures.pure fun _ h => h
  · exact (onShared_keeps _).bind fun answer => Script.Ensures.pure fun _ h => h

/-- Entering a goal appends to a copy of the list. -/
theorem commitCancel_keeps (request : Value) (committed : ℕ) (info : GoalInfo) :
    Script.Keeps (Blank root field .responded)
      (commitCancel request (.view ⟨root,[]⟩) committed info) := by
  refine Script.Ensures.bind (m := fun _ => Blank root field .responded) ?_ fun outcome => ?_
  · exact Script.Ensures.attempt (g := fun _ => Blank root field .responded)
      (nativeCall_keeps _)
  cases outcome with
  | error e => exact Script.Ensures.pure fun _ h => h
  | ok transition =>
    refine (note_keeps fun _ h => Event.noConfusion h).bind fun _ => ?_
    refine (onShared_keeps _).bind fun _ => ?_
    refine (onMemory_keeps ?_).bind fun _ => Script.Ensures.pure fun _ h => h
    refine (Memory.getAttribute_keeps _ _).bind fun list => ?_
    refine (Memory.getAttribute_keeps _ _).bind fun template => ?_
    exact (cancelGoalInfo_keeps info template).bind fun entry => Memory.append_keeps _ _

theorem announceCanceling_keeps (committed : ℕ) :
    Script.Keeps (Blank root field .responded) (announceCanceling committed) := by
  unfold announceCanceling
  split
  · exact Script.Ensures.pure fun _ h => h
  · exact publishStatus_keeps

theorem cancelSelected_keeps (cancelCallback : GoalId → Script Shared Exception CancelResponse)
    (request : Value) (goalId : GoalId) (stamp : ℤ) :
    Script.Keeps (Blank root "goals_canceling" .responded)
      (cancelSelected cancelCallback request (.view ⟨root,[]⟩) goalId stamp) := by
  refine (nativeCall_keeps _).bind fun candidates => ?_
  refine Script.Ensures.bind (m := fun _ => Blank root "goals_canceling" .responded) ?_ fun asked => ?_
  · refine Script.Ensures.attempt (g := fun _ => Blank root "goals_canceling" .responded) ?_
    exact Script.Ensures.fold (fun accepted info => considerCandidate_keeps _ accepted info) _ _
  refine (Script.Ensures.fold (fun committed info => commitCancel_keeps request committed info)
    _ _).bind fun committed => ?_
  refine (assignCode_keeps _).bind fun _ => ?_
  exact (announceCanceling_keeps committed).bind fun _ => respond_keeps

/-- Every cancel response is handed over with an empty list. -/
theorem takeCancel_quiet (cancelCallback : GoalId → Script Shared Exception CancelResponse)
    (request : Value) :
    Script.Keeps (Quiet "goals_canceling" .responded) (takeCancel cancelCallback request) := by
  refine (newMessage_blank rfl).bind fun response => fresh fun root hresponse => ?_
  subst hresponse
  refine quiet_of_blank ?_
  refine (onMemory_keeps (Memory.getAttribute_keeps _ _)).bind fun goalInfo => ?_
  refine (onMemory_keeps (Memory.getAttribute_keeps _ _)).bind fun uuid => ?_
  refine (uuidFromGoal_keeps uuid).bind fun identifier => ?_
  refine (onMemory_keeps (Memory.getAttribute_keeps _ _)).bind fun goalInfo => ?_
  refine (onMemory_keeps (Memory.getAttribute_keeps _ _)).bind fun time => ?_
  refine (stampNs_keeps time).bind fun stamp => ?_
  cases identifier with
  | none => exact cancelSelected_keeps cancelCallback request _ stamp
  | some goalId =>
    dsimp only
    split
    · refine Script.Ensures.bind (m := fun _ => Blank root "goals_canceling" .responded) ?_
        fun state => ?_
      · exact Script.Ensures.attempt (g := fun _ => Blank root "goals_canceling" .responded)
          (nativeCall_keeps _)
      cases state with
      | error e => exact refuseCancel_keeps _
      | ok state =>
        dsimp only
        split
        · exact cancelSelected_keeps cancelCallback request goalId stamp
        · exact refuseCancel_keeps _
    · exact cancelSelected_keeps cancelCallback request goalId stamp

end

/-- The entry a canceled goal should get. -/
def goalInfoDatum (info : GoalInfo) : Datum :=
  .message "GoalInfo" [
    ("goal_id",.message "UUID" [("uuid",.elements
      (info.goalId.data.toList.map fun byte => .integer byte.toNat))]),
    ("stamp",.message "Time" [("sec",.integer (info.acceptedStamp / 1000000000)),
      ("nanosec",.integer (info.acceptedStamp % 1000000000))])]

/-- The entry a goal of a snapshot should get. -/
def goalStatusDatum (item : GoalStatusInfo) : Datum :=
  .message "GoalStatus" [("goal_info",goalInfoDatum item.goalInfo),
    ("status",.integer (stateNumber item.state))]

/-- A cancel response lists exactly these goals, one entry each. -/
def Announces (message : Datum) (goals : List GoalInfo) : Prop :=
  ∃ entries, message.member "goals_canceling" = some (.elements entries) ∧
    entries.Perm (goals.map goalInfoDatum)

/-- A status message lists exactly these goals in their order. -/
def Reports (message : Datum) (goals : List GoalStatusInfo) : Prop :=
  message.member "status_list" = some (.elements (goals.map goalStatusDatum))

/-- Goals moved to CANCELING. -/
def canceledGoals (history : List Event) : List GoalInfo :=
  history.filterMap fun
    | .canceled info => some info
    | _ => none

/-- Messages handed to `respond`. -/
def responses (history : List Event) : List Datum :=
  history.filterMap fun
    | .responded message => some message
    | _ => none

/-- Snapshots taken. -/
def snapshots (history : List Event) : List (List GoalStatusInfo) :=
  history.filterMap fun
    | .snapshot goals => some goals
    | _ => none

/-- Messages handed to `_publish`. -/
def publications (history : List Event) : List Datum :=
  history.filterMap fun
    | .published message => some message
    | _ => none

/-- What one call does. -/
def eventsOf (x : Act Unit) (w : World) : List Event := (x {w with history := []}).2.history

/-- An empty list announces no goal. -/
theorem announces_iff {message : Datum} {goals : List GoalInfo}
    (hempty : message.member "goals_canceling" = some (.elements [])) :
    Announces message goals ↔ goals = [] := by
  constructor
  · rintro ⟨entries, hentries, hperm⟩
    rw [hempty] at hentries
    obtain rfl : [] = entries := Datum.elements.inj (Option.some.inj hentries)
    exact List.map_eq_nil_iff.mp hperm.nil_eq.symm
  · rintro rfl
    exact ⟨[], hempty, List.Perm.refl []⟩

/-- An empty list reports no goal. -/
theorem reports_iff {message : Datum} {goals : List GoalStatusInfo}
    (hempty : message.member "status_list" = some (.elements [])) :
    Reports message goals ↔ goals = [] := by
  unfold Reports
  rw [hempty]
  constructor
  · intro h
    exact List.map_eq_nil_iff.mp (Datum.elements.inj (Option.some.inj h)).symm
  · rintro rfl
    rfl

/-- A script that only hands over empty messages. -/
theorem quiet_events {x : Act Unit} {field : String} {handed : Datum → Event}
    (hx : Script.Keeps (Quiet field handed) x) (w : World) {message : Datum}
    (hmem : handed message ∈ eventsOf x w) : message.member field = some (.elements []) := by
  have hstart : Quiet field handed {w with history := []} := fun _ h => absurd h List.not_mem_nil
  have hend := hx _ hstart
  unfold eventsOf at hmem
  rcases hresult : x {w with history := []} with ⟨_ | _, w'⟩ <;> rw [hresult] at hend hmem <;>
    exact hend message hmem

/-- Whatever the application answers and whatever native calls raise, a cancel
response announces the goals that were moved, and a status message reports its
snapshot, exactly when there is nothing to list. -/
theorem entries_handed_iff (cancelCallback : GoalId → Script Shared Exception CancelResponse)
    (request : Value) (w : World) :
    (∀ message ∈ responses (eventsOf (takeCancel cancelCallback request) w),
      Announces message (canceledGoals (eventsOf (takeCancel cancelCallback request) w)) ↔
        canceledGoals (eventsOf (takeCancel cancelCallback request) w) = []) ∧
    ∀ message ∈ publications (eventsOf startStatusPublication w),
      ∀ goals ∈ snapshots (eventsOf startStatusPublication w),
        Reports message goals ↔ goals = [] := by
  constructor
  · intro message hmessage
    obtain ⟨event, hevent, hsome⟩ := List.mem_filterMap.mp hmessage
    cases event with
    | responded datum =>
      cases hsome
      exact announces_iff (quiet_events (takeCancel_quiet cancelCallback request) w hevent)
    | _ => exact absurd hsome (by simp)
  · intro message hmessage goals _
    obtain ⟨event, hevent, hsome⟩ := List.mem_filterMap.mp hmessage
    cases event with
    | published datum =>
      cases hsome
      exact reports_iff (quiet_events startStatusPublication_quiet w hevent)
    | _ => exact absurd hsome (by simp)

/-- A goal accepted five seconds and one nanosecond after the epoch. -/
def acceptedGoal : GoalInfo := ⟨⟨Vector.replicate 16 7⟩,5000000001⟩

/-- A server that executes one goal and holds a request to cancel every goal. -/
def executingWorld : World where
  memory := ⟨[cancelRequestClass.initial],[]⟩
  shared := {
    registry := (((Registry.new 0).reserve acceptedGoal.goalId).2.commit acceptedGoal .execute).2
    clock := 0
    goals := (∅ : Table GoalId GoalState).insert acceptedGoal.goalId .executing
    owned := true
    attached := true
    closing := false
    statusRevision := 0
    statusInflightTicket := none
    statusInflightRevision := 0
    nextTicket := 1
    faults := [] }
  history := []

/-- What the server does when the application gives every goal up. -/
def cancelingEvents : List Event :=
  eventsOf (takeCancel (fun _ => pure .accept) (.view ⟨0,[]⟩)) executingWorld

/-- The goal is moved and one response is handed over, without an entry for it. -/
theorem not_announced_executing :
    ¬ ∀ (cancelCallback : GoalId → Script Shared Exception CancelResponse) (request : Value)
      (w : World),
      (∀ message ∈ responses (eventsOf (takeCancel cancelCallback request) w),
        Announces message (canceledGoals (eventsOf (takeCancel cancelCallback request) w))) ∧
      ∀ message ∈ publications (eventsOf startStatusPublication w),
        ∀ goals ∈ snapshots (eventsOf startStatusPublication w), Reports message goals := by
  intro h
  have hannounced := (h (fun _ => pure .accept) (.view ⟨0,[]⟩) executingWorld).1
  have hmoved : canceledGoals cancelingEvents = [acceptedGoal] := by decide +kernel
  have hlength : (responses cancelingEvents).length = 1 := by decide +kernel
  obtain ⟨message, hresponses⟩ := List.length_eq_one_iff.mp hlength
  have hmem : message ∈ responses cancelingEvents := by
    rw [hresponses]
    exact List.mem_singleton.mpr rfl
  obtain ⟨event, hevent, hsome⟩ := List.mem_filterMap.mp hmem
  cases event with
  | responded datum =>
    cases hsome
    have hempty := quiet_events (takeCancel_quiet _ _) _ hevent
    have hnone := (announces_iff hempty).mp (hannounced message hmem)
    exact absurd (hmoved.symm.trans hnone) (List.cons_ne_nil _ _)
  | _ => exact absurd hsome (by simp)

end Dmw.ActionMessages
