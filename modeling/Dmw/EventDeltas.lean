import Mathlib.Algebra.Group.Prod
import Mathlib.Algebra.BigOperators.Group.List.Basic
import Mathlib.Tactic.Abel
import Dmw.EndpointEvents
import Dmw.Identity

/-!
# Changes that Events report

An endpoint accumulates the changes of each status, and every Event reports
what was added since its own cursor. Counters are exact here; the statuses of
the endpoint are theirs cut to the width of their fields.
-/

namespace Dmw.EventDeltas

open EndpointEvents (EventType QosPolicyKind generationMax)
open Identity (Result)

/-- Status of one kind. Changes add up, totals are replaced. -/
inductive EventInfo
  | deadlineMissed (totalCount totalCountChange : ℤ)
  | livelinessLost (totalCount totalCountChange : ℤ)
  | livelinessChanged (aliveCount notAliveCount aliveCountChange notAliveCountChange : ℤ)
  | incompatibleQos (totalCount totalCountChange : ℤ) (lastPolicy : QosPolicyKind)
  | messageLost (totalCount totalCountChange : ℤ)
  deriving DecidableEq

/-- The status before the first update. -/
def emptyEventInfo : EventType → EventInfo
  | .livelinessChanged => .livelinessChanged 0 0 0 0
  | .livelinessLost => .livelinessLost 0 0
  | .requestedIncompatibleQos | .offeredIncompatibleQos => .incompatibleQos 0 0 .unknown
  | .messageLost => .messageLost 0 0
  | .requestedDeadlineMissed | .offeredDeadlineMissed => .deadlineMissed 0 0

/-- Add an update to a status. -/
@[grind =] def accumulate : EventInfo → EventInfo → EventInfo
  | .deadlineMissed _ change, .deadlineMissed total delta => .deadlineMissed total (change+delta)
  | .livelinessLost _ change, .livelinessLost total delta => .livelinessLost total (change+delta)
  | .livelinessChanged _ _ alive notAlive, .livelinessChanged count notCount delta notDelta =>
    .livelinessChanged count notCount (alive+delta) (notAlive+notDelta)
  | .incompatibleQos _ change _, .incompatibleQos total delta policy =>
    .incompatibleQos total (change+delta) policy
  | .messageLost _ change, .messageLost total delta => .messageLost total (change+delta)
  | total, _ => total

/-- What happened since a cursor; `none` is a cursor of another kind. -/
@[grind =] def difference : EventInfo → EventInfo → Option EventInfo
  | .deadlineMissed total change, .deadlineMissed _ previous =>
    some (.deadlineMissed total (change-previous))
  | .livelinessLost total change, .livelinessLost _ previous =>
    some (.livelinessLost total (change-previous))
  | .livelinessChanged count notCount alive notAlive, .livelinessChanged _ _ previous notPrevious =>
    some (.livelinessChanged count notCount (alive-previous) (notAlive-notPrevious))
  | .incompatibleQos total change policy, .incompatibleQos _ previous _ =>
    some (.incompatibleQos total (change-previous) policy)
  | .messageLost total change, .messageLost _ previous => some (.messageLost total (change-previous))
  | _, _ => none

/-- A status without its changes. -/
@[grind =] def EventInfo.standing : EventInfo → EventInfo
  | .deadlineMissed total _ => .deadlineMissed total 0
  | .livelinessLost total _ => .livelinessLost total 0
  | .livelinessChanged count notCount _ _ => .livelinessChanged count notCount 0 0
  | .incompatibleQos total _ policy => .incompatibleQos total 0 policy
  | .messageLost total _ => .messageLost total 0

/-- The change fields; only the liveliness of writers has a second one. -/
@[grind =] def EventInfo.change : EventInfo → ℤ × ℤ
  | .deadlineMissed _ change => (change,0)
  | .livelinessLost _ change => (change,0)
  | .livelinessChanged _ _ alive notAlive => (alive,notAlive)
  | .incompatibleQos _ change _ => (change,0)
  | .messageLost _ change => (change,0)

/-- A status is one of a type. -/
def Fits (type : EventType) (info : EventInfo) : Prop :=
  (difference info (emptyEventInfo type)).isSome = true

instance (type : EventType) (info : EventInfo) : Decidable (Fits type info) :=
  inferInstanceAs (Decidable (_ = _))

/-- An update that a listener reports. -/
structure Update where
  /-- Type of the status. -/
  type : EventType
  /-- What changed. -/
  info : EventInfo
  /-- A listener reports a status of its own kind. -/
  fits : Fits type info

/-- A status with the number of updates it stands for. -/
structure Snapshot where
  /-- The accumulated status. -/
  info : EventInfo
  /-- Updates so far. -/
  generation : ℕ
  deriving DecidableEq

/-- An Event. -/
structure Event.Impl where
  /-- The status it follows. -/
  type : EventType
  /-- What was taken so far. -/
  cursor : Snapshot
  /-- Updates that were committed before it was created. -/
  created : ℕ

/-- One endpoint with its Events. -/
structure System where
  /-- The endpoint has not been closed. -/
  alive : Bool
  /-- Accumulated status by type. -/
  slots : EventType → Snapshot
  /-- A generation or the registration ids are used up. -/
  exhausted : Bool
  /-- Next registration id; 0 once they are used up. -/
  nextEventRegistrationId : ℕ
  /-- Events by registration id. -/
  objects : ℕ → Option Event.Impl
  /-- Updates that reached a slot, in order. -/
  committed : List Update

namespace System

/-- A new endpoint without Events. -/
def initial : System := ⟨true,fun _ => ⟨.deadlineMissed 0 0,0⟩,false,1,fun _ => none,[]⟩

/-- The status of one type. -/
def snapshot (type : EventType) (s : System) : Snapshot :=
  let current := s.slots type
  if current.generation = 0 then ⟨emptyEventInfo type,0⟩ else current

/-- `update` up to its notifications. -/
def update (u : Update) (s : System) : System :=
  if s.exhausted then s
  else
    let current := s.slots u.type
    if current.generation = generationMax then { s with exhausted := true }
    else
      let next := if current.generation = 0 then u.info else accumulate current.info u.info
      { s with
        slots := Function.update s.slots u.type ⟨next,current.generation+1⟩
        committed := s.committed ++ [u] }

/-- `create_event`. Whether the Context, the listener and the allocations allow
it is open. -/
def createEvent (type : EventType) (allowed : Bool) (s : System) : System :=
  if !allowed || !s.alive then s
  else if s.exhausted || s.nextEventRegistrationId == 0 then { s with exhausted := true }
  else
    { s with
      nextEventRegistrationId := (s.nextEventRegistrationId+1)%UInt64.size
      objects := Function.update s.objects s.nextEventRegistrationId
        (some ⟨type,s.snapshot type,s.committed.length⟩) }

/-- `take`, with what happened if anything did. Whether the Context admits an
operation is open. -/
def take (id : ℕ) (operation : Bool) (s : System) : System × Result (Option EventInfo) :=
  if !operation then (s,.error ⟨.contextShutdown,"Context is shut down"⟩)
  else if !s.alive then (s,.error ⟨.parentDestroyed,"Event parent is destroyed"⟩)
  else if s.exhausted then
    (s,.error ⟨.resourceExhausted,"Event generation or registration ID is exhausted"⟩)
  else
    match s.objects id with
    | none => (s,.ok none)
    | some event =>
      let current := s.snapshot event.type
      if current.generation = event.cursor.generation then (s,.ok none)
      else
        match difference current.info event.cursor.info with
        -- The variant never changes its alternative.
        | none => (s,.ok none)
        | some info =>
          ({ s with objects := Function.update s.objects id (some { event with cursor := current }) },
            .ok (some info))

end System

/-- One call. -/
inductive Call
  | update (u : Update)
  | createEvent (type : EventType) (allowed : Bool)
  | take (id : ℕ) (operation : Bool)
  | close

/-- Effect of a call. -/
def System.perform (s : System) : Call → System
  | .update u => s.update u
  | .createEvent type allowed => s.createEvent type allowed
  | .take id operation => (s.take id operation).1
  | .close => { s with alive := false }

/-- Calls one after the other. -/
def System.run (s : System) (calls : List Call) : System := calls.foldl System.perform s

/-- A status that a take handed to its caller. -/
structure Taken where
  /-- The Event it was taken from. -/
  id : ℕ
  /-- What happened since the take before it. -/
  info : EventInfo
  /-- Updates of any type that were committed by then. -/
  seen : ℕ

/-- The status in the result of a take. -/
def inResult (id seen : ℕ) : Result (Option EventInfo) → List Taken
  | .ok (some info) => [⟨id,info,seen⟩]
  | _ => []

/-- What a call hands to its caller when it is a take that succeeds. -/
def System.handed (s : System) : Call → List Taken
  | .take id operation => inResult id s.committed.length (s.take id operation).2
  | .update _ | .createEvent _ _ | .close => []

/-- What the successful takes of a sequence of calls handed out, in order. -/
def System.results (s : System) : List Call → List Taken
  | [] => []
  | call :: calls => s.handed call ++ (s.perform call).results calls

/-- The results of one Event. -/
def takesOf (id : ℕ) (results : List Taken) : List Taken :=
  results.filter fun taken => taken.id = id

/-- Updates of one type. -/
def ofType (type : EventType) (updates : List Update) : List Update :=
  updates.filter fun u => u.type = type

/-- The changes of the updates of one type. -/
def tally (type : EventType) (updates : List Update) : ℤ × ℤ :=
  ((ofType type updates).map fun u => u.info.change).sum

/-- What the takes of an Event handed out and what it has not yet reported make
up what happened since it was created. -/
structure Conserved (s : System) (event : Event.Impl) (takes : List Taken) : Prop where
  /-- The changes add up to those of the updates since its creation. -/
  changes : ∃ untaken, difference (s.snapshot event.type).info event.cursor.info = some untaken ∧
    (takes.map fun taken => taken.info.change).sum + untaken.change =
      tally event.type (s.committed.drop event.created)
  /-- A take shows the totals of the newest update it covers. -/
  standing : ∀ taken ∈ takes, ∃ newest,
    (ofType event.type (s.committed.take taken.seen)).getLast? = some newest ∧
      taken.info.standing = newest.info.standing

variable {type : EventType} {info info' : EventInfo} {s s' : System} {u : Update}
  {event : Event.Impl} {id : ℕ} {takes results : List Taken}

/-- The alternative of the variant that holds a status. -/
def EventInfo.kind : EventInfo → Fin 5
  | .deadlineMissed _ _ => 0
  | .livelinessLost _ _ => 1
  | .livelinessChanged _ _ _ _ => 2
  | .incompatibleQos _ _ _ => 3
  | .messageLost _ _ => 4

/-- There is a difference between statuses of one kind only. -/
theorem difference_isSome : (difference info info').isSome = true ↔ info.kind = info'.kind := by
  cases info <;> cases info' <;> simp [difference,EventInfo.kind]

/-- Statuses of one type are of one kind. -/
theorem Fits.kind_eq (h : Fits type info) (h' : Fits type info') : info.kind = info'.kind :=
  (Iff.mp difference_isSome h).trans (Iff.mp difference_isSome h').symm

/-- What a difference reports. -/
theorem Fits.difference (h : Fits type info) (h' : Fits type info') :
    ∃ since, EventDeltas.difference info info' = some since ∧
      since.change = info.change - info'.change ∧ since.standing = info.standing := by
  have hkind := h.kind_eq h'
  cases info with
  | deadlineMissed total change =>
    cases info' <;> first | exact ⟨_,rfl,by simp [EventInfo.change],rfl⟩ | cases hkind
  | livelinessLost total change =>
    cases info' <;> first | exact ⟨_,rfl,by simp [EventInfo.change],rfl⟩ | cases hkind
  | livelinessChanged count notCount change notChange =>
    cases info' <;> first | exact ⟨_,rfl,by simp [EventInfo.change],rfl⟩ | cases hkind
  | incompatibleQos total change policy =>
    cases info' <;> first | exact ⟨_,rfl,by simp [EventInfo.change],rfl⟩ | cases hkind
  | messageLost total change =>
    cases info' <;> first | exact ⟨_,rfl,by simp [EventInfo.change],rfl⟩ | cases hkind

/-- What an update adds to a status of its kind. -/
theorem Fits.accumulate (h : Fits type info) (h' : Fits type info') :
    Fits type (EventDeltas.accumulate info info') ∧
      (EventDeltas.accumulate info info').change = info.change + info'.change ∧
        (EventDeltas.accumulate info info').standing = info'.standing := by
  have hkind := h.kind_eq h'
  have hfits : ∀ info'', info''.kind = info.kind → Fits type info'' := fun info'' hsame =>
    Iff.mpr difference_isSome (hsame.trans (Iff.mp difference_isSome h))
  cases info with
  | deadlineMissed total change =>
    cases info' <;> first | exact ⟨hfits _ rfl,by simp [EventDeltas.accumulate,EventInfo.change],rfl⟩ | cases hkind
  | livelinessLost total change =>
    cases info' <;> first | exact ⟨hfits _ rfl,by simp [EventDeltas.accumulate,EventInfo.change],rfl⟩ | cases hkind
  | livelinessChanged count notCount change notChange =>
    cases info' <;> first | exact ⟨hfits _ rfl,by simp [EventDeltas.accumulate,EventInfo.change],rfl⟩ | cases hkind
  | incompatibleQos total change policy =>
    cases info' <;> first | exact ⟨hfits _ rfl,by simp [EventDeltas.accumulate,EventInfo.change],rfl⟩ | cases hkind
  | messageLost total change =>
    cases info' <;> first | exact ⟨hfits _ rfl,by simp [EventDeltas.accumulate,EventInfo.change],rfl⟩ | cases hkind

/-- A status cut to the width of its fields. -/
@[grind =] def EventInfo.narrow : EventInfo → EndpointEvents.EventInfo
  | .deadlineMissed total change => .deadlineMissed (.ofInt total) (.ofInt change)
  | .livelinessLost total change => .livelinessLost (.ofInt total) (.ofInt change)
  | .livelinessChanged count notCount change notChange =>
    .livelinessChanged (.ofInt count) (.ofInt notCount) (.ofInt change) (.ofInt notChange)
  | .incompatibleQos total change policy => .incompatibleQos (.ofInt total) (.ofInt change) policy
  | .messageLost total change => .messageLost (.ofInt total) (.ofInt change)

/-- The statuses of an endpoint accumulate as the exact ones do. -/
theorem narrow_accumulate (info info' : EventInfo) :
    (accumulate info info').narrow = EndpointEvents.accumulate info.narrow info'.narrow := by
  cases info <;> cases info' <;>
    simp [accumulate,EventInfo.narrow,EndpointEvents.accumulate,Int32.ofInt_add]

/-- Unsigned counters subtract as the exact ones do. -/
theorem ofInt_sub (total previous : ℤ) :
    UInt64.ofInt (total-previous) = UInt64.ofInt total - UInt64.ofInt previous := by
  rw [Int.sub_eq_add_neg,UInt64.ofInt_add,UInt64.ofInt_neg,UInt64.sub_eq_add_neg]

/-- What an Event of an endpoint reports is the exact difference. -/
theorem narrow_difference (info info' : EventInfo) :
    (difference info info').map EventInfo.narrow =
      EndpointEvents.difference info.narrow info'.narrow := by
  cases info <;> cases info' <;>
    simp [difference,EventInfo.narrow,EndpointEvents.difference,Int32.ofInt_sub,ofInt_sub]

/-- The empty status of a type is one of its kind, without changes. -/
theorem fits_empty (type : EventType) :
    Fits type (emptyEventInfo type) ∧ (emptyEventInfo type).change = 0 := by
  refine ⟨Iff.mpr difference_isSome rfl,?_⟩
  cases type <;> rfl

/-- A snapshot stands for the updates that its slot counted. -/
theorem snapshot_generation (s : System) (type : EventType) :
    (s.snapshot type).generation = (s.slots type).generation := by
  unfold System.snapshot
  by_cases hnone : (s.slots type).generation = 0
  · rw [if_pos hnone,hnone]
  · rw [if_neg hnone]

/-- An update reaches its slot, whose snapshot it is added to. -/
theorem update_snapshot (hexhausted : s.exhausted = false)
    (hroom : (s.slots u.type).generation ≠ generationMax) :
    (s.update u).committed = s.committed ++ [u] ∧
      ((s.update u).snapshot u.type).generation = (s.snapshot u.type).generation + 1 ∧
      ((s.update u).snapshot u.type).info = (if (s.slots u.type).generation = 0 then u.info
        else accumulate (s.snapshot u.type).info u.info) ∧
      ∀ type, type ≠ u.type → (s.update u).snapshot type = s.snapshot type := by
  have hupdate : s.update u = { s with
      slots := Function.update s.slots u.type ⟨if (s.slots u.type).generation = 0 then u.info
        else accumulate (s.slots u.type).info u.info,(s.slots u.type).generation+1⟩
      committed := s.committed ++ [u] } := by
    unfold System.update
    rw [hexhausted]
    exact if_neg hroom
  rw [hupdate]
  refine ⟨rfl,?_,?_,fun type hne => ?_⟩
  · rw [snapshot_generation,snapshot_generation]
    simp
  · unfold System.snapshot
    simp only [Function.update_self,Nat.add_eq_zero_iff,one_ne_zero,and_false,if_false]
    by_cases hnone : (s.slots u.type).generation = 0
    · simp [hnone]
    · simp [hnone]
  · unfold System.snapshot
    simp [Function.update_of_ne hne]

/-- Updates of a type up to one more. -/
theorem ofType_append (updates : List Update) :
    ofType type (updates ++ [u]) =
      if u.type = type then ofType type updates ++ [u] else ofType type updates := by
  unfold ofType
  rw [List.filter_append]
  by_cases hsame : u.type = type
  · simp [hsame]
  · simp [hsame]

/-- Changes of one stretch after another add up. -/
theorem tally_append (updates updates' : List Update) :
    tally type (updates ++ updates') = tally type updates + tally type updates' := by
  unfold tally ofType
  rw [List.filter_append,List.map_append,List.sum_append]

/-- Slots hold what was committed. -/
structure Sound (s : System) : Prop where
  /-- A slot is of its own kind. -/
  fits : ∀ type, Fits type (s.snapshot type).info
  /-- It counts the updates of its type. -/
  generation : ∀ type, (s.slots type).generation = (ofType type s.committed).length
  /-- It adds up their changes. -/
  change : ∀ type, (s.snapshot type).info.change = tally type s.committed
  /-- Its totals are those of the newest one. -/
  newest : ∀ type u, (ofType type s.committed).getLast? = some u →
    (s.snapshot type).info.standing = u.info.standing

/-- The takes of an Event handed out what was committed between its creation and
the mark its cursor stands for. -/
structure Follows (s : System) (event : Event.Impl) (takes : List Taken) (seen : ℕ) : Prop where
  /-- Creation comes first. -/
  created : event.created ≤ seen
  /-- The mark lies in the past. -/
  past : seen ≤ s.committed.length
  /-- The cursor is of the kind of its type. -/
  fits : Fits event.type event.cursor.info
  /-- It counts the updates up to the mark. -/
  generation : event.cursor.generation = (ofType event.type (s.committed.take seen)).length
  /-- It adds up their changes. -/
  change : event.cursor.info.change = tally event.type (s.committed.take seen)
  /-- The takes handed out those since the creation. -/
  handed : (takes.map fun taken => taken.info.change).sum =
    tally event.type ((s.committed.take seen).drop event.created)
  /-- Each take showed the newest update by then. -/
  standing : ∀ taken ∈ takes, taken.seen ≤ s.committed.length ∧ ∃ newest,
    (ofType event.type (s.committed.take taken.seen)).getLast? = some newest ∧
      taken.info.standing = newest.info.standing

/-- A slot stands for no updates exactly before the first of its type. -/
theorem Sound.first_iff (h : Sound s) :
    (s.slots type).generation = 0 ↔ ofType type s.committed = [] := by
  rw [h.generation,List.length_eq_zero_iff]

/-- An update that is committed keeps the slots sound. -/
theorem Sound.commit (h : Sound s) (hexhausted : s.exhausted = false)
    (hroom : (s.slots u.type).generation ≠ generationMax) : Sound (s.update u) := by
  obtain ⟨hcommitted, hgeneration, hinfo, hother⟩ := update_snapshot hexhausted hroom
  have hadded : Fits u.type ((s.update u).snapshot u.type).info ∧
      ((s.update u).snapshot u.type).info.change =
        (s.snapshot u.type).info.change + u.info.change ∧
      ((s.update u).snapshot u.type).info.standing = u.info.standing := by
    rw [hinfo]
    by_cases hfirst : (s.slots u.type).generation = 0
    · rw [if_pos hfirst]
      have hempty : (s.snapshot u.type).info.change = 0 := by
        rw [h.change,tally,h.first_iff.mp hfirst]
        rfl
      rw [hempty,zero_add]
      exact ⟨u.fits,rfl,rfl⟩
    · rw [if_neg hfirst]
      exact (h.fits u.type).accumulate u.fits
  refine ⟨fun type => ?_,fun type => ?_,fun type => ?_,fun type u' hlast => ?_⟩
  · by_cases hsame : type = u.type
    · rw [hsame]
      exact hadded.1
    · rw [hother type hsame]
      exact h.fits type
  · rw [hcommitted,ofType_append,← snapshot_generation]
    by_cases hsame : type = u.type
    · rw [hsame,if_pos rfl,hgeneration,snapshot_generation,h.generation,List.length_append]
      rfl
    · rw [hother type hsame,if_neg (Ne.symm hsame),snapshot_generation]
      exact h.generation type
  · rw [hcommitted,tally_append]
    by_cases hsame : type = u.type
    · have hone : tally u.type [u] = u.info.change := by simp [tally,ofType]
      rw [hsame,hadded.2.1,h.change,hone]
    · have hnone : tally type [u] = 0 := by simp [tally,ofType,Ne.symm hsame]
      rw [hother type hsame,hnone,add_zero]
      exact h.change type
  · rw [hcommitted,ofType_append] at hlast
    by_cases hsame : type = u.type
    · rw [hsame,if_pos rfl,List.getLast?_concat,Option.some.injEq] at hlast
      rw [hsame,hadded.2.2,hlast]
    · rw [if_neg (Ne.symm hsame)] at hlast
      rw [hother type hsame]
      exact h.newest type u' hlast

/-- What an Event reported does not depend on later updates. -/
theorem Follows.extend {seen : ℕ} {more : List Update} (h : Follows s event takes seen)
    (hcommitted : s'.committed = s.committed ++ more) : Follows s' event takes seen := by
  have hseen : s'.committed.take seen = s.committed.take seen := by
    rw [hcommitted,List.take_append_of_le_length h.past]
  have hlength : s.committed.length ≤ s'.committed.length := by
    rw [hcommitted,List.length_append]
    exact Nat.le_add_right _ _
  refine ⟨h.created,h.past.trans hlength,h.fits,?_,?_,?_,fun taken hmem => ?_⟩
  · rw [hseen]
    exact h.generation
  · rw [hseen]
    exact h.change
  · rw [hseen]
    exact h.handed
  · obtain ⟨hpast, newest, hnewest, hstanding⟩ := h.standing taken hmem
    refine ⟨hpast.trans hlength,newest,?_,hstanding⟩
    rw [hcommitted,List.take_append_of_le_length hpast]
    exact hnewest

/-- A new Event has reported nothing. -/
theorem Sound.created (h : Sound s) (type : EventType) :
    Follows s ⟨type,s.snapshot type,s.committed.length⟩ [] s.committed.length where
  created := le_rfl
  past := le_rfl
  fits := h.fits type
  generation := by
    rw [List.take_length,snapshot_generation]
    exact h.generation type
  change := by
    rw [List.take_length]
    exact h.change type
  handed := by
    rw [List.take_length,List.drop_length]
    rfl
  standing := fun _ hmem => absurd hmem List.not_mem_nil

/-- The changes since the creation of an Event are those up to its mark and
those after it. -/
theorem Follows.split {seen : ℕ} (h : Follows s event takes seen) :
    tally event.type (s.committed.drop event.created) =
        tally event.type ((s.committed.take seen).drop event.created) +
          tally event.type (s.committed.drop seen) ∧
      tally event.type s.committed =
        tally event.type (s.committed.take seen) + tally event.type (s.committed.drop seen) := by
  have hshort : event.created ≤ (s.committed.take seen).length := by
    rw [List.length_take,min_eq_left h.past]
    exact h.created
  constructor
  · rw [← tally_append,← List.drop_append_of_le_length hshort,List.take_append_drop]
  · rw [← tally_append,List.take_append_drop]

/-- Changes that were handed out and those still to be are all there are. -/
theorem Follows.conserved {seen : ℕ} (hsound : Sound s) (h : Follows s event takes seen) :
    Conserved s event takes where
  changes := by
    obtain ⟨untaken, hdifference, hchange, -⟩ := (hsound.fits event.type).difference h.fits
    obtain ⟨hsince, hall⟩ := h.split
    refine ⟨untaken,hdifference,?_⟩
    rw [hchange,hsound.change,h.change,h.handed,hsince,hall]
    abel
  standing := fun taken hmem => (h.standing taken hmem).2

/-- A take moves the mark to the present. -/
theorem Follows.taken {seen : ℕ} {since : EventInfo} (hsound : Sound s)
    (h : Follows s event takes seen)
    (hnew : (s.snapshot event.type).generation ≠ event.cursor.generation)
    (hsince : difference (s.snapshot event.type).info event.cursor.info = some since) (id : ℕ) :
    Follows s { event with cursor := s.snapshot event.type }
      (takes ++ [⟨id,since,s.committed.length⟩]) s.committed.length := by
  obtain ⟨untaken, hdifference, hchange, hstanding⟩ := (hsound.fits event.type).difference h.fits
  obtain rfl := Option.some.inj (hdifference.symm.trans hsince)
  obtain ⟨hsplit, hall⟩ := h.split
  refine ⟨h.created.trans h.past,le_rfl,hsound.fits event.type,?_,?_,?_,fun taken hmem => ?_⟩
  · rw [List.take_length,snapshot_generation]
    exact hsound.generation event.type
  · rw [List.take_length]
    exact hsound.change event.type
  · rw [List.take_length,List.map_append,List.sum_append,h.handed,hsplit]
    change _ + (untaken.change + 0) = _
    rw [add_zero,hchange,hsound.change,h.change,hall]
    abel
  · rcases List.mem_append.mp hmem with hbefore | hlast
    · exact h.standing taken hbefore
    · obtain rfl := List.mem_singleton.mp hlast
      refine ⟨le_rfl,?_⟩
      rw [List.take_length]
      -- Without an update of the type the generation would not have moved.
      cases hnewest : (ofType event.type s.committed).getLast? with
      | none =>
        have hnone := List.getLast?_eq_none_iff.mp hnewest
        have hbefore : (ofType event.type (s.committed.take seen)).length = 0 := by
          have hsublist : (ofType event.type (s.committed.take seen)).Sublist
              (ofType event.type s.committed) := (List.take_sublist _ _).filter _
          rw [hnone] at hsublist
          rw [List.sublist_nil.mp hsublist]
          rfl
        rw [snapshot_generation,hsound.generation,h.generation,hnone,hbefore] at hnew
        exact absurd rfl hnew
      | some newest => exact ⟨newest,rfl,hstanding.trans (hsound.newest _ newest hnewest)⟩

/-- What a take does: it fails or finds nothing, or moves the Event to the present
and returns what happened. -/
theorem take_cases (id : ℕ) (operation : Bool) (s : System) :
    (s.take id operation).1 = s ∧ (∀ info, (s.take id operation).2 ≠ .ok (some info)) ∨
      ∃ event info, s.objects id = some event ∧
        (s.snapshot event.type).generation ≠ event.cursor.generation ∧
        difference (s.snapshot event.type).info event.cursor.info = some info ∧
        s.take id operation = ({ s with
          objects := Function.update s.objects id (some { event with
            cursor := s.snapshot event.type }) },.ok (some info)) := by
  unfold System.take
  by_cases hoperation : (!operation) = true
  · rw [if_pos hoperation]
    exact Or.inl ⟨rfl,fun info h => by cases h⟩
  · by_cases halive : (!s.alive) = true
    · rw [if_neg hoperation,if_pos halive]
      exact Or.inl ⟨rfl,fun info h => by cases h⟩
    · by_cases hexhausted : s.exhausted = true
      · rw [if_neg hoperation,if_neg halive,if_pos hexhausted]
        exact Or.inl ⟨rfl,fun info h => by cases h⟩
      · rw [if_neg hoperation,if_neg halive,if_neg hexhausted]
        cases hobject : s.objects id with
        | none => exact Or.inl ⟨rfl,fun info h => by cases h⟩
        | some event =>
          dsimp only
          by_cases hsame : (s.snapshot event.type).generation = event.cursor.generation
          · rw [if_pos hsame]
            exact Or.inl ⟨rfl,fun info h => by cases h⟩
          · rw [if_neg hsame]
            cases hdifference : difference (s.snapshot event.type).info event.cursor.info with
            | none => exact Or.inl ⟨rfl,fun info h => by cases h⟩
            | some info => exact Or.inr ⟨event,info,rfl,hsame,hdifference,rfl⟩

/-- A take that finds nothing hands nothing out. -/
theorem handed_of_empty {operation : Bool} (h : ∀ info, (s.take id operation).2 ≠ .ok (some info)) :
    s.handed (.take id operation) = [] := by
  change inResult id s.committed.length (s.take id operation).2 = []
  cases hresult : (s.take id operation).2 with
  | error e => rfl
  | ok reported =>
    cases reported with
    | none => rfl
    | some info => exact absurd hresult (h info)

/-- Results of an Event, one stretch of calls after another. -/
theorem takesOf_append (results results' : List Taken) :
    takesOf id (results ++ results') = takesOf id results ++ takesOf id results' :=
  List.filter_append ..

/-- A take that succeeds adds to the results of its own Event only. -/
theorem takesOf_taken {taken : Taken} :
    takesOf id (results ++ [taken]) =
      if taken.id = id then takesOf id results ++ [taken] else takesOf id results := by
  rw [takesOf_append]
  by_cases hsame : taken.id = id
  · simp [takesOf,hsame]
  · simp [takesOf,hsame]

/-- Slots are sound and every Event follows them, with what its takes handed
out. -/
structure Tracked (s : System) (results : List Taken) : Prop where
  /-- The slots are. -/
  sound : Sound s
  /-- Registration ids are 64 bits wide. -/
  bounded : s.nextEventRegistrationId < UInt64.size
  /-- Ids not given out have no Event and no results. -/
  fresh : s.nextEventRegistrationId ≠ 0 → ∀ id, s.nextEventRegistrationId ≤ id →
    s.objects id = none ∧ takesOf id results = []
  /-- The Events follow. -/
  follows : ∀ id event, s.objects id = some event →
    ∃ seen, Follows s event (takesOf id results) seen

/-- An update keeps slots and Events. -/
theorem Tracked.update (h : Tracked s results) (u : Update) : Tracked (s.update u) results := by
  by_cases hexhausted : s.exhausted = true
  · unfold System.update
    rw [if_pos hexhausted]
    exact h
  · have hexhausted' : s.exhausted = false := Bool.eq_false_iff.mpr hexhausted
    by_cases hroom : (s.slots u.type).generation = generationMax
    · unfold System.update
      rw [if_neg hexhausted]
      dsimp only
      rw [if_pos hroom]
      refine ⟨⟨h.sound.fits,h.sound.generation,h.sound.change,h.sound.newest⟩,h.bounded,h.fresh,
        fun id event hobject => ?_⟩
      obtain ⟨seen, hfollows⟩ := h.follows id event hobject
      exact ⟨seen,hfollows.extend (List.append_nil _).symm⟩
    · have hsame : (s.update u).objects = s.objects ∧
          (s.update u).nextEventRegistrationId = s.nextEventRegistrationId := by
        unfold System.update
        rw [if_neg hexhausted]
        dsimp only
        rw [if_neg hroom]
        exact ⟨rfl,rfl⟩
      obtain ⟨hcommitted, -⟩ := update_snapshot hexhausted' hroom
      refine ⟨h.sound.commit hexhausted' hroom,?_,?_,fun id event hobject => ?_⟩
      · rw [hsame.2]
        exact h.bounded
      · rw [hsame.1,hsame.2]
        exact h.fresh
      · rw [hsame.1] at hobject
        obtain ⟨seen, hfollows⟩ := h.follows id event hobject
        exact ⟨seen,hfollows.extend hcommitted⟩

/-- Slots that are the same are as sound. -/
theorem Sound.of_same (h : Sound s) (hslots : s'.slots = s.slots)
    (hcommitted : s'.committed = s.committed) : Sound s' := by
  have hsnapshot : ∀ type, s'.snapshot type = s.snapshot type := by
    intro type
    unfold System.snapshot
    rw [hslots]
  refine ⟨fun type => ?_,fun type => ?_,fun type => ?_,fun type u hlast => ?_⟩
  · rw [hsnapshot]
    exact h.fits type
  · rw [hslots,hcommitted]
    exact h.generation type
  · rw [hsnapshot,hcommitted]
    exact h.change type
  · rw [hsnapshot]
    rw [hcommitted] at hlast
    exact h.newest type u hlast

/-- The next id is fresh. -/
theorem next_fresh {next id : ℕ} (hbounded : next < UInt64.size)
    (hnext : (next + 1) % UInt64.size ≠ 0) (hid : (next + 1) % UInt64.size ≤ id) :
    next ≤ id ∧ id ≠ next := by
  have hlast : next + 1 ≠ UInt64.size := by
    intro heq
    rw [heq,Nat.mod_self] at hnext
    exact hnext rfl
  have hsmall : (next + 1) % UInt64.size = next + 1 := Nat.mod_eq_of_lt (by omega)
  rw [hsmall] at hid
  omega

/-- A new Event follows the slots from the start. -/
theorem Tracked.createEvent (h : Tracked s results) (type : EventType) (allowed : Bool) :
    Tracked (s.createEvent type allowed) results := by
  unfold System.createEvent
  split
  · exact h
  · split
    · refine ⟨h.sound.of_same rfl rfl,h.bounded,h.fresh,fun id event hobject => ?_⟩
      obtain ⟨seen, hfollows⟩ := h.follows id event hobject
      exact ⟨seen,hfollows.extend (List.append_nil _).symm⟩
    · rename_i hopen
      have hnext : s.nextEventRegistrationId ≠ 0 := by
        intro hzero
        exact hopen (by simp [hzero])
      refine ⟨h.sound.of_same rfl rfl,Nat.mod_lt _ (by decide),fun hlater id hid => ?_,
        fun id event hobject => ?_⟩
      · obtain ⟨hle, hne⟩ := next_fresh h.bounded hlater hid
        obtain ⟨hnone, hresults⟩ := h.fresh hnext id hle
        exact ⟨(Function.update_of_ne hne _ _).trans hnone,hresults⟩
      · dsimp only at hobject
        by_cases hnew : id = s.nextEventRegistrationId
        · rw [hnew,Function.update_self] at hobject
          obtain rfl := Option.some.inj hobject
          rw [(h.fresh hnext id hnew.ge).2]
          exact ⟨_,(h.sound.created type).extend (List.append_nil _).symm⟩
        · rw [Function.update_of_ne hnew] at hobject
          obtain ⟨seen, hfollows⟩ := h.follows id event hobject
          exact ⟨seen,hfollows.extend (List.append_nil _).symm⟩

/-- A take keeps slots and Events, with what it hands out. -/
theorem Tracked.take (h : Tracked s results) (id : ℕ) (operation : Bool) :
    Tracked (s.take id operation).1 (results ++ s.handed (.take id operation)) := by
  rcases take_cases id operation s with ⟨hsame, hempty⟩ | ⟨event, info, hobject, hnew, hsince, htake⟩
  · rw [hsame,handed_of_empty hempty,List.append_nil]
    exact h
  · have hhanded : s.handed (.take id operation) = [⟨id,info,s.committed.length⟩] := by
      change inResult id s.committed.length (s.take id operation).2 = _
      rw [htake]
      rfl
    rw [htake,hhanded]
    refine ⟨h.sound.of_same rfl rfl,h.bounded,fun hnext id' hid' => ?_,fun id' event' hobject' => ?_⟩
    · obtain ⟨hnone, hresults⟩ := h.fresh hnext id' hid'
      have hne : id ≠ id' := by
        rintro rfl
        rw [hnone] at hobject
        cases hobject
      rw [takesOf_taken,if_neg hne]
      exact ⟨(Function.update_of_ne hne.symm _ _).trans hnone,hresults⟩
    · dsimp only at hobject'
      rw [takesOf_taken]
      by_cases hid : id = id'
      · rw [if_pos hid]
        rw [← hid,Function.update_self] at hobject'
        obtain rfl := Option.some.inj hobject'
        obtain ⟨seen, hfollows⟩ := h.follows id event hobject
        rw [hid] at hfollows
        exact ⟨_,(hfollows.taken h.sound hnew hsince id).extend (List.append_nil _).symm⟩
      · rw [if_neg hid]
        rw [Function.update_of_ne (Ne.symm hid)] at hobject'
        obtain ⟨seen, hfollows⟩ := h.follows id' event' hobject'
        exact ⟨seen,hfollows.extend (List.append_nil _).symm⟩

/-- Every call keeps slots and Events. -/
theorem Tracked.perform (h : Tracked s results) (call : Call) :
    Tracked (s.perform call) (results ++ s.handed call) := by
  cases call with
  | update u =>
    rw [System.handed,List.append_nil]
    exact h.update u
  | createEvent type allowed =>
    rw [System.handed,List.append_nil]
    exact h.createEvent type allowed
  | take id operation => exact h.take id operation
  | close =>
    rw [System.handed,List.append_nil]
    refine ⟨h.sound.of_same rfl rfl,h.bounded,h.fresh,fun id event hobject => ?_⟩
    obtain ⟨seen, hfollows⟩ := h.follows id event hobject
    exact ⟨seen,hfollows.extend (List.append_nil _).symm⟩

/-- A new endpoint is sound. -/
theorem tracked_initial : Tracked System.initial [] := by
  refine ⟨⟨fun type => (fits_empty type).1,fun _ => rfl,fun type => (fits_empty type).2,
    fun type u hlast => ?_⟩,by decide,fun _ _ _ => ⟨rfl,rfl⟩,fun id event hobject => ?_⟩
  · cases hlast
  · cases hobject

/-- Every sequence of calls keeps slots and Events, with what its takes hand
out. -/
theorem tracked_run (h : Tracked s results) (calls : List Call) :
    Tracked (s.run calls) (results ++ s.results calls) := by
  induction calls generalizing s results with
  | nil =>
    rw [System.results,List.append_nil]
    exact h
  | cons call calls ih =>
    rw [System.results,← List.append_assoc]
    exact ih (h.perform call)

/-- Two states differ in Events other than one at most. -/
structure SameFor (id : ℕ) (s s' : System) : Prop where
  /-- The endpoint is in the same state. -/
  alive : s'.alive = s.alive
  /-- Slots are the same. -/
  slots : s'.slots = s.slots
  /-- The same is used up. -/
  exhausted : s'.exhausted = s.exhausted
  /-- The next Event gets the same id. -/
  nextEventRegistrationId : s'.nextEventRegistrationId = s.nextEventRegistrationId
  /-- The same was committed. -/
  committed : s'.committed = s.committed
  /-- The Event is the same. -/
  object : s'.objects id = s.objects id

/-- A state is the same as itself. -/
theorem SameFor.refl (id : ℕ) (s : System) : SameFor id s s := ⟨rfl,rfl,rfl,rfl,rfl,rfl⟩

/-- A take concerns its own Event. -/
theorem take_sameFor {other : ℕ} (hne : other ≠ id) (operation : Bool) (s : System) :
    SameFor other s (s.take id operation).1 := by
  rcases take_cases id operation s with ⟨hsame, -⟩ | ⟨event, info, -, -, -, htake⟩
  · rw [hsame]
    exact .refl other s
  · rw [htake]
    exact ⟨rfl,rfl,rfl,rfl,rfl,Function.update_of_ne hne _ _⟩

/-- Sameness is kept along equal changes of either state. -/
theorem SameFor.trans {s₁ s₂ s₃ : System} (h : SameFor id s₁ s₂) (h' : SameFor id s₂ s₃) :
    SameFor id s₁ s₃ :=
  ⟨h'.alive.trans h.alive,h'.slots.trans h.slots,h'.exhausted.trans h.exhausted,
    h'.nextEventRegistrationId.trans h.nextEventRegistrationId,h'.committed.trans h.committed,
    h'.object.trans h.object⟩

/-- Sameness goes both ways. -/
theorem SameFor.symm (h : SameFor id s s') : SameFor id s' s :=
  ⟨h.alive.symm,h.slots.symm,h.exhausted.symm,h.nextEventRegistrationId.symm,h.committed.symm,
    h.object.symm⟩

/-- The same Event returns the same. -/
theorem SameFor.take_eq (h : SameFor id s s') (operation : Bool) :
    (s'.take id operation).2 = (s.take id operation).2 ∧
      SameFor id (s.take id operation).1 (s'.take id operation).1 := by
  have hsnapshot : ∀ type, s'.snapshot type = s.snapshot type := by
    intro type
    unfold System.snapshot
    rw [h.slots]
  unfold System.take
  simp only [h.alive,h.exhausted,h.object,hsnapshot,h.committed]
  repeat' split
  all_goals first
    | exact ⟨rfl,h⟩
    | exact ⟨rfl,rfl,h.slots,rfl,h.nextEventRegistrationId,rfl,by
        simp only [Function.update_self]⟩

/-- Equal calls keep two states the same for an Event. -/
theorem SameFor.perform {other : ℕ} (h : SameFor other s s') (call : Call) :
    SameFor other (s.perform call) (s'.perform call) := by
  cases call with
  | update u =>
    obtain ⟨alive, slots, exhausted, next, objects, committed⟩ := s
    obtain ⟨alive', slots', exhausted', next', objects', committed'⟩ := s'
    obtain ⟨rfl, rfl, rfl, rfl, rfl, hobject⟩ := h
    unfold System.perform System.update
    dsimp only at hobject ⊢
    split
    · exact ⟨rfl,rfl,rfl,rfl,rfl,hobject⟩
    · split
      · exact ⟨rfl,rfl,rfl,rfl,rfl,hobject⟩
      · exact ⟨rfl,rfl,rfl,rfl,rfl,hobject⟩
  | createEvent type allowed =>
    obtain ⟨alive, slots, exhausted, next, objects, committed⟩ := s
    obtain ⟨alive', slots', exhausted', next', objects', committed'⟩ := s'
    obtain ⟨rfl, rfl, rfl, rfl, rfl, hobject⟩ := h
    unfold System.perform System.createEvent System.snapshot
    dsimp only at hobject ⊢
    split
    · exact ⟨rfl,rfl,rfl,rfl,rfl,hobject⟩
    · split
      · exact ⟨rfl,rfl,rfl,rfl,rfl,hobject⟩
      · refine ⟨rfl,rfl,rfl,rfl,rfl,?_⟩
        dsimp only [Function.update]
        split
        · rfl
        · exact hobject
  | take id operation =>
    by_cases hid : other = id
    · rw [← hid]
      exact (h.take_eq operation).2
    · exact ((take_sameFor hid operation s).symm.trans h).trans (take_sameFor hid operation s')
  | close => exact ⟨rfl,h.slots,h.exhausted,h.nextEventRegistrationId,h.committed,h.object⟩

/-- Equal sequences of calls do. -/
theorem SameFor.run {other : ℕ} (h : SameFor other s s') (calls : List Call) :
    SameFor other (s.run calls) (s'.run calls) := by
  induction calls generalizing s s' with
  | nil => exact h
  | cons call calls ih => exact ih (h.perform call)

/-- After every sequence of calls, what the takes of an Event handed out and what
it can still report are the changes since its creation, with the totals of the
newest; and a take of one Event changes nothing of what another one reports, then
or later. -/
theorem event_changes_conserved :
    (∀ calls id event, (System.initial.run calls).objects id = some event →
      Conserved (System.initial.run calls) event (takesOf id (System.initial.results calls))) ∧
    ∀ (s : System) (id other : ℕ), other ≠ id → ∀ (operation : Bool) (calls : List Call),
      (((s.take id operation).1.run calls).objects other = (s.run calls).objects other ∧
        ∀ operation', (((s.take id operation).1.run calls).take other operation').2 =
          ((s.run calls).take other operation').2) := by
  constructor
  · intro calls id event hobject
    have htracked := tracked_run tracked_initial calls
    rw [List.nil_append] at htracked
    obtain ⟨seen, hfollows⟩ := htracked.follows id event hobject
    exact hfollows.conserved htracked.sound
  · intro s id other hne operation calls
    have hsame := (take_sameFor hne operation s).run calls
    exact ⟨hsame.object,fun operation' => (hsame.take_eq operation').1⟩

/-- The writer lost its liveliness for the given time in total. -/
def lostLiveliness (total : ℤ) : Update := ⟨.livelinessLost,.livelinessLost total 1,rfl⟩

/-- An Event is created after the first of three updates and taken after the
second. -/
def taken : List Call :=
  [.update (lostLiveliness 1),.createEvent .livelinessLost true,.update (lostLiveliness 2),
    .take 1 true,.update (lostLiveliness 3)]

/-- The take handed out one of the two changes after the creation of the Event,
the other one is still to be reported. -/
theorem event_changes_conserved_taken : ∃ event,
    (System.initial.run taken).objects 1 = some event ∧
      (takesOf 1 (System.initial.results taken)).map (·.info) = [.livelinessLost 2 1] ∧
      Conserved (System.initial.run taken) event (takesOf 1 (System.initial.results taken)) ∧
      ((System.initial.run taken).take 2 true).1.objects 1 = some event := by
  obtain ⟨event, hobject⟩ : ∃ event, (System.initial.run taken).objects 1 = some event := ⟨_,rfl⟩
  exact ⟨event,hobject,rfl,event_changes_conserved.1 taken 1 event hobject,
    (event_changes_conserved.2 (System.initial.run taken) 2 1 (by decide) true []).1.trans
      hobject⟩

end Dmw.EventDeltas
