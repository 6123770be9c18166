import Dmw.DiscoveryGraph
import Dmw.ServerPending

/-!
# Waiting for the reader of a response

One thread waits for the reader of its response to match, while discovery
callbacks match and unmatch readers and change the graph. Every section of the
target mutex, every read of the graph's status, the release-and-block of the
condition wait and every notification is one event, and so is every tick of the
clock. The graph is that of `DiscoveryGraph`; its notification reaches the
waiter one event after the change and takes no mutex.
-/

namespace Dmw.TargetWait

open GuardedRuns Identity RecordVector DiscoveryGraph ServerPending

/-- Calls that change the graph are numbered. -/
abbrev NotifierId := ℕ

/-- `ReaderCount`. -/
structure ReaderCount where
  /-- The matched reader. -/
  guid : Guid
  /-- How often it matched, in 64 bits. -/
  count : ℕ

/-- Which function runs. -/
inductive CallKind
  | waitForTarget
  | checkTarget
  deriving DecidableEq

/-- Next step of the call. -/
inductive Pc
  | idle
  /-- About to read the graph. -/
  | asking
  /-- About to lock the mutex. -/
  | locking (status : TargetStatus)
  /-- Holding the mutex with a reader that is neither gone nor matched. -/
  | deciding
  /-- Blocked on the condition variable. -/
  | blocked
  /-- Woken or expired, about to lock the mutex. -/
  | waking
  /-- About to return. -/
  | returning (status : TargetStatus)
  deriving DecidableEq

/-- The call of the one caller. -/
structure Call where
  /-- The function. -/
  kind : CallKind
  /-- The target reader. -/
  reader : Guid
  /-- Moment the wait ends; none if it never does. -/
  deadline : Option ℕ
  deriving DecidableEq

/-- A `ResponseState` with its graph, its caller and the clock. -/
structure System where
  /-- The discovery graph. -/
  graph : Graph
  /-- `readers_`. -/
  readers : Records ReaderCount.guid
  /-- `degraded_`. -/
  degraded : Bool
  /-- The caller holds the mutex between two events. -/
  locked : Bool
  /-- Last or current call. -/
  call : Call
  /-- Its next step. -/
  pc : Pc
  /-- The graph has changed and has not notified this state. -/
  notifying : NotifierId → Bool
  /-- The clock. -/
  now : ℕ
  /-- The readers at the moment the clock got to a value; history only. -/
  present : ℕ → Records ReaderCount.guid
  /-- Calls that returned; history only. -/
  returned : List (Call × TargetStatus)

/-- A vector of readers contains one. -/
def matched (reader : Guid) (readers : Records ReaderCount.guid) : Bool :=
  (readers.find reader).isSome

/-- `target_status`. -/
def targetStatus (reader : Guid) (g : Graph) : TargetStatus :=
  if g.health ≠ .healthy then .unavailable
  else
    match g.endpoint reader with
    | .removed => .removed
    | .unavailable => .unavailable
    | .active | .unknown => .timedOut

namespace System

/-- A new state over some graph. -/
def initial (graph : Graph) : System where
  graph := graph
  readers := .empty
  degraded := false
  locked := false
  call := ⟨.checkTarget,.unknown,none⟩
  pc := .idle
  notifying := fun _ => false
  now := 0
  present := fun _ => .empty
  returned := []

/-- The clock has got to the deadline of a call. -/
def expired (call : Call) (s : System) : Bool := call.deadline.any (· ≤ s.now)

/-- The reader was matched when the clock got to the deadline. -/
def matchedInTime (call : Call) (s : System) : Bool :=
  call.deadline.any fun deadline => matched call.reader (s.present deadline)

/-- `cv_.notify_all`. -/
def notifyAll (s : System) : System :=
  match s.pc with
  | .blocked => {s with pc := .waking}
  | _ => s

/-- How a report changes the vector of readers. -/
def countReader (guid : Guid) (change : ℤ) (readers : Records ReaderCount.guid) :
    Records ReaderCount.guid :=
  match readers.find guid with
  | none => if change > 0 then readers.put ⟨guid,change.toNat⟩ else readers
  | some found =>
    if change > 0 then
      readers.put {found with count := (found.count + change.toNat) % UInt64.size}
    else if (-change).toNat ≥ found.count then readers.erase guid
    else readers.put {found with count := found.count - (-change).toNat}

/-- `observe_reader`; an undefined handle has no GUID. -/
def observeReader (handle : Option Guid) (change : ℤ) (s : System) : System :=
  match handle with
  | none => s
  | some guid =>
    if change = 0 ∨ guid = .unknown then s
    else notifyAll {s with readers := countReader guid change s.readers}

/-- `degrade`. -/
def degrade (s : System) : System := notifyAll {s with degraded := true, readers := .empty}

/-- A call begins. -/
def enter (call : Call) (s : System) : System := {s with call := call, pc := .asking}

/-- What a section decides from a status of the graph and its own state. -/
def settle (status : TargetStatus) (s : System) : Option TargetStatus :=
  if s.degraded ∨ status = .unavailable then some .unavailable
  else if status = .removed then some .removed
  else if matched s.call.reader s.readers then some .ready
  else none

/-- The section of either function, up to the condition wait. -/
def lock (status : TargetStatus) (s : System) : System :=
  match s.settle status with
  | some verdict => {s with pc := .returning verdict}
  | none =>
    match s.call.kind with
    | .waitForTarget => {s with pc := .deciding, locked := true}
    | .checkTarget => {s with pc := .returning .timedOut}

/-- The condition wait ends, and the loop goes on unless the deadline passed. -/
def relock (s : System) : System :=
  {s with pc := if s.expired s.call then .returning .timedOut else .asking}

/-- The call returns. -/
def finish (status : TargetStatus) (s : System) : System :=
  {s with pc := .idle, returned := s.returned ++ [(s.call,status)]}

/-- A call changes the graph; it notifies if the graph announces a revision. -/
def mutate (n : NotifierId) (call : GraphCall) (s : System) : System :=
  let graph := perform s.graph call
  {s with
    graph := graph
    notifying := Function.update s.notifying n (graph.notices.length ≠ s.graph.notices.length)}

/-- The graph loses its health. -/
def loseHealth (s : System) : System := {s with graph := {s.graph with health := .unavailable}}

/-- A notifier is done. -/
def endNotify (n : NotifierId) (s : System) : System :=
  {s with notifying := Function.update s.notifying n false}

/-- The clock moves on. -/
def tick (s : System) : System :=
  {s with now := s.now+1, present := Function.update s.present (s.now+1) s.readers}

end System

/-- One atomic event. -/
inductive Event
  | enter (call : Call)
  | targetStatus
  | lock (status : TargetStatus)
  | block
  /-- A spurious wakeup. -/
  | wake
  /-- The deadline passes. -/
  | expire
  | relock
  | finish (status : TargetStatus)
  | observeReader (handle : Option Guid) (change : ℤ)
  | degrade
  | mutate (n : NotifierId) (call : GraphCall)
  /-- The graph becomes unavailable and will notify. -/
  | unavailable (n : NotifierId)
  | notifyDependencyChange (n : NotifierId)
  /-- The subscribers cannot be copied. -/
  | notifyFails (n : NotifierId)
  /-- Another subscriber throws, or subscription ids run out. -/
  | faultUnnotified
  | tick
  deriving DecidableEq

/-- The caller follows its steps, and sections need the mutex. -/
def Enabled (s : System) : Event → Prop
  | .enter _ => s.pc = .idle
  | .targetStatus => s.pc = .asking
  | .lock status => s.pc = .locking status
  | .block => s.pc = .deciding
  | .wake => s.pc = .blocked
  | .expire => s.pc = .blocked ∧ s.expired s.call = true
  | .relock => s.pc = .waking
  | .finish status => s.pc = .returning status
  | .observeReader _ _ => s.locked = false
  | .degrade => s.locked = false
  | .mutate n _ => s.notifying n = false
  | .unavailable n => s.notifying n = false
  | .notifyDependencyChange n => s.notifying n = true
  | .notifyFails n => s.notifying n = true
  | .faultUnnotified => True
  | .tick => True

/-- Effect of an enabled event. -/
def next (s : System) : Event → System
  | .enter call => s.enter call
  | .targetStatus => {s with pc := .locking (targetStatus s.call.reader s.graph)}
  | .lock status => s.lock status
  | .block => {s with pc := .blocked, locked := false}
  | .wake => {s with pc := .waking}
  | .expire => {s with pc := .waking}
  | .relock => s.relock
  | .finish status => s.finish status
  | .observeReader handle change => s.observeReader handle change
  | .degrade => s.degrade
  | .mutate n call => s.mutate n call
  | .unavailable n => {s.loseHealth with notifying := Function.update s.notifying n true}
  | .notifyDependencyChange n => (s.endNotify n).notifyAll
  | .notifyFails n => (s.endNotify n).loseHealth
  | .faultUnnotified => s.loseHealth
  | .tick => s.tick

instance (s : System) (e : Event) : Decidable (Enabled s e) := by
  cases e <;> unfold Enabled <;> infer_instance

/-- The waiting caller as a guarded machine. -/
def machine : Machine System Event where
  enabled := Enabled
  next := next
  decidableEnabled := inferInstance

/-- A departed participant is not found among the living ones by looking another
one up. -/
theorem participantFor_departed (guidPrefix k : GuidPrefix) (t : Tables) :
    (((participantFor guidPrefix t).1.participants.find k).any fun p => p.lifecycle = .removed) =
      (t.participants.find k).any fun p => p.lifecycle = .removed := by
  rcases participantFor_cases guidPrefix t with ⟨r, -, heq⟩ | ⟨hnone, heq⟩
  · rw [heq]
  · rw [heq]
    simp only [Records.find_put]
    split
    · next hk =>
      subst hk
      rw [hnone]
      rfl
    · rfl

/-- A report about a participant that changes nothing. -/
theorem participantChange_unchanged {guidPrefix : GuidPrefix} {change : DiscoveryChange}
    {t : Tables} : (participantChange guidPrefix change t).2 = .unchanged →
      (participantChange guidPrefix change t).1 = t := by
  unfold participantChange
  repeat' split
  all_goals
    intro h
    first
      | rfl
      | cases h

/-- A report about an endpoint that changes nothing. -/
theorem recordEndpoint_unchanged {guid : Guid} {told : Announcement} {change : DiscoveryChange}
    {participant : ParticipantRecord} {t : Tables} :
    (recordEndpoint guid told change participant t).2 = .unchanged →
      (recordEndpoint guid told change participant t).1 = t := by
  unfold recordEndpoint
  repeat' split
  all_goals
    intro h
    first
      | rfl
      | cases h

/-- An effect that reports no change tells the same about every endpoint. -/
theorem effect_unchanged {t : Tables} {call : GraphCall} (h : (effect call t).2 = .unchanged) :
    (effect call t).1.endpoints = t.endpoints ∧
      ∀ k, (((effect call t).1.participants.find k).any fun p => p.lifecycle = .removed) =
        (t.participants.find k).any fun p => p.lifecycle = .removed := by
  have hframe : (∀ guidPrefix change, call ≠ .applyParticipant guidPrefix change) →
      (∀ guid told change, call ≠ .applyEndpoint guid told change) →
        (effect call t).1.endpoints = t.endpoints ∧
          (effect call t).1.participants = t.participants := effect_discovered
  cases call with
  | applyParticipant guidPrefix change =>
    simp only [effect] at h ⊢
    rw [participantChange_unchanged h]
    exact ⟨rfl, fun _ => rfl⟩
  | applyEndpoint guid told change =>
    simp only [effect, endpointChange_eq] at h ⊢
    rw [recordEndpoint_unchanged h]
    exact ⟨(participantFor_frame _ _).1, fun k => participantFor_departed _ k t⟩
  | _ =>
    obtain ⟨hendpoints, hparticipants⟩ := hframe (by simp) (by simp)
    rw [hendpoints, hparticipants]
    exact ⟨rfl, fun _ => rfl⟩

/-- A call that announces nothing leaves the status of every reader. -/
theorem targetStatus_perform {g : Graph} {call : GraphCall} (reader : Guid)
    (hquiet : (perform g call).notices.length = g.notices.length) :
    targetStatus reader (perform g call) = targetStatus reader g := by
  rw [perform_eq] at hquiet ⊢
  unfold mutate at hquiet ⊢
  split
  · rfl
  · next hhealthy =>
    rw [if_neg hhealthy] at hquiet
    rcases heffect : effect call g.toTables with ⟨t, outcome⟩
    rw [heffect] at hquiet
    cases outcome with
    | invalid => simp [notify] at hquiet
    | changed =>
      dsimp only at hquiet
      split at hquiet <;> simp [notify] at hquiet
    | unchanged =>
      have houtcome : (effect call g.toTables).2 = .unchanged := by rw [heffect]
      have hsame := effect_unchanged houtcome
      rw [heffect] at hsame
      obtain ⟨hendpoints, hdeparted⟩ := hsame
      dsimp only at hendpoints hdeparted
      simp only [targetStatus, Graph.endpoint, hendpoints, hdeparted]

/-- What a blocked caller has not missed, and what it decides upon. -/
structure Watched (s : System) : Prop where
  /-- A caller about to block holds the mutex. -/
  deciding : s.pc = .deciding →
    s.degraded = false ∧ matched s.call.reader s.readers = false ∧ s.locked = true
  /-- Every match and every degradation wakes. -/
  unmatched : s.pc = .blocked → s.degraded = false ∧ matched s.call.reader s.readers = false
  /-- The graph has not changed, or somebody will notify. -/
  alive : s.pc = .blocked →
    targetStatus s.call.reader s.graph = .timedOut ∨ ∃ n, s.notifying n = true

/-- A wait that timed out did so after its deadline, at which the reader was not
matched. -/
def TimelyReturn (s : System) (call : Call) (status : TargetStatus) : Prop :=
  call.kind = .waitForTarget → status = .timedOut →
    s.expired call = true ∧ s.matchedInTime call = false

/-- Deadlines and the readers matched at them. -/
structure Timely (s : System) : Prop where
  /-- No reader was matched at the deadline of a wait. -/
  waiting : s.pc = .blocked ∨ s.pc = .waking → s.expired s.call = true →
    s.matchedInTime s.call = false
  /-- The call about to return. -/
  returning : ∀ status, s.pc = .returning status → TimelyReturn s s.call status
  /-- Calls that returned. -/
  returned : ∀ r ∈ s.returned, TimelyReturn s r.1 r.2

/-- The windows are avoided in which a change is not seen: between the last look
at the graph and the block, around a change that is not notified, and between a
wakeup and the deadline. -/
def Undisturbed (s : System) : Event → Prop
  | .block =>
    (targetStatus s.call.reader s.graph = .timedOut ∨ ∃ n, s.notifying n = true) ∧
      (s.expired s.call = true → s.matchedInTime s.call = false)
  | .notifyFails n => s.pc = .blocked → ∃ m, m ≠ n ∧ s.notifying m = true
  | .faultUnnotified => s.pc = .blocked → ∃ n, s.notifying n = true
  | .tick =>
    s.pc = .waking → s.call.deadline = some (s.now+1) → matched s.call.reader s.readers = false
  | _ => True

section Steps

variable {s : System}

/-- Nobody stays blocked after `notify_all`. -/
theorem notifyAll_not_blocked (s : System) : s.notifyAll.pc ≠ .blocked := by
  unfold System.notifyAll
  split
  · exact fun hc => nomatch hc
  · next hpc => exact hpc

/-- `notify_all` leads nobody to a condition wait. -/
theorem notifyAll_deciding (h : s.notifyAll.pc = .deciding) : s.pc = .deciding ∧ s.notifyAll = s := by
  unfold System.notifyAll at h ⊢
  split at h
  · cases h
  · exact ⟨h, rfl⟩

/-- An undecided section found the reader neither gone nor matched. -/
theorem settle_none {status : TargetStatus} (h : s.settle status = none) :
    s.degraded = false ∧ matched s.call.reader s.readers = false := by
  unfold System.settle at h
  split_ifs at h with hgone _ hmatched
  obtain ⟨hdegraded, -⟩ := not_or.mp hgone
  exact ⟨Bool.eq_false_iff.mpr hdegraded, Bool.eq_false_iff.mpr hmatched⟩

/-- A section decides on no time-out. -/
theorem settle_ne_timedOut {status : TargetStatus} : s.settle status ≠ some .timedOut := by
  unfold System.settle
  split_ifs <;> simp

/-- Outside of the condition wait nothing is watched. -/
theorem Watched.of_pc (hdeciding : s.pc ≠ .deciding) (hblocked : s.pc ≠ .blocked) : Watched s :=
  ⟨fun hpc => absurd hpc hdeciding, fun hpc => absurd hpc hblocked,
    fun hpc => absurd hpc hblocked⟩

/-- A section of another thread ends with a notification of everybody. -/
theorem Watched.notified (h : Watched s) (hfree : s.locked = false) {s' : System}
    (hpc : s'.pc = s.pc) : Watched s'.notifyAll := by
  refine .of_pc (fun hdeciding => ?_) (notifyAll_not_blocked s')
  have hlocked := (h.deciding (hpc ▸ (notifyAll_deciding hdeciding).1)).2.2
  rw [hfree] at hlocked
  cases hlocked

/-- Every undisturbed step keeps the watch. -/
theorem Watched.step (h : Watched s) {e : Event} (hen : Enabled s e) (hok : Undisturbed s e) :
    Watched (next s e) := by
  cases e with
  | enter call => exact .of_pc (fun hc => nomatch hc) (fun hc => nomatch hc)
  | targetStatus => exact .of_pc (fun hc => nomatch hc) (fun hc => nomatch hc)
  | lock status =>
    simp only [next, System.lock]
    split
    · exact .of_pc (fun hc => nomatch hc) (fun hc => nomatch hc)
    · next hundecided =>
      obtain ⟨hdegraded, hmatched⟩ := settle_none hundecided
      split
      · exact ⟨fun _ => ⟨hdegraded, hmatched, rfl⟩, (nomatch ·), (nomatch ·)⟩
      · exact .of_pc (fun hc => nomatch hc) (fun hc => nomatch hc)
  | block =>
    obtain ⟨hdegraded, hmatched, -⟩ := h.deciding hen
    exact ⟨(nomatch ·), fun _ => ⟨hdegraded, hmatched⟩, fun _ => hok.1⟩
  | wake => exact .of_pc (fun hc => nomatch hc) (fun hc => nomatch hc)
  | expire => exact .of_pc (fun hc => nomatch hc) (fun hc => nomatch hc)
  | relock =>
    simp only [next, System.relock]
    split
    · exact .of_pc (fun hc => nomatch hc) (fun hc => nomatch hc)
    · exact .of_pc (fun hc => nomatch hc) (fun hc => nomatch hc)
  | finish status => exact .of_pc (fun hc => nomatch hc) (fun hc => nomatch hc)
  | observeReader handle change =>
    simp only [next, System.observeReader]
    split
    · exact h
    · split
      · exact h
      · exact h.notified hen rfl
  | degrade => exact h.notified hen rfl
  | mutate n call =>
    refine ⟨h.deciding, h.unmatched, fun hpc => ?_⟩
    simp only [next, System.mutate]
    by_cases hquiet : (perform s.graph call).notices.length = s.graph.notices.length
    · rw [targetStatus_perform _ hquiet]
      refine (h.alive hpc).imp_right fun ⟨m, hm⟩ => ⟨m, ?_⟩
      have hne : m ≠ n := by
        intro heq
        have hidle : s.notifying n = false := hen
        rw [heq, hidle] at hm
        cases hm
      rw [Function.update_of_ne hne]
      exact hm
    · exact .inr ⟨n, by simp [hquiet]⟩
  | unavailable n =>
    exact ⟨h.deciding, h.unmatched, fun _ => .inr ⟨n, by simp [next]⟩⟩
  | notifyDependencyChange n =>
    refine ⟨fun hpc => ?_, fun hpc => absurd hpc (notifyAll_not_blocked _),
      fun hpc => absurd hpc (notifyAll_not_blocked _)⟩
    obtain ⟨hdeciding, hsame⟩ := notifyAll_deciding hpc
    simp only [next]
    rw [hsame]
    exact h.deciding hdeciding
  | notifyFails n =>
    refine ⟨h.deciding, h.unmatched, fun hpc => ?_⟩
    obtain ⟨m, hne, hm⟩ := hok hpc
    refine .inr ⟨m, ?_⟩
    simp only [next, System.loseHealth, System.endNotify, Function.update_of_ne hne]
    exact hm
  | faultUnnotified => exact ⟨h.deciding, h.unmatched, fun hpc => .inr (hok hpc)⟩
  | tick => exact ⟨h.deciding, h.unmatched, h.alive⟩

/-- A call that timed out in time has done so forever: the clock moves on and
keeps what it has seen. -/
theorem TimelyReturn.tick {call : Call} {status : TargetStatus} (h : TimelyReturn s call status) :
    TimelyReturn s.tick call status := by
  intro hkind hstatus
  obtain ⟨hexpired, hmatched⟩ := h hkind hstatus
  simp only [System.expired, System.matchedInTime, System.tick] at hexpired hmatched ⊢
  cases hdeadline : call.deadline with
  | none =>
    rw [hdeadline] at hexpired
    cases hexpired
  | some deadline =>
    simp only [hdeadline, Option.any_some, decide_eq_true_eq] at hexpired hmatched ⊢
    have hne : deadline ≠ s.now+1 := by omega
    rw [Function.update_of_ne hne]
    exact ⟨decide_eq_true (Nat.le_succ_of_le hexpired), hmatched⟩

/-- A call moves to a step at which it does not wait. -/
theorem Timely.goto (h : Timely s) {p : Pc} (hblocked : p ≠ .blocked) (hwaking : p ≠ .waking)
    (hreturning : ∀ status, p = .returning status → TimelyReturn s s.call status) :
    Timely {s with pc := p} :=
  ⟨fun hwaiting _ => absurd hwaiting (not_or.mpr ⟨hblocked, hwaking⟩), hreturning, h.returned⟩

/-- Graph, readers and mutex do not matter. -/
theorem Timely.frame (h : Timely s) (graph : Graph) (readers : Records ReaderCount.guid)
    (degraded locked : Bool) (notifying : NotifierId → Bool) :
    Timely {s with
      graph := graph
      readers := readers
      degraded := degraded
      locked := locked
      notifying := notifying} :=
  ⟨h.waiting, h.returning, h.returned⟩

/-- A notification wakes in time. -/
theorem Timely.notifyAll (h : Timely s) : Timely s.notifyAll := by
  unfold System.notifyAll
  split
  · next hpc => exact ⟨fun _ => h.waiting (.inl hpc), (fun _ hc => nomatch hc), h.returned⟩
  · exact h

/-- When the clock gets to the deadline of a wait, its reader is not matched. -/
theorem Timely.tick (h : Timely s) (hwatched : Watched s)
    (hok : s.pc = .waking → s.call.deadline = some (s.now+1) →
      matched s.call.reader s.readers = false) : Timely s.tick := by
  refine ⟨fun hpc hexpired => ?_, fun status hpc => (h.returning status hpc).tick,
    fun r hr => (h.returned r hr).tick⟩
  have hold := h.waiting hpc
  simp only [System.expired, System.matchedInTime, System.tick] at hold hexpired ⊢
  cases hdeadline : s.call.deadline with
  | none => rfl
  | some deadline =>
    simp only [hdeadline, Option.any_some, decide_eq_true_eq] at hold hexpired ⊢
    by_cases hnow : deadline = s.now+1
    · rw [hnow, Function.update_self]
      rcases hpc with hblocked | hwaking
      · exact (hwatched.unmatched hblocked).2
      · exact hok hwaking (by rw [hdeadline, hnow])
    · have hle : deadline ≤ s.now+1 := of_decide_eq_true hexpired
      rw [Function.update_of_ne hnow]
      exact hold (by omega)

/-- Every undisturbed step keeps the deadlines. -/
theorem Timely.step (h : Timely s) (hwatched : Watched s) {e : Event} (hen : Enabled s e)
    (hok : Undisturbed s e) : Timely (next s e) := by
  cases e with
  | enter call =>
    exact ⟨fun hpc => hpc.elim (nomatch ·) (nomatch ·), (fun _ hc => nomatch hc), h.returned⟩
  | targetStatus => exact h.goto (nomatch ·) (nomatch ·) fun _ hc => nomatch hc
  | lock status =>
    simp only [next, System.lock]
    split
    · next verdict hverdict =>
      refine h.goto (nomatch ·) (nomatch ·) fun status' hc _ htimedOut => ?_
      obtain rfl := Pc.returning.inj hc
      rw [htimedOut] at hverdict
      exact absurd hverdict settle_ne_timedOut
    · split
      · have hmoved : Timely {s with pc := .deciding} :=
          h.goto (nomatch ·) (nomatch ·) fun _ hc => nomatch hc
        exact hmoved.frame _ _ _ _ _
      · next hkind =>
        refine h.goto (nomatch ·) (nomatch ·) fun _ _ hwait => ?_
        rw [hkind] at hwait
        cases hwait
  | block => exact ⟨fun _ => hok.2, (fun _ hc => nomatch hc), h.returned⟩
  | wake => exact ⟨fun _ => h.waiting (.inl hen), (fun _ hc => nomatch hc), h.returned⟩
  | expire => exact ⟨fun _ => h.waiting (.inl hen.1), (fun _ hc => nomatch hc), h.returned⟩
  | relock =>
    simp only [next, System.relock]
    by_cases hexpired : s.expired s.call = true
    · rw [if_pos hexpired]
      exact h.goto (nomatch ·) (nomatch ·) fun _ _ _ _ => ⟨hexpired, h.waiting (.inr hen) hexpired⟩
    · rw [if_neg hexpired]
      exact h.goto (nomatch ·) (nomatch ·) fun _ hc => nomatch hc
  | finish status =>
    refine ⟨fun hpc => hpc.elim (nomatch ·) (nomatch ·), (fun _ hc => nomatch hc), fun r hr => ?_⟩
    rcases List.mem_append.mp hr with hold | hnew
    · exact h.returned r hold
    · rw [List.mem_singleton.mp hnew]
      exact h.returning status hen
  | observeReader handle change =>
    simp only [next, System.observeReader]
    split
    · exact h
    · next guid =>
      split
      · exact h
      · have hcounted := h.frame s.graph (System.countReader guid change s.readers) s.degraded
          s.locked s.notifying
        exact hcounted.notifyAll
  | degrade =>
    have hdegraded := h.frame s.graph .empty true s.locked s.notifying
    exact hdegraded.notifyAll
  | mutate n call => exact h.frame _ _ _ _ _
  | unavailable n => exact h.frame _ _ _ _ _
  | notifyDependencyChange n =>
    have hdone : Timely (s.endNotify n) := h.frame _ _ _ _ _
    exact hdone.notifyAll
  | notifyFails n => exact h.frame _ _ _ _ _
  | faultUnnotified => exact h.frame _ _ _ _ _
  | tick => exact h.tick hwatched hok

end Steps

/-- Before any call nothing is late. -/
theorem Timely.initial (graph : Graph) : Timely (.initial graph) where
  waiting := by
    intro hpc
    rcases hpc with hpc | hpc
    · cases hpc
    · cases hpc
  returning := fun _ hpc => nomatch hpc
  returned := fun _ hr => nomatch hr

/-- In every state of an undisturbed run the caller is watched. -/
theorem watched_of_run {graph : Graph} {es : List Event} {s : System}
    (h : machine.RunWhen Undisturbed (.initial graph) es s) : Watched s :=
  h.invariant Watched (.of_pc (fun hc => Pc.noConfusion hc) (fun hc => Pc.noConfusion hc))
    fun _ _ hwatched hen hok => hwatched.step hen hok

/-- In every state of an undisturbed run the deadlines are kept. -/
theorem timely_of_run {graph : Graph} {es : List Event} {s : System}
    (h : machine.RunWhen Undisturbed (.initial graph) es s) : Timely s :=
  h.invariant_using Timely watched_of_run (.initial graph)
    fun _ _ hwatched htimely hen hok => htimely.step hwatched hen hok

/-- Nobody sleeps through a terminal change, and nobody times out with a reader
that had matched. -/
structure Attentive (s : System) : Prop where
  /-- A blocked caller has missed nothing, unless a notifier is on its way. -/
  awake : s.pc = .blocked → (∀ n, s.notifying n = false) →
    targetStatus s.call.reader s.graph ≠ .removed ∧
      targetStatus s.call.reader s.graph ≠ .unavailable ∧
      matched s.call.reader s.readers = false ∧ s.degraded = false
  /-- A wait times out after its deadline, at which its reader was not matched. -/
  timely : ∀ call, (call,.timedOut) ∈ s.returned → call.kind = .waitForTarget →
    ∃ deadline, call.deadline = some deadline ∧ deadline ≤ s.now ∧
      matched call.reader (s.present deadline) = false

/-- Every state of an undisturbed run is attentive. -/
theorem target_wait_attentive {graph : Graph} {es : List Event} {s : System}
    (h : machine.RunWhen Undisturbed (.initial graph) es s) : Attentive s := by
  have hwatched := watched_of_run h
  refine ⟨fun hpc hquiet => ?_, fun call hreturned hkind => ?_⟩
  · obtain ⟨hdegraded, hmatched⟩ := hwatched.unmatched hpc
    have halive : targetStatus s.call.reader s.graph = .timedOut := by
      rcases hwatched.alive hpc with halive | ⟨n, hn⟩
      · exact halive
      · rw [hquiet n] at hn
        cases hn
    rw [halive]
    exact ⟨by simp, by simp, hmatched, hdegraded⟩
  · obtain ⟨hexpired, hmatched⟩ := (timely_of_run h).returned _ hreturned hkind rfl
    cases hdeadline : call.deadline with
    | none => simp [System.expired, hdeadline] at hexpired
    | some deadline =>
      simp only [System.expired, System.matchedInTime, hdeadline, Option.any_some,
        decide_eq_true_eq] at hexpired hmatched
      exact ⟨deadline, rfl, hexpired, hmatched⟩

/-- A reader of some participant. -/
def sampleReader : Guid := ⟨Vector.replicate 12 1,Vector.replicate 4 7⟩

/-- What it announces. -/
def sampleAnnouncement : Announcement := ⟨.reader,[],[],{}⟩

/-- A wait for it. -/
def sampleCall (deadline : Option ℕ) : Call := ⟨.waitForTarget,sampleReader,deadline⟩

/-- A sufficient test of an undisturbed step, with two notifiers. -/
def undisturbed (s : System) : Event → Bool
  | .block =>
    targetStatus s.call.reader s.graph = .timedOut ∧
      (s.expired s.call = true → s.matchedInTime s.call = false)
  | .notifyFails n => s.pc ≠ .blocked ∨ s.notifying (n+1) = true
  | .faultUnnotified => s.pc ≠ .blocked ∨ s.notifying 0 = true
  | .tick =>
    s.pc ≠ .waking ∨ s.call.deadline ≠ some (s.now+1) ∨ matched s.call.reader s.readers = false
  | _ => true

/-- The test is sufficient. -/
theorem Undisturbed.of_test (s : System) (e : Event) (h : undisturbed s e = true) :
    Undisturbed s e := by
  cases e with
  | block =>
    have htest := of_decide_eq_true h
    exact ⟨.inl htest.1, htest.2⟩
  | notifyFails n =>
    have htest := of_decide_eq_true h
    exact fun hpc => ⟨n+1, Nat.succ_ne_self n, htest.resolve_left (not_not.mpr hpc)⟩
  | faultUnnotified =>
    have htest := of_decide_eq_true h
    exact fun hpc => ⟨0, htest.resolve_left (not_not.mpr hpc)⟩
  | tick =>
    have htest := of_decide_eq_true h
    intro hpc hdeadline
    exact (htest.resolve_left (not_not.mpr hpc)).resolve_left (not_not.mpr hdeadline)
  | _ => trivial

/-- A wait that the removal of its reader wakes. -/
def removalRun : List Event :=
  [.mutate 0 (.applyEndpoint sampleReader sampleAnnouncement .added),.notifyDependencyChange 0,
    .enter (sampleCall none),.targetStatus,.lock .timedOut,.block,
    .mutate 0 (.applyEndpoint sampleReader sampleAnnouncement .removed),.notifyDependencyChange 0,
    .relock,.targetStatus,.lock .removed,.finish .removed]

/-- The removal reaches the waiter. -/
theorem target_wait_attentive_removalRun :
    ∃ s, machine.exec (.initial .initial) removalRun = some s ∧
      s.returned = [(sampleCall none,.removed)] ∧ Attentive s := by
  have hend : (machine.exec (.initial .initial) removalRun).map (·.returned) =
      some [(sampleCall none,.removed)] := by decide
  obtain ⟨s, hexec, hreturned⟩ := Option.map_eq_some_iff.mp hend
  have hmeets : machine.meets undisturbed (.initial .initial) removalRun = true := by decide
  exact ⟨s, hexec, hreturned,
    target_wait_attentive (Machine.runWhen_of_exec undisturbed Undisturbed.of_test hexec hmeets)⟩

/-- The reader is removed between the look at the graph and the block. -/
def missedRemovalRun : List Event :=
  [.mutate 0 (.applyEndpoint sampleReader sampleAnnouncement .added),.notifyDependencyChange 0,
    .enter (sampleCall none),.targetStatus,
    .mutate 0 (.applyEndpoint sampleReader sampleAnnouncement .removed),.notifyDependencyChange 0,
    .lock .timedOut,.block]

/-- The reader matches before the deadline, and the woken wait locks after it. -/
def lateLockRun : List Event :=
  [.enter (sampleCall (some 1)),.targetStatus,.lock .timedOut,.block,
    .observeReader (some sampleReader) 1,.tick,.relock,.finish .timedOut]

/-- A wait without deadline sleeps through the removal of its reader, and a wait
times out with a reader that matched before its deadline. -/
theorem not_attentive :
    (∃ s, machine.exec (.initial .initial) missedRemovalRun = some s ∧ ¬ Attentive s) ∧
      ∃ s, machine.exec (.initial .initial) lateLockRun = some s ∧ ¬ Attentive s := by
  constructor
  · have hend : (machine.exec (.initial .initial) missedRemovalRun).map
        (fun s => (s.pc,targetStatus s.call.reader s.graph)) = some (.blocked,.removed) := by decide
    have hquiet : ∀ n, (machine.exec (.initial .initial) missedRemovalRun).map
        (fun s => s.notifying n) = some false := by
      intro n
      cases n with
      | zero => decide
      | succ n => rfl
    obtain ⟨s, hexec, hs⟩ := Option.map_eq_some_iff.mp hend
    obtain ⟨hpc, hremoved⟩ := Prod.mk.inj hs
    refine ⟨s, hexec, fun hattentive => ?_⟩
    refine (hattentive.awake hpc fun n => ?_).1 hremoved
    have hn := hquiet n
    rw [hexec] at hn
    exact Option.some.inj hn
  · have hend : (machine.exec (.initial .initial) lateLockRun).map
        (fun s => (s.returned,matched sampleReader (s.present 1))) =
          some ([(sampleCall (some 1),.timedOut)],true) := by decide
    obtain ⟨s, hexec, hs⟩ := Option.map_eq_some_iff.mp hend
    obtain ⟨hreturned, hmatched⟩ := Prod.mk.inj hs
    refine ⟨s, hexec, fun hattentive => ?_⟩
    have hmem : (sampleCall (some 1),TargetStatus.timedOut) ∈ s.returned := by
      rw [hreturned]
      exact List.mem_singleton_self _
    obtain ⟨deadline, hdeadline, -, hnot⟩ := hattentive.timely _ hmem rfl
    obtain rfl := Option.some.inj hdeadline
    rw [show (sampleCall (some 1)).reader = sampleReader from rfl, hmatched] at hnot
    cases hnot

end Dmw.TargetWait
