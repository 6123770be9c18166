import Mathlib.Data.List.Chain
import Dmw.GuardedRuns
import Dmw.Identity
import Dmw.SaturatingTime

/-!
# The schedule of a timer

A timer has a next call point, which a successful consume moves along the grid
of its period. The clock is read anew in every call and may go either way.
-/

namespace Dmw.TimerSchedule

open GuardedRuns (Machine)
open Identity (Result)
open SaturatingTime

/-- `ClockType`. -/
inductive ClockType
  | system
  | steady
  | ros
  deriving DecidableEq

/-- `TimePoint`. -/
structure TimePoint where
  /-- Time since the epoch of its clock. -/
  nanoseconds : Int64
  /-- The clock. -/
  clockType : ClockType
  deriving DecidableEq

/-- `TimerInfo`. -/
structure TimerInfo where
  /-- The call point. -/
  expectedCallTime : TimePoint
  /-- When it was consumed. -/
  actualCallTime : TimePoint
  /-- Time since the call before. -/
  elapsedSinceLastCall : Int64
  deriving DecidableEq

/-- `TimerState`. -/
structure TimerState where
  /-- Type of the clock. -/
  clockType : ClockType
  /-- `period_ns_`. -/
  periodNs : Int64
  /-- `canceled_`. -/
  canceled : Bool
  /-- `last_call_ns_`. -/
  lastCallNs : Int64
  /-- `next_call_ns_`. -/
  nextCallNs : Int64
  /-- `closing`. -/
  closing : Bool

/-- First point of the grid that is later than now, skipping missed cycles. -/
def nextPeriodGridPoint (expected period now : Int64) : Int64 :=
  let next := saturatingAdd expected period
  if now < next then next
  else
    let behind := saturatingSub now next
    let missed := saturatingAdd 1 (behind / period)
    let later := saturatingAdd next (saturatingMul missed period)
    if now < later then later else now

/-- `create_timer` on a clock of its own Context. -/
def createTimer (clockType : ClockType) (now period : Int64) (autostart : Bool) :
    Result TimerState :=
  if period < 0 then .error ⟨.invalidArgument,"Timer period must not be negative"⟩
  else .ok ⟨clockType,period,!autostart,now,saturatingAdd now period,false⟩

namespace TimerState

/-- The checks at the start of a call. -/
def admitted (operation : Bool) (s : TimerState) : Result Unit :=
  if s.closing then .error ⟨.parentDestroyed,"Timer is closing"⟩
  else if !operation then .error ⟨.contextShutdown,"Context is shut down"⟩
  else .ok ()

/-- `is_canceled`. -/
def isCanceled (operation : Bool) (s : TimerState) : Result Bool :=
  match s.admitted operation with
  | .error e => .error e
  | .ok _ => .ok s.canceled

/-- `is_ready`. -/
def isReady (now : Int64) (operation : Bool) (s : TimerState) : Result Bool :=
  match s.admitted operation with
  | .error e => .error e
  | .ok _ => if s.canceled then .ok false else .ok (decide (s.nextCallNs ≤ now))

/-- `time_until_next_call`. -/
def timeUntilNextCall (now : Int64) (operation : Bool) (s : TimerState) : Result Int64 :=
  match s.admitted operation with
  | .error e => .error e
  | .ok _ =>
    if s.canceled then .error ⟨.invalidState,"Timer is canceled"⟩
    else
      let remaining := saturatingSub s.nextCallNs now
      .ok (if remaining < 0 then 0 else remaining)

/-- `cancel`, with what waking the wait set returns. -/
def cancel (operation : Bool) (notified : Result Unit) (s : TimerState) :
    TimerState × Result Unit :=
  match s.admitted operation with
  | .error e => (s,.error e)
  | .ok _ => if s.canceled then (s,.ok ()) else ({ s with canceled := true },notified)

/-- `reset`. -/
def reset (now : Int64) (operation : Bool) (notified : Result Unit) (s : TimerState) :
    TimerState × Result Unit :=
  match s.admitted operation with
  | .error e => (s,.error e)
  | .ok _ =>
    ({ s with canceled := false, lastCallNs := now, nextCallNs := saturatingAdd now s.periodNs },
      notified)

/-- `exchange_period`. -/
def exchangePeriod (newPeriod : Int64) (operation : Bool) (notified : Result Unit)
    (s : TimerState) : TimerState × Result Int64 :=
  if newPeriod < 0 then (s,.error ⟨.invalidArgument,"Timer period must not be negative"⟩)
  else
    match s.admitted operation with
    | .error e => (s,.error e)
    | .ok _ => ({ s with periodNs := newPeriod },notified.map fun _ => s.periodNs)

/-- `consume`, with the caller's `TimerInfo` after it. -/
def consume (now : Int64) (operation : Bool) (info : TimerInfo) (s : TimerState) :
    TimerState × Result Bool × TimerInfo :=
  match s.admitted operation with
  | .error e => (s,.error e,info)
  | .ok _ =>
    if s.canceled = true ∨ now < s.nextCallNs then (s,.ok false,info)
    else
      let expected := s.nextCallNs
      let elapsed := saturatingSub now s.lastCallNs
      let period := s.periodNs
      ({ s with
          lastCallNs := now
          nextCallNs := if 0 < period then nextPeriodGridPoint expected period now else now },
        .ok true,⟨⟨expected,s.clockType⟩,⟨now,s.clockType⟩,elapsed⟩)

/-- `close`. -/
def close (s : TimerState) : TimerState := { s with closing := true }

end TimerState

/-- A successful consume. -/
structure Call where
  /-- What it told its caller. -/
  info : TimerInfo
  /-- The period in force. -/
  period : Int64
  /-- Resets before it. -/
  resets : ℕ

/-- The call point. -/
def Call.expected (c : Call) : ℤ := c.info.expectedCallTime.nanoseconds.toInt

/-- When it was consumed. -/
def Call.actual (c : Call) : ℤ := c.info.actualCallTime.nanoseconds.toInt

/-- A timer with its history. -/
structure History extends TimerState where
  /-- Resets so far. -/
  resets : ℕ
  /-- Successful consumes, oldest first. -/
  calls : List Call

/-- One call, with what the clock shows and what the environment answers. -/
inductive Event
  | consume (now : Int64) (operation : Bool) (info : TimerInfo)
  | reset (now : Int64) (operation : Bool) (notified : Result Unit)
  | cancel (operation : Bool) (notified : Result Unit)
  | exchangePeriod (newPeriod : Int64) (operation : Bool) (notified : Result Unit)
  | close

/-- Effect of a call. -/
def next (s : History) : Event → History
  | .consume now operation info =>
    match s.toTimerState.consume now operation info with
    | (timer,.ok true,info') => ⟨timer,s.resets,s.calls ++ [⟨info',s.periodNs,s.resets⟩]⟩
    | (timer,_,_) => ⟨timer,s.resets,s.calls⟩
  | .reset now operation notified =>
    match s.toTimerState.admitted operation with
    | .error _ => s
    | .ok _ => ⟨(s.toTimerState.reset now operation notified).1,s.resets + 1,s.calls⟩
  | .cancel operation notified => ⟨(s.toTimerState.cancel operation notified).1,s.resets,s.calls⟩
  | .exchangePeriod newPeriod operation notified =>
    ⟨(s.toTimerState.exchangePeriod newPeriod operation notified).1,s.resets,s.calls⟩
  | .close => ⟨s.toTimerState.close,s.resets,s.calls⟩

/-- Any call may come at any time. -/
def machine : Machine History Event where
  enabled _ _ := True
  next := next
  decidableEnabled _ _ := .isTrue trivial

/-- The next point of the grid is computed without leaving the range. -/
def Exact (expected period now : ℤ) : Prop :=
  Fits (expected + period) ∧ (expected + period ≤ now →
    Fits (now - (expected + period)) ∧
      Fits ((1 + (now - (expected + period)) / period) * period) ∧
      Fits
        (expected + period + (1 + (now - (expected + period)) / period) * period))

instance (expected period now : ℤ) : Decidable (Exact expected period now) :=
  inferInstanceAs (Decidable (_ ∧ (_ → _ ∧ _ ∧ _)))

/-- A consume whose schedule does not reach the ends of the range. -/
def Unsaturated (s : History) : Event → Prop
  | .consume now operation _ =>
    s.toTimerState.isReady now operation = .ok true → 0 < s.periodNs →
      Exact s.nextCallNs.toInt s.periodNs.toInt now.toInt
  | _ => True

instance (s : History) (e : Event) : Decidable (Unsaturated s e) :=
  match e with
  | .consume _ _ _ => inferInstanceAs (Decidable (_ = _ → _ < _ → _))
  | .reset _ _ _ => .isTrue trivial
  | .cancel _ _ => .isTrue trivial
  | .exchangePeriod _ _ _ => .isTrue trivial
  | .close => .isTrue trivial

/-- Successful consumes follow the grid of their periods. -/
structure Scheduled (s : History) : Prop where
  /-- Without a reset in between, a consume is followed by one of the first point of
  its grid that is later than it. -/
  consecutive : s.calls.IsChain fun first second => first.resets = second.resets →
    0 < first.period → IsLeast (gridAfter first.expected first.period.toInt first.actual)
      second.expected
  /-- No point comes twice, and none that was missed comes at all. -/
  increasing : s.calls.Pairwise fun first second => first.resets = second.resets →
    0 < first.period → first.expected < second.expected ∧ first.actual < second.expected
  /-- After a consume, the next call point is the first one that is later. -/
  upcoming : ∀ last, s.calls.getLast? = some last → last.resets = s.resets →
    0 < last.period →
      IsLeast (gridAfter last.expected last.period.toInt last.actual) s.nextCallNs.toInt

/-- A consume succeeds exactly when the timer is ready, with no time left, and does
nothing otherwise. -/
structure Level (s : TimerState) : Prop where
  /-- It succeeds when the timer is ready. -/
  succeeds : ∀ now operation info, (s.consume now operation info).2.1 = .ok true ↔
    s.isReady now operation = .ok true ∧ s.timeUntilNextCall now operation = .ok 0
  /-- It leaves everything alone otherwise. -/
  untouched : ∀ now operation info, (s.consume now operation info).2.1 ≠ .ok true →
    (s.consume now operation info).1 = s ∧ (s.consume now operation info).2.2 = info

variable {expected period now : Int64} {operation : Bool} {info : TimerInfo} {timer : TimerState}
  {s : History} {e : Event}

/-- Away from the ends of the range, the next point is the first one that is later. -/
theorem nextPeriodGridPoint_isLeast (hperiod : 0 < period.toInt)
    (hexact : Exact expected.toInt period.toInt now.toInt) :
    IsLeast (gridAfter expected.toInt period.toInt now.toInt)
      (nextPeriodGridPoint expected period now).toInt := by
  obtain ⟨hnext, hlater⟩ := hexact
  have hnext' := saturatingAdd_exact hnext
  unfold nextPeriodGridPoint
  simp only [Int64.lt_iff_toInt_lt,hnext']
  by_cases hahead : now.toInt < expected.toInt + period.toInt
  · rw [if_pos hahead,hnext']
    exact isLeast_next hperiod hahead
  · have hbehind : expected.toInt + period.toInt ≤ now.toInt := not_lt.mp hahead
    obtain ⟨hdifference, hproduct, hsum⟩ := hlater hbehind
    have hskip := isLeast_skip hperiod hbehind
    have hsub : (saturatingSub now (saturatingAdd expected period)).toInt =
        now.toInt - (expected.toInt + period.toInt) := by
      rw [saturatingSub_exact (by rw [hnext']; exact hdifference),hnext']
    have hquotient : (saturatingSub now (saturatingAdd expected period) / period).toInt =
        (now.toInt - (expected.toInt + period.toInt)) / period.toInt := by
      rw [toInt_div (by omega) hperiod,hsub]
    have hnonneg : 0 ≤ (now.toInt - (expected.toInt + period.toInt)) / period.toInt :=
      Int.ediv_nonneg (by omega) hperiod.le
    have hone : (1 : Int64).toInt = 1 := rfl
    generalize hmissed : (now.toInt - (expected.toInt + period.toInt)) / period.toInt = missed at *
    have hcount : Fits (1 + missed) := by
      have hgrow : 1 + missed ≤ (1 + missed) * period.toInt :=
        le_mul_of_one_le_right (by omega) hperiod
      have hmin := Int64.toInt_minValue
      unfold Fits at hproduct ⊢
      omega
    have hadd : (saturatingAdd 1 (saturatingSub now (saturatingAdd expected period) /
        period)).toInt = 1 + missed := by
      rw [saturatingAdd_exact (by rw [hone,hquotient]; exact hcount),hone,hquotient]
    have hmul : (saturatingMul (saturatingAdd 1 (saturatingSub now (saturatingAdd expected period) /
        period)) period).toInt = (1 + missed) * period.toInt := by
      rw [saturatingMul_exact (by omega) hperiod (by rw [hadd]; exact hproduct),hadd]
    have hpoint : (saturatingAdd (saturatingAdd expected period) (saturatingMul (saturatingAdd 1
        (saturatingSub now (saturatingAdd expected period) / period)) period)).toInt =
          expected.toInt + period.toInt + (1 + missed) * period.toInt := by
      rw [saturatingAdd_exact (by rw [hnext',hmul]; exact hsum),hnext',hmul]
    rw [if_neg hahead,hpoint,if_pos hskip.1.1,hpoint]
    exact hskip

/-- What a consume does. -/
theorem consume_cases (now : Int64) (operation : Bool) (info : TimerInfo) (timer : TimerState) :
    ((timer.consume now operation info).2.1 ≠ .ok true ∧
        (timer.consume now operation info).1 = timer ∧
        (timer.consume now operation info).2.2 = info ∧
        timer.isReady now operation ≠ .ok true) ∨
      (timer.isReady now operation = .ok true ∧ timer.timeUntilNextCall now operation = .ok 0 ∧
        timer.nextCallNs.toInt ≤ now.toInt ∧
        timer.consume now operation info = ({ timer with
            lastCallNs := now
            nextCallNs := if 0 < timer.periodNs then
              nextPeriodGridPoint timer.nextCallNs timer.periodNs now else now },
          .ok true,⟨⟨timer.nextCallNs,timer.clockType⟩,⟨now,timer.clockType⟩,
            saturatingSub now timer.lastCallNs⟩)) := by
  unfold TimerState.consume TimerState.isReady TimerState.timeUntilNextCall
  cases hadmitted : timer.admitted operation with
  | error e => exact Or.inl ⟨fun h => (by cases h),rfl,rfl,fun h => (by cases h)⟩
  | ok _ =>
    by_cases hcanceled : timer.canceled = true
    · dsimp only
      rw [if_pos (Or.inl hcanceled),if_pos hcanceled]
      exact Or.inl ⟨fun h => (by cases h),rfl,rfl,fun h => (by cases h)⟩
    · by_cases hearly : now < timer.nextCallNs
      · dsimp only
        rw [if_pos (Or.inr hearly),if_neg hcanceled]
        refine Or.inl ⟨fun h => (by cases h),rfl,rfl,fun h => ?_⟩
        have hdue : timer.nextCallNs ≤ now := of_decide_eq_true (Except.ok.inj h)
        rw [Int64.le_iff_toInt_le] at hdue
        rw [Int64.lt_iff_toInt_lt] at hearly
        omega
      · have hdue : timer.nextCallNs.toInt ≤ now.toInt := by
          rw [Int64.lt_iff_toInt_lt] at hearly
          omega
        have hneither : ¬ (timer.canceled = true ∨ now < timer.nextCallNs) := by
          rintro (h | h)
          · exact hcanceled h
          · exact hearly h
        have hready : decide (timer.nextCallNs ≤ now) = true :=
          decide_eq_true (Int64.le_iff_toInt_le.mpr hdue)
        have hremaining : (saturatingSub timer.nextCallNs now).toInt ≤ 0 := by
          have hmin := Int64.toInt_minValue
          rw [toInt_saturatingSub]
          omega
        have hzero : (if saturatingSub timer.nextCallNs now < 0 then (0 : Int64)
            else saturatingSub timer.nextCallNs now) = 0 := by
          by_cases hnegative : saturatingSub timer.nextCallNs now < 0
          · rw [if_pos hnegative]
          · rw [if_neg hnegative,← Int64.toInt_inj,Int64.toInt_zero]
            rw [Int64.lt_iff_toInt_lt,Int64.toInt_zero] at hnegative
            omega
        dsimp only
        rw [if_neg hneither,if_neg hcanceled,if_neg hcanceled,hready,hzero]
        exact Or.inr ⟨rfl,rfl,hdue,rfl⟩

/-- Consuming agrees with readiness in every state. -/
theorem timer_level (timer : TimerState) : Level timer where
  succeeds := by
    intro now operation info
    rcases consume_cases now operation info timer with
      ⟨hfails, -, -, hready⟩ | ⟨hready, hzero, -, hconsume⟩
    · exact ⟨fun h => absurd h hfails,fun h => absurd h.1 hready⟩
    · rw [hconsume]
      exact ⟨fun _ => ⟨hready,hzero⟩,fun _ => rfl⟩
  untouched := by
    intro now operation info hfails
    rcases consume_cases now operation info timer with ⟨-, hstate, hinfo, -⟩ | ⟨-, -, -, hconsume⟩
    · exact ⟨hstate,hinfo⟩
    · rw [hconsume] at hfails
      exact absurd rfl hfails

/-- A schedule, with what its steps need to know. -/
structure Tracked (s : History) : Prop where
  /-- Consumes follow the grid. -/
  scheduled : Scheduled s
  /-- The next call point lies after the consumes since the last reset. -/
  ahead : ∀ c ∈ s.calls, c.resets = s.resets → 0 < c.period →
    c.expected < s.nextCallNs.toInt ∧ c.actual < s.nextCallNs.toInt
  /-- Resets are counted as they come. -/
  past : ∀ c ∈ s.calls, c.resets ≤ s.resets

/-- A step that leaves calls and call point alone keeps the schedule. -/
theorem Tracked.of_same (h : Tracked s) (hnext : timer.nextCallNs = s.nextCallNs) :
    Tracked ⟨timer,s.resets,s.calls⟩ where
  scheduled :=
    { consecutive := h.scheduled.consecutive
      increasing := h.scheduled.increasing
      upcoming := fun last hlast hresets hperiod => by
        dsimp only
        rw [hnext]
        exact h.scheduled.upcoming last hlast hresets hperiod }
  ahead := fun c hmem hresets hperiod => by
    dsimp only
    rw [hnext]
    exact h.ahead c hmem hresets hperiod
  past := h.past

/-- A reset starts a new schedule. -/
theorem Tracked.restart (h : Tracked s) (timer : TimerState) :
    Tracked ⟨timer,s.resets + 1,s.calls⟩ := by
  have hold : ∀ c ∈ s.calls, c.resets ≠ s.resets + 1 := by
    intro c hmem
    have hpast := h.past c hmem
    omega
  refine ⟨⟨h.scheduled.consecutive,h.scheduled.increasing,fun last hlast hresets => ?_⟩,
    fun c hmem hresets => ?_,fun c hmem => ?_⟩
  · exact absurd hresets (hold last (List.mem_of_getLast? hlast))
  · exact absurd hresets (hold c hmem)
  · exact (h.past c hmem).trans (Nat.le_succ _)

/-- A successful consume moves the call point ahead. -/
theorem Tracked.consumed (h : Tracked s) {now : Int64} {c : Call}
    (hexact : 0 < s.periodNs → Exact s.nextCallNs.toInt s.periodNs.toInt now.toInt)
    (hdue : s.nextCallNs.toInt ≤ now.toInt) (hresets : c.resets = s.resets)
    (hperiod : c.period = s.periodNs) (hexpected : c.expected = s.nextCallNs.toInt)
    (hactual : c.actual = now.toInt)
    (hnext : timer.nextCallNs = if 0 < s.periodNs then
      nextPeriodGridPoint s.nextCallNs s.periodNs now else now) :
    Tracked ⟨timer,s.resets,s.calls ++ [c]⟩ := by
  have hpoint : 0 < s.periodNs → IsLeast (gridAfter c.expected c.period.toInt c.actual)
      timer.nextCallNs.toInt := by
    intro hpositive
    rw [hnext,if_pos hpositive,hexpected,hactual,hperiod]
    exact nextPeriodGridPoint_isLeast (by rwa [Int64.lt_iff_toInt_lt,Int64.toInt_zero] at hpositive)
      (hexact hpositive)
  have hlater : s.nextCallNs.toInt ≤ timer.nextCallNs.toInt := by
    by_cases hpositive : 0 < s.periodNs
    · have hahead := (hpoint hpositive).1.1
      rw [hactual] at hahead
      omega
    · rw [hnext,if_neg hpositive]
      exact hdue
  refine ⟨⟨?_,?_,fun last hlast _ hlastPeriod => ?_⟩,fun c' hmem hsame hpositive => ?_,
    fun c' hmem => ?_⟩
  · refine List.isChain_append.mpr ⟨h.scheduled.consecutive,List.isChain_singleton _,?_⟩
    intro last hlast first hfirst hsame hpositive
    obtain rfl := Option.some.inj hfirst
    rw [hexpected]
    exact h.scheduled.upcoming last hlast (hsame.trans hresets) hpositive
  · refine List.pairwise_append.mpr ⟨h.scheduled.increasing,List.pairwise_singleton _ _,?_⟩
    intro earlier hmem last hlast hsame hpositive
    obtain rfl := List.mem_singleton.mp hlast
    rw [hexpected]
    exact h.ahead earlier hmem (hsame.trans hresets) hpositive
  · rw [List.getLast?_concat] at hlast
    obtain rfl := Option.some.inj hlast
    exact hpoint (hperiod ▸ hlastPeriod)
  · rcases List.mem_append.mp hmem with hbefore | hlast
    · obtain ⟨hless, hless'⟩ := h.ahead c' hbefore hsame hpositive
      exact ⟨hless.trans_le hlater,hless'.trans_le hlater⟩
    · obtain rfl := List.mem_singleton.mp hlast
      obtain ⟨hahead, k, hk, hstep⟩ := (hpoint (hperiod ▸ hpositive)).1
      have hpositive' : 0 < c'.period.toInt := by
        rwa [Int64.lt_iff_toInt_lt,Int64.toInt_zero] at hpositive
      have hmove : 0 < k * c'.period.toInt := mul_pos hk hpositive'
      exact ⟨by dsimp only; omega,hahead⟩
  · rcases List.mem_append.mp hmem with hbefore | hlast
    · exact h.past c' hbefore
    · obtain rfl := List.mem_singleton.mp hlast
      exact hresets.le

/-- Every call keeps the schedule. -/
theorem Tracked.next (h : Tracked s) (hok : Unsaturated s e) : Tracked (next s e) := by
  cases e with
  | consume now operation info =>
    rcases consume_cases now operation info s.toTimerState with
      ⟨hfails, hstate, -, -⟩ | ⟨hready, -, hdue, hconsume⟩
    · have hnext : TimerSchedule.next s (.consume now operation info) =
          ⟨s.toTimerState,s.resets,s.calls⟩ := by
        unfold TimerSchedule.next
        dsimp only
        rcases hresult : s.toTimerState.consume now operation info with ⟨timer, result, info'⟩
        rw [hresult] at hfails hstate
        obtain rfl : timer = s.toTimerState := hstate
        cases result with
        | error e => rfl
        | ok consumed =>
          cases consumed with
          | false => rfl
          | true => exact absurd rfl hfails
      rw [hnext]
      exact h.of_same rfl
    · unfold TimerSchedule.next
      dsimp only
      rw [hconsume]
      exact h.consumed (hok hready) hdue rfl rfl rfl rfl rfl
  | reset now operation notified =>
    unfold TimerSchedule.next
    dsimp only
    cases s.toTimerState.admitted operation with
    | error e => exact h
    | ok _ => exact h.restart _
  | cancel operation notified =>
    refine h.of_same ?_
    unfold TimerState.cancel
    repeat' split
    all_goals rfl
  | exchangePeriod newPeriod operation notified =>
    refine h.of_same ?_
    unfold TimerState.exchangePeriod
    repeat' split
    all_goals rfl
  | close => exact h.of_same rfl

/-- A timer without calls. -/
def History.start (timer : TimerState) : History := ⟨timer,0,[]⟩

/-- A timer without calls has its schedule. -/
theorem tracked_start (timer : TimerState) : Tracked (History.start timer) where
  scheduled :=
    { consecutive := .nil
      increasing := .nil
      upcoming := fun last hlast => by cases hlast }
  ahead := fun c hmem => absurd hmem List.not_mem_nil
  past := fun c hmem => absurd hmem List.not_mem_nil

/-- The period of a timer that is created is not negative. -/
theorem createTimer_period {clockType : ClockType} {autostart : Bool}
    (h : createTimer clockType now period autostart = .ok timer) : ¬ timer.periodNs < 0 := by
  unfold createTimer at h
  by_cases hnegative : period < 0
  · rw [if_pos hnegative] at h
    cases h
  · rw [if_neg hnegative] at h
    cases h
    exact hnegative

/-- No call makes a period negative. -/
theorem next_period (h : ¬ s.periodNs < 0) (e : Event) : ¬ (next s e).periodNs < 0 := by
  cases e with
  | consume now operation info =>
    have hperiod : (s.toTimerState.consume now operation info).1.periodNs = s.periodNs := by
      rcases consume_cases now operation info s.toTimerState with
        ⟨-, hstate, -, -⟩ | ⟨-, -, -, hconsume⟩
      · rw [hstate]
      · rw [hconsume]
    unfold next
    dsimp only
    rcases hresult : s.toTimerState.consume now operation info with ⟨timer, result, info'⟩
    rw [hresult] at hperiod
    have hkept : ¬ timer.periodNs < 0 := by
      rw [show timer.periodNs = s.periodNs from hperiod]
      exact h
    cases result with
    | error e => exact hkept
    | ok consumed =>
      cases consumed with
      | false => exact hkept
      | true => exact hkept
  | reset now operation notified =>
    unfold next TimerState.reset
    dsimp only
    cases s.toTimerState.admitted operation with
    | error e => exact h
    | ok _ => exact h
  | cancel operation notified =>
    unfold next TimerState.cancel
    dsimp only
    repeat' split
    all_goals exact h
  | exchangePeriod newPeriod operation notified =>
    unfold next TimerState.exchangePeriod
    dsimp only
    by_cases hnegative : newPeriod < 0
    · rw [if_pos hnegative]
      exact h
    · rw [if_neg hnegative]
      cases s.toTimerState.admitted operation with
      | error e => exact h
      | ok _ => exact hnegative
  | close => exact h

/-- In every run that stays away from the ends of the range, successful consumes
follow the grid of their periods, none of which is negative, and each agrees
with the readiness of the timer. -/
theorem timer_schedule {clockType : ClockType} {now period : Int64} {autostart : Bool}
    {timer : TimerState} {events : List Event} {s : History}
    (hcreated : createTimer clockType now period autostart = .ok timer)
    (hrun : machine.RunWhen Unsaturated (.start timer) events s) :
    Scheduled s ∧ ¬ s.periodNs < 0 ∧ Level s.toTimerState := by
  have htracked := hrun.invariant Tracked (tracked_start timer) fun _ _ h _ hok => h.next hok
  have hperiod := hrun.invariant (fun s => ¬ s.periodNs < 0) (createTimer_period hcreated)
    fun _ e h _ _ => next_period h e
  exact ⟨htracked.scheduled,hperiod,timer_level s.toTimerState⟩

/-- A timer with a period of five. -/
def everyFive : TimerState := ⟨.ros,5,false,0,5,false⟩

/-- The caller's record. -/
def blank : TimerInfo := ⟨⟨0,.system⟩,⟨0,.system⟩,0⟩

/-- Two calls are late, the period is exchanged between them, and the clock goes
back before the last one. -/
def lateCalls : List Event :=
  [.consume 17 true blank,.exchangePeriod 3 true (.ok ()),.consume 12 true blank,
    .consume 21 true blank]

/-- The calls of that run are at 5, 20 and nowhere in between, and the next one is
at 23. -/
theorem timer_schedule_late : ∃ s, machine.exec (.start everyFive) lateCalls = some s ∧
    s.calls.map Call.expected = [5,20] ∧ s.nextCallNs = 23 ∧ Scheduled s ∧
      ¬ s.periodNs < 0 ∧ Level s.toTimerState := by
  have hend : (machine.exec (.start everyFive) lateCalls).map (fun s =>
      decide (s.calls.map Call.expected = [5,20] ∧ s.nextCallNs = 23)) = some true := by
    decide +kernel
  obtain ⟨s, hexec, hfinal⟩ := Option.map_eq_some_iff.mp hend
  obtain ⟨hcalls, hnext⟩ := of_decide_eq_true hfinal
  have hrun : machine.RunWhen Unsaturated (.start everyFive) lateCalls s :=
    Machine.runWhen_of_exec (fun s e => decide (Unsaturated s e))
      (fun _ _ htest => of_decide_eq_true htest) hexec (by decide +kernel)
  have hcreated : createTimer .ros 0 5 true = .ok everyFive := rfl
  exact ⟨s,hexec,hcalls,hnext,timer_schedule hcreated hrun⟩

end Dmw.TimerSchedule
