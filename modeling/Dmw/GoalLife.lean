import Dmw.GoalRegistry
import Dmw.GuardedRuns
import Dmw.KeyedHistory

/-!
# Goal lives and their expiry

An identity may be reserved, committed, ended and erased many times over. The
abstract life of an identity is a small automaton over what happened to it;
the registry, run with any non-decreasing clock, follows it for every identity
at once, and the ids it reports or still owes are those of the erased lives.
-/

namespace Dmw.GoalLife

open Identity KeyedTable GuardedRuns KeyedHistory GoalRegistry

/-- Where an identity is in its current life. -/
inductive Life
  | absent
  | reserved
  | live
  | terminal (since : ℤ)
  deriving DecidableEq

/-- What can happen to an identity. -/
inductive Happening
  | reserved (goalId : GoalId)
  | rolledBack (goalId : GoalId)
  | committed (goalId : GoalId)
  | ended (goalId : GoalId) (time : ℤ)
  | erased (goalId : GoalId) (time : ℤ)
  | reported (goalId : GoalId)
  deriving DecidableEq

/-- The identity whose life a happening changes; a report changes none. -/
def Happening.goal : Happening → Option GoalId
  | .reserved goalId | .rolledBack goalId | .committed goalId => some goalId
  | .ended goalId _ | .erased goalId _ => some goalId
  | .reported _ => none

/-- One step of a life; `none` is a happening out of order. -/
def Life.next (timeout : ℕ) : Life → Happening → Option Life
  | .absent, .reserved _ => some .reserved
  | .reserved, .rolledBack _ => some .absent
  | .reserved, .committed _ => some .live
  | .live, .ended _ time => some (.terminal time)
  | .terminal since, .erased _ time => if since + timeout ≤ time then some .absent else none
  | _, _ => none

/-- The automaton of one identity's lives. -/
def lives (timeout : ℕ) : Automaton GoalId Happening Life := ⟨Happening.goal,Life.next timeout⟩

/-- The life a record stands for. -/
def Life.of : Option GoalRecord → Life
  | none => .absent
  | some record =>
    if record.committed = false then .reserved
    else if isTerminalGoalState record.state then .terminal record.terminalTime
    else .live

/-- Committed goals whose record an operation removed. -/
def erasures (r r' : Registry) : List GoalId :=
  (r.goals.entries.filter fun e => e.2.committed && decide (e.1 ∉ r'.goals)).map (·.1)

/-- What an operation and its outcome announce about a life. -/
def announced (now : ℤ) (r r' : Registry) : Op → Outcome → List Happening
  | .reserve goalId, .flag true => [.reserved goalId]
  | .rollbackReservation goalId, _ =>
    if goalId ∈ r.goals ∧ goalId ∉ r'.goals then [.rolledBack goalId] else []
  | .commit info _, .flag true => [.committed info.goalId]
  | .updateState goalId _, .transition (.ok transition) =>
    if transition.becameTerminal then [.ended goalId now] else []
  | .takeExpiredGoals, .expired goalIds => goalIds.map .reported
  | _, _ => []

/-- A registry, its clock and everything that happened so far. -/
structure Tracked where
  /-- The registry. -/
  registry : Registry
  /-- Latest clock reading. -/
  clock : ℤ
  /-- History in order; nothing reads it. -/
  history : List Happening

/-- A new registry without history. -/
def Tracked.initial (resultTimeout clock : ℤ) : Tracked := ⟨Registry.new resultTimeout,clock,[]⟩

/-- What one operation adds to the history. -/
def happenings (now : ℤ) (op : Op) (r : Registry) : List Happening :=
  (erasures r (r.apply now op).2).map (.erased · now) ++
    announced now r (r.apply now op).2 op (r.apply now op).1

/-- Registry operations at non-decreasing clock readings. -/
def machine : Machine Tracked (ℤ × Op) where
  enabled := fun s e => s.clock ≤ e.1
  next := fun s e =>
    ⟨(s.registry.apply e.1 e.2).2,e.1,s.history ++ happenings e.1 e.2 s.registry⟩
  decidableEnabled := fun s e => inferInstanceAs (Decidable (s.clock ≤ e.1))

/-- Reports delivered so far. -/
def reportedIds (history : List Happening) : List GoalId :=
  history.filterMap fun
    | .reported goalId => some goalId
    | _ => none

/-- Lives whose record was erased after a commit. -/
def erasedIds (history : List Happening) : List GoalId :=
  history.filterMap fun
    | .erased goalId _ => some goalId
    | _ => none

/-- Expiry is reported once for each erased life, and lives keep their order. -/
structure ExpiryLaw (timeout : ℕ) (s : Tracked) : Prop where
  /-- Reports delivered and owed are the erased lives. -/
  conserved :
    (reportedIds s.history ++ s.registry.expiredNotifications).Perm (erasedIds s.history)
  /-- Every record is where its history puts it. -/
  followed : ∀ goalId,
    (lives timeout).after goalId .absent s.history = some (.of (s.registry.goals.lookup goalId))
  /-- A record is erased only in a life that was committed, ended at some time
  and was then left alone for the whole timeout. -/
  erased_late : ∀ before goalId now after, s.history = before ++ .erased goalId now :: after →
    ∃ (since : ℤ) (first second third : List Happening),
      before = first ++ .committed goalId :: (second ++ .ended goalId since :: third) ∧
      since + timeout ≤ now ∧
      ∀ h ∈ second ++ third, h.goal ≠ some goalId
  /-- An identity is reserved anew only after its last life was erased or
  rolled back. -/
  reserved_anew : ∀ before goalId after, s.history = before ++ .reserved goalId :: after →
    ∀ h ∈ (before.filter fun h => h.goal = some goalId).getLast?,
      h = .rolledBack goalId ∨ ∃ now, h = .erased goalId now

section

variable {r r' : Registry} {now : ℤ} {op : Op} {outcome : Outcome} {goalId : GoalId}

/-- An erased goal was committed and is gone. -/
theorem mem_erasures : goalId ∈ erasures r r' ↔
    ∃ record, r.goals.lookup goalId = some record ∧ record.committed = true ∧
      goalId ∉ r'.goals := by
  simp only [erasures, List.mem_map, List.mem_filter, Bool.and_eq_true, decide_eq_true_eq]
  constructor
  · rintro ⟨entry, ⟨hentry, hcommitted, hgone⟩, rfl⟩
    exact ⟨entry.2, Table.lookup_of_mem_entries hentry, hcommitted, hgone⟩
  · rintro ⟨record, hfound, hcommitted, hgone⟩
    exact ⟨⟨goalId, record⟩, ⟨Table.mem_entries_of_lookup hfound, hcommitted, hgone⟩, rfl⟩

/-- No goal is erased twice in one operation. -/
theorem erasures_nodup : (erasures r r').Nodup :=
  List.Nodup.sublist (List.Sublist.map _ List.filter_sublist) r.goals.nodupKeys

/-- A goal that is still there was not erased. -/
theorem not_erased_of_kept {record : GoalRecord} (hafter : r'.goals.lookup goalId = some record) :
    goalId ∉ erasures r r' := by
  intro hmem
  obtain ⟨_, _, _, hgone⟩ := mem_erasures.mp hmem
  exact hgone (AList.lookup_isSome.mp (by rw [hafter]; rfl))

/-- An outcome that does not affect a goal announces nothing about it. -/
theorem announced_quiet (hquiet : op.affects goalId outcome = false)
    (hkept : op = .rollbackReservation goalId → ¬ (goalId ∈ r.goals ∧ goalId ∉ r'.goals)) :
    ∀ h ∈ announced now r r' op outcome, h.goal ≠ some goalId := by
  unfold announced
  split
  · simpa [Happening.goal, Op.affects] using hquiet
  · next goalId' _ =>
    split
    · next hgone =>
      simp only [List.mem_singleton, forall_eq, Happening.goal, ne_eq, Option.some.injEq]
      rintro rfl
      exact hkept rfl hgone
    · exact nofun
  · simpa [Happening.goal, Op.affects] using hquiet
  · split
    · simpa [Happening.goal, Op.affects] using hquiet
    · exact nofun
  · simp [Happening.goal]
  · exact nofun

/-- What happened to an identity in one operation takes its life along. -/
theorem follow_recordStep {before after : Option GoalRecord}
    (hbefore : r.goals.lookup goalId = before) (hafter : r'.goals.lookup goalId = after)
    (hstep : RecordStep r now goalId op outcome before after) :
    (lives r.resultTimeout).after goalId (.of before)
      ((erasures r r').map (.erased · now) ++ announced now r r' op outcome) =
        some (.of after) := by
  rw [Automaton.after_append, Automaton.after_map (fun _ => rfl) erasures_nodup]
  cases hstep with
  | keep _ _ _ hquiet hspares =>
    have hkept : goalId ∉ erasures r r' := by
      intro hmem
      obtain ⟨record, hfound, -, hgone⟩ := mem_erasures.mp hmem
      rw [hbefore] at hfound
      rw [hfound] at hafter
      exact hgone (AList.lookup_isSome.mp (by rw [hafter]; rfl))
    rw [if_neg hkept]
    refine Automaton.after_others (announced_quiet hquiet fun _ hgone => ?_)
    have hsame : (r'.goals.lookup goalId).isSome = (r.goals.lookup goalId).isSome := by
      rw [hbefore, hafter]
    exact hgone.2 (AList.lookup_isSome.mp (hsame ▸ AList.lookup_isSome.mpr hgone.1))
  | prune _ _ record hquiet hop hprunable =>
    obtain ⟨hcommitted, hterminal, hlate⟩ := Registry.terminal_of_prunable hprunable
    have hgone : goalId ∉ r'.goals := AList.lookup_eq_none.mp hafter
    have hlife : Life.of (some record) = .terminal record.terminalTime := by
      simp [Life.of, hcommitted, hterminal]
    rw [if_pos (mem_erasures.mpr ⟨record, hbefore, hcommitted, hgone⟩), hlife]
    simp only [lives, Life.next]
    rw [if_pos (by omega)]
    refine Automaton.after_others (announced_quiet hquiet ?_)
    rintro rfl
    cases hop
  | reserve =>
    rw [if_neg (not_erased_of_kept hafter)]
    simp [announced, Automaton.after, lives, Happening.goal, Life.of, Life.next, GoalRecord.reservation]
  | rollback record huncommitted =>
    have hkept : goalId ∉ erasures r r' := by
      intro hmem
      obtain ⟨record', hfound, hcommitted, -⟩ := mem_erasures.mp hmem
      rw [hbefore, Option.some.injEq] at hfound
      rw [hfound, hcommitted] at huncommitted
      cases huncommitted
    have hthere : goalId ∈ r.goals := AList.lookup_isSome.mp (by rw [hbefore]; rfl)
    rw [if_neg hkept]
    simp [announced, hthere, AList.lookup_eq_none.mp hafter, Automaton.after, lives, Happening.goal, Life.of,
      huncommitted, Life.next]
  | commit info mode record hid huncommitted =>
    rw [if_neg (not_erased_of_kept hafter)]
    subst hid
    cases mode <;>
      simp [announced, Automaton.after, lives, Happening.goal, Life.of, huncommitted, Life.next,
        GoalRecord.commit, GoalAcceptMode.state, isTerminalGoalState]
  | enter event next record hcommitted hactive hnext =>
    rw [if_neg (not_erased_of_kept hafter)]
    cases hterminal : isTerminalGoalState next <;>
      simp [announced, Automaton.after, lives, Happening.goal, Life.of, hcommitted, hactive, hterminal,
        Life.next, GoalRecord.enter]
  | append requestId record hcommitted hactive hfresh =>
    rw [if_neg (not_erased_of_kept hafter)]
    rfl
  | take record hcommitted =>
    rw [if_neg (not_erased_of_kept hafter)]
    rfl
  | forget requestId record =>
    rw [if_neg (not_erased_of_kept hafter)]
    rfl

/-- The goals a pruning operation at this time would erase. -/
def prunedIds (now : ℤ) (r : Registry) : List GoalId :=
  (r.goals.entries.filter fun e => r.prunable now e.2).map (·.1)

/-- Committed records are removed by pruning and by nothing else. -/
theorem erasures_apply (now : ℤ) (op : Op) (r : Registry) :
    erasures r (r.apply now op).2 = if op.prunes then prunedIds now r else [] := by
  have hentry : ∀ e ∈ r.goals.entries,
      (e.2.committed && decide (e.1 ∉ (r.apply now op).2.goals)) =
        (op.prunes && r.prunable now e.2) := by
    intro e he
    have hbefore := Table.lookup_of_mem_entries he
    have hstep := Registry.apply_recordStep now op r e.1
    rw [hbefore] at hstep
    have hmem : e.1 ∈ (r.apply now op).2.goals ↔
        ((r.apply now op).2.goals.lookup e.1).isSome = true := AList.lookup_isSome.symm
    rw [Bool.eq_iff_iff, Bool.and_eq_true, Bool.and_eq_true, decide_eq_true_eq, hmem]
    generalize hafter : (r.apply now op).2.goals.lookup e.1 = after at hstep
    generalize houtcome : (r.apply now op).1 = outcome at hstep
    cases hstep with
    | keep _ _ _ hquiet hspares =>
      have hkept := (hspares e.2 rfl).unexpired
      cases hop : op.prunes with
      | false => simp
      | true => simp [hkept hop]
    | prune _ _ _ hquiet hop hprunable =>
      obtain ⟨hcommitted, -, -⟩ := Registry.terminal_of_prunable hprunable
      simp [hop, hprunable, hcommitted]
    | rollback _ huncommitted => simp [Op.prunes, huncommitted]
    | append requestId _ hcommitted hactive hfresh =>
      simp [Registry.not_prunable_of_active hactive]
    | commit => simp [Op.prunes]
    | enter => simp [Op.prunes]
    | take => simp [Op.prunes]
    | forget => simp [Op.prunes]
  have hfilter := List.filter_congr hentry
  rw [erasures, hfilter]
  cases op.prunes with
  | false => simp
  | true => simp [prunedIds]

/-- An erasure is no report. -/
theorem reportedIds_erased (goalIds : List GoalId) :
    reportedIds (goalIds.map (Happening.erased · now)) = [] := by
  simp [reportedIds]

/-- Only a drain reports, and it reports what it returns. -/
theorem reportedIds_announced (now : ℤ) (op : Op) (r r' : Registry) :
    reportedIds (announced now r r' op (r.apply now op).1) =
      if op = .takeExpiredGoals then (r.pruneExpiredLocked now).expiredNotifications else [] := by
  cases op with
  | takeExpiredGoals =>
    simp only [announced, reportedIds, Registry.apply, Registry.takeExpiredGoals, Prod.map, id,
      List.filterMap_map, if_true]
    exact List.filterMap_some
  | reserve goalId =>
    simp only [Registry.apply, Registry.reserve]
    split <;> simp [announced, reportedIds]
  | rollbackReservation goalId =>
    simp only [announced]
    split <;> simp [reportedIds]
  | commit info mode =>
    simp only [Registry.apply, Registry.commit]
    split
    · simp [announced, reportedIds]
    · split <;> simp [announced, reportedIds]
  | updateState goalId event =>
    simp only [Registry.apply, Prod.map]
    cases (r.updateState now goalId event).1 with
    | error e => simp [announced, reportedIds]
    | ok transition =>
      simp only [announced]
      split <;> simp [reportedIds]
  | _ => simp [announced, reportedIds]

/-- What an operation reports and leaves in the queue is what was queued and
what it erased. -/
theorem reports_apply (now : ℤ) (op : Op) (r : Registry) :
    reportedIds (happenings now op r) ++ (r.apply now op).2.expiredNotifications =
      r.expiredNotifications ++ erasures r (r.apply now op).2 := by
  have hreported : reportedIds (happenings now op r) =
      reportedIds (announced now r (r.apply now op).2 op (r.apply now op).1) := by
    rw [happenings, reportedIds, List.filterMap_append]
    exact congrArg (· ++ _) (reportedIds_erased _)
  rw [hreported, reportedIds_announced, erasures_apply, (Registry.apply_frame now op r).2]
  by_cases hdrain : op = .takeExpiredGoals
  · subst hdrain
    simp only [if_true, List.append_nil]
    rfl
  · rw [if_neg hdrain, if_neg hdrain, List.nil_append]
    cases op.prunes with
    | true => rfl
    | false => exact (List.append_nil _).symm

/-- An announcement is no erasure. -/
theorem erasedIds_announced (now : ℤ) (r r' : Registry) (op : Op) (outcome : Outcome) :
    erasedIds (announced now r r' op outcome) = [] := by
  unfold announced
  split
  · rfl
  · split <;> rfl
  · rfl
  · split <;> rfl
  · simp [erasedIds]
  · rfl

/-- The erasures of an operation are those of its happenings. -/
theorem erasedIds_happenings (now : ℤ) (op : Op) (r : Registry) :
    erasedIds (happenings now op r) = erasures r (r.apply now op).2 := by
  have hself : erasedIds ((erasures r (r.apply now op).2).map (.erased · now)) =
      erasures r (r.apply now op).2 := by
    rw [erasedIds, List.filterMap_map]
    exact List.filterMap_some
  rw [happenings, erasedIds, List.filterMap_append]
  exact (congrArg₂ (· ++ ·) hself (erasedIds_announced ..)).trans (List.append_nil _)

end

/-- What every tracked run keeps. -/
structure Followed (timeout : ℕ) (s : Tracked) : Prop where
  /-- The configured timeout. -/
  timeout_eq : s.registry.resultTimeout = timeout
  /-- Reports, delivered or owed, in the order of the erasures. -/
  conserved : reportedIds s.history ++ s.registry.expiredNotifications = erasedIds s.history
  /-- Every record is where its history puts it. -/
  followed : ∀ goalId,
    (lives timeout).after goalId .absent s.history = some (.of (s.registry.goals.lookup goalId))

/-- One operation keeps it. -/
theorem Followed.next {timeout : ℕ} {s : Tracked} (h : Followed timeout s) (e : ℤ × Op) :
    Followed timeout (machine.next s e) where
  timeout_eq := (Registry.apply_frame e.1 e.2 s.registry).1.trans h.timeout_eq
  conserved := by
    have hreports := reports_apply e.1 e.2 s.registry
    have herased := erasedIds_happenings e.1 e.2 s.registry
    have hconserved := h.conserved
    simp only [reportedIds, erasedIds] at hreports herased hconserved
    simp only [machine, reportedIds, erasedIds, List.filterMap_append]
    rw [List.append_assoc, hreports, ← List.append_assoc, hconserved, herased]
  followed := by
    intro goalId
    have hstep := Registry.apply_recordStep e.1 e.2 s.registry goalId
    have hlife := follow_recordStep rfl rfl hstep
    simp only [machine, happenings]
    rw [Automaton.after_append, h.followed goalId, ← h.timeout_eq]
    exact hlife

/-- The happening that makes a life terminal. -/
theorem next_eq_terminal {timeout : ℕ} {life : Life} {h : Happening} {goalId : GoalId} {since : ℤ}
    (hgoal : h.goal = some goalId) (hnext : life.next timeout h = some (.terminal since)) :
    life = .live ∧ h = .ended goalId since := by
  cases life with
  | live =>
    cases h with
    | ended goalId' time =>
      simp only [Life.next, Option.some.injEq, Life.terminal.injEq] at hnext
      simp only [Happening.goal, Option.some.injEq] at hgoal
      exact ⟨rfl, by rw [hgoal, hnext]⟩
    | _ => cases hnext
  | absent => cases h <;> cases hnext
  | reserved => cases h <;> cases hnext
  | terminal since' =>
    cases h with
    | erased goalId' time =>
      simp only [Life.next] at hnext
      split at hnext <;> cases hnext
    | _ => cases hnext

/-- The happening that makes a life live. -/
theorem next_eq_live {timeout : ℕ} {life : Life} {h : Happening} {goalId : GoalId}
    (hgoal : h.goal = some goalId) (hnext : life.next timeout h = some .live) :
    h = .committed goalId := by
  cases life with
  | reserved =>
    cases h with
    | committed goalId' => exact congrArg Happening.committed (Option.some.inj hgoal)
    | _ => cases hnext
  | absent => cases h <;> cases hnext
  | live => cases h <;> cases hnext
  | terminal since =>
    cases h with
    | erased goalId' time =>
      simp only [Life.next] at hnext
      split at hnext <;> cases hnext
    | _ => cases hnext

/-- The happenings that end a life. -/
theorem next_eq_absent {timeout : ℕ} {life : Life} {h : Happening} {goalId : GoalId}
    (hgoal : h.goal = some goalId) (hnext : life.next timeout h = some .absent) :
    h = .rolledBack goalId ∨ ∃ now, h = .erased goalId now := by
  cases h with
  | rolledBack goalId' => exact Or.inl (congrArg Happening.rolledBack (Option.some.inj hgoal))
  | erased goalId' time =>
    exact Or.inr ⟨time, by rw [Option.some.inj hgoal]⟩
  | reserved => cases life <;> cases hnext
  | committed => cases life <;> cases hnext
  | ended => cases life <;> cases hnext
  | reported => cases hgoal

/-- A terminal life was committed and ended at its time. -/
theorem after_terminal {timeout : ℕ} {goalId : GoalId} {history : List Happening} {since : ℤ}
    (h : (lives timeout).after goalId .absent history = some (.terminal since)) :
    ∃ first second third,
      history = first ++ .committed goalId :: (second ++ .ended goalId since :: third) ∧
      ∀ h ∈ second ++ third, h.goal ≠ some goalId := by
  rcases Automaton.after_last h with
    ⟨hsame, -⟩ | ⟨before, last, third, middle, rfl, hlast, hthird, hbefore, hnext⟩
  · cases hsame
  · obtain ⟨rfl, rfl⟩ := next_eq_terminal hlast hnext
    rcases Automaton.after_last hbefore with
      ⟨hsame, -⟩ | ⟨first, commit, second, _, rfl, hcommit, hsecond, _, hlive⟩
    · cases hsame
    · obtain rfl := next_eq_live hcommit hlive
      refine ⟨first, second, third, by simp, fun h hh => ?_⟩
      rcases List.mem_append.mp hh with hh | hh
      · exact hsecond h hh
      · exact hthird h hh

/-- The law follows from the lives. -/
theorem Followed.law {timeout : ℕ} {s : Tracked} (h : Followed timeout s) : ExpiryLaw timeout s where
  conserved := .of_eq h.conserved
  followed := h.followed
  erased_late := by
    intro before goalId now after hhistory
    have hlife := h.followed goalId
    rw [hhistory] at hlife
    obtain ⟨life, _, hbefore, hnext, -⟩ := Automaton.after_cut rfl hlife
    cases life with
    | terminal since =>
      simp only [lives, Life.next] at hnext
      split at hnext
      · next hlate =>
        obtain ⟨first, second, third, hsplit, hquiet⟩ := after_terminal hbefore
        exact ⟨since, first, second, third, hsplit, hlate, hquiet⟩
      · cases hnext
    | _ => cases hnext
  reserved_anew := by
    intro before goalId after hhistory
    have hlife := h.followed goalId
    rw [hhistory] at hlife
    obtain ⟨life, _, hbefore, hnext, -⟩ := Automaton.after_cut rfl hlife
    have habsent : life = .absent := by
      cases life with
      | absent => rfl
      | _ => cases hnext
    subst habsent
    rcases Automaton.after_last hbefore with
      ⟨-, hquiet⟩ | ⟨before, last, rest, middle, rfl, hlast, hrest, -, hends⟩
    · have hnone : before.filter (fun h => h.goal = some goalId) = [] :=
        List.filter_eq_nil_iff.mpr fun h hh => by simpa [lives] using hquiet h hh
      simp [hnone]
    · have hnone : rest.filter (fun h => h.goal = some goalId) = [] :=
        List.filter_eq_nil_iff.mpr fun h hh => by simpa [lives] using hrest h hh
      have hgoal : last.goal = some goalId := hlast
      simp only [List.filter_append, List.filter_cons, hgoal, hnone]
      simpa using next_eq_absent hlast hends

/-- In every run the expired goals are reported exactly once for each life. -/
theorem expiry_reported_once (resultTimeout start : ℤ) (es : List (ℤ × Op)) (s : Tracked)
    (hrun : machine.Run (Tracked.initial resultTimeout start) es s) :
    ExpiryLaw resultTimeout.toNat s := by
  refine (hrun.invariant (Followed resultTimeout.toNat) ⟨rfl, rfl, fun _ => rfl⟩ ?_).law
  intro s e h _ _
  exact h.next e

/-- A goal ends under a zero timeout and is reported, and its identity is
reserved again. -/
def reused : List (ℤ × Op) :=
  [(0,.reserve ⟨Vector.replicate 16 1⟩),
    (0,.commit ⟨⟨Vector.replicate 16 1⟩,0⟩ .execute),
    (5,.updateState ⟨Vector.replicate 16 1⟩ .succeed),
    (5,.takeExpiredGoals),
    (6,.reserve ⟨Vector.replicate 16 1⟩)]

/-- The law for this run. -/
theorem expiry_reported_once_reused :
    ∃ s, machine.exec (Tracked.initial 0 0) reused = some s ∧
      reportedIds s.history = [⟨Vector.replicate 16 1⟩] ∧
        s.history.getLast? = some (.reserved ⟨Vector.replicate 16 1⟩) ∧ ExpiryLaw 0 s := by
  have hend : ((machine.exec (Tracked.initial 0 0) reused).map fun s =>
      decide (reportedIds s.history = [⟨Vector.replicate 16 1⟩] ∧
        s.history.getLast? = some (.reserved ⟨Vector.replicate 16 1⟩))) = some true := by decide
  obtain ⟨s, hexec, hfinal⟩ := Option.map_eq_some_iff.mp hend
  obtain ⟨hreported, hreserved⟩ := of_decide_eq_true hfinal
  exact ⟨s, hexec, hreported, hreserved,
    expiry_reported_once 0 0 reused s (Machine.run_of_exec hexec)⟩

end Dmw.GoalLife
