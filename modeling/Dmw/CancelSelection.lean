import Dmw.GoalRegistry
import Mathlib.Data.List.Sort

/-!
# Selecting goals to cancel

Which goals a cancel request selects in a registry that any operations led to,
in what order, and that each of them can be canceled then.
-/

namespace Dmw.CancelSelection

open Identity KeyedTable GoalRegistry

namespace Registry

/-- Run operations at clock readings, in order. -/
def run (es : List (ℤ × Op)) (r : Registry) : Registry :=
  es.foldl (fun r e => (r.apply e.1 e.2).2) r

/-- Cancel goals one after the other, at clock readings. -/
def cancelEach (goals : List (ℤ × GoalId)) (r : Registry) : Registry :=
  goals.foldl (fun r goal => (r.updateState goal.1 goal.2 .cancelGoal).2) r

end Registry

/-- A goal that is committed and can be canceled. -/
def Cancelable (r : Registry) (info : GoalInfo) : Prop :=
  ∃ record, r.goals.lookup info.goalId = some record ∧ record.committed = true ∧
    record.info = info ∧ (record.state = .accepted ∨ record.state = .executing)

/-- The criteria of a cancel request are about a goal; the all-zero identity
stands for every goal and never for one of its own. -/
def Matches (criteria : CancelGoalCriteria) (info : GoalInfo) : Prop :=
  isZeroGoalId criteria.goalId = true ∧ criteria.stamp = 0 ∨
    isZeroGoalId criteria.goalId = true ∧ info.acceptedStamp ≤ criteria.stamp ∨
      info.goalId = criteria.goalId ∧ criteria.stamp = 0 ∨
        criteria.stamp ≠ 0 ∧
          (isZeroGoalId criteria.goalId = false ∧ info.goalId = criteria.goalId ∨
            info.acceptedStamp ≤ criteria.stamp)

/-- What a selection says and what can be done with it. -/
structure Exact (criteria : CancelGoalCriteria) (matching : GoalInfo → Prop) (r : Registry)
    (selection : List GoalInfo) : Prop where
  /-- It is sorted by acceptance. -/
  sorted : selection.Pairwise fun lhs rhs => lhs.acceptedStamp ≤ rhs.acceptedStamp
  /-- No goal is told twice. -/
  nodup : (selection.map (·.goalId)).Nodup
  /-- It tells exactly the cancelable goals that match. -/
  mem : ∀ info, info ∈ selection ↔ Cancelable r info ∧ matching info
  /-- The registry is unchanged. -/
  unchanged : ∀ now, (r.apply now (.selectCancelGoals criteria)).2 = r
  /-- Each of the goals can be canceled, also after others of them. -/
  actionable : ∀ info ∈ selection, ∀ others : List (ℤ × GoalId),
    info.goalId ∉ others.map (·.2) → ∀ now,
      let earlier := Registry.cancelEach others r
      ∃ previous, (earlier.updateState now info.goalId .cancelGoal).1 =
          .ok ⟨previous,.canceling,false⟩ ∧
        (earlier.updateState now info.goalId .cancelGoal).2.state info.goalId = .ok .canceling

/-! ## Reachable registries -/

variable {r : Registry} {now : ℤ} {goalId : GoalId} {info : GoalInfo}
  {criteria : CancelGoalCriteria}

/-- Committed records tell their own identity. -/
def Keyed (r : Registry) : Prop :=
  ∀ goalId record, r.goals.lookup goalId = some record → record.committed = true →
    record.info.goalId = goalId

theorem Keyed.new (resultTimeout : ℤ) : Keyed (Registry.new resultTimeout) := by
  intro goalId record hfound
  cases hfound

/-- A commit writes the identity it looks up, other operations keep it. -/
theorem Keyed.apply (h : Keyed r) (now : ℤ) (op : Op) : Keyed (r.apply now op).2 := by
  intro goalId record hafter hcommitted
  have hstep := Registry.apply_recordStep now op r goalId
  rw [hafter] at hstep
  generalize hbefore : r.goals.lookup goalId = before at hstep
  generalize (r.apply now op).1 = outcome at hstep
  generalize hfound : some record = after at hstep
  cases hstep with
  | keep => exact h goalId record (hbefore.trans hfound.symm) hcommitted
  | prune => cases hfound
  | reserve =>
    cases hfound
    cases hcommitted
  | rollback => cases hfound
  | commit info mode old hid =>
    cases hfound
    exact hid
  | enter event next old hold =>
    cases hfound
    exact h goalId old hbefore hold
  | append requestId old hold =>
    cases hfound
    exact h goalId old hbefore hold
  | take old hold =>
    cases hfound
    exact h goalId old hbefore hold
  | forget requestId old =>
    cases hfound
    exact h goalId old hbefore hcommitted

theorem Keyed.run (h : Keyed r) (es : List (ℤ × Op)) : Keyed (Registry.run es r) := by
  induction es generalizing r with
  | nil => exact h
  | cons e rest ih => exact ih (h.apply e.1 e.2)

/-! ## Canceling -/

/-- A goal that can be canceled is canceled. -/
theorem Cancelable.update (h : Cancelable r info) (now : ℤ) :
    ∃ previous, (r.updateState now info.goalId .cancelGoal).1 = .ok ⟨previous,.canceling,false⟩ ∧
      (r.updateState now info.goalId .cancelGoal).2.state info.goalId = .ok .canceling := by
  obtain ⟨record,hfound,hcommitted,-,hstate⟩ := h
  have hactive : isTerminalGoalState record.state = false := by
    rcases hstate with hstate | hstate <;> rw [hstate] <;> rfl
  have hnext : nextGoalState record.state .cancelGoal = some .canceling := by
    rcases hstate with hstate | hstate <;> rw [hstate] <;> rfl
  have hupdate : r.updateState now info.goalId .cancelGoal =
      (.ok ⟨record.state,.canceling,false⟩,{r with
        goals := r.goals.insert info.goalId (record.enter now .canceling hcommitted hactive)}) := by
    unfold Registry.updateState
    simp only [hfound,dif_pos hcommitted,dif_pos hactive,hnext]
    rfl
  refine ⟨record.state,by rw [hupdate],?_⟩
  rw [hupdate]
  unfold Registry.state Registry.findCommitted
  rw [AList.lookup_insert,Option.filter_some,
    if_pos (show (record.enter now .canceling hcommitted hactive).committed = true from hcommitted)]
  rfl

/-- Canceling a goal leaves the records of the others alone. -/
theorem lookup_cancel_ne {other : GoalId} (hne : goalId ≠ other) :
    (r.updateState now other .cancelGoal).2.goals.lookup goalId = r.goals.lookup goalId := by
  unfold Registry.updateState
  cases r.goals.lookup other with
  | none => rfl
  | some record =>
    by_cases hcommitted : record.committed = true
    · by_cases hactive : isTerminalGoalState record.state = false
      · simp only [dif_pos hcommitted,dif_pos hactive]
        cases nextGoalState record.state .cancelGoal with
        | none => rfl
        | some next => exact AList.lookup_insert_ne hne
      · simp only [dif_pos hcommitted,dif_neg hactive]
    · simp only [dif_neg hcommitted]

theorem lookup_cancelEach {others : List (ℤ × GoalId)} (hne : goalId ∉ others.map (·.2)) :
    (Registry.cancelEach others r).goals.lookup goalId = r.goals.lookup goalId := by
  induction others generalizing r with
  | nil => rfl
  | cons goal rest ih =>
    have hgoal : goalId ≠ goal.2 := fun h => hne (by rw [h]; exact List.mem_cons_self)
    have hrest : goalId ∉ rest.map (·.2) := fun h => hne (List.mem_cons_of_mem _ h)
    exact (ih hrest).trans (lookup_cancel_ne hgoal)

theorem Cancelable.cancelEach (h : Cancelable r info) {others : List (ℤ × GoalId)}
    (hne : info.goalId ∉ others.map (·.2)) : Cancelable (Registry.cancelEach others r) info := by
  obtain ⟨record,hfound,hrest⟩ := h
  exact ⟨record,(lookup_cancelEach hne).trans hfound,hrest⟩

/-! ## Selecting -/

/-- The test of the loop. -/
theorem cancelSelects_iff {record : GoalRecord} :
    Registry.cancelSelects criteria record = true ↔
      record.committed = true ∧ (record.state = .accepted ∨ record.state = .executing) ∧
        Matches criteria record.info := by
  have hstate : isCancelableGoalState record.state = true ↔
      record.state = .accepted ∨ record.state = .executing := by
    unfold isCancelableGoalState
    simp
  unfold Registry.cancelSelects Matches
  simp only [Bool.and_eq_true,hstate,and_assoc]
  refine and_congr_right fun _ => and_congr_right fun _ => ?_
  cases hzero : isZeroGoalId criteria.goalId with
  | true =>
    by_cases hstamp : criteria.stamp = 0
    · simp [hstamp]
    · simp [hstamp]
  | false =>
    by_cases hstamp : criteria.stamp = 0
    · simp [hstamp]
    · simp [hstamp]

/-- The infos of the selected records, before they are sorted. -/
def selectedInfos (criteria : CancelGoalCriteria) (r : Registry) : List GoalInfo :=
  (r.goals.entries.filter fun e => Registry.cancelSelects criteria e.2).map (·.2.info)

theorem mem_selectedInfos (h : Keyed r) :
    info ∈ selectedInfos criteria r ↔ Cancelable r info ∧ Matches criteria info := by
  unfold selectedInfos
  constructor
  · intro hmem
    obtain ⟨e,he,rfl⟩ := List.mem_map.mp hmem
    obtain ⟨hentry,hselected⟩ := List.mem_filter.mp he
    obtain ⟨hcommitted,hstate,hmatches⟩ := cancelSelects_iff.mp hselected
    have hfound := Table.lookup_of_mem_entries hentry
    refine ⟨⟨e.2,?_,hcommitted,rfl,hstate⟩,hmatches⟩
    rw [h e.1 e.2 hfound hcommitted]
    exact hfound
  · rintro ⟨⟨record,hfound,hcommitted,rfl,hstate⟩,hmatches⟩
    refine List.mem_map.mpr ⟨⟨record.info.goalId,record⟩,List.mem_filter.mpr ⟨?_,?_⟩,rfl⟩
    · exact Table.mem_entries_of_lookup hfound
    · exact cancelSelects_iff.mpr ⟨hcommitted,hstate,hmatches⟩

/-- The keys of a table are distinct, and they are the identities selected. -/
theorem selectedInfos_nodup (h : Keyed r) :
    ((selectedInfos criteria r).map (·.goalId)).Nodup := by
  have hkeys : (selectedInfos criteria r).map (·.goalId) =
      ((r.goals.entries.filter fun e => Registry.cancelSelects criteria e.2).map (·.1)) := by
    unfold selectedInfos
    rw [List.map_map]
    refine List.map_congr_left fun e he => ?_
    obtain ⟨hentry,hselected⟩ := List.mem_filter.mp he
    exact h e.1 e.2 (Table.lookup_of_mem_entries hentry) (cancelSelects_iff.mp hselected).1
  rw [hkeys]
  exact List.Nodup.sublist (List.Sublist.map _ List.filter_sublist) r.goals.nodupKeys

/-- What a selection from records under their own identities says. -/
theorem Keyed.select (hkeyed : Keyed r) (criteria : CancelGoalCriteria)
    (hstamp : 0 ≤ criteria.stamp) :
    ∃ selection, r.selectCancelGoals criteria = .ok selection ∧
      Exact criteria (Matches criteria) r selection := by
  let sorted := (selectedInfos criteria r).mergeSort fun lhs rhs =>
    lhs.acceptedStamp ≤ rhs.acceptedStamp
  have hperm : sorted.Perm (selectedInfos criteria r) := List.mergeSort_perm _ _
  have hselect : r.selectCancelGoals criteria = .ok sorted := if_neg (not_lt.mpr hstamp)
  have hmem : ∀ info, info ∈ sorted ↔ Cancelable r info ∧ Matches criteria info :=
    fun info => hperm.mem_iff.trans (mem_selectedInfos hkeyed)
  refine ⟨sorted,hselect,?_,?_,hmem,fun _ => rfl,fun info hinfo others hothers now => ?_⟩
  · have htrans : ∀ a b c : GoalInfo, decide (a.acceptedStamp ≤ b.acceptedStamp) = true →
        decide (b.acceptedStamp ≤ c.acceptedStamp) = true →
          decide (a.acceptedStamp ≤ c.acceptedStamp) = true := by
      intro a b c
      simp only [decide_eq_true_eq]
      exact le_trans
    have htotal : ∀ a b : GoalInfo, (decide (a.acceptedStamp ≤ b.acceptedStamp) ||
        decide (b.acceptedStamp ≤ a.acceptedStamp)) = true := by
      intro a b
      simp only [Bool.or_eq_true,decide_eq_true_eq]
      exact le_total _ _
    have hsorted := List.pairwise_mergeSort htrans htotal (selectedInfos criteria r)
    exact hsorted.imp fun h => of_decide_eq_true h
  · exact (hperm.map _).nodup_iff.mpr (selectedInfos_nodup hkeyed)
  · exact (((hmem info).mp hinfo).1.cancelEach hothers).update now

/-- In every registry that operations lead to, a selection tells exactly the
cancelable goals that match the criteria, sorted and once each, and leaves all
of them ready to be canceled. -/
theorem select_exact (resultTimeout : ℤ) (es : List (ℤ × Op)) (criteria : CancelGoalCriteria)
    (hstamp : 0 ≤ criteria.stamp) :
    let r := Registry.run es (Registry.new resultTimeout)
    ∃ selection, r.selectCancelGoals criteria = .ok selection ∧
      Exact criteria (Matches criteria) r selection :=
  ((Keyed.new resultTimeout).run es).select criteria hstamp

/-- A goal and the reservation of another one. -/
def goalAndReservation : List (ℤ × Op) :=
  [(0,.reserve ⟨Vector.replicate 16 1⟩),(0,.commit ⟨⟨Vector.replicate 16 1⟩,3⟩ .execute),
    (0,.reserve ⟨Vector.replicate 16 2⟩)]

/-- Goals accepted up to the time five. -/
theorem select_exact_bounded :
    0 ≤ (⟨⟨Vector.replicate 16 0⟩,5⟩ : CancelGoalCriteria).stamp ∧
      let r := Registry.run goalAndReservation (Registry.new 0)
      ∃ selection, r.selectCancelGoals ⟨⟨Vector.replicate 16 0⟩,5⟩ = .ok selection ∧
        Exact ⟨⟨Vector.replicate 16 0⟩,5⟩ (Matches ⟨⟨Vector.replicate 16 0⟩,5⟩) r selection :=
  ⟨by decide,select_exact 0 goalAndReservation ⟨⟨Vector.replicate 16 0⟩,5⟩ (by decide)⟩

/-- A goal under the all-zero identity, accepted at ten. -/
def zeroGoal : GoalInfo := ⟨⟨Vector.replicate 16 0⟩,10⟩

theorem zeroGoal_zero : isZeroGoalId zeroGoal.goalId = true := by
  simp [isZeroGoalId,zeroGoal]

/-- It is accepted as any other goal is. -/
def zeroGoalAccepted : List (ℤ × Op) :=
  [(0,.reserve zeroGoal.goalId),(0,.commit zeroGoal .defer)]

/-- What a criterion selects if a time bound never keeps it from selecting the
goal of its own identity. -/
def MatchesAlways (criteria : CancelGoalCriteria) (info : GoalInfo) : Prop :=
  isZeroGoalId criteria.goalId = true ∧ criteria.stamp = 0 ∨
    isZeroGoalId criteria.goalId = true ∧ info.acceptedStamp ≤ criteria.stamp ∨
      info.goalId = criteria.goalId ∧ criteria.stamp = 0 ∨
        criteria.stamp ≠ 0 ∧
          (info.goalId = criteria.goalId ∨ info.acceptedStamp ≤ criteria.stamp)

/-- The all-zero identity with the bound five selects nothing, although that is
the identity of a goal. -/
theorem zero_goal_not_selected :
    ¬ ∀ (resultTimeout : ℤ) (es : List (ℤ × Op)) (criteria : CancelGoalCriteria),
      0 ≤ criteria.stamp →
        let r := Registry.run es (Registry.new resultTimeout)
        ∃ selection, r.selectCancelGoals criteria = .ok selection ∧
          Exact criteria (MatchesAlways criteria) r selection := by
  intro h
  obtain ⟨selection,hselect,hexact⟩ := h 0 zeroGoalAccepted ⟨zeroGoal.goalId,5⟩ (by decide)
  obtain ⟨selection',hselect',hexact'⟩ := ((Keyed.new 0).run zeroGoalAccepted).select
    ⟨zeroGoal.goalId,5⟩ (by decide)
  rw [hselect] at hselect'
  cases hselect'
  have hcancelable : Cancelable (Registry.run zeroGoalAccepted (Registry.new 0)) zeroGoal :=
    ⟨GoalRecord.reservation.commit zeroGoal .defer,rfl,rfl,rfl,.inl rfl⟩
  have hselected : zeroGoal ∈ selection :=
    (hexact.mem zeroGoal).mpr ⟨hcancelable,.inr (.inr (.inr ⟨by decide,.inl rfl⟩))⟩
  obtain ⟨-,hmatches⟩ := (hexact'.mem zeroGoal).mp hselected
  rcases hmatches with ⟨-,hstamp⟩ | ⟨-,hbound⟩ | ⟨-,hstamp⟩ | ⟨-,⟨hzero,-⟩ | hbound⟩
  · cases hstamp
  · exact absurd hbound (by decide)
  · cases hstamp
  · rw [zeroGoal_zero] at hzero
    cases hzero
  · exact absurd hbound (by decide)

end Dmw.CancelSelection
