import Dmw.GoalRegistry

/-!
# Expiry deadlines and expiry readiness

A registry offers an absolute deadline, a saturating sum and a minimum over its
goals, and answers whether something expired from the time elapsed since each
goal ended. Both are the same comparison until the clock is at its end, and
what is due stays due until somebody drains it.
-/

namespace Dmw.GoalRegistry

open Identity KeyedTable

/-- A saturating deadline has passed exactly when the whole duration has. -/
theorem saturatingSteadyAdd_le_iff (base : ℤ) (duration : ℕ) {now : ℤ} (hnow : now < steadyMax) :
    saturatingSteadyAdd base duration ≤ now ↔ now - base ≥ duration := by
  unfold saturatingSteadyAdd
  split
  · omega
  · split <;> omega

/-- Some member is at most a bound exactly when the least one is. -/
theorem exists_min?_le_iff {deadlines : List ℤ} {now : ℤ} :
    (∃ d, deadlines.min? = some d ∧ d ≤ now) ↔ ∃ d ∈ deadlines, d ≤ now := by
  constructor
  · intro h
    obtain ⟨d,hmin,hd⟩ := h
    exact ⟨d,List.min?_mem hmin,hd⟩
  · intro h
    obtain ⟨d,hmem,hd⟩ := h
    cases hmin : deadlines.min? with
    | none => simp [List.min?_eq_none_iff.mp hmin] at hmem
    | some least =>
      have hleast : least ≤ d := (List.min?_eq_some_iff.mp hmin).2 d hmem
      exact ⟨least,rfl,by omega⟩

/-- A committed goal that ended and whose deadline has passed. -/
def Registry.overdue (now : ℤ) (r : Registry) (record : GoalRecord) : Bool :=
  record.committed && isTerminalGoalState record.state &&
    decide (saturatingSteadyAdd record.terminalTime r.resultTimeout ≤ now)

/-- Something was queued for the next drain, or a goal has this deadline or an
earlier one. -/
def Registry.Owes (d : ℤ) (r : Registry) : Prop :=
  r.expiredNotifications ≠ [] ∨
    ∃ goalId record, r.goals.lookup goalId = some record ∧ r.overdue d record = true

namespace Registry

variable {r : Registry} {now now' d : ℤ} {goalId : GoalId} {record : GoalRecord} {op : Op}

/-- Elapsed time and absolute deadline select the same goals. -/
theorem prunable_eq_overdue (hnow : now < steadyMax) (r : Registry) (record : GoalRecord) :
    r.prunable now record = r.overdue now record := by
  have hdeadline := saturatingSteadyAdd_le_iff record.terminalTime r.resultTimeout hnow
  simp only [prunable,expiredLocked,overdue,record.scheduled_eq_terminal,hdeadline,Bool.and_assoc]

/-- An overdue goal is committed and ended, and its deadline has passed. -/
theorem overdue_iff : r.overdue now record = true ↔
    record.committed = true ∧ isTerminalGoalState record.state = true ∧
      saturatingSteadyAdd record.terminalTime r.resultTimeout ≤ now := by
  simp only [overdue,Bool.and_eq_true,decide_eq_true_eq,and_assoc]

/-- A drain reports something exactly when something is queued or a goal is prunable. -/
theorem expiryReady_iff : r.expiryReady now = true ↔
    r.expiredNotifications ≠ [] ∨
      ∃ goalId record, r.goals.lookup goalId = some record ∧ r.prunable now record = true := by
  simp only [expiryReady,Bool.or_eq_true,Bool.not_eq_true',List.isEmpty_eq_false_iff,
    List.any_eq_true]
  refine or_congr_right ⟨?_,?_⟩
  · intro h
    obtain ⟨entry,hentry,hprunable⟩ := h
    exact ⟨entry.1,entry.2,Table.lookup_of_mem_entries hentry,hprunable⟩
  · intro h
    obtain ⟨goalId,record,hfound,hprunable⟩ := h
    exact ⟨⟨goalId,record⟩,Table.mem_entries_of_lookup hfound,hprunable⟩

/-- The earliest deadline has passed exactly when some goal is overdue. -/
theorem earliestExpiry_le_iff : (∃ d, r.earliestExpiry = some d ∧ d ≤ now) ↔
    ∃ goalId record, r.goals.lookup goalId = some record ∧ r.overdue now record = true := by
  rw [earliestExpiry,exists_min?_le_iff]
  simp only [List.mem_map,List.mem_filter,Bool.and_eq_true]
  constructor
  · intro h
    obtain ⟨_,⟨entry,⟨hentry,hcommitted,hscheduled⟩,rfl⟩,hpassed⟩ := h
    have hterminal := entry.2.scheduled_eq_terminal ▸ hscheduled
    exact ⟨entry.1,entry.2,Table.lookup_of_mem_entries hentry,
      overdue_iff.mpr ⟨hcommitted,hterminal,hpassed⟩⟩
  · intro h
    obtain ⟨goalId,record,hfound,hoverdue⟩ := h
    obtain ⟨hcommitted,hterminal,hpassed⟩ := overdue_iff.mp hoverdue
    have hscheduled := record.scheduled_eq_terminal.symm ▸ hterminal
    exact ⟨_,⟨⟨goalId,record⟩,⟨Table.mem_entries_of_lookup hfound,hcommitted,hscheduled⟩,rfl⟩,
      hpassed⟩

/-- Without queued notifications readiness is a passed deadline. -/
theorem expiryReady_iff_earliestExpiry (hdrained : r.expiredNotifications = [])
    (hnow : now < steadyMax) :
    r.expiryReady now = true ↔ ∃ d, r.earliestExpiry = some d ∧ d ≤ now := by
  rw [expiryReady_iff,earliestExpiry_le_iff]
  simp only [hdrained,ne_eq,not_true_eq_false,false_or,prunable_eq_overdue hnow]

/-- Pruning erases the overdue goals and leaves every other record alone. -/
theorem lookup_prune_overdue (hnow : now < steadyMax) (r : Registry) (goalId : GoalId) :
    (r.pruneExpiredLocked now).goals.lookup goalId =
      (r.goals.lookup goalId).filter fun record => !r.overdue now record := by
  rw [lookup_prune]
  simp only [prunable_eq_overdue hnow]

/-- A deadline that the registry offers is owed. -/
theorem owes_earliestExpiry (h : r.earliestExpiry = some d) : r.Owes d :=
  .inr (earliestExpiry_le_iff.mp ⟨d,h,Int.le_refl d⟩)

/-- What is owed at a deadline is ready once the deadline has passed. -/
theorem Owes.ready (h : r.Owes d) (hd : d ≤ now) (hnow : now < steadyMax) :
    r.expiryReady now = true := by
  rw [expiryReady_iff]
  cases h with
  | inl hqueued => exact .inl hqueued
  | inr hgoal =>
    obtain ⟨goalId,record,hfound,hoverdue⟩ := hgoal
    have hlater : r.overdue now record = true := by
      have hparts := overdue_iff.mp hoverdue
      exact overdue_iff.mpr ⟨hparts.1,hparts.2.1,by omega⟩
    exact .inr ⟨goalId,record,hfound,(prunable_eq_overdue hnow r record).trans hlater⟩

/-- Readiness does not end by the passage of time. -/
theorem expiryReady_mono (h : r.expiryReady now = true) (hle : now ≤ now') :
    r.expiryReady now' = true := by
  rw [expiryReady_iff] at h ⊢
  refine h.imp_right fun hgoal => ?_
  obtain ⟨goalId,record,hfound,hprunable⟩ := hgoal
  refine ⟨goalId,record,hfound,?_⟩
  simp only [prunable,expiredLocked,Bool.and_eq_true,decide_eq_true_eq] at hprunable ⊢
  exact ⟨hprunable.1,hprunable.2.1,by omega⟩

/-- Whatever is queued stays queued until a drain. -/
theorem notifications_kept (hop : op ≠ .takeExpiredGoals) (h : r.expiredNotifications ≠ []) :
    (r.apply now op).2.expiredNotifications ≠ [] := by
  rw [(apply_frame now op r).2,if_neg hop]
  split
  · exact List.append_ne_nil_of_left_ne_nil h _
  · exact h

/-- A pruned goal is queued. -/
theorem notifications_of_prune (hfound : r.goals.lookup goalId = some record)
    (hprunable : r.prunable now record = true) :
    (r.pruneExpiredLocked now).expiredNotifications ≠ [] := by
  have hentry : (⟨goalId,record⟩ : Sigma fun _ => GoalRecord) ∈
      r.goals.entries.filter fun e => r.prunable now e.2 :=
    List.mem_filter.mpr ⟨Table.mem_entries_of_lookup hfound,hprunable⟩
  exact List.append_ne_nil_of_right_ne_nil _ fun hnil => by
    simp [List.map_eq_nil_iff.mp hnil] at hentry

/-- Until a drain a committed goal that ended keeps its times, or it is queued. -/
theorem terminal_kept (hop : op ≠ .takeExpiredGoals) (hfound : r.goals.lookup goalId = some record)
    (hcommitted : record.committed = true) (hterminal : isTerminalGoalState record.state = true) :
    (r.apply now op).2.expiredNotifications ≠ [] ∨
      ∃ record', (r.apply now op).2.goals.lookup goalId = some record' ∧
        record'.committed = true ∧ record'.state = record.state ∧
        record'.terminalTime = record.terminalTime := by
  have hstep := apply_recordStep now op r goalId
  rw [hfound] at hstep
  generalize hafter : (r.apply now op).2.goals.lookup goalId = after at hstep ⊢
  generalize (r.apply now op).1 = outcome at hstep
  cases hstep with
  | keep => exact .inr ⟨record,rfl,hcommitted,rfl,rfl⟩
  | prune _ _ _ hquiet hprunes hprunable =>
    left
    rw [(apply_frame now op r).2,if_neg hop,if_pos hprunes]
    exact notifications_of_prune hfound hprunable
  | rollback _ hreserved => simp [hcommitted] at hreserved
  | commit _ _ _ _ hreserved => simp [hcommitted] at hreserved
  | enter _ _ _ _ hactive => simp [hterminal] at hactive
  | append _ _ hcommitted' hactive => simp [hterminal] at hactive
  | take => exact .inr ⟨_,rfl,hcommitted,rfl,rfl⟩
  | forget => exact .inr ⟨_,rfl,hcommitted,rfl,rfl⟩

/-- What is owed stays owed until a drain. -/
theorem Owes.apply (h : r.Owes d) (hop : op ≠ .takeExpiredGoals) :
    (r.apply now op).2.Owes d := by
  cases h with
  | inl hqueued => exact .inl (notifications_kept hop hqueued)
  | inr hgoal =>
    obtain ⟨goalId,record,hfound,hoverdue⟩ := hgoal
    obtain ⟨hcommitted,hterminal,hpassed⟩ := overdue_iff.mp hoverdue
    refine (terminal_kept hop hfound hcommitted hterminal).imp_right fun hkept => ?_
    obtain ⟨record',hfound',hcommitted',hstate,htime⟩ := hkept
    refine ⟨goalId,record',hfound',overdue_iff.mpr ⟨hcommitted',?_,?_⟩⟩
    · rw [hstate]
      exact hterminal
    · rw [htime,(apply_frame now op r).1]
      exact hpassed

/-- What is ready stays ready until a drain. -/
theorem expiryReady_apply (h : r.expiryReady now = true) (hop : op ≠ .takeExpiredGoals) :
    (r.apply now' op).2.expiryReady now = true := by
  rw [expiryReady_iff] at h ⊢
  cases h with
  | inl hqueued => exact .inl (notifications_kept hop hqueued)
  | inr hgoal =>
    obtain ⟨goalId,record,hfound,hprunable⟩ := hgoal
    obtain ⟨hcommitted,hterminal,helapsed⟩ := terminal_of_prunable hprunable
    refine (terminal_kept hop hfound hcommitted hterminal).imp_right fun hkept => ?_
    obtain ⟨record',hfound',hcommitted',hstate,htime⟩ := hkept
    refine ⟨goalId,record',hfound',?_⟩
    simp only [prunable,expiredLocked,record'.scheduled_eq_terminal,hstate,htime,hcommitted',
      hterminal,(apply_frame now' op r).1,Bool.true_and,decide_eq_true_eq]
    exact helapsed

end Registry

end Dmw.GoalRegistry
