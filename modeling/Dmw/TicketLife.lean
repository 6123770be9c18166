import Mathlib.Data.List.Induction

/-!
# The life of an admission ticket

What a ticket is for: it is reserved, it is either abandoned or enqueued, and a
job that was enqueued is worked on, possibly several times, or cancelled; then
its completion is put into a mailbox once, and acknowledging it releases the
ticket. A deed that does not fit the stage of the ticket has no next stage.
-/

namespace Dmw.TicketLife

/-- Stage of a ticket. -/
inductive Stage
  | unissued
  | reserved
  | queued
  | running
  | retryWaiting
  /-- Done, not yet in the mailbox. -/
  | completed
  /-- In the mailbox. -/
  | mailed
  | released
  deriving DecidableEq

/-- What is done to a ticket. -/
inductive Deed
  | reserve
  | abandon
  | enqueue
  /-- The worker takes it from its queue. -/
  | take
  /-- The job runs. -/
  | run
  /-- It has to wait for another attempt. -/
  | delay
  /-- It is queued for another attempt. -/
  | requeue
  | complete
  /-- Its completion is put into the mailbox. -/
  | publish
  /-- Taken out of its queue, completed and put into the mailbox at once. -/
  | cancel
  | acknowledge
  deriving DecidableEq

/-- Stage after a deed. -/
def Stage.next : Stage → Deed → Option Stage
  | .unissued, .reserve => some .reserved
  | .reserved, .abandon => some .released
  | .reserved, .enqueue => some .queued
  | .queued, .take => some .running
  | .queued, .cancel => some .mailed
  | .running, .run => some .running
  | .running, .delay => some .retryWaiting
  | .running, .complete => some .completed
  | .retryWaiting, .requeue => some .queued
  | .completed, .publish => some .mailed
  | .mailed, .acknowledge => some .released
  | _, _ => none

/-- Stage after a list of deeds. -/
def Stage.after (s : Stage) : List Deed → Option Stage
  | [] => some s
  | d :: ds => (s.next d).bind fun s' => s'.after ds

/-- Deeds that release a ticket. -/
def Deed.releases : Deed → Bool
  | .abandon | .acknowledge => true
  | _ => false

/-- Deeds that put a completion into a mailbox. -/
def Deed.mails : Deed → Bool
  | .publish | .cancel => true
  | _ => false

/-- Deeds that complete a ticket. -/
def Deed.completes : Deed → Bool
  | .complete | .cancel => true
  | _ => false

section Lives

variable {s s' : Stage} {d : Deed} {ds es : List Deed}

/-- Two lists of deeds one after the other. -/
theorem after_append : s.after (ds ++ es) = (s.after ds).bind fun s' => s'.after es := by
  induction ds generalizing s with
  | nil => rfl
  | cons d ds ih =>
    cases hnext : s.next d with
    | none => simp [Stage.after, hnext]
    | some s' => simp [Stage.after, hnext, ih]

/-- One deed more. -/
theorem after_concat (h : s.after ds = some s') : s.after (ds ++ [d]) = s'.next d := by
  rw [after_append, h, Option.bind_some, Stage.after]
  exact Option.bind_fun_some _

/-- Nothing is done to a released ticket. -/
theorem after_released (h : Stage.released.after ds = some s) : ds = [] := by
  cases ds with
  | nil => rfl
  | cons d ds => cases d <;> cases h

/-- A mailed ticket is acknowledged, or nothing is done to it. -/
theorem after_mailed (h : Stage.mailed.after ds = some s) : ds = [] ∨ ds = [.acknowledge] := by
  cases ds with
  | nil => exact .inl rfl
  | cons d ds =>
    cases d with
    | acknowledge =>
      have hrest : Stage.released.after ds = some s := h
      rw [after_released hrest]
      exact .inr rfl
    | _ => cases h

/-- After a cancellation a ticket is acknowledged at most. -/
theorem after_cancel (h : s.after (ds ++ .cancel :: es) = some s') :
    es = [] ∨ es = [.acknowledge] := by
  rw [after_append] at h
  obtain ⟨mid,_,hrest⟩ := Option.bind_eq_some_iff.mp h
  obtain ⟨place,hcancel,hend⟩ := Option.bind_eq_some_iff.mp hrest
  cases mid <;> cases hcancel
  exact after_mailed hend

/-- A cancelled ticket is in the mailbox or released. -/
theorem stage_of_cancel (h : s.after ds = some s') (hcancel : .cancel ∈ ds) :
    s' = .mailed ∨ s' = .released := by
  obtain ⟨before,rest,rfl⟩ := List.append_of_mem hcancel
  have hrest := after_cancel h
  rw [after_append] at h
  obtain ⟨mid,_,hend⟩ := Option.bind_eq_some_iff.mp h
  rcases hrest with rfl | rfl
  · cases mid <;> cases hend
    exact .inl rfl
  · cases mid <;> cases hend
    exact .inr rfl

/-- What has been done to a ticket at each stage. -/
structure Told (ds : List Deed) (s : Stage) : Prop where
  /-- A released ticket was released once, any other one never. -/
  releases : ds.countP Deed.releases = if s = .released then 1 else 0
  /-- From the mailbox on, it was put there once, unless it was abandoned. -/
  mails : ds.countP Deed.mails + ds.count .abandon = if s = .mailed ∨ s = .released then 1 else 0
  /-- An abandoned ticket was never enqueued. -/
  abandons : ds.count .abandon ≠ 0 → ds.count .enqueue = 0
  /-- A ticket that was reserved only was not enqueued. -/
  enqueues : s = .unissued ∨ s = .reserved → ds.count .enqueue = 0
  /-- Every ticket that was issued was reserved once. -/
  reserves : ds.count .reserve = if s = .unissued then 0 else 1

/-- A ticket is released by abandoning or acknowledging it. -/
theorem countP_releases (ds : List Deed) :
    ds.countP Deed.releases = ds.count .abandon + ds.count .acknowledge := by
  induction ds with
  | nil => rfl
  | cons d ds ih =>
    rw [List.countP_cons, List.count_cons, List.count_cons, ih]
    cases d <;> simp [Deed.releases] <;> omega

/-- What was acknowledged had been mailed once. -/
theorem Told.acknowledged (h : Told ds s) (hack : .acknowledge ∈ ds) :
    ds.countP Deed.mails = 1 := by
  have hcount : 0 < ds.count .acknowledge := List.count_pos_iff.mpr hack
  have hreleases := h.releases
  have hmails := h.mails
  rw [countP_releases] at hreleases
  by_cases hs : s = .released
  · rw [if_pos hs] at hreleases
    rw [if_pos (.inr hs)] at hmails
    omega
  · rw [if_neg hs] at hreleases
    omega

/-- Nothing has been done to a ticket that was not issued. -/
theorem Told.nil : Told [] .unissued := by
  constructor <;> simp

/-- Each deed is told. -/
theorem Told.concat (h : Told ds s) (hnext : s.next d = some s') : Told (ds ++ [d]) s' := by
  obtain ⟨hreleases,hmails,habandons,henqueues,hreserves⟩ := h
  -- One case for each transition, and one fact for each count.
  cases s <;> cases d <;> cases hnext <;>
    constructor <;> simp_all [List.countP_append, Deed.releases, Deed.mails]

/-- The stage tells what has been done. -/
theorem told_of_after (h : Stage.unissued.after ds = some s) : Told ds s := by
  induction ds using List.reverseRecOn generalizing s with
  | nil =>
    cases h
    exact Told.nil
  | append_singleton ds d ih =>
    rw [after_append] at h
    obtain ⟨mid, hmid, hlast⟩ := Option.bind_eq_some_iff.mp h
    obtain ⟨next, hnext, hend⟩ := Option.bind_eq_some_iff.mp hlast
    cases hend
    exact (ih hmid).concat hnext

end Lives

end Dmw.TicketLife
