import Dmw.EntityLeases

/-!
# What an event of the lease protocol leaves alone

The frame of every event: the other threads, the lease objects it is not given,
the counters it cannot raise and a `Closed` that is published.
-/

namespace Dmw.EntityLeases

/-- The thread that an event is a step of. -/
def Event.thread (e : Event) : Option ThreadId :=
  match e with
  | .step t => some t
  | e => e.caller

/-- Calls that may count one lease more. -/
def Event.grants : Event → Bool
  | .acquire _ _ _ | .prepareOperation _ _ _ | .deriveCleanup _ _ _ => true
  | _ => false

section

variable {b : Backing} {t t' : ThreadId} {lease : LeaseId} {move : Option Move}

/-- Another thread is where it was. -/
theorem goto_pc (ht : t' ≠ t) (pc : Pc) : (b.goto t pc).pc t' = b.pc t' :=
  Function.update_of_ne ht _ _

theorem finish_pc (ht : t' ≠ t) : (b.finish t move).pc t' = b.pc t' := by
  cases move with
  | none => exact goto_pc ht _
  | some move => exact Function.update_of_ne ht _ _

theorem reset_pc (ht : t' ≠ t) : (b.reset t lease move).pc t' = b.pc t' := by
  unfold Backing.reset
  cases b.holds (.object lease) with
  | none => exact finish_pc ht
  | some kind => exact goto_pc ht _

theorem step_pc (ht : t' ≠ t) : (b.step t).pc t' = b.pc t' := by
  unfold Backing.step
  cases b.pc t with
  | idle => rfl
  | releasing kind move => exact goto_pc ht _
  | finalizing move =>
    simp only [Backing.tryFinalize]
    split
    · exact finish_pc ht
    · exact goto_pc ht _
  | destroying move => exact goto_pc ht _
  | publishing move => exact finish_pc ht

/-- A thread moves by its own events only. -/
theorem next_pc {s : System} {e : Event} (hthread : e.thread ≠ some t') :
    (next s e).backing.pc t' = s.backing.pc t' := by
  have hother : ∀ {t}, e.thread = some t → t' ≠ t := by
    rintro t ht rfl
    exact hthread ht
  cases e with
  | acquire t kind lease =>
    exact acquire_keeps (fun b => b.pc t') s.admission kind rfl
  | prepareOperation t throws lease =>
    exact prepareOperation_keeps (fun b => b.pc t') s.admission throws rfl
  | deriveCleanup t source lease => exact deriveCleanup_keeps (fun b => b.pc t') source rfl
  | moveConstruct t move => rfl
  | moveAssign t move =>
    show (s.backing.moveAssign t move).pc t' = s.backing.pc t'
    unfold Backing.moveAssign
    split
    · rfl
    · exact reset_pc (hother rfl)
  | reset t lease => exact reset_pc (hother rfl)
  | setRegistered t value =>
    exact setRegistered_keeps (fun b => b.pc t') value (goto_pc (hother rfl) _)
  | close t =>
    show (s.backing.close t).pc t' = s.backing.pc t'
    unfold Backing.close
    split
    · rfl
    · exact goto_pc (hother rfl) _
  | stopAdmission => rfl
  | step t => exact step_pc (hother rfl)

/-- What is known of a lease object that an event is not about. -/
def Backing.object (b : Backing) (lease : LeaseId) : Option LeaseKind × Bool :=
  (b.holds (.object lease),b.moving lease)

/-- A lease that another object gets. -/
theorem give_object {lease' : LeaseId} (hne : lease ≠ lease') (held : Option LeaseKind) :
    (b.give (.object lease') held).object lease = b.object lease := by
  have hholder : Holder.object lease ≠ .object lease' := fun h => hne (Holder.object.inj h)
  simp only [Backing.object,Backing.give,Function.update_of_ne hholder]

/-- A lease that a thread gets or gives back. -/
theorem give_call (held : Option LeaseKind) :
    (b.give (.call t) held).object lease = b.object lease := by
  have hholder : Holder.object lease ≠ .call t := Holder.noConfusion
  simp only [Backing.object,Backing.give,Function.update_of_ne hholder]

theorem finish_object (hfree : ∀ m, move = some m → ¬ m.About lease) :
    (b.finish t move).object lease = b.object lease := by
  cases move with
  | none => rfl
  | some m =>
    have habout := hfree m rfl
    have hsource : lease ≠ m.source := fun h => habout (.inl h)
    have htarget : lease ≠ m.target := fun h => habout (.inr h)
    simp only [Backing.object,Backing.finish,Backing.goto,Function.update_of_ne hsource,
      Function.update_of_ne htarget,transfer_object hsource htarget]

theorem reset_object {lease' : LeaseId} (hne : lease ≠ lease')
    (hfree : ∀ m, move = some m → ¬ m.About lease) :
    (b.reset t lease' move).object lease = b.object lease := by
  unfold Backing.reset
  cases b.holds (.object lease') with
  | none => exact finish_object hfree
  | some kind =>
    show ((b.give (.object lease') none).give (.call t) (some kind)).object lease = _
    rw [give_call,give_object hne]

theorem step_object (hleases : Leases b) (hmoving : b.moving lease = false) :
    (b.step t).object lease = b.object lease := by
  have hfree : ∀ m, (b.pc t).move = some m → ¬ m.About lease := fun m hm habout =>
    hleases.not_usable hm habout hmoving
  unfold Backing.step
  cases hpc : b.pc t with
  | idle => rfl
  | releasing kind move =>
    exact @give_call {b with refs := Function.update b.refs kind (b.refs kind - 1)} t lease none
  | finalizing move =>
    rw [hpc] at hfree
    simp only [Backing.tryFinalize]
    split
    · exact finish_object hfree
    · rfl
  | destroying move => rfl
  | publishing move =>
    rw [hpc] at hfree
    exact finish_object hfree

/-- A lease object is changed by the events that are given it, and by move
assignments it is the source or target of. -/
theorem next_object {s : System} {e : Event} (hleases : Leases s.backing)
    (hmoving : s.backing.moving lease = false) (hnot : lease ∉ e.leases) :
    (next s e).backing.object lease = s.backing.object lease := by
  cases e with
  | acquire t kind lease' =>
    have hne : lease ≠ lease' := fun h => hnot (h ▸ List.mem_singleton_self _)
    exact acquire_keeps (fun b => b.object lease) s.admission kind (give_object hne _)
  | prepareOperation t throws lease' =>
    have hne : lease ≠ lease' := fun h => hnot (h ▸ List.mem_singleton_self _)
    exact prepareOperation_keeps (fun b => b.object lease) s.admission throws (give_object hne _)
  | deriveCleanup t source lease' =>
    have hne : lease ≠ lease' := fun h => hnot (h ▸ List.mem_cons_of_mem _ List.mem_cons_self)
    exact deriveCleanup_keeps (fun b => b.object lease) source (give_object hne _)
  | moveConstruct t move =>
    have hsource : lease ≠ move.source := fun h => hnot (h ▸ List.mem_cons_self)
    have htarget : lease ≠ move.target :=
      fun h => hnot (h ▸ List.mem_cons_of_mem _ List.mem_cons_self)
    show ((s.backing.give (.object move.source) none).give (.object move.target) _).object lease = _
    rw [give_object htarget,give_object hsource]
  | moveAssign t move =>
    have hsource : lease ≠ move.source := fun h => hnot (h ▸ List.mem_cons_self)
    have htarget : lease ≠ move.target :=
      fun h => hnot (h ▸ List.mem_cons_of_mem _ List.mem_cons_self)
    show (s.backing.moveAssign t move).object lease = _
    unfold Backing.moveAssign
    split
    · rfl
    · rw [reset_object htarget]
      · simp only [Backing.object,Function.update_of_ne hsource,Function.update_of_ne htarget]
      · intro m hm
        obtain rfl := Option.some.inj hm
        rintro (h | h)
        · exact hsource h
        · exact htarget h
  | reset t lease' =>
    have hne : lease ≠ lease' := fun h => hnot (h ▸ List.mem_singleton_self _)
    refine reset_object hne ?_
    intro m hm
    cases hm
  | setRegistered t value => exact setRegistered_keeps (fun b => b.object lease) value rfl
  | close t =>
    show (s.backing.close t).object lease = _
    unfold Backing.close
    split <;> rfl
  | stopAdmission => rfl
  | step t => exact step_object hleases hmoving

theorem finish_refs : (b.finish t move).refs = b.refs := by
  cases move <;> rfl

theorem reset_refs : (b.reset t lease move).refs = b.refs := by
  unfold Backing.reset
  cases b.holds (.object lease) with
  | none => exact finish_refs
  | some kind => rfl

/-- A step of a call gives leases back only. -/
theorem step_refs (kind : LeaseKind) : (b.step t).refs kind ≤ b.refs kind := by
  unfold Backing.step
  cases b.pc t with
  | idle => exact le_rfl
  | releasing kind' move =>
    by_cases hkind : kind = kind'
    · subst hkind
      simp [Backing.release,Backing.goto,Backing.give]
    · simp [Backing.release,Backing.goto,Backing.give,hkind]
  | finalizing move =>
    simp only [Backing.tryFinalize]
    split
    · rw [finish_refs]
    · exact le_rfl
  | destroying move => exact le_rfl
  | publishing move =>
    simp only [finish_refs]
    exact le_rfl

/-- Other calls count no lease more. -/
theorem next_refs {s : System} {e : Event} (hgrants : e.grants = false) (kind : LeaseKind) :
    (next s e).backing.refs kind ≤ s.backing.refs kind := by
  cases e with
  | acquire t kind lease => cases hgrants
  | prepareOperation t throws lease => cases hgrants
  | deriveCleanup t source lease => cases hgrants
  | moveConstruct t move => exact le_rfl
  | moveAssign t move =>
    show (s.backing.moveAssign t move).refs kind ≤ _
    unfold Backing.moveAssign
    split
    · exact le_rfl
    · rw [reset_refs]
  | reset t lease =>
    show (s.backing.reset t lease none).refs kind ≤ _
    rw [reset_refs]
  | setRegistered t value =>
    exact (setRegistered_keeps (fun b => b.refs kind) value rfl).le
  | close t =>
    show (s.backing.close t).refs kind ≤ _
    unfold Backing.close
    split <;> exact le_rfl
  | stopAdmission => exact le_rfl
  | step t => exact step_refs kind

/-- Without admission no operation is counted more. -/
theorem next_operations {s : System} (e : Event) (hadmission : s.admission = false) :
    (next s e).backing.refs .operation ≤ s.backing.refs .operation := by
  cases e with
  | acquire t kind lease =>
    show (s.backing.orSame (s.backing.acquire s.admission kind lease)).refs .operation ≤ _
    rw [hadmission]
    exact le_rfl
  | prepareOperation t throws lease =>
    show (s.backing.orSame (s.backing.prepareOperation s.admission throws lease)).refs .operation ≤ _
    rw [hadmission]
    exact le_rfl
  | deriveCleanup t source lease =>
    exact (deriveCleanup_keeps (fun b => b.refs .operation) source rfl).le
  | moveConstruct t move => exact next_refs rfl _
  | moveAssign t move => exact next_refs rfl _
  | reset t lease => exact next_refs rfl _
  | setRegistered t value => exact next_refs rfl _
  | close t => exact next_refs rfl _
  | stopAdmission => exact next_refs rfl _
  | step t => exact next_refs rfl _

/-- `Closed` is the last state. -/
theorem next_closed {s : System} (e : Event) (hclosed : s.backing.state = .closed) :
    (next s e).backing.state = .closed := by
  cases e with
  | acquire t kind lease =>
    exact (acquire_keeps (fun b => b.state) s.admission kind rfl).trans hclosed
  | prepareOperation t throws lease =>
    exact (prepareOperation_keeps (fun b => b.state) s.admission throws rfl).trans hclosed
  | deriveCleanup t source lease =>
    exact (deriveCleanup_keeps (fun b => b.state) source rfl).trans hclosed
  | moveConstruct t move => exact hclosed
  | moveAssign t move =>
    show (s.backing.moveAssign t move).state = .closed
    unfold Backing.moveAssign
    split
    · exact hclosed
    · exact (reset_state (some move)).trans hclosed
  | reset t lease => exact (reset_state none).trans hclosed
  | setRegistered t value => exact (setRegistered_keeps (fun b => b.state) value rfl).trans hclosed
  | close t =>
    show (s.backing.close t).state = .closed
    unfold Backing.close
    rw [if_pos (by rw [hclosed]; exact EntityState.noConfusion)]
    exact hclosed
  | stopAdmission => exact hclosed
  | step t =>
    show (s.backing.step t).state = .closed
    unfold Backing.step
    cases s.backing.pc t with
    | idle => exact hclosed
    | releasing kind move => exact hclosed
    | finalizing move =>
      simp only [Backing.tryFinalize]
      split
      · exact (finish_state move).trans hclosed
      · exact hclosed
    | destroying move => exact hclosed
    | publishing move => exact finish_state move

theorem finish_empty (h : Empty b) : Empty (b.finish t move) := by
  cases move with
  | none => exact h
  | some move => exact (transfer_empty (h _)).mpr h

/-- A call in progress brings no lease into being. -/
theorem step_empty (h : Empty b) (t : ThreadId) : Empty (b.step t) := by
  unfold Backing.step
  cases b.pc t with
  | idle => exact h
  | releasing kind move =>
    intro holder
    by_cases hholder : holder = .call t
    · rw [hholder]
      exact Function.update_self _ _ _
    · exact (Function.update_of_ne hholder _ _).trans (h holder)
  | finalizing move =>
    simp only [Backing.tryFinalize]
    split
    · exact finish_empty h
    · exact h
  | destroying move => exact h
  | publishing move => exact finish_empty h

theorem finish_registered : (b.finish t move).registered = b.registered := by
  cases move <;> rfl

/-- Nor a registration. -/
theorem step_registered (t : ThreadId) : (b.step t).registered = b.registered := by
  unfold Backing.step
  cases b.pc t with
  | idle => rfl
  | releasing kind move => rfl
  | finalizing move =>
    simp only [Backing.tryFinalize]
    split
    · exact finish_registered
    · rfl
  | destroying move => rfl
  | publishing move => exact finish_registered

end

end Dmw.EntityLeases
