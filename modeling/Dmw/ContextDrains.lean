import Dmw.ContextChildren

/-!
# When the DMW Context is shut down

`finish_shutdown` drains a copy of the children. A child that is adopted later
closes itself under the operation lease of its Node, which the copy has; it is
waited for with the Node as long as nobody else gets to close it first.
-/

namespace Dmw.ContextChildren

open GuardedRuns EntityLeases

/-- The entity that a thread is about to close. -/
def Task.closes : Task → Option Entity
  | .adopting _ _ c | .closeChildren (c :: _) | .draining (c :: _) => some (.child c)
  | .shutDown => some .context
  | _ => none

/-- What a step of a thread may do to a backing. -/
inductive Touches (s : System) (t : ThreadId) (e : Entity) : EntityLeases.Event → Prop
  /-- It goes on inside of it. -/
  | step (hseat : (s.task t).seat = some e) (hbusy : (s.backing e).pc t ≠ .idle) :
      Touches s t e (.step t)
  /-- It closes it. -/
  | close (hcloses : (s.task t).closes = some e) : Touches s t e (.close t)
  /-- It gives the lease of its create call back. -/
  | leave {lease : LeaseId} {child : Option ChildId} (htask : s.task t = .leaving e lease child) :
      Touches s t e (.reset t lease)
  /-- It gives the lease of the Context back. -/
  | reset (htask : s.task t = .resetting) (hcontext : e = .context) :
      Touches s t e (.reset t control)

/-- What a step of a thread leaves of a backing. -/
def Touched (s : System) (t : ThreadId) (e : Entity) (b : Backing) : Prop :=
  b = s.backing e ∨
    ∃ ev, Touches s t e ev ∧ b = (EntityLeases.next ⟨s.admission,s.backing e⟩ ev).backing

section

variable {s : System} {t t' : ThreadId} {e e' : Entity} {ev : EntityLeases.Event} {c : ChildId}

/-- An event on one entity. -/
theorem on_touches {s' : System} (hadmission : s'.admission = s.admission)
    (hbacking : s'.backing = s.backing) (htouches : Touches s t e' ev) :
    Touched s t e ((s'.on e' ev).backing e) := by
  by_cases he : e = e'
  · subst he
    refine .inr ⟨ev, htouches, ?_⟩
    rw [on_self,hadmission,hbacking]
  · rw [on_other he,hbacking]
    exact .inl rfl

/-- A thread inside a call takes a step there. -/
theorem inside_touches {done : System → System} (hseat : (s.task t).seat = some e')
    (hdone : (done s).backing = s.backing) :
    Touched s t e ((s.inside t e' done).backing e) := by
  unfold System.inside
  split
  · rw [hdone]
    exact .inl rfl
  · next hbusy => exact on_touches rfl rfl (.step hseat hbusy)

/-- A step of a thread on a backing. -/
theorem step_touches (t : ThreadId) (e : Entity) :
    Touched s t e ((s.step t).backing e) := by
  unfold System.step
  cases htask : s.task t with
  | idle => exact .inl rfl
  | creating parent lease => exact .inl rfl
  | calling e' => exact inside_touches (by rw [htask]; rfl) rfl
  | adopting parent lease c => exact on_touches rfl rfl (.close (by rw [htask]; rfl))
  | selfClosing parent lease c => exact inside_touches (by rw [htask]; rfl) rfl
  | leaving parent lease child => exact on_touches rfl rfl (.leave htask)
  | left parent child =>
    refine inside_touches (by rw [htask]; rfl) ?_
    cases child <;> rfl
  | closeChildren todo =>
    cases todo with
    | nil => exact .inl rfl
    | cons c rest => exact on_touches rfl rfl (.close (by rw [htask]; rfl))
  | closingChild c rest => exact inside_touches (by rw [htask]; rfl) rfl
  | checking =>
    simp only []
    split_ifs <;> exact .inl rfl
  | waitingOperations =>
    simp only []
    split_ifs <;> exact .inl rfl
  | copying => exact .inl rfl
  | draining todo =>
    cases todo with
    | nil => exact .inl rfl
    | cons c rest => exact on_touches rfl rfl (.close (by rw [htask]; rfl))
  | drainingChild c rest => exact inside_touches (by rw [htask]; rfl) rfl
  | waitingChild c rest =>
    simp only []
    split_ifs <;> exact .inl rfl
  | shutDown => exact on_touches rfl rfl (.close (by rw [htask]; rfl))
  | closingContext => exact inside_touches (by rw [htask]; rfl) rfl
  | resetting => exact on_touches rfl rfl (.reset htask rfl)
  | resettingControl => exact inside_touches (by rw [htask]; rfl) rfl
  | waitingContext =>
    simp only []
    split_ifs <;> exact .inl rfl

/-- What holds before the next section of a thread, and through everything that a
section does, holds after it. A section may copy the list or end the shutdown
instead. -/
theorem step_induct {P Q : System → Prop} (t : ThreadId) (hstays : ∀ s', Q s' → P s')
    (h : Q s) (hon : ∀ s' e ev, Q s' → Q (s'.on e ev)) (hgoto : ∀ s' task, Q s' → Q (s'.goto t task))
    (hunkeep : Q (s.unkeep t)) (hreserve : ∀ e lease value, Q (s.reserve e lease value))
    (hconstruct : ∀ child, Q (s.construct child))
    (hcopy : s.task t = .copying →
      P (({s with snapshot := some s.alive}.keep t s.alive).goto t (.draining s.alive)))
    (hfinish : (s.task t).finishes = true → P (s.finish t)) : P (s.step t) := by
  have hgoes : ∀ {s' : System} {task : Task} {e : Entity} {ev : EntityLeases.Event},
      Q s' → P ((s'.goto t task).on e ev) :=
    fun hs' => hstays _ (hon _ _ _ (hgoto _ _ hs'))
  have hinside : ∀ {e : Entity} {done : System → System}, Q (done s) → P (s.inside t e done) := by
    intro e done hdone
    unfold System.inside
    split
    · exact hstays _ hdone
    · exact hstays _ (hon _ _ _ h)
  unfold System.step
  cases htask : s.task t with
  | idle => exact hstays _ h
  | creating parent lease => exact hstays _ h
  | calling e' => exact hinside (hgoto _ _ hunkeep)
  | adopting parent lease c => exact hgoes h
  | selfClosing parent lease c => exact hinside (hgoto _ _ h)
  | leaving parent lease child => exact hgoes (hreserve _ _ _)
  | left parent child => exact hinside (hgoto _ _ (hconstruct _))
  | closeChildren todo =>
    cases todo with
    | nil => exact hstays _ (hgoto _ _ hunkeep)
    | cons c rest => exact hgoes h
  | closingChild c rest => exact hinside (hgoto _ _ h)
  | checking =>
    simp only []
    split_ifs
    · exact hfinish (by rw [htask]; rfl)
    · exact hfinish (by rw [htask]; rfl)
    · exact hstays _ (hgoto _ _ h)
  | waitingOperations =>
    simp only []
    split_ifs
    · exact hstays _ (hgoto _ _ h)
    · exact hstays _ h
  | copying => exact hcopy htask
  | draining todo =>
    cases todo with
    | nil => exact hstays _ h
    | cons c rest => exact hgoes h
  | drainingChild c rest => exact hinside (hgoto _ _ h)
  | waitingChild c rest =>
    simp only []
    split_ifs
    · exact hstays _ (hgoto _ _ h)
    · exact hstays _ h
  | shutDown => exact hgoes h
  | closingContext => exact hinside (hgoto _ _ h)
  | resetting => exact hgoes h
  | resettingControl => exact hinside (hgoto _ _ h)
  | waitingContext =>
    simp only []
    split_ifs
    · exact hfinish (by rw [htask]; rfl)
    · exact hstays _ h

/-- What the steps of a thread read only. -/
theorem step_reads {α : Type*} (read : System → α) (t : ThreadId)
    (hon : ∀ s e ev, read (s.on e ev) = read s) (hgoto : ∀ s task, read (s.goto t task) = read s)
    (hkeep : ∀ s children, read (s.keep t children) = read s)
    (hunkeep : ∀ s, read (s.unkeep t) = read s)
    (hreserve : ∀ s e lease value, read (s.reserve e lease value) = read s)
    (hconstruct : ∀ s child, read (s.construct child) = read s)
    (hfinish : ∀ s, read (s.finish t) = read s)
    (hsnapshot : ∀ s snapshot, read {s with snapshot := snapshot} = read s) :
    read (s.step t) = read s := by
  refine step_induct (P := fun s' => read s' = read s) (Q := fun s' => read s' = read s) t
    (fun _ h => h) rfl (fun _ _ _ h => (hon _ _ _).trans h) (fun _ _ h => (hgoto _ _).trans h)
    (hunkeep s) (hreserve s) (hconstruct s) (fun _ => ?_) fun _ => hfinish s
  rw [hgoto,hkeep,hsnapshot]

/-- The steps of a thread adopt nothing and admit nothing. -/
theorem step_history (t : ThreadId) :
    (s.step t).admission = s.admission ∧ (s.step t).adopted = s.adopted ∧
      (s.step t).late = s.late ∧ (s.step t).owned = s.owned := by
  refine ⟨?_, ?_, ?_, ?_⟩
  all_goals
    refine step_reads _ t (fun _ _ _ => rfl) (fun _ _ => rfl) (fun _ _ => rfl) (fun _ => rfl)
      (fun _ _ _ _ => rfl) ?_ (fun _ => rfl) (fun _ _ => rfl)
    intro s child
    cases child <;> rfl

/-- Nor do they move another thread. -/
theorem step_task (ht : t' ≠ t) : (s.step t).task t' = s.task t' := by
  refine step_reads (fun s => s.task t') t (fun _ _ _ => rfl) (fun _ _ => goto_other ht)
    (fun _ _ => rfl) (fun _ => rfl) (fun _ _ _ _ => rfl) ?_ (fun _ => goto_other ht)
    (fun _ _ => rfl)
  intro s child
  cases child <;> rfl

end

/-- The thread that an event is a step of. -/
def Event.thread : Event → Option ThreadId
  | .call t _ _ | .create t _ _ | .fail t | .adopt t _ | .closeChildren t | .finishShutdown t
  | .shutdown t _ | .step t => some t
  | .stopAdmission | .drop _ => none

section

variable {s : System} {t : ThreadId} {e : Event} {c : ChildId}

/-- What every event of the lease protocol keeps, a child keeps. -/
theorem backing_keeps {P : Backing → Prop}
    (hP : ∀ admission b ev, P b → P (EntityLeases.next ⟨admission,b⟩ ev).backing)
    (henabled : Enabled s e) (hadopted : s.adopted c = true) (h : P (s.backing (.child c))) :
    P ((next s e).backing (.child c)) := by
  have hon : ∀ {s' : System} {entity ev}, s'.backing = s.backing →
      P ((s'.on entity ev).backing (.child c)) := by
    intro s' entity ev hbacking
    refine on_keeps (P := fun _ b => P b) (by rw [hbacking]; exact h) fun he => ?_
    rw [← he,hbacking]
    exact hP _ _ _ h
  cases e with
  | call t entity ev =>
    simp only [next]
    cases entity with
    | context => exact hon rfl
    | child c' => exact hon rfl
  | stopAdmission => exact h
  | create t parent lease =>
    simp only [next,System.create]
    split
    · exact h
    · exact hon rfl
  | fail t =>
    obtain ⟨entity, lease, htask⟩ := creating_of henabled
    simp only [next,htask]
    exact h
  | adopt t c' =>
    obtain ⟨entity, lease, htask⟩ := creating_of henabled.1
    simp only [next,htask]
    have hc : Entity.child c ≠ .child c' := by
      rintro heq
      obtain rfl := Entity.child.inj heq
      exact Bool.noConfusion (hadopted.symm.trans henabled.2)
    show P ((s.enlist c').backing (.child c))
    rw [enlist_backing hc]
    exact h
  | closeChildren t => exact h
  | finishShutdown t => exact h
  | shutdown t succeeds => cases succeeds <;> exact h
  | drop c' => exact h
  | step t =>
    show P ((s.step t).backing (.child c))
    rcases step_touches (s := s) t (.child c) with hsame | ⟨ev, -, hnext⟩
    · rw [hsame]
      exact h
    · rw [hnext]
      exact hP _ _ _ h

/-- `Closed` is the last state of a child. -/
theorem closed_next (henabled : Enabled s e) (hadopted : s.adopted c = true)
    (h : (s.backing (.child c)).state = .closed) : ((next s e).backing (.child c)).state = .closed :=
  backing_keeps (P := fun b => b.state = .closed)
    (fun admission b ev hclosed => next_closed (s := ⟨admission,b⟩) ev hclosed) henabled hadopted h

/-- No event opens a child. -/
theorem not_opened_next (henabled : Enabled s e) (hadopted : s.adopted c = true)
    (h : (s.backing (.child c)).state ≠ .opened) : ((next s e).backing (.child c)).state ≠ .opened :=
  backing_keeps (P := fun b => b.state ≠ .opened)
    (fun admission b ev hopened => next_not_opened (s := ⟨admission,b⟩) hopened ev) henabled
    hadopted h

/-- Only `adopt` makes history. -/
theorem history_next (henabled : Enabled s e) :
    ((next s e).adopted = s.adopted ∧ (next s e).late = s.late) ∨
      ∃ t c entity lease, e = .adopt t c ∧ s.task t = .creating entity lease := by
  cases e with
  | call t entity ev => cases entity <;> exact .inl ⟨rfl, rfl⟩
  | create t parent lease =>
    simp only [next,System.create]
    split <;> exact .inl ⟨rfl, rfl⟩
  | fail t =>
    obtain ⟨entity, lease, htask⟩ := creating_of henabled
    simp only [next,htask]
    exact .inl ⟨rfl, rfl⟩
  | adopt t c' =>
    obtain ⟨entity, lease, htask⟩ := creating_of henabled.1
    exact .inr ⟨t, c', entity, lease, rfl, htask⟩
  | shutdown t succeeds => cases succeeds <;> exact .inl ⟨rfl, rfl⟩
  | step t =>
    obtain ⟨-, hadopted, hlate, -⟩ := step_history (s := s) t
    exact .inl ⟨hadopted, hlate⟩
  | _ => exact .inl ⟨rfl, rfl⟩

/-- A child is adopted by `adopt` only. -/
theorem adopted_by (henabled : Enabled s e) (hnew : s.adopted c = false)
    (hadopted : (next s e).adopted c = true) :
    ∃ t entity lease, e = .adopt t c ∧ s.task t = .creating entity lease := by
  rcases history_next henabled with ⟨hsame, -⟩ | ⟨t, c', entity, lease, rfl, htask⟩
  · rw [hsame,hnew] at hadopted
    cases hadopted
  · simp only [next,htask] at hadopted
    by_cases hc : c = c'
    · exact ⟨t, entity, lease, by rw [hc], htask⟩
    · have hsame := (enlist_other (s := s) hc).1
      exact Bool.noConfusion (hadopted.symm.trans (hsame.trans hnew))

/-- No thread but the one of an event goes on. -/
theorem next_task {t' : ThreadId} (hthread : e.thread ≠ some t') :
    (next s e).task t' = s.task t' := by
  have hother : ∀ {t}, e.thread = some t → t' ≠ t := by
    rintro t ht rfl
    exact hthread ht
  cases e with
  | call t entity ev =>
    simp only [next]
    cases entity <;> exact goto_other (hother rfl)
  | create t parent lease =>
    simp only [next,System.create]
    split
    · rfl
    · exact goto_other (hother rfl)
  | fail t =>
    simp only [next]
    split
    · exact goto_other (hother rfl)
    · rfl
  | adopt t c' =>
    simp only [next]
    split
    · exact goto_other (hother rfl)
    · rfl
  | closeChildren t => exact goto_other (hother rfl)
  | finishShutdown t => exact goto_other (hother rfl)
  | shutdown t succeeds => cases succeeds <;> exact goto_other (hother rfl)
  | step t => exact step_task (hother rfl)
  | _ => rfl

end

/-- A child adopted without admission is closed, or about to be. -/
def Late (s : System) : Prop :=
  ∀ c, s.late c = true →
    (s.backing (.child c)).state ≠ .opened ∨ ∃ t e lease, s.task t = .adopting e lease c

section

variable {s : System} {t : ThreadId} {e : Event} {c : ChildId} {entity : Entity} {lease : LeaseId}

/-- A thread inside a call of the Context goes on with it. -/
theorem step_of_busy (henabled : Enabled s e) (hthread : e.thread = some t)
    (hbusy : s.task t ≠ .idle) (hcreating : (s.task t).isCreating = false)
    (hdraining : s.task t ≠ .draining []) : e = .step t := by
  cases e with
  | step t' =>
    obtain rfl := Option.some.inj hthread
    rfl
  | stopAdmission => cases hthread
  | drop c' => cases hthread
  | call t' entity' ev =>
    obtain rfl := Option.some.inj hthread
    exact absurd henabled.1 hbusy
  | create t' parent lease' =>
    obtain rfl := Option.some.inj hthread
    exact absurd henabled.1 hbusy
  | fail t' =>
    obtain rfl := Option.some.inj hthread
    exact Bool.noConfusion (hcreating.symm.trans henabled)
  | adopt t' c' =>
    obtain rfl := Option.some.inj hthread
    exact Bool.noConfusion (hcreating.symm.trans henabled.1)
  | closeChildren t' =>
    obtain rfl := Option.some.inj hthread
    exact absurd henabled hbusy
  | finishShutdown t' =>
    obtain rfl := Option.some.inj hthread
    exact absurd henabled.1 hbusy
  | shutdown t' succeeds =>
    obtain rfl := Option.some.inj hthread
    exact absurd henabled hdraining

/-- `close` does not leave an entity open. -/
theorem close_not_opened (b : Backing) : (b.close t).state ≠ .opened := by
  unfold Backing.close
  split
  · next hopened => exact hopened
  · exact EntityState.noConfusion

/-- The thread that adopted a child closes it. -/
theorem step_adopting (htask : s.task t = .adopting entity lease c) :
    (s.step t).task t = .selfClosing entity lease c ∧
      (s.step t).backing (.child c) = (s.backing (.child c)).close t := by
  have hstep : s.step t = (s.goto t (.selfClosing entity lease c)).on (.child c) (.close t) := by
    unfold System.step
    rw [htask]
  rw [hstep]
  exact ⟨goto_self, on_self⟩

/-- No child that was adopted without admission is left open. -/
theorem late_next (hbase : Base s) (h : Late s) (henabled : Enabled s e) : Late (next s e) := by
  intro c hlate
  have hold : s.late c = true → s.adopted c = true →
      ((next s e).backing (.child c)).state ≠ .opened ∨
        ∃ t entity lease, (next s e).task t = .adopting entity lease c := by
    intro hlate hadopted
    rcases h c hlate with hopened | ⟨t, entity, lease, htask⟩
    · exact .inl (not_opened_next henabled hadopted hopened)
    · by_cases hthread : e.thread = some t
      · obtain rfl := step_of_busy henabled hthread (by rw [htask]; exact Task.noConfusion)
          (by rw [htask]; rfl) (by rw [htask]; exact Task.noConfusion)
        refine .inl ?_
        show ((s.step t).backing (.child c)).state ≠ .opened
        rw [(step_adopting htask).2]
        exact close_not_opened _
      · exact .inr ⟨t, entity, lease, (next_task hthread).trans htask⟩
  have hadopted : s.late c = true → s.adopted c = true := by
    intro hlate
    cases hadopted : s.adopted c with
    | true => rfl
    | false => exact Bool.noConfusion ((hbase.unborn c hadopted).2.symm.trans hlate)
  rcases history_next henabled with ⟨-, hsame⟩ | ⟨t, c', entity, lease, rfl, htask⟩
  · rw [hsame] at hlate
    exact hold hlate (hadopted hlate)
  · by_cases hc : c = c'
    · subst hc
      simp only [next,htask] at hlate ⊢
      have hadmission : s.admission = false := by
        have hflag : (!s.admission) = true := (enlist_self (s := s)).2.2.1.symm.trans hlate
        simpa using hflag
      refine .inr ⟨t, entity, lease, ?_⟩
      unfold System.adopt
      rw [goto_self,hadmission]
      rfl
    · have hlate' : s.late c = true := by
        simp only [next,htask] at hlate
        exact (enlist_other (s := s) hc).2.1.symm.trans hlate
      exact hold hlate' (hadopted hlate')

end

/-- In every reachable state. -/
theorem run_late {ok : System → Event → Prop} {es : List Event} {s : System}
    (hrun : machine.RunWhen ok System.initial es s) : Late s :=
  hrun.invariant_using Late (fun h => run_base h) (fun _ hlate => Bool.noConfusion hlate)
    fun _ _ hbase h henabled _ => late_next hbase h henabled

/-- Nobody but the thread that adopted it gets to close a child that
`finish_shutdown` has not copied. -/
def Undisputed (s : System) : Event → Prop
  | .step t => ∀ c rest, s.task t = .closeChildren (c :: rest) →
      ∀ copy, s.snapshot = some copy → c ∉ copy → (s.backing (.child c)).state ≠ .opened
  | _ => True

/-- The thread that adopted a child closes it, with nobody else involved. -/
structure Arriving (s : System) (t : ThreadId) (c : ChildId) : Prop where
  /-- It is about to, or does so. -/
  doing : (∃ e lease, s.task t = .adopting e lease c ∧ (s.backing (.child c)).state = .opened) ∨
    ∃ e lease, s.task t = .selfClosing e lease c ∧ (s.backing (.child c)).state ≠ .opened
  /-- No other thread is in the backing. -/
  apart : ∀ t', t' ≠ t → (s.backing (.child c)).pc t' = .idle
  /-- Nobody has a lease. -/
  empty : Empty (s.backing (.child c))
  /-- It is not registered. -/
  free : (s.backing (.child c)).registered = false

/-- `finish_shutdown` waits for the child, or need not. -/
def Covered (s : System) (c : ChildId) : Prop :=
  (∃ copy, s.snapshot = some copy ∧ c ∈ copy) ∨ s.expired c = true ∨
    (s.backing (.child c)).state = .closed ∨ ∃ t, Arriving s t c

section

variable {s : System} {t t' : ThreadId} {e : Event} {c : ChildId}

/-- The thread that a child arrives with. -/
theorem Arriving.child (h : Arriving s t c) : (s.task t).child = some c := by
  rcases h.doing with ⟨e, lease, htask, -⟩ | ⟨e, lease, htask, -⟩
  · rw [htask]
    rfl
  · rw [htask]
    rfl

/-- It has its operation lease. -/
theorem Arriving.claim (h : Arriving s t c) : ∃ e lease, (s.task t).claim = some (e,lease) := by
  rcases h.doing with ⟨e, lease, htask, -⟩ | ⟨e, lease, htask, -⟩
  · exact ⟨e, lease, by rw [htask]; rfl⟩
  · exact ⟨e, lease, by rw [htask]; rfl⟩

/-- It takes a step. -/
theorem Arriving.event (h : Arriving s t c) (henabled : Enabled s e)
    (hthread : e.thread = some t) : e = .step t := by
  rcases h.doing with ⟨entity, lease, htask, -⟩ | ⟨entity, lease, htask, -⟩
  · exact step_of_busy henabled hthread (by rw [htask]; exact Task.noConfusion)
      (by rw [htask]; rfl) (by rw [htask]; exact Task.noConfusion)
  · exact step_of_busy henabled hthread (by rw [htask]; exact Task.noConfusion)
      (by rw [htask]; rfl) (by rw [htask]; exact Task.noConfusion)

/-- Closing what is not open does nothing. -/
theorem close_again {b : Backing} (h : b.state ≠ .opened) : b.close t = b := by
  unfold Backing.close
  exact if_pos h

/-- No other thread reaches an arriving child. -/
theorem Arriving.untouched (h : Arriving s t c) (hbase : Base s) {copy : List ChildId}
    (hcopy : s.snapshot = some copy) (hnot : c ∉ copy) (ht : t' ≠ t)
    {ev : EntityLeases.Event} (htouches : Touches s t' (.child c) ev)
    (hok : Undisputed s (.step t')) :
    (EntityLeases.next ⟨s.admission,s.backing (.child c)⟩ ev).backing = s.backing (.child c) := by
  cases htouches with
  | step hseat hbusy => exact absurd (h.apart t' ht) hbusy
  | close hcloses =>
    refine close_again ?_
    cases htask : s.task t' with
    | adopting e lease c' =>
      rw [htask] at hcloses
      obtain rfl := Entity.child.inj (Option.some.inj hcloses)
      exact absurd (hbase.alone t' t c' (by rw [htask]; rfl) h.child) ht
    | closeChildren todo =>
      cases todo with
      | nil =>
        rw [htask] at hcloses
        cases hcloses
      | cons c' rest =>
        rw [htask] at hcloses
        obtain rfl := Entity.child.inj (Option.some.inj hcloses)
        exact hok c' rest htask copy hcopy hnot
    | draining todo =>
      cases todo with
      | nil =>
        rw [htask] at hcloses
        cases hcloses
      | cons c' rest =>
        rw [htask] at hcloses
        obtain rfl := Entity.child.inj (Option.some.inj hcloses)
        obtain ⟨copy', hcopy', -, hsub, -⟩ := hbase.copied t' (c' :: rest) (by rw [htask]; rfl)
        obtain rfl := Option.some.inj (hcopy.symm.trans hcopy')
        exact absurd (hsub List.mem_cons_self) hnot
    | _ =>
      rw [htask] at hcloses
      cases hcloses
  | leave htask =>
    have hheld := congrArg Prod.fst (hbase.claims t' (.child c) _ (by rw [htask]; rfl)).2.1
    exact absurd (hheld.symm.trans (h.empty _)) (Option.some_ne_none _)
  | reset htask hcontext => cases hcontext

/-- An event of another thread does not reach it either. -/
theorem Arriving.unreached (h : Arriving s t c) (hbase : Base s) {copy : List ChildId}
    (hcopy : s.snapshot = some copy) (hnot : c ∉ copy) (henabled : Enabled s e)
    (hok : Undisputed s e) (hthread : e.thread ≠ some t) :
    (next s e).backing (.child c) = s.backing (.child c) := by
  obtain ⟨hadopted, -, hreturned⟩ := hbase.born t c h.child
  have hon : ∀ {s' : System} {entity ev}, s'.backing = s.backing → entity ≠ .child c →
      (s'.on entity ev).backing (.child c) = s.backing (.child c) := by
    intro s' entity ev hbacking hentity
    rw [on_other hentity.symm,hbacking]
  cases e with
  | call t' entity ev =>
    obtain ⟨-, -, -, -, haccessible⟩ := henabled
    have hentity : entity ≠ .child c := by
      rintro rfl
      simp [System.accessible,hreturned] at haccessible
    simp only [next]
    cases entity with
    | context => exact hon rfl hentity
    | child c' => exact hon rfl hentity
  | create t' parent lease =>
    have hentity : parent ≠ .child c := by
      rintro rfl
      have hcreates := henabled.2.1
      simp [System.creates,hreturned] at hcreates
    simp only [next,System.create]
    split
    · rfl
    · exact hon rfl hentity
  | fail t' =>
    obtain ⟨entity, lease, htask⟩ := creating_of henabled
    simp only [next,htask]
    rfl
  | adopt t' c' =>
    obtain ⟨entity, lease, htask⟩ := creating_of henabled.1
    simp only [next,htask]
    have hc : Entity.child c ≠ .child c' := by
      rintro heq
      obtain rfl := Entity.child.inj heq
      exact Bool.noConfusion (hadopted.symm.trans henabled.2)
    show (s.enlist c').backing (.child c) = _
    exact enlist_backing hc
  | shutdown t' succeeds => cases succeeds <;> rfl
  | step t' =>
    have ht : t' ≠ t := fun heq => hthread (congrArg some heq)
    rcases step_touches (s := s) t' (.child c) with hsame | ⟨ev, htouches, hnext⟩
    · exact hsame
    · exact hnext.trans (h.untouched hbase hcopy hnot ht htouches hok)
  | _ => rfl

/-- A thread that is alone in a closing entity that nobody has leaves it closed. -/
theorem Arriving.closed (h : Arriving s t c) (hbase : Base s)
    (hstate : (s.backing (.child c)).state ≠ .opened)
    (hidle : (s.backing (.child c)).pc t = .idle) : (s.backing (.child c)).state = .closed := by
  have hquiet : ∀ t', (s.backing (.child c)).pc t' = .idle := by
    intro t'
    by_cases ht : t' = t
    · rw [ht]
      exact hidle
    · exact h.apart t' ht
  have hlife := (hbase.sound (.child c)).life
  cases hcase : (s.backing (.child c)).state with
  | opened => exact absurd hcase hstate
  | closed => rfl
  | closing =>
    cases hstarted : (s.backing (.child c)).destroyStarted with
    | false =>
      obtain ⟨t', ht'⟩ := hlife.pending hcase hstarted h.free h.empty
      rw [hquiet t'] at ht'
      cases ht'
    | true =>
      obtain ⟨t', ht'⟩ := hlife.owner hstarted hcase
      rw [hquiet t'] at ht'
      cases ht'

/-- Its own thread closes it. -/
theorem Arriving.proceeds (h : Arriving s t c) (hbase : Base s) :
    ((s.step t).backing (.child c)).state = .closed ∨ Arriving (s.step t) t c := by
  rcases h.doing with ⟨e, lease, htask, hopened⟩ | ⟨e, lease, htask, hstate⟩
  · obtain ⟨htask', hbacking'⟩ := step_adopting htask
    have hclose : (s.backing (.child c)).close t =
        {s.backing (.child c) with state := .closing}.goto t (.finalizing none) := by
      unfold Backing.close
      exact if_neg (not_not.mpr hopened)
    refine .inr ⟨.inr ⟨e, lease, htask', ?_⟩, ?_, ?_, ?_⟩
    · rw [hbacking']
      exact close_not_opened _
    · intro t' ht
      rw [hbacking',hclose]
      exact (goto_pc ht _).trans (h.apart t' ht)
    · rw [hbacking',hclose]
      exact h.empty
    · rw [hbacking',hclose]
      exact h.free
  · have hstep : s.step t =
        s.inside t (.child c) (System.goto t (.leaving e lease (some c))) := by
      unfold System.step
      rw [htask]
    rw [hstep]
    unfold System.inside
    split
    · next hidle => exact .inl (h.closed hbase hstate hidle)
    · refine .inr ⟨.inr ⟨e, lease, htask, ?_⟩, ?_, ?_, ?_⟩
      · rw [on_self]
        exact next_not_opened (s := ⟨s.admission,s.backing (.child c)⟩) hstate (.step t)
      · intro t' ht
        rw [on_self]
        exact (step_pc ht).trans (h.apart t' ht)
      · rw [on_self]
        exact step_empty h.empty t
      · rw [on_self]
        exact (step_registered t).trans h.free

end

section

variable {s : System} {t t' : ThreadId} {e : Event} {c : ChildId}

/-- What the steps of a thread do to the shared pointers. -/
theorem step_keepers (t : ThreadId) : (s.step t).keepers = s.keepers ∨
    (s.step t).keepers = (s.unkeep t).keepers ∨
      (s.step t).keepers = (s.keep t s.alive).keepers := by
  let seen (s' : System) : Prop := s'.keepers = s.keepers ∨
    s'.keepers = (s.unkeep t).keepers ∨ s'.keepers = (s.keep t s.alive).keepers
  refine step_induct (P := seen) (Q := seen) t (fun _ h => h) (.inl rfl) (fun _ _ _ h => h)
    (fun _ _ h => h) (.inr (.inl rfl)) (fun _ _ _ => .inl rfl) (fun child => .inl ?_)
    (fun _ => .inr (.inr rfl)) fun _ => .inr (.inl rfl)
  cases child <;> rfl

theorem Touches.no_grant {entity : Entity} {ev : EntityLeases.Event}
    (h : Touches s t entity ev) : ev.grants = false := by
  cases h <;> rfl

/-- The steps of a thread revive no child. -/
theorem step_expired (t : ThreadId) (h : s.expired c = true) : (s.step t).expired c = true := by
  obtain ⟨howned, hkeepers, hrefs⟩ := expired_iff.mp h
  refine expired_iff.mpr ⟨?_, ?_, ?_⟩
  · rw [(step_history t).2.2.2]
    exact howned
  · rcases step_keepers (s := s) t with hsame | hunkept | hkept
    · rw [hsame]
      exact hkeepers
    · rw [hunkept]
      exact (expired_iff.mp (expired_unkeep h)).2.1
    · rw [hkept]
      have hnot : c ∉ s.alive := fun hc => Bool.noConfusion (h.symm.trans (alive_not_expired hc))
      exact (expired_iff.mp (expired_keep hnot h)).2.1
  · rcases step_touches (s := s) t (.child c) with hsame | ⟨ev, htouches, hnext⟩
    · rw [hsame]
      exact hrefs
    · rw [hnext]
      exact unreferenced_next htouches.no_grant hrefs

/-- No event revives a child. -/
theorem expired_next (henabled : Enabled s e) (hadopted : s.adopted c = true)
    (h : s.expired c = true) : (next s e).expired c = true := by
  cases e with
  | call t entity ev =>
    obtain ⟨-, -, -, -, haccessible⟩ := henabled
    have hentity : entity ≠ .child c := by
      rintro rfl
      simp [System.accessible,h] at haccessible
    simp only [next]
    cases entity with
    | context => exact on_expired h fun _ => hentity
    | child c' =>
      have hc : c ∉ [c'] := fun hmem =>
        hentity (congrArg Entity.child (List.mem_singleton.mp hmem).symm)
      exact on_expired (expired_keep hc h) fun _ => hentity
  | stopAdmission => exact h
  | create t parent lease =>
    have hentity : parent ≠ .child c := by
      rintro rfl
      have hcreates := henabled.2.1
      simp [System.creates,h] at hcreates
    simp only [next,System.create]
    split
    · exact h
    · exact on_expired h fun _ => hentity
  | fail t =>
    obtain ⟨entity, lease, htask⟩ := creating_of henabled
    simp only [next,htask]
    exact h
  | adopt t c' =>
    obtain ⟨entity, lease, htask⟩ := creating_of henabled.1
    simp only [next,htask]
    have hc : c ≠ c' := by
      rintro rfl
      exact Bool.noConfusion (hadopted.symm.trans henabled.2)
    exact (enlist_other (s := s) hc).2.2.2.2.trans h
  | closeChildren t =>
    have hnot : c ∉ s.alive := fun hc => Bool.noConfusion (h.symm.trans (alive_not_expired hc))
    exact expired_keep hnot h
  | finishShutdown t => exact h
  | shutdown t succeeds =>
    cases succeeds with
    | false => exact expired_unkeep h
    | true => exact h
  | drop c' =>
    obtain ⟨howned, hkeepers, hrefs⟩ := expired_iff.mp h
    refine expired_iff.mpr ⟨?_, hkeepers, hrefs⟩
    by_cases hc : c = c'
    · rw [hc]
      exact Function.update_self _ _ _
    · exact (Function.update_of_ne hc _ _).trans howned
  | step t => exact step_expired t h

/-- What `finish_shutdown` waits for it goes on waiting for. -/
theorem covered_next (hbase : Base s) (henabled : Enabled s e) (hok : Undisputed s e)
    (hadopted : s.adopted c = true) {copy : List ChildId} (hcopy : s.snapshot = some copy)
    (hsame : (next s e).snapshot = s.snapshot) (h : Covered s c) : Covered (next s e) c := by
  rcases h with ⟨copy', hcopy', hmem⟩ | hexpired | hclosed | ⟨t, harriving⟩
  · exact .inl ⟨copy', hsame.trans hcopy', hmem⟩
  · exact .inr (.inl (expired_next henabled hadopted hexpired))
  · exact .inr (.inr (.inl (closed_next henabled hadopted hclosed)))
  · by_cases hnot : c ∈ copy
    · exact .inl ⟨copy, hsame.trans hcopy, hnot⟩
    · by_cases hthread : e.thread = some t
      · obtain rfl := harriving.event henabled hthread
        rcases harriving.proceeds hbase with hclosed | hproceeds
        · exact .inr (.inr (.inl hclosed))
        · exact .inr (.inr (.inr ⟨t, hproceeds⟩))
      · have hbacking := harriving.unreached hbase hcopy hnot henabled hok hthread
        refine .inr (.inr (.inr ⟨t, ?_⟩))
        constructor
        · rw [next_task hthread,hbacking]
          exact harriving.doing
        · rw [hbacking]
          exact harriving.apart
        · rw [hbacking]
          exact harriving.empty
        · rw [hbacking]
          exact harriving.free

/-- A child that is adopted without admission arrives. -/
theorem adopt_arriving {entity : Entity} {lease : LeaseId} (hadmission : s.admission = false) :
    Arriving (s.adopt t entity lease c) t c := by
  have hbacking : (s.adopt t entity lease c).backing (.child c) = .fresh :=
    (enlist_self (s := s)).1
  refine ⟨.inl ⟨entity, lease, ?_, ?_⟩, fun t' _ => ?_, ?_, ?_⟩
  · unfold System.adopt
    rw [goto_self,hadmission]
    rfl
  · rw [hbacking]
    rfl
  · rw [hbacking]
    rfl
  · rw [hbacking]
    exact fun _ => rfl
  · rw [hbacking]
    rfl

/-- The copy changes when it is made and when `finish_shutdown` is over. -/
theorem step_snapshot (t : ThreadId) : (s.step t).snapshot = s.snapshot ∨
    (s.task t).finishes = true ∧ (s.task t = .copying ∨ (s.step t).task t = .idle) := by
  refine step_induct (P := fun s' => s'.snapshot = s.snapshot ∨ (s.task t).finishes = true ∧
    (s.task t = .copying ∨ s'.task t = .idle)) (Q := fun s' => s'.snapshot = s.snapshot) t
    (fun _ h => .inl h) rfl (fun _ _ _ h => h) (fun _ _ h => h) rfl (fun _ _ _ => rfl)
    (fun child => ?_) (fun hcopying => .inr ⟨by rw [hcopying]; rfl, .inl hcopying⟩)
    fun hfinishes => .inr ⟨hfinishes, .inr goto_self⟩
  cases child <;> rfl

/-- A thread begins to drain after it copied. -/
theorem step_todo {todo : List ChildId} (htodo : ((s.step t).task t).todo = some todo) :
    s.task t = .copying ∨ ∃ todo, (s.task t).todo = some todo := by
  have hgoes : ∀ {w : System} {task : Task}, task.todo = none →
      ((w.goto t task).task t).todo = some todo → False := by
    intro w task hnone h
    rw [goto_self,hnone] at h
    cases h
  have hinside : ∀ {entity : Entity} {done : System → System} {w : System} {task : Task},
      done s = w.goto t task → task.todo = none →
      ((s.inside t entity done).task t).todo = some todo → (s.task t).todo = some todo := by
    intro entity done w task hdone hnone h
    unfold System.inside at h
    split at h
    · rw [hdone] at h
      exact (hgoes hnone h).elim
    · exact h
  unfold System.step at htodo
  cases htask : s.task t with
  | copying => exact .inl rfl
  | draining todo' => exact .inr ⟨todo', rfl⟩
  | drainingChild c rest => exact .inr ⟨c :: rest, rfl⟩
  | waitingChild c rest => exact .inr ⟨c :: rest, rfl⟩
  | idle =>
    rw [htask] at htodo
    exact .inr ⟨todo, htask ▸ htodo⟩
  | creating parent lease =>
    rw [htask] at htodo
    exact .inr ⟨todo, htask ▸ htodo⟩
  | calling entity =>
    rw [htask] at htodo
    exact .inr ⟨todo, htask ▸ hinside (w := s.unkeep t) rfl rfl htodo⟩
  | selfClosing parent lease c =>
    rw [htask] at htodo
    exact .inr ⟨todo, htask ▸ hinside (w := s) rfl rfl htodo⟩
  | left parent child =>
    rw [htask] at htodo
    exact .inr ⟨todo, htask ▸ hinside (w := s.construct child) rfl rfl htodo⟩
  | closeChildren todo' =>
    rw [htask] at htodo
    cases todo' with
    | nil => exact (hgoes (w := s.unkeep t) rfl htodo).elim
    | cons c rest => exact (hgoes (w := s) rfl htodo).elim
  | closingChild c rest =>
    rw [htask] at htodo
    exact .inr ⟨todo, htask ▸ hinside (w := s) rfl rfl htodo⟩
  | checking =>
    rw [htask] at htodo
    simp only [] at htodo
    split_ifs at htodo
    · exact (hgoes rfl htodo).elim
    · exact (hgoes rfl htodo).elim
    · exact (hgoes (w := s) rfl htodo).elim
  | waitingOperations =>
    rw [htask] at htodo
    simp only [] at htodo
    split_ifs at htodo
    · exact (hgoes (w := s) rfl htodo).elim
    · exact .inr ⟨todo, htask ▸ htodo⟩
  | adopting parent lease c =>
    rw [htask] at htodo
    exact (hgoes (w := s) rfl htodo).elim
  | leaving parent lease child =>
    rw [htask] at htodo
    exact (hgoes (w := s) rfl htodo).elim
  | shutDown =>
    rw [htask] at htodo
    exact (hgoes (w := s) rfl htodo).elim
  | closingContext =>
    rw [htask] at htodo
    exact .inr ⟨todo, htask ▸ hinside (w := s) rfl rfl htodo⟩
  | resetting =>
    rw [htask] at htodo
    exact (hgoes (w := s) rfl htodo).elim
  | resettingControl =>
    rw [htask] at htodo
    exact .inr ⟨todo, htask ▸ hinside (w := s) rfl rfl htodo⟩
  | waitingContext =>
    rw [htask] at htodo
    simp only [] at htodo
    split_ifs at htodo
    · exact (hgoes rfl htodo).elim
    · exact .inr ⟨todo, htask ▸ htodo⟩

end

section

variable {s : System} {t : ThreadId} {e : Event} {c : ChildId}

/-- Two threads are not in `finish_shutdown` at once. -/
theorem Base.one_finishes (h : Base s) {t' : ThreadId} (ht : (s.task t).finishes = true)
    (ht' : (s.task t').finishes = true) : t = t' :=
  Option.some.inj ((h.finisher t ht).symm.trans (h.finisher t' ht'))

/-- Who drains has just copied, or drains a copy that stays. -/
theorem todo_next (hbase : Base s) (henabled : Enabled s e) {todo : List ChildId}
    (htodo : ((next s e).task t).todo = some todo) :
    (e = .step t ∧ s.task t = .copying) ∨
      (∃ todo, (s.task t).todo = some todo) ∧ (next s e).snapshot = s.snapshot := by
  have hgoes : ∀ {w : System} {t : ThreadId} {task : Task}, task.todo = none →
      ((w.goto t task).task t).todo = some todo → False := by
    intro w t task hnone h
    rw [goto_self,hnone] at h
    cases h
  by_cases hthread : e.thread = some t
  · cases e with
    | stopAdmission => cases hthread
    | drop c => cases hthread
    | call t' entity ev =>
      obtain rfl := Option.some.inj hthread
      cases entity with
      | context => exact (hgoes (w := s) rfl htodo).elim
      | child c => exact (hgoes (w := s.keep t' [c]) rfl htodo).elim
    | create t' parent lease =>
      obtain rfl := Option.some.inj hthread
      simp only [next,System.create] at htodo ⊢
      split at htodo
      · exact .inr ⟨⟨todo, htodo⟩, rfl⟩
      · exact (hgoes rfl htodo).elim
    | fail t' =>
      obtain rfl := Option.some.inj hthread
      obtain ⟨entity, lease, htask⟩ := creating_of henabled
      simp only [next,htask] at htodo
      exact (hgoes rfl htodo).elim
    | adopt t' c =>
      obtain rfl := Option.some.inj hthread
      obtain ⟨entity, lease, htask⟩ := creating_of henabled.1
      simp only [next,htask,System.adopt] at htodo
      cases hadmission : s.admission with
      | true =>
        rw [hadmission] at htodo
        exact (hgoes rfl htodo).elim
      | false =>
        rw [hadmission] at htodo
        exact (hgoes rfl htodo).elim
    | closeChildren t' =>
      obtain rfl := Option.some.inj hthread
      exact (hgoes rfl htodo).elim
    | finishShutdown t' =>
      obtain rfl := Option.some.inj hthread
      exact (hgoes rfl htodo).elim
    | shutdown t' succeeds =>
      obtain rfl := Option.some.inj hthread
      cases succeeds with
      | false => exact (hgoes rfl htodo).elim
      | true => exact (hgoes (w := s) rfl htodo).elim
    | step t' =>
      obtain rfl := Option.some.inj hthread
      rcases step_todo htodo with hcopying | hdrains
      · exact .inl ⟨rfl, hcopying⟩
      · rcases step_snapshot (s := s) t' with hsame | ⟨-, hcopying | hidle⟩
        · exact .inr ⟨hdrains, hsame⟩
        · exact .inl ⟨rfl, hcopying⟩
        · have htodo' : ((s.step t').task t').todo = some todo := htodo
          rw [hidle] at htodo'
          cases htodo'
  · rw [next_task hthread] at htodo
    have hfinishes := Task.finishes_of_todo htodo
    refine .inr ⟨⟨todo, htodo⟩, ?_⟩
    cases e with
    | call t' entity ev => cases entity <;> rfl
    | create t' parent lease =>
      simp only [next,System.create]
      split <;> rfl
    | fail t' =>
      obtain ⟨entity, lease, htask⟩ := creating_of henabled
      simp only [next,htask]
      rfl
    | adopt t' c =>
      obtain ⟨entity, lease, htask⟩ := creating_of henabled.1
      simp only [next,htask]
      rfl
    | shutdown t' succeeds =>
      have hdraining : s.task t' = .draining [] := henabled
      have hwindow : (s.task t').finishes = true := by
        rw [hdraining]
        rfl
      have hsame := hbase.one_finishes hfinishes hwindow
      exact absurd (congrArg some hsame.symm) hthread
    | step t' =>
      rcases step_snapshot (s := s) t' with hsame | ⟨hfinishes', -⟩
      · exact hsame
      · exact absurd (congrArg some (hbase.one_finishes hfinishes hfinishes').symm) hthread
    | _ => rfl

/-- While `finish_shutdown` drains, every child is covered. -/
def Drained (s : System) : Prop :=
  ∀ t todo, (s.task t).todo = some todo → ∀ c, s.adopted c = true → Covered s c

/-- The copy covers every child. -/
theorem copy_covers (hbase : Base s) (htask : s.task t = .copying) (hadopted : s.adopted c = true) :
    Covered (s.step t) c := by
  have hstep : s.step t =
      ({s with snapshot := some s.alive}.keep t s.alive).goto t (.draining s.alive) := by
    unfold System.step
    rw [htask]
  rw [hstep]
  cases hexpired : s.expired c with
  | true =>
    have hnot : c ∉ s.alive :=
      fun hc => Bool.noConfusion (hexpired.symm.trans (alive_not_expired hc))
    exact .inr (.inl (expired_keep (s := {s with snapshot := some s.alive}) hnot hexpired))
  | false =>
    have hlisted : c ∈ s.children := by
      rcases hbase.listed c hadopted with hmem | htrue
      · exact hmem
      · exact Bool.noConfusion (hexpired.symm.trans htrue)
    refine .inl ⟨s.alive, rfl, List.mem_filter.mpr ⟨hlisted, ?_⟩⟩
    rw [hexpired]
    rfl

/-- Every undisputed event keeps them covered. -/
theorem drained_next (hbase : Base s) (h : Drained s) (henabled : Enabled s e)
    (hok : Undisputed s e) : Drained (next s e) := by
  intro t todo htodo c hadopted
  rcases todo_next hbase henabled htodo with ⟨rfl, hcopying⟩ | ⟨⟨todo', htodo'⟩, hsame⟩
  · have hadopted' : s.adopted c = true := by
      rw [← (step_history t).2.1]
      exact hadopted
    exact copy_covers hbase hcopying hadopted'
  · obtain ⟨copy, hcopy, -⟩ := hbase.copied t todo' htodo'
    cases hold : s.adopted c with
    | true => exact covered_next hbase henabled hok hold hcopy hsame (h t todo' htodo' c hold)
    | false =>
      obtain ⟨t', entity, lease, rfl, htask⟩ := adopted_by henabled hold hadopted
      have hadmission : s.admission = false := by
        refine hbase.refused t ?_
        cases hcase : s.task t <;> rw [hcase] at htodo' <;> first | rfl | cases htodo'
      simp only [next,htask]
      exact .inr (.inr (.inr ⟨t', adopt_arriving hadmission⟩))

/-- A covered child with a create call under it is one of the copied children. -/
theorem Base.copied_of_claim (h : Base s) {t' : ThreadId} {lease : LeaseId}
    (hclaim : (s.task t').claim = some (.child c,lease)) (hcovered : Covered s c) :
    ∃ copy, s.snapshot = some copy ∧ c ∈ copy := by
  obtain ⟨-, hobject, -⟩ := h.claims t' _ _ hclaim
  have hheld : (s.backing (.child c)).holds (.object lease) = some .operation :=
    congrArg Prod.fst hobject
  have hused : ¬ Empty (s.backing (.child c)) := fun hempty =>
    absurd (hheld.symm.trans (hempty _)) (Option.some_ne_none _)
  rcases hcovered with hcopied | hexpired | hclosed | ⟨t'', harriving⟩
  · exact hcopied
  · have hrefs := (expired_iff.mp hexpired).2.2
    exact absurd ((h.sound _).leases.empty_iff.mp hrefs) hused
  · obtain ⟨hstarted, -⟩ := (h.sound (.child c)).life.closed hclosed
    exact absurd ((h.sound (.child c)).life.begun hstarted).2.1 hused
  · exact absurd hheld (by rw [harriving.empty]; exact (Option.some_ne_none _).symm)

/-- With everything drained, every child is closed or gone. -/
theorem drained_all (hbase : Base s) (h : Drained s) (htask : s.task t = .draining [])
    (hadopted : s.adopted c = true) :
    (s.backing (.child c)).state = .closed ∨ s.expired c = true := by
  have htodo : (s.task t).todo = some [] := by
    rw [htask]
    rfl
  have hquiet : (s.task t).quiet = true := by
    rw [htask]
    rfl
  obtain ⟨copy, hcopy, -, -, hpast⟩ := hbase.copied t [] htodo
  have hcopied : ∀ {c}, (∃ copy, s.snapshot = some copy ∧ c ∈ copy) →
      (s.backing (.child c)).state = .closed := by
    rintro c ⟨copy', hcopy', hmem⟩
    obtain rfl := Option.some.inj (hcopy.symm.trans hcopy')
    exact (hpast c hmem).resolve_left List.not_mem_nil
  rcases h t [] htodo c hadopted with hmem | hexpired | hclosed | ⟨t', harriving⟩
  · exact .inl (hcopied hmem)
  · exact .inr hexpired
  · exact .inl hclosed
  · obtain ⟨e, lease, hclaim⟩ := harriving.claim
    rcases (hbase.claims t' e lease hclaim).2.2 with rfl | ⟨n, rfl, hn⟩
    · exact absurd hclaim (hbase.no_operation hquiet t' lease)
    · have hnode := hcopied (hbase.copied_of_claim hclaim (h t [] htodo n hn))
      obtain ⟨hstarted, -⟩ := (hbase.sound (.child n)).life.closed hnode
      have hempty := ((hbase.sound (.child n)).life.begun hstarted).2.1
      have hheld := congrArg Prod.fst (hbase.claims t' _ lease hclaim).2.1
      exact absurd (hheld.symm.trans (hempty _)) (Option.some_ne_none _)

end

/-- In every undisputed run. -/
theorem run_drained {es : List Event} {s : System}
    (hrun : machine.RunWhen Undisputed System.initial es s) : Drained s :=
  hrun.invariant_using Drained (fun h => run_base h)
    (fun _ _ hfalse => absurd hfalse (Option.some_ne_none _).symm)
    fun _ _ hbase h henabled hok => drained_next hbase h henabled hok

/-- Nothing opens admission again. -/
theorem admission_next {s : System} {e : Event} (henabled : Enabled s e)
    (hadmission : s.admission = false) : (next s e).admission = false := by
  cases e with
  | call t entity ev => cases entity <;> exact hadmission
  | stopAdmission => rfl
  | create t parent lease =>
    simp only [next,System.create]
    split <;> exact hadmission
  | fail t =>
    obtain ⟨entity, lease, htask⟩ := creating_of henabled
    simp only [next,htask]
    exact hadmission
  | adopt t c =>
    obtain ⟨entity, lease, htask⟩ := creating_of henabled.1
    simp only [next,htask]
    exact hadmission
  | shutdown t succeeds => cases succeeds <;> exact hadmission
  | step t => exact (step_history t).1.trans hadmission
  | _ => exact hadmission

/-- What is adopted without admission is late. -/
theorem run_refused {ok : System → Event → Prop} {es : List Event} {s s' : System}
    (hrun : machine.RunWhen ok s es s') (hadmission : s.admission = false) :
    s'.admission = false ∧ ∀ c, s.adopted c = false → s'.adopted c = true → s'.late c = true := by
  refine hrun.invariant (fun s' => s'.admission = false ∧
    ∀ c, s.adopted c = false → s'.adopted c = true → s'.late c = true) ⟨hadmission, ?_⟩ ?_
  · intro c hnew hadopted
    exact Bool.noConfusion (hnew.symm.trans hadopted)
  · rintro s' e ⟨hclosed, hlate⟩ henabled -
    refine ⟨admission_next henabled hclosed, fun c hnew hadopted => ?_⟩
    rcases history_next henabled with ⟨hadopted', hlate'⟩ | ⟨t, c', entity, lease, rfl, htask⟩
    · show (next s' e).late c = true
      rw [hlate']
      exact hlate c hnew (hadopted' ▸ hadopted)
    · change (next s' (.adopt t c')).adopted c = true at hadopted
      show (next s' (.adopt t c')).late c = true
      simp only [next,htask] at hadopted ⊢
      by_cases hc : c = c'
      · subst hc
        refine (enlist_self (s := s')).2.2.1.trans ?_
        rw [hclosed]
        rfl
      · obtain ⟨hadopted', hlate', -⟩ := enlist_other (s := s') hc
        exact hlate'.trans (hlate c hnew (hadopted'.symm.trans hadopted))

/-- Without a disputed close no child outlives the DMW Context: with everything
drained each one is closed or gone, and none that comes later is left open. -/
theorem children_drained {es : List Event} {s : System} {t : ThreadId}
    (hrun : machine.RunWhen Undisputed System.initial es s) (htask : s.task t = .draining []) :
    (∀ c, s.adopted c = true →
      (s.backing (.child c)).state = .closed ∨ s.expired c = true) ∧
    ∀ es' s', machine.RunWhen Undisputed s es' s' → ∀ c, s.adopted c = false →
      s'.adopted c = true → s'.returned c = true → (s'.backing (.child c)).state ≠ .opened := by
  refine ⟨fun c hadopted => drained_all (run_base hrun) (run_drained hrun) htask hadopted, ?_⟩
  intro es' s' hmore c hnew hadopted hreturned
  have hadmission : s.admission = false := (run_base hrun).refused t (by rw [htask]; rfl)
  have hlate : s'.late c = true := (run_refused hmore hadmission).2 c hnew hadopted
  rcases run_late (hrun.append hmore) c hlate with hopened | ⟨t', e, lease, htask'⟩
  · exact hopened
  · have hborn := (run_base (hrun.append hmore)).born t' c (by rw [htask']; rfl)
    exact Bool.noConfusion (hborn.2.2.symm.trans hreturned)

/-- A thread creates a Node, and begins to create a child under it; another one
stops admission, copies the Node and closes it. -/
def lateRun : List Event :=
  [.create 0 .context 1,.adopt 0 0,.step 0,.step 0,.step 0,.step 0,.create 1 (.child 0) 0,
    .stopAdmission,.finishShutdown 2,.step 2,.step 2,.step 2,.step 2,.step 2,.step 2,.adopt 1 1]

/-- The child closes itself, and the Node drains after that. -/
def drainedRun : List Event :=
  lateRun ++ [.step 1,.step 1,.step 1,.step 1,.step 1,.step 1,.step 1,.step 1,.step 1,.step 1,
    .step 1,.step 2]

/-- The Context at the end of it. -/
def drainedEnd : System := (machine.exec System.initial drainedRun).getD System.initial

/-- No thread closes children. -/
def nobodyCloses (s : System) : Event → Bool
  | .step t =>
    match s.task t with
    | .closeChildren _ => false
    | _ => true
  | _ => true

/-- Then nobody disputes. -/
theorem undisputed_of_nobodyCloses (s : System) (e : Event) (h : nobodyCloses s e = true) :
    Undisputed s e := by
  cases e with
  | step t =>
    intro c rest htask
    simp only [nobodyCloses,htask] at h
    cases h
  | _ => trivial

/-- Both children are closed when the DMW Context is shut down. -/
theorem children_drained_late :
    drainedEnd.adopted 1 = true ∧ drainedEnd.late 1 = true ∧
      ∀ c, drainedEnd.adopted c = true →
        (drainedEnd.backing (.child c)).state = .closed ∨ drainedEnd.expired c = true := by
  have hexec : machine.exec System.initial drainedRun = some drainedEnd := by
    have hsome : (machine.exec System.initial drainedRun).isSome = true := by decide +kernel
    obtain ⟨s, hs⟩ := Option.isSome_iff_exists.mp hsome
    rw [drainedEnd,hs]
    rfl
  have hrun : machine.RunWhen Undisputed System.initial drainedRun drainedEnd :=
    Machine.runWhen_of_exec nobodyCloses undisputed_of_nobodyCloses hexec (by decide +kernel)
  have htask : drainedEnd.task 2 = .draining [] := by decide +kernel
  exact ⟨by decide +kernel, by decide +kernel, (children_drained hrun htask).1⟩

/-- Somebody else gets to close the child, and is not done when the Node is. -/
def disputedRun : List Event :=
  lateRun ++ [.closeChildren 3,.step 3,.step 3,.step 3,.step 1,.step 1,.step 1,.step 1,.step 1,
    .step 1,.step 1,.step 1,.step 2]

/-- The Context at the end of it. -/
def disputedEnd : System := (machine.exec System.initial disputedRun).getD System.initial

/-- The child is still closing when the DMW Context is shut down. -/
theorem closing_child_outlives : machine.Run System.initial disputedRun disputedEnd ∧
    disputedEnd.task 2 = .draining [] ∧ disputedEnd.adopted 1 = true ∧
      (disputedEnd.backing (.child 1)).state = .closing ∧ disputedEnd.expired 1 = false ∧
        ¬ ∀ c, disputedEnd.adopted c = true →
          (disputedEnd.backing (.child c)).state = .closed ∨ disputedEnd.expired c = true := by
  have hexec : machine.exec System.initial disputedRun = some disputedEnd := by
    have hsome : (machine.exec System.initial disputedRun).isSome = true := by decide +kernel
    obtain ⟨s, hs⟩ := Option.isSome_iff_exists.mp hsome
    rw [disputedEnd,hs]
    rfl
  have hadopted : disputedEnd.adopted 1 = true := by decide +kernel
  have hclosing : (disputedEnd.backing (.child 1)).state = .closing := by decide +kernel
  have hexpired : disputedEnd.expired 1 = false := by decide +kernel
  refine ⟨Machine.run_of_exec hexec, by decide +kernel, hadopted, hclosing, hexpired, ?_⟩
  intro hall
  rcases hall 1 hadopted with hclosed | htrue
  · exact EntityState.noConfusion (hclosing.symm.trans hclosed)
  · exact Bool.noConfusion (hexpired.symm.trans htrue)

end Dmw.ContextChildren
