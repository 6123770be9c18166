import Dmw.FutureSteps

/-!
# Done callbacks run once

In every run each Future is ended by one attempt and keeps its outcome. A
callback is handed over under a reservation, and the executor stops only when
there is none; so every callback has run by then, or was removed.
-/

namespace Dmw.Futures

open Counting GuardedRuns Whereabouts

variable {α : Type} {program : ℕ → Call α} {s : System α} {c : ℕ}

/-- Before the first Future nothing is anywhere. -/
theorem inv_initial : Inv program (System.initial α) := by
  have hcontent : (System.initial α).content = fun _ => [] := by
    funext p
    cases p <;> rfl
  refine ⟨?_,⟨fun _ => trivial,?_,?_,?_⟩,Counts.none fun _ => Bool.false_ne_true,
    ⟨fun hstop => (by cases hstop),fun hidle => (by cases hidle),fun _ => rfl,fun _ _ => trivial,
      fun _ hnone => by cases hnone⟩⟩
  · rw [hcontent]
    refine ⟨.empty,fun c => ?_,fun p i hi => absurd hi List.not_mem_nil⟩
    simp [Kept,System.initial,Pc.lodged]
  · intro c c' hwins
    cases hwins
  · intro f hdone
    cases hdone
  · intro f hdone
    cases hdone

/-- The invariant of every run. -/
theorem inv_run {es : List Event} (hrun : (machine program).Run (System.initial α) es s) :
    Inv program s := by
  refine hrun.invariant _ inv_initial ?_
  intro _ _ h hen _
  exact h.next hen

/-- A section of a call makes no call. -/
theorem fresh_advance (call : Call α) (hookRaises : Bool) (d : ℕ) :
    ((s.advance c call hookRaises).calls d).fresh = (s.calls d).fresh := by
  have hother : ∀ {pc : Pc}, pc.fresh = false → (s.calls c).fresh = false →
      (Function.update s.calls c pc d).fresh = (s.calls d).fresh := by
    intro pc hpc hc
    rw [Function.update_apply]
    by_cases hd : d = c
    · rw [if_pos hd,hpc,hd,hc]
    · rw [if_neg hd]
  unfold System.advance
  split <;> rename_i hpc
  all_goals first
    | rfl
    | (have hc : (s.calls c).fresh = false := by rw [hpc]; rfl
       first
        | exact hother rfl hc
        | (unfold System.begin; split <;> exact hother rfl hc)
        | (unfold System.schedule; split <;> exact hother rfl hc)
        | (split <;> exact hother rfl hc)
        | (unfold System.commit
           split
           · exact hother rfl hc
           · split <;> exact hother rfl hc))

/-- The first section of a call leaves the other calls where they are. -/
theorem fresh_first {call : Call α} {c d : ℕ} (hd : d ≠ c) :
    ((s.first c call).calls d).fresh = (s.calls d).fresh := by
  have hother : ∀ pc, Function.update s.calls c pc d = s.calls d :=
    fun pc => Function.update_of_ne hd _ _
  cases call with
  | finish f o =>
    unfold System.first
    dsimp only
    split <;> simp only [System.goTo,hother]
  | add f k =>
    unfold System.first System.begin
    dsimp only
    split <;> simp only [System.goTo,hother]
  | wait f =>
    unfold System.first
    dsimp only
    split <;> simp only [System.goTo,System.setFuture,hother]

/-- A call makes no Future. -/
theorem created_advance (c : ℕ) (call : Call α) (hookRaises : Bool) :
    (s.advance c call hookRaises).created = s.created := by
  unfold System.advance
  split <;> first
    | rfl
    | (unfold System.begin; split <;> rfl)
    | (unfold System.schedule; split <;> rfl)
    | (split <;> rfl)
    | (unfold System.commit
       split
       · rfl
       · split <;> rfl)

/-- What the owner attempts is an attempt to end a Future. -/
theorem finishes_of_endsWithCause {f c : ℕ} (hends : endsWithCause program f c = true) :
    finishes (program c) = true := by
  unfold endsWithCause at hends
  cases hcall : program c with
  | finish f' o => rfl
  | add f' k => simp [hcall] at hends
  | wait f' => simp [hcall] at hends

/-- A Future is made before it is called, unless by an attempt of the owner. -/
def Made (program : ℕ → Call α) (s : System α) : Prop :=
  ∀ c, (s.calls c).fresh = false → finishes (program c) = true ∨ (program c).future ∈ s.created

/-- A call begins. -/
theorem Made.first (h : Made program s) {c : ℕ}
    (hcall : finishes (program c) = true ∨ (program c).future ∈ s.created) :
    Made program (s.first c (program c)) := by
  intro d hd
  rw [(first_frame (program c)).2.1]
  by_cases hdc : d = c
  · rw [hdc]
    exact hcall
  · exact h d ((fresh_first hdc).symm.trans hd)

/-- One step. -/
theorem Made.next (h : Made program s) {event : Event} (hen : s.enabled program event) :
    Made program (s.next program event) := by
  cases event with
  | call c => exact h.first (.inr hen.2)
  | step c hookRaises =>
    intro d hd
    have hold := h d ((fresh_advance (program c) hookRaises d).symm.trans hd)
    show _ ∨ _ ∈ (s.advance c (program c) hookRaises).created
    rw [created_advance]
    exact hold
  | leave c =>
    intro d hd
    refine h d ?_
    have hleft : (Function.update s.calls c (.returned .awaited) d).fresh = false := hd
    rw [Function.update_apply] at hleft
    by_cases hdc : d = c
    · rw [hdc,Pc.eq_bridged hen]
      rfl
    · rw [if_neg hdc] at hleft
      exact hleft
  | register f =>
    intro d hd
    exact (h d hd).imp_right (List.mem_cons_of_mem f)
  | requestShutdown =>
    unfold System.next
    dsimp only
    split <;> exact h
  | attempt c =>
    obtain ⟨_, hnext⟩ := hen
    unfold System.next
    dsimp only
    split
    · next f rest hcancelling =>
      rw [hcancelling] at hnext
      have hends : endsWithCause program f c = true := by simpa [Drain.next] using hnext
      exact h.first (.inl (finishes_of_endsWithCause hends))
    · exact h
  | attempted =>
    unfold System.next
    dsimp only
    split <;> exact h
  | finishDrain quiescent =>
    unfold System.next
    dsimp only
    split <;> exact h
  | _ => exact h

/-- Every reached state. -/
theorem made_run {es : List Event} (hrun : (machine program).Run (System.initial α) es s) :
    Made program s := by
  refine hrun.invariant _ (fun _ hfresh => by cases hfresh) ?_
  intro _ _ h hen _
  exact h.next hen

/-- An outcome stays. -/
theorem outcome_next {event : Event} {f : ℕ} {o : Outcome α}
    (ho : (s.futures f).outcome = some o) :
    ((s.next program event).futures f).outcome = some o := by
  have hset : ∀ {f' : ℕ} {value : Future α}, value.outcome = (s.futures f').outcome →
      (Function.update s.futures f' value f).outcome = some o := by
    intro f' value hvalue
    rw [Function.update_apply]
    by_cases hf : f = f'
    · rw [if_pos hf,hvalue,← hf]
      exact ho
    · rw [if_neg hf]
      exact ho
  have hfirst : ∀ c, ((s.first c (program c)).futures f).outcome = some o := by
    intro c
    unfold System.first
    split
    · split <;> exact ho
    · unfold System.begin
      split <;> exact ho
    · split
      · exact ho
      · exact hset rfl
  cases event with
  | call c => exact hfirst c
  | step c hookRaises =>
    show ((s.advance c (program c) hookRaises).futures f).outcome = some o
    unfold System.advance
    split <;> first
      | exact ho
      | (unfold System.begin; split <;> exact ho)
      | (unfold System.schedule; split <;> exact ho)
      | (split
         · exact ho
         · exact hset rfl)
      | skip
    unfold System.commit
    split
    · exact ho
    · next hpending =>
      split
      · exact ho
      · refine (extends_finish ?_).outcome f o ho
        unfold Future.done at hpending
        simpa using hpending
  | requestShutdown =>
    unfold System.next
    dsimp only
    split <;> exact ho
  | setHook f' => exact hset rfl
  | leave c => exact hset rfl
  | remove f' k => exact hset rfl
  | attempt c =>
    unfold System.next
    dsimp only
    split
    · exact hfirst c
    · exact ho
  | attempted =>
    unfold System.next
    dsimp only
    split <;> exact ho
  | finishDrain quiescent =>
    unfold System.next
    dsimp only
    split <;> exact ho
  | _ => exact ho

/-- What threads may rely on. -/
structure Notified (program : ℕ → Call α) (s : System α) : Prop where
  /-- One attempt ended each Future that is done, and it shows what that attempt brought. -/
  ended : ∀ f o, (s.futures f).outcome = some o → ∃ c, program c = .finish f o ∧
    ∀ d, (program d).future = f ∧ (s.calls d).wins = true ↔ d = c
  /-- No attempt ended a Future that is pending. -/
  pending : ∀ f, (s.futures f).outcome = none → ∀ c, (program c).future = f →
    (s.calls c).wins = false
  /-- No callback runs twice, and no bridge is completed twice. -/
  once : s.invoked.Nodup ∧ s.transferred.Nodup
  /-- That comes after the end of the Future. -/
  after : ∀ c, c ∈ s.invoked ∨ c ∈ s.transferred → (s.futures (program c).future).done = true
  /-- A callback that was added is at exactly one place, and never dropped. -/
  added : ∀ c, s.calls c = .returned .added → (∃! p, c ∈ s.content p) ∧ c ∉ s.dropped
  /-- When the executor has stopped, its Futures are done and nothing is queued or under way. -/
  stopped : s.state = .stopped → (∀ f ∈ s.created, (s.futures f).done = true) ∧
    s.notifications = [] ∧ s.running = none ∧ ∀ c, (s.calls c).reserves = false
  /-- Then each added callback ran or was removed. -/
  ran : s.state = .stopped → ∀ c, s.calls c = .returned .added → c ∈ s.invoked ∨ c ∈ s.removed
  /-- Each bridge was completed then, or its await took it back. -/
  completed : s.state = .stopped → ∀ c, s.calls c = .bridged ∨ s.calls c = .returned .awaited →
    c ∈ s.transferred ∨ c ∈ s.left

/-- Where things are when the executor has stopped. -/
theorem Inv.places_stopped (h : Inv program s) (hmade : Made program s)
    (hstopped : s.state = .stopped) (hpc : (s.calls c).hands = false) (hidle : (s.calls c).fresh = false)
    {p : Place} (hp : c ∈ s.content p) :
    p = .invoked ∨ p = .transferred ∨ p = .removed ∨ p = .left := by
  obtain ⟨_, hnotifications, hrunning, hdone⟩ := h.stopping.quiet hstopped
  have hnone : ∀ d, ¬ (s.calls d).reserves = true := by
    intro d hd
    exact h.not_stopped hd hstopped
  have hfits := h.lodging.fits p c hp
  have hfuture : ∀ f, (adds (program c) = true ∨ waits (program c) = true) →
      (program c).future = f → (s.futures f).callbacks = [] ∧ (s.futures f).bridges = [] := by
    intro f hkind hf
    rcases hmade c hidle with hfinishes | hcreated
    · cases hcall : program c <;> simp [hcall,adds,waits,finishes] at hkind hfinishes
    · exact h.settled.empty f (hf ▸ hdone _ hcreated)
  cases p with
  | waiting f =>
    have hempty := (hfuture f (.inl hfits.1) hfits.2).1
    simp [System.content,hempty] at hp
  | bridged f =>
    have hempty := (hfuture f (.inr hfits.1) hfits.2).2
    simp [System.content,hempty] at hp
  | taken t =>
    have hnot := hnone t
    cases ht : s.calls t <;> simp [System.content,ht,Pc.callbacks,Pc.reserves] at hp hnot
  | takenBridge t =>
    have hnot := hnone t
    cases ht : s.calls t <;> simp [System.content,ht,Pc.bridges,Pc.reserves] at hp hnot
  | handed t =>
    have hsame : c = t := hfits.1
    simp [System.content,← hsame,hpc] at hp
  | queued => simp [System.content,hnotifications] at hp
  | running => simp [System.content,hrunning] at hp
  | dropped => exact hfits.elim
  | invoked => exact .inl rfl
  | transferred => exact .inr (.inl rfl)
  | removed => exact .inr (.inr (.inl rfl))
  | left => exact .inr (.inr (.inr rfl))

/-- The one attempt that ended a Future brought what it shows. -/
theorem Settled.ended (h : Settled program s) {f : ℕ} {o : Outcome α}
    (houtcome : (s.futures f).outcome = some o) : ∃ c, program c = .finish f o ∧
      ∀ d, (program d).future = f ∧ (s.calls d).wins = true ↔ d = c := by
  have hdone : (s.futures f).done = true := by
    unfold Future.done
    rw [houtcome]
    exact rfl
  obtain ⟨c, hwins, hfuture⟩ := h.winner f hdone
  have hresult := h.result_of_wins hwins
  have hcall : program c = .finish f o := by
    cases hprogram : program c with
    | finish f' o' =>
      rw [hprogram] at hresult hfuture
      have hsame : f' = f := hfuture
      have hother : (s.futures f').outcome = some o' := hresult
      rw [hsame,houtcome] at hother
      cases hother
      rw [hsame]
    | add f' k =>
      rw [hprogram] at hresult
      exact hresult.elim
    | wait f' =>
      rw [hprogram] at hresult
      exact hresult.elim
  refine ⟨c,hcall,fun d => ⟨fun hd => ?_,fun hd => ?_⟩⟩
  · exact h.unique d c hd.2 hwins (hd.1.trans hfuture.symm)
  · rw [hd]
    exact ⟨hfuture,hwins⟩

/-- What a call left is at one place. -/
theorem Inv.place (h : Inv program s) (hlodged : (s.calls c).lodged = true) :
    ∃! p, c ∈ s.content p := by
  have hkept : Kept s.content c := (h.lodging.kept c).mpr hlodged
  obtain ⟨p, hp⟩ := hkept
  exact ⟨p,hp,fun q hq => h.lodging.separate.place q p c hq hp⟩

/-- A callback is no bridge. -/
theorem not_adds_waits {call : Call α} (hadds : adds call = true) : waits call ≠ true := by
  cases call <;> simp_all [adds,waits]

/-- When the executor has stopped, a callback that was added ran or was removed. -/
theorem Inv.added_stopped (h : Inv program s) (hmade : Made program s)
    (hstopped : s.state = .stopped) (hc : s.calls c = .returned .added) :
    c ∈ s.invoked ∨ c ∈ s.removed := by
  have hadds : adds (program c) = true := by
    have hsound := h.settled.sound c
    rw [hc] at hsound
    exact hsound
  obtain ⟨p, hp, _⟩ := h.place (by rw [hc]; rfl)
  rcases h.places_stopped hmade hstopped (by rw [hc]; rfl) (by rw [hc]; rfl) hp with
    rfl | rfl | rfl | rfl
  · exact .inl hp
  · exact absurd (h.lodging.fits .transferred c hp).1 (not_adds_waits hadds)
  · exact .inr hp
  · exact absurd (h.lodging.fits .left c hp) (not_adds_waits hadds)

/-- A bridge was completed then, or its await took it back. -/
theorem Inv.awaited_stopped (h : Inv program s) (hmade : Made program s)
    (hstopped : s.state = .stopped)
    (hc : s.calls c = .bridged ∨ s.calls c = .returned .awaited) :
    c ∈ s.transferred ∨ c ∈ s.left := by
  have hwaits : waits (program c) = true := by
    have hsound := h.settled.sound c
    rcases hc with hc | hc <;> rw [hc] at hsound <;> exact hsound
  have hlodged : (s.calls c).lodged = true := by rcases hc with hc | hc <;> rw [hc] <;> rfl
  have hhands : (s.calls c).hands = false := by rcases hc with hc | hc <;> rw [hc] <;> rfl
  have hfresh : (s.calls c).fresh = false := by rcases hc with hc | hc <;> rw [hc] <;> rfl
  obtain ⟨p, hp, _⟩ := h.place hlodged
  rcases h.places_stopped hmade hstopped hhands hfresh hp with rfl | rfl | rfl | rfl
  · exact absurd hwaits (not_adds_waits (h.lodging.fits .invoked c hp).1)
  · exact .inl hp
  · exact absurd hwaits (not_adds_waits (h.lodging.fits .removed c hp))
  · exact .inr hp

/-- In every state of every run, each Future was ended by the one attempt whose outcome it shows,
and keeps it; callbacks and bridges run at most once, after that; and once the executor has
stopped, every Future is done and every callback that was added has run or was removed. -/
theorem futures_notified {es : List Event}
    (hrun : (machine program).Run (System.initial α) es s) :
    Notified program s ∧ ∀ es' s', (machine program).Run s es' s' → ∀ f o,
      (s.futures f).outcome = some o → (s'.futures f).outcome = some o := by
  have h := inv_run hrun
  have hmade := made_run hrun
  refine ⟨⟨?_,?_,?_,?_,?_,?_,?_,?_⟩,?_⟩
  · intro f o houtcome
    exact h.settled.ended houtcome
  · intro f hnone c hfuture
    exact h.settled.not_wins hnone hfuture
  · exact ⟨h.lodging.separate.nodup .invoked,h.lodging.separate.nodup .transferred⟩
  · intro c hc
    rcases hc with hc | hc
    · exact (h.lodging.fits .invoked c hc).2
    · exact (h.lodging.fits .transferred c hc).2
  · intro c hc
    refine ⟨h.place (by rw [hc]; rfl),fun hdropped => ?_⟩
    exact h.lodging.fits .dropped c hdropped
  · intro hstopped
    obtain ⟨hproducers, hnotifications, hrunning, hdone⟩ := h.stopping.quiet hstopped
    refine ⟨hdone,hnotifications,hrunning,fun c => ?_⟩
    by_contra hreserves
    exact h.not_stopped (Bool.not_eq_false _ ▸ hreserves) hstopped
  · intro hstopped c hc
    exact h.added_stopped hmade hstopped hc
  · intro hstopped c hc
    exact h.awaited_stopped hmade hstopped hc
  · intro es' s' hrun' f o ho
    refine hrun'.invariant (fun s' => (s'.futures f).outcome = some o) ho ?_
    intro _ _ ho' _ _
    exact outcome_next ho'

/-- Two attempts on a Future, an await, a callback before its end and one after it; any other
call is an attempt of the owner. -/
def raced : ℕ → Call ℕ
  | 1 => .add 0 7
  | 2 => .finish 0 (.finished 5)
  | 3 => .wait 0
  | 4 => .finish 0 .canceled
  | 5 => .add 0 8
  | _ => .finish 0 (.finished 9)

/-- The attempts get their reservations in turn, the executor is stopped meanwhile, and the
second callback comes when the first is not queued yet. -/
def raceEvents : List Event :=
  [.start,.register 0,.call 1,.step 1 false,.step 1 false,.call 3,.call 2,.call 4,.step 4 false,
    .step 2 false,.step 2 false,.requestShutdown,.step 4 false,.step 4 false,.step 2 false,
    .call 5,.step 5 false,.step 2 false,.step 2 false,.leave 3,.step 5 false,.step 5 false,
    .take,.invoke,.beginDrain,.attempt 6,.attempted,.beginControl,.take,.invoke,
    .finishDrain true]

/-- Both callbacks ran and the bridge was completed when the executor stopped. -/
theorem futures_notified_race : ∃ s, (machine raced).exec (System.initial ℕ) raceEvents = some s ∧
    s.state = .stopped ∧ s.invoked = [1,5] ∧ s.transferred = [3] ∧ Notified raced s := by
  have hend : ((machine raced).exec (System.initial ℕ) raceEvents).map (fun s =>
      decide (s.state = .stopped ∧ s.invoked = [1,5] ∧ s.transferred = [3])) = some true := by
    decide +kernel
  obtain ⟨s, hexec, hfinal⟩ := Option.map_eq_some_iff.mp hend
  obtain ⟨hstate, hinvoked, htransferred⟩ := of_decide_eq_true hfinal
  have hrun : (machine raced).Run (System.initial ℕ) raceEvents s := Machine.run_of_exec hexec
  exact ⟨s,hexec,hstate,hinvoked,htransferred,(futures_notified hrun).1⟩

end Dmw.Futures
