import Dmw.Futures

/-!
# Where done callbacks are

Every callback and every bridge is at one place from the moment its call leaves
it with its Future. The places, what the calls and the owner know of the
Futures, and the steps by which a call only goes on.
-/

namespace Dmw.Futures

open Counting GuardedRuns Whereabouts

/-- Where the callback or the bridge of a call can be. -/
inductive Place
  /-- In `_callbacks` of a Future. -/
  | waiting (future : ℕ)
  /-- In `_bridges` of a Future. -/
  | bridged (future : ℕ)
  /-- With an attempt that ended the Future, a callback. -/
  | taken (call : ℕ)
  /-- With an attempt that ended the Future, a bridge. -/
  | takenBridge (call : ℕ)
  /-- With its own call. -/
  | handed (call : ℕ)
  /-- In `_notifications`. -/
  | queued
  /-- With the owner. -/
  | running
  /-- It ran. -/
  | invoked
  /-- It was completed. -/
  | transferred
  /-- It was removed. -/
  | removed
  /-- Its await took it back. -/
  | left
  /-- Its executor had stopped. -/
  | dropped
  deriving DecidableEq

/-- The callbacks that an attempt still has to hand over. -/
def Pc.callbacks : Pc → List ℕ
  | .publishing callbacks _ => callbacks
  | _ => []

/-- The bridges that an attempt still has to hand over. -/
def Pc.bridges : Pc → List ℕ
  | .publishing _ bridges => bridges
  | _ => []

/-- The call still has to hand over what it came with. -/
def Pc.hands : Pc → Bool
  | .scheduling | .completing => true
  | _ => false

/-- What is where. -/
def System.content {α : Type} (s : System α) : Place → List ℕ
  | .waiting future => (s.futures future).callbacks
  | .bridged future => (s.futures future).bridges
  | .taken call => (s.calls call).callbacks
  | .takenBridge call => (s.calls call).bridges
  | .handed call => if (s.calls call).hands then [call] else []
  | .queued => s.notifications
  | .running => s.running.toList
  | .invoked => s.invoked
  | .transferred => s.transferred
  | .removed => s.removed
  | .left => s.left
  | .dropped => s.dropped

variable {α : Type} {program : ℕ → Call α} {s : System α} {c : ℕ}

/-- What makes up a call for others than itself: what it hands over, whether it left something
somewhere, and whether it ended its Future. -/
def Pc.shape (pc : Pc) : List ℕ × List ℕ × Bool × Bool × Bool :=
  (pc.callbacks,pc.bridges,pc.hands,pc.lodged,pc.wins)

/-- A call to `add_done_callback`. -/
def adds : Call α → Bool
  | .add _ _ => true
  | _ => false

/-- An await. -/
def waits : Call α → Bool
  | .wait _ => true
  | _ => false

/-- An attempt to end a Future. -/
def finishes : Call α → Bool
  | .finish _ _ => true
  | _ => false

/-- Which calls may have left something where, given which Futures are done. -/
def Fits (program : ℕ → Call α) (done : ℕ → Bool) : Place → ℕ → Prop
  | .waiting future, c => adds (program c) = true ∧ (program c).future = future
  | .bridged future, c => waits (program c) = true ∧ (program c).future = future
  | .taken t, c => adds (program c) = true ∧ (program c).future = (program t).future ∧
      done (program c).future = true
  | .takenBridge t, c => waits (program c) = true ∧ (program c).future = (program t).future ∧
      done (program c).future = true
  | .handed t, c => c = t ∧ done (program c).future = true
  | .queued, c | .running, c | .invoked, c =>
    adds (program c) = true ∧ done (program c).future = true
  | .transferred, c => waits (program c) = true ∧ done (program c).future = true
  | .removed, c => adds (program c) = true
  | .left, c => waits (program c) = true
  | .dropped, _ => False

/-- What calls left somewhere is there once, and is where it belongs. -/
structure Lodging (program : ℕ → Call α) (done lodged : ℕ → Bool) (content : Place → List ℕ) :
    Prop where
  /-- Nothing is anywhere twice. -/
  separate : Separate content
  /-- Nothing is lost. -/
  kept : ∀ c, Kept content c ↔ lodged c = true
  /-- It is where it belongs. -/
  fits : Everywhere (Fits program done) content

/-- More Futures may be done. -/
theorem Fits.mono {done done' : ℕ → Bool} (h : ∀ f, done f = true → done' f = true) {p : Place}
    (hfits : Fits program done p c) : Fits program done' p c := by
  cases p <;> grind [Fits]

section Lodging

variable {done done' lodged : ℕ → Bool} {content : Place → List ℕ} {p q : Place}
  {stay go : List ℕ}

/-- Everything stays where it is. -/
theorem Lodging.stays (h : Lodging program done lodged content)
    (hdone : ∀ f, done f = true → done' f = true) : Lodging program done' lodged content :=
  ⟨h.separate,h.kept,fun p i hi => (h.fits p i hi).mono hdone⟩

/-- A call leaves something. -/
theorem Lodging.enters (h : Lodging program done lodged content) (hnew : lodged c = false)
    (hfits : Fits program done q c) :
    Lodging program done (Function.update lodged c true) (enter q c content) := by
  refine ⟨h.separate.enter ?_,?_,h.fits.enter hfits⟩
  · rw [h.kept,hnew]
    exact Bool.false_ne_true
  · intro j
    rw [kept_enter,h.kept,Function.update_apply]
    grind

/-- Some things move on. -/
theorem Lodging.moves (h : Lodging program done lodged content) (hpq : p ≠ q)
    (hsplit : content p = stay ++ go ∨ content p = go ++ stay ∨
      (∃ keep : ℕ → Bool, stay = (content p).filter keep ∧
        go = (content p).filter fun i => !keep i))
    (hgo : ∀ i ∈ go, Fits program done q i) :
    Lodging program done lodged (transfer p q stay go content) := by
  have hparts : ∀ i, i ∈ content p ↔ i ∈ stay ∨ i ∈ go := by
    intro i
    rcases hsplit with hsplit | hsplit | ⟨keep, hstay, hgo⟩
    · rw [hsplit,List.mem_append]
    · rw [hsplit,List.mem_append,or_comm]
    · rw [hstay,hgo]
      grind
  refine ⟨h.separate.transfer hpq hsplit,?_,?_⟩
  · intro j
    rw [kept_transfer hpq hparts,h.kept]
  · exact h.fits.transfer hpq (fun i hi => (hparts i).mpr (.inl hi)) hgo

end Lodging

/-- What a result says about a call. -/
def Result (s : System α) (call : Call α) : Returned → Prop
  | .won => match call with
    | .finish future outcome => (s.futures future).outcome = some outcome
    | _ => False
  | .lost => finishes call = true ∧ (s.futures call.future).done = true
  | .hookRaised => ∃ future, call = .finish future .canceled
  | .stopped => s.state = .stopped
  | .added => adds call = true
  | .awaited => waits call = true

/-- What the place of a call says about it. -/
def Sound (s : System α) (call : Call α) : Pc → Prop
  | .idle => True
  | .finishing | .reserved => finishes call = true
  | .publishing _ _ => Result s call .won
  | .adding => adds call = true
  | .scheduling => adds call = true ∧ (s.futures call.future).done = true
  | .completing => waits call = true ∧ (s.futures call.future).done = true
  | .bridged => waits call = true
  | .ending result => result ≠ .won ∧ Result s call result
  | .returned result => Result s call result

/-- Every ended Future was ended by one attempt. -/
structure Settled (program : ℕ → Call α) (s : System α) : Prop where
  /-- Calls are where they belong. -/
  sound : ∀ c, Sound s (program c) (s.calls c)
  /-- Two attempts do not end one Future. -/
  unique : ∀ c c', (s.calls c).wins = true → (s.calls c').wins = true →
    (program c).future = (program c').future → c = c'
  /-- Some attempt ended it. -/
  winner : ∀ f, (s.futures f).done = true →
    ∃ c, (s.calls c).wins = true ∧ (program c).future = f
  /-- Nothing is registered with it. -/
  empty : ∀ f, (s.futures f).done = true →
    (s.futures f).callbacks = [] ∧ (s.futures f).bridges = []

/-- Ended Futures and stopped executors stay what they are. -/
structure Extends (s s' : System α) : Prop where
  /-- No outcome changes. -/
  outcome : ∀ f o, (s.futures f).outcome = some o → (s'.futures f).outcome = some o
  /-- A stopped executor stays stopped. -/
  stopped : s.state = .stopped → s'.state = .stopped

/-- What is done stays done. -/
theorem Extends.done {s' : System α} (h : Extends s s') (f : ℕ)
    (hf : (s.futures f).done = true) : (s'.futures f).done = true := by
  unfold Future.done at hf ⊢
  cases houtcome : (s.futures f).outcome with
  | none => simp [houtcome] at hf
  | some o =>
    rw [h.outcome f o houtcome]
    exact rfl

/-- What is known about a call stays known. -/
theorem Sound.extended {s' : System α} (h : Extends s s') {call : Call α} {pc : Pc}
    (hsound : Sound s call pc) : Sound s' call pc := by
  have hdone := h.done call.future
  have hresult : ∀ r, Result s call r → Result s' call r := by
    intro r hr
    cases r with
    | won =>
      cases call with
      | finish f o => exact h.outcome f o hr
      | add f k => exact hr
      | wait f => exact hr
    | lost => exact ⟨hr.1,hdone hr.2⟩
    | hookRaised => exact hr
    | stopped => exact h.stopped hr
    | added => exact hr
    | awaited => exact hr
  cases pc with
  | publishing _ _ => exact hresult .won hsound
  | scheduling => exact ⟨hsound.1,hdone hsound.2⟩
  | completing => exact ⟨hsound.1,hdone hsound.2⟩
  | ending r => exact ⟨hsound.1,hresult r hsound.2⟩
  | returned r => exact hresult r hsound
  | _ => exact hsound

/-- A step that ends no Future. -/
structure Preserves (s s' : System α) : Prop where
  /-- No outcome changes. -/
  outcome : ∀ f, (s'.futures f).outcome = (s.futures f).outcome
  /-- Nothing is registered with an ended Future. -/
  ended : ∀ f, (s.futures f).done = true → (s'.futures f).callbacks = (s.futures f).callbacks ∧
    (s'.futures f).bridges = (s.futures f).bridges
  /-- A stopped executor stays stopped. -/
  stopped : s.state = .stopped → s'.state = .stopped

/-- Then nothing is changed that has ended. -/
theorem Preserves.extends {s' : System α} (h : Preserves s s') : Extends s s' :=
  ⟨fun f _ ho => (h.outcome f).trans ho,h.stopped⟩

/-- The same Futures are done. -/
theorem Preserves.done {s' : System α} (h : Preserves s s') (f : ℕ) :
    (s'.futures f).done = (s.futures f).done := by
  unfold Future.done
  rw [h.outcome f]

/-- One call goes on, and ends no Future. -/
theorem Settled.goes (h : Settled program s) {s' : System α} (hkeeps : Preserves s s') {pc : Pc}
    (hcalls : s'.calls = Function.update s.calls c pc) (hwins : pc.wins = (s.calls c).wins)
    (hsound : Sound s' (program c) pc) : Settled program s' := by
  have hall : ∀ d, (s'.calls d).wins = (s.calls d).wins := by
    intro d
    rw [hcalls,Function.update_apply]
    grind
  constructor
  · intro d
    rw [hcalls,Function.update_apply]
    by_cases hd : d = c
    · rw [if_pos hd,hd]
      exact hsound
    · rw [if_neg hd]
      exact (h.sound d).extended hkeeps.extends
  · intro d d' hd hd'
    rw [hall] at hd hd'
    exact h.unique d d' hd hd'
  · intro f hf
    rw [hkeeps.done] at hf
    obtain ⟨d, hd, hfuture⟩ := h.winner f hf
    exact ⟨d,(hall d).trans hd,hfuture⟩
  · intro f hf
    rw [hkeeps.done] at hf
    have hsame := hkeeps.ended f hf
    rw [hsame.1,hsame.2]
    exact h.empty f hf

/-- No call goes on. -/
theorem Settled.rests (h : Settled program s) {s' : System α} (hkeeps : Preserves s s')
    (hcalls : s'.calls = s.calls) : Settled program s' := by
  have hfirst : s'.calls = Function.update s.calls 0 (s.calls 0) := by
    rw [hcalls,Function.update_eq_self]
  exact h.goes hkeeps hfirst rfl ((h.sound 0).extended hkeeps.extends)

/-- What an owner in its shutdown knows of a Future. -/
def Drain.Covers (program : ℕ → Call α) (done : ℕ → Bool) (future : ℕ) : Drain → Prop
  | .none => True
  | .cancelling futures => future ∈ futures ∨ done future = true
  | .attempting c futures =>
    future ∈ futures ∨ done future = true ∨ endsWithCause program future c = true
  | .control => done future = true

/-- A stopped executor has nothing left to do. -/
structure Stopping (program : ℕ → Call α) (s : System α) : Prop where
  /-- When it stopped there was nothing left. -/
  quiet : s.state = .stopped → s.producers = 0 ∧ s.notifications = [] ∧ s.running = none ∧
    ∀ f ∈ s.created, (s.futures f).done = true
  /-- The owner shuts down only a stopping executor. -/
  draining : s.drain.idle = false → s.state = .stopping
  /-- Until then the executor knows its Futures. -/
  registered : s.state ≠ .stopped → s.registered = s.created
  /-- The owner ends them all. -/
  ends : ∀ f ∈ s.created, s.drain.Covers program (fun f => (s.futures f).done) f
  /-- The owner's attempt was made. -/
  attempted : ∀ c, s.drain.attempt = some c → (s.calls c).fresh = false

/-- Less is to be ended where more is done. -/
theorem Drain.Covers.mono {done done' : ℕ → Bool} (h : ∀ f, done f = true → done' f = true)
    {f : ℕ} {drain : Drain} (hcovers : drain.Covers program done f) :
    drain.Covers program done' f := by
  cases drain <;> grind [Drain.Covers]

/-- The owner is where it was, and nothing happens after the stop. -/
theorem Stopping.keeps (h : Stopping program s) {s' : System α}
    (hdone : ∀ f, (s.futures f).done = true → (s'.futures f).done = true)
    (hstate : s'.state = s.state) (hcreated : s'.created = s.created)
    (hregistered : s'.registered = s.registered) (hdrain : s'.drain = s.drain)
    (hquiet : s.state = .stopped →
      s'.producers = 0 ∧ s'.notifications = [] ∧ s'.running = none)
    (hfresh : ∀ c, (s.calls c).fresh = false → (s'.calls c).fresh = false) :
    Stopping program s' := by
  constructor
  · intro hstopped
    rw [hstate] at hstopped
    obtain ⟨hproducers, hnotifications, hrunning⟩ := hquiet hstopped
    refine ⟨hproducers,hnotifications,hrunning,fun f hf => ?_⟩
    rw [hcreated] at hf
    exact hdone f ((h.quiet hstopped).2.2.2 f hf)
  · rw [hdrain,hstate]
    exact h.draining
  · rw [hstate,hregistered,hcreated]
    exact h.registered
  · intro f hf
    rw [hcreated] at hf
    rw [hdrain]
    exact (h.ends f hf).mono hdone
  · intro c hc
    rw [hdrain] at hc
    exact hfresh c (h.attempted c hc)

/-- What holds between any two steps. -/
structure Inv (program : ℕ → Call α) (s : System α) : Prop where
  /-- Nothing is lost or there twice. -/
  lodging : Lodging program (fun f => (s.futures f).done) (fun c => (s.calls c).lodged) s.content
  /-- Futures are ended once. -/
  settled : Settled program s
  /-- The producers are the calls with a reservation. -/
  reserved : Counts (fun c => (s.calls c).reserves = true) s.producers
  /-- A stopped executor has nothing left to do. -/
  stopping : Stopping program s

/-- A call with a reservation keeps the executor from stopping. -/
theorem Inv.not_stopped (h : Inv program s) (hreserves : (s.calls c).reserves = true) :
    s.state ≠ .stopped := by
  intro hstopped
  have hpos := h.reserved.pos hreserves
  have hnone := (h.stopping.quiet hstopped).1
  omega

/-- Which calls are lodged, as one goes on. -/
theorem lodged_update (pc : Pc) : (fun d => (Function.update s.calls c pc d).lodged) =
    Function.update (fun d => (s.calls d).lodged) c pc.lodged := by
  funext d
  rw [Function.update_apply,Function.update_apply]
  split <;> rfl

/-- A call that is not made again is not fresh. -/
theorem fresh_update {pc : Pc} (hpc : pc.fresh = false) (d : ℕ)
    (hd : (s.calls d).fresh = false) : (Function.update s.calls c pc d).fresh = false := by
  rw [Function.update_apply]
  split
  · exact hpc
  · exact hd

/-- The reservations, as a call goes on without changing its own. -/
theorem reserves_update {n : ℕ} (h : Counts (fun c => (s.calls c).reserves = true) n) {pc : Pc}
    (hpc : pc.reserves = (s.calls c).reserves) :
    Counts (fun d => (Function.update s.calls c pc d).reserves = true) n := by
  refine h.congr fun d => ?_
  rw [Function.update_apply]
  grind

/-- A call goes on with all it had. -/
theorem Inv.goTo (h : Inv program s) {pc : Pc} (hshape : pc.shape = (s.calls c).shape)
    (hreserves : pc.reserves = (s.calls c).reserves) (hfresh : pc.fresh = false)
    (hsound : Sound s (program c) pc) : Inv program (s.goTo c pc) := by
  have hkeeps : Preserves s (s.goTo c pc) := ⟨fun _ => rfl,fun _ _ => ⟨rfl,rfl⟩,id⟩
  simp only [Pc.shape,Prod.mk.injEq] at hshape
  obtain ⟨hcallbacks, hbridges, hhands, hlodged, hwins⟩ := hshape
  have hcontent : (s.goTo c pc).content = s.content := by
    funext p
    cases p <;> simp only [System.content,System.goTo,Function.update_apply] <;> grind
  refine ⟨?_,h.settled.goes hkeeps rfl hwins (hsound.extended hkeeps.extends),
    reserves_update h.reserved hreserves,?_⟩
  · rw [hcontent]
    have hall : (fun d => ((s.goTo c pc).calls d).lodged) = fun d => (s.calls d).lodged := by
      show (fun d => (Function.update s.calls c pc d).lodged) = _
      rw [lodged_update,hlodged,Function.update_eq_self]
    rw [hall]
    exact h.lodging
  · exact h.stopping.keeps (fun _ hf => hf) rfl rfl rfl rfl
      (fun hstopped => ⟨(h.stopping.quiet hstopped).1,(h.stopping.quiet hstopped).2.1,
        (h.stopping.quiet hstopped).2.2.1⟩) (fresh_update hfresh)

/-- A call takes its reservation, unless the executor has stopped. -/
theorem Inv.begin (h : Inv program s) {pc : Pc} (hshape : pc.shape = (s.calls c).shape)
    (hstopped : (Pc.returned .stopped).shape = (s.calls c).shape)
    (hbefore : (s.calls c).reserves = false) (hreserves : pc.reserves = true)
    (hfresh : pc.fresh = false) (hsound : Sound s (program c) pc) :
    Inv program (s.begin c pc) := by
  unfold System.begin
  by_cases hstate : s.state = .stopped
  · rw [if_pos hstate]
    exact h.goTo hstopped hbefore.symm rfl hstate
  · rw [if_neg hstate]
    have hkeeps : Preserves s { s.goTo c pc with producers := s.producers + 1 } :=
      ⟨fun _ => rfl,fun _ _ => ⟨rfl,rfl⟩,id⟩
    simp only [Pc.shape,Prod.mk.injEq] at hshape
    obtain ⟨hcallbacks, hbridges, hhands, hlodged, hwins⟩ := hshape
    have hcontent : System.content { s.goTo c pc with producers := s.producers + 1 } =
        s.content := by
      funext p
      cases p <;> simp only [System.content,System.goTo,Function.update_apply] <;> grind
    have hnot : ¬ (s.calls c).reserves = true := by rw [hbefore]; exact Bool.false_ne_true
    refine ⟨?_,h.settled.goes hkeeps rfl hwins (hsound.extended hkeeps.extends),
      h.reserved.enter (R := fun pc => Pc.reserves pc = true) hnot hreserves,?_⟩
    · rw [hcontent]
      show Lodging program _ (fun d => (Function.update s.calls c pc d).lodged) _
      rw [lodged_update,hlodged,Function.update_eq_self]
      exact h.lodging
    · exact h.stopping.keeps (fun _ hf => hf) rfl rfl rfl rfl
        (fun hstop => absurd hstop hstate) (fresh_update hfresh)

/-- A call gives its reservation back. -/
theorem Inv.release (h : Inv program s) {result : Returned}
    (hshape : (Pc.returned result).shape = (s.calls c).shape)
    (hreserves : (s.calls c).reserves = true) (hsound : Sound s (program c) (.returned result)) :
    Inv program (s.release c result) := by
  have hkeeps : Preserves s (s.release c result) := ⟨fun _ => rfl,fun _ _ => ⟨rfl,rfl⟩,id⟩
  simp only [Pc.shape,Prod.mk.injEq] at hshape
  obtain ⟨hcallbacks, hbridges, hhands, hlodged, hwins⟩ := hshape
  have hcontent : (s.release c result).content = s.content := by
    funext p
    cases p <;> simp only [System.content,System.release,System.goTo,Function.update_apply] <;>
      grind
  refine ⟨?_,h.settled.goes hkeeps rfl hwins (hsound.extended hkeeps.extends),
    h.reserved.leave (R := fun pc => Pc.reserves pc = true) hreserves Bool.false_ne_true,?_⟩
  · rw [hcontent]
    show Lodging program _ (fun d => (Function.update s.calls c (.returned result) d).lodged) _
    rw [lodged_update,hlodged,Function.update_eq_self]
    exact h.lodging
  · exact h.stopping.keeps (fun _ hf => hf) rfl rfl rfl rfl
      (fun hstop => absurd hstop (h.not_stopped hreserves)) (fresh_update rfl)

end Dmw.Futures
