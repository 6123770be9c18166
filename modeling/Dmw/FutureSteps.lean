import Dmw.FuturePlaces

/-!
# The steps of Futures

No step loses a callback or a bridge: an attempt takes over what was registered
with its Future, and hands it over under its reservation. The owner ends every
Future before it looks for the last time.
-/

namespace Dmw.Futures

open Counting GuardedRuns Whereabouts

variable {α : Type} {program : ℕ → Call α} {s : System α} {c : ℕ}

/-- A call that ended its Future shows its outcome. -/
theorem Settled.result_of_wins (h : Settled program s) (hwins : (s.calls c).wins = true) :
    Result s (program c) .won := by
  have hsound := h.sound c
  cases hpc : s.calls c with
  | publishing _ _ =>
    rw [hpc] at hsound
    exact hsound
  | returned r =>
    rw [hpc] at hsound hwins
    have hr : r = .won := by simpa [Pc.wins] using hwins
    rw [hr] at hsound
    exact hsound
  | _ => simp [hpc,Pc.wins] at hwins

/-- No call ended a Future that is pending. -/
theorem Settled.not_wins (h : Settled program s) {f : ℕ} (hnone : (s.futures f).outcome = none)
    (hfuture : (program c).future = f) : (s.calls c).wins = false := by
  by_contra hwins
  have hresult := h.result_of_wins (Bool.not_eq_false _ ▸ hwins)
  cases hprogram : program c with
  | finish f' o' =>
    rw [hprogram] at hfuture hresult
    have hsame : f' = f := hfuture
    rw [hsame] at hresult
    have houtcome : (s.futures f).outcome = some o' := hresult
    rw [hnone] at houtcome
    cases houtcome
  | add f' k =>
    rw [hprogram] at hresult
    exact hresult
  | wait f' =>
    rw [hprogram] at hresult
    exact hresult

section Finish

variable {f : ℕ} {o : Outcome α}

/-- The outcome of a pending Future is the only one that changes. -/
theorem extends_finish (hnone : (s.futures f).outcome = none) : Extends s (s.finish c f o) := by
  refine ⟨fun f' o' ho' => ?_,id⟩
  by_cases hf : f' = f
  · rw [hf,hnone] at ho'
    cases ho'
  · simpa only [System.finish,System.goTo,System.setFuture,Function.update_of_ne hf] using ho'

/-- The Future is done. -/
theorem done_finish : ((s.finish c f o).futures f).done = true := by
  show (Function.update s.futures f _ f).done = true
  rw [Function.update_self]
  exact rfl

/-- What was registered with the Future goes to the call. -/
theorem content_finish (hpc : s.calls c = .reserved) : (s.finish c f o).content =
    transfer (.waiting f) (.taken c) [] (s.futures f).callbacks
      (transfer (.bridged f) (.takenBridge c) [] (s.futures f).bridges s.content) := by
  funext p
  cases p <;> simp only [System.content,System.finish,System.goTo,System.setFuture,transfer,
    Function.update_apply] <;> grind [Pc.callbacks,Pc.bridges,Pc.hands]

/-- Nothing is lost as a Future ends. -/
theorem Inv.lodging_finish (h : Inv program s) (hfuture : (program c).future = f)
    (hnone : (s.futures f).outcome = none) (hpc : s.calls c = .reserved) :
    Lodging program (fun f' => ((s.finish c f o).futures f').done)
      (fun d => ((s.finish c f o).calls d).lodged) (s.finish c f o).content := by
  have hsame : (Pc.publishing (s.futures f).callbacks (s.futures f).bridges).lodged =
      (s.calls c).lodged := by rw [hpc]; rfl
  have hlodged : (fun d => ((s.finish c f o).calls d).lodged) = fun d => (s.calls d).lodged := by
    show (fun d => (Function.update s.calls c _ d).lodged) = _
    rw [lodged_update,hsame,Function.update_eq_self]
  rw [hlodged,content_finish hpc]
  have hended : ((s.finish c f o).futures f).done = true := done_finish
  have hbridges : Lodging program (fun f' => ((s.finish c f o).futures f').done)
      (fun d => (s.calls d).lodged)
      (transfer (.bridged f) (.takenBridge c) [] (s.futures f).bridges s.content) := by
    refine (h.lodging.stays (extends_finish hnone).done).moves (by simp) (.inl rfl) ?_
    intro i hi
    have hfits := h.lodging.fits (.bridged f) i hi
    exact ⟨hfits.1,hfits.2.trans hfuture.symm,hfits.2 ▸ hended⟩
  refine hbridges.moves (by simp) (.inl ?_) ?_
  · unfold transfer
    rw [Function.update_of_ne (by simp),Function.update_of_ne (by simp)]
    exact rfl
  · intro i hi
    have hfits := h.lodging.fits (.waiting f) i hi
    exact ⟨hfits.1,hfits.2.trans hfuture.symm,hfits.2 ▸ hended⟩

/-- The call is the one that ended the Future. -/
theorem Settled.finish (h : Settled program s) (hcall : program c = .finish f o)
    (hnone : (s.futures f).outcome = none) : Settled program (s.finish c f o) := by
  have hfuture : (program c).future = f := by rw [hcall]; rfl
  have hwins : ∀ d, ((s.finish c f o).calls d).wins = true ↔ d = c ∨ (s.calls d).wins = true := by
    intro d
    show (Function.update s.calls c _ d).wins = true ↔ _
    rw [Function.update_apply]
    by_cases hd : d = c
    · simp [hd,Pc.wins]
    · simp [hd]
  have hother : ∀ f', f' ≠ f → (s.finish c f o).futures f' = s.futures f' := by
    intro f' hf
    exact Function.update_of_ne hf _ _
  constructor
  · intro d
    show Sound _ (program d) (Function.update s.calls c _ d)
    rw [Function.update_apply]
    by_cases hd : d = c
    · rw [if_pos hd,hd,hcall]
      show (Function.update s.futures f ⟨some o,false,[],[]⟩ f).outcome = some o
      rw [Function.update_self]
    · rw [if_neg hd]
      exact (h.sound d).extended (extends_finish hnone)
  · intro d d' hd hd' hsame
    rw [hwins] at hd hd'
    have hunique := h.unique d d'
    have hnot := h.not_wins (c := d) hnone
    have hnot' := h.not_wins (c := d') hnone
    grind
  · intro f' hf'
    by_cases hf : f' = f
    · exact ⟨c,(hwins c).mpr (.inl rfl),hfuture.trans hf.symm⟩
    · rw [hother f' hf] at hf'
      obtain ⟨d, hd, hdfuture⟩ := h.winner f' hf'
      exact ⟨d,(hwins d).mpr (.inr hd),hdfuture⟩
  · intro f' hf'
    by_cases hf : f' = f
    · rw [hf]
      show (Function.update s.futures f ⟨some o,false,[],[]⟩ f).callbacks = [] ∧
        (Function.update s.futures f ⟨some o,false,[],[]⟩ f).bridges = []
      rw [Function.update_self]
      exact ⟨rfl,rfl⟩
    · rw [hother f' hf] at hf' ⊢
      exact h.empty f' hf'

end Finish

/-- An attempt ends its Future, or finds that it cannot. -/
theorem Inv.commit (h : Inv program s) {f : ℕ} {o : Outcome α} {hookRaises : Bool}
    (hcall : program c = .finish f o) (hpc : s.calls c = .reserved) :
    Inv program (s.commit c f o hookRaises) := by
  have hsound := h.settled.sound c
  rw [hpc] at hsound
  unfold System.commit
  by_cases hdone : (s.futures f).done = true
  · rw [if_pos hdone]
    refine h.goTo (by rw [hpc]; rfl) (by rw [hpc]; rfl) rfl ?_
    exact ⟨by simp,hsound,by rw [hcall]; exact hdone⟩
  · rw [if_neg hdone]
    split
    · refine h.goTo (by rw [hpc]; rfl) (by rw [hpc]; rfl) rfl ?_
      exact ⟨by simp,f,hcall⟩
    · have hnone : (s.futures f).outcome = none := by
        unfold Future.done at hdone
        simpa using hdone
      have hreserves : (s.calls c).reserves = true := by rw [hpc]; rfl
      exact ⟨h.lodging_finish (by rw [hcall]; rfl) hnone hpc,h.settled.finish hcall hnone,
        reserves_update h.reserved hreserves.symm,
        h.stopping.keeps (extends_finish hnone).done rfl rfl rfl rfl
          (fun hstop => absurd hstop (h.not_stopped hreserves)) (fresh_update rfl)⟩

/-- What a call with a reservation hands over goes to the queue of the executor. -/
theorem Inv.hands (h : Inv program s) {pc : Pc} {p : Place} {i : ℕ} {stay : List ℕ}
    (hpc : pc.lodged = (s.calls c).lodged ∧ pc.wins = (s.calls c).wins)
    (hreserves : (s.calls c).reserves = true) (hstill : pc.reserves = true)
    (hfresh : pc.fresh = false) (hp : p ≠ .queued) (hsplit : s.content p = [i] ++ stay)
    (hcontent : System.content
        { s.goTo c pc with notifications := s.notifications ++ [i] } =
      transfer p .queued stay [i] s.content)
    (hi : adds (program i) = true ∧ (s.futures (program i).future).done = true)
    (hsound : Sound s (program c) pc) : Inv program ((s.schedule i).goTo c pc) := by
  have hstate := h.not_stopped hreserves
  have hschedule : (s.schedule i).goTo c pc =
      { s.goTo c pc with notifications := s.notifications ++ [i] } := by
    unfold System.schedule
    rw [if_neg hstate]
    exact rfl
  rw [hschedule]
  have hkeeps : Preserves s { s.goTo c pc with notifications := s.notifications ++ [i] } :=
    ⟨fun _ => rfl,fun _ _ => ⟨rfl,rfl⟩,id⟩
  refine ⟨?_,h.settled.goes hkeeps rfl hpc.2 (hsound.extended hkeeps.extends),
    reserves_update h.reserved (hstill.trans hreserves.symm),?_⟩
  · rw [hcontent]
    show Lodging program _ (fun d => (Function.update s.calls c pc d).lodged) _
    rw [lodged_update,hpc.1,Function.update_eq_self]
    refine h.lodging.moves hp (.inr (.inl hsplit)) ?_
    intro j hj
    rw [List.mem_singleton.mp hj]
    exact hi
  · exact h.stopping.keeps (fun _ hf => hf) rfl rfl rfl rfl
      (fun hstop => absurd hstop hstate) (fresh_update hfresh)

/-- A bridge is completed. -/
theorem Inv.completes (h : Inv program s) {pc : Pc} {p : Place} {i : ℕ} {stay : List ℕ}
    (hpc : pc.lodged = (s.calls c).lodged ∧ pc.wins = (s.calls c).wins)
    (hreserves : pc.reserves = (s.calls c).reserves) (hfresh : pc.fresh = false)
    (hp : p ≠ .transferred) (hsplit : s.content p = [i] ++ stay)
    (hcontent : ((s.complete i).goTo c pc).content = transfer p .transferred stay [i] s.content)
    (hi : waits (program i) = true ∧ (s.futures (program i).future).done = true)
    (hsound : Sound s (program c) pc) : Inv program ((s.complete i).goTo c pc) := by
  have hkeeps : Preserves s ((s.complete i).goTo c pc) :=
    ⟨fun _ => rfl,fun _ _ => ⟨rfl,rfl⟩,id⟩
  refine ⟨?_,h.settled.goes hkeeps rfl hpc.2 (hsound.extended hkeeps.extends),
    reserves_update h.reserved hreserves,?_⟩
  · rw [hcontent]
    show Lodging program _ (fun d => (Function.update s.calls c pc d).lodged) _
    rw [lodged_update,hpc.1,Function.update_eq_self]
    refine h.lodging.moves hp (.inr (.inl hsplit)) ?_
    intro j hj
    rw [List.mem_singleton.mp hj]
    exact hi
  · exact h.stopping.keeps (fun _ hf => hf) rfl rfl rfl rfl
      (fun hstop => ⟨(h.stopping.quiet hstop).1,(h.stopping.quiet hstop).2.1,
        (h.stopping.quiet hstop).2.2.1⟩) (fresh_update hfresh)

theorem System.setFuture_self (s : System α) (f : ℕ) : s.setFuture f (s.futures f) = s := by
  unfold System.setFuture
  rw [Function.update_eq_self]

/-- A call leaves something with a pending Future, or keeps it to hand it over. -/
theorem Inv.leaves (h : Inv program s) {f : ℕ} {value : Future α} {pc : Pc} {q : Place}
    (houtcome : value.outcome = (s.futures f).outcome)
    (hsame : (s.futures f).done = true → value = s.futures f)
    (hcontent : ((s.setFuture f value).goTo c pc).content = enter q c s.content)
    (hlodged : (s.calls c).lodged = false) (hpc : pc.lodged = true)
    (hwins : pc.wins = (s.calls c).wins) (hreserves : pc.reserves = (s.calls c).reserves)
    (hfresh : pc.fresh = false)
    (hfits : Fits program (fun f' => (s.futures f').done) q c)
    (hsound : Sound s (program c) pc) : Inv program ((s.setFuture f value).goTo c pc) := by
  have hother : ∀ f', f' ≠ f → ((s.setFuture f value).goTo c pc).futures f' = s.futures f' :=
    fun f' hf => Function.update_of_ne hf _ _
  have hself : ((s.setFuture f value).goTo c pc).futures f = value := Function.update_self _ _ _
  have hkeeps : Preserves s ((s.setFuture f value).goTo c pc) := by
    refine ⟨fun f' => ?_,fun f' hf' => ?_,id⟩
    · by_cases hf : f' = f
      · rw [hf,hself,houtcome]
      · rw [hother f' hf]
    · by_cases hf : f' = f
      · rw [hf] at hf' ⊢
        rw [hself,hsame hf']
        exact ⟨rfl,rfl⟩
      · rw [hother f' hf]
        exact ⟨rfl,rfl⟩
  refine ⟨?_,h.settled.goes hkeeps rfl hwins (hsound.extended hkeeps.extends),
    reserves_update h.reserved hreserves,?_⟩
  · have hentered := (h.lodging.enters hlodged hfits).stays hkeeps.extends.done
    rw [hcontent]
    show Lodging program _ (fun d => (Function.update s.calls c pc d).lodged) _
    rw [lodged_update,hpc]
    exact hentered
  · exact h.stopping.keeps hkeeps.extends.done rfl rfl rfl rfl
      (fun hstop => ⟨(h.stopping.quiet hstop).1,(h.stopping.quiet hstop).2.1,
        (h.stopping.quiet hstop).2.2.1⟩) (fresh_update hfresh)

/-- A call returns. -/
theorem Inv.ended (h : Inv program s) {result : Returned} (hpc : s.calls c = .ending result) :
    Inv program (s.release c result) := by
  have hsound := h.settled.sound c
  rw [hpc] at hsound
  refine h.release ?_ (by rw [hpc]; rfl) hsound.2
  rw [hpc]
  have hnot := hsound.1
  simp [Pc.shape,Pc.callbacks,Pc.bridges,Pc.hands,Pc.lodged,Pc.wins,hnot]

/-- The first section of a call. -/
theorem Inv.first (h : Inv program s) (hpc : s.calls c = .idle) :
    Inv program (s.first c (program c)) := by
  cases hcall : program c with
  | finish f o =>
    unfold System.first
    dsimp only
    by_cases hdone : (s.futures f).done = true
    · rw [if_pos hdone]
      refine h.goTo (by rw [hpc]; rfl) (by rw [hpc]; rfl) rfl ?_
      rw [hcall]
      exact ⟨rfl,hdone⟩
    · rw [if_neg hdone]
      refine h.goTo (by rw [hpc]; rfl) (by rw [hpc]; rfl) rfl ?_
      rw [hcall]
      exact rfl
  | add f k =>
    refine h.begin (by rw [hpc]; rfl) (by rw [hpc]; rfl) (by rw [hpc]; rfl) rfl rfl ?_
    rw [hcall]
    exact rfl
  | wait f =>
    unfold System.first
    dsimp only
    by_cases hdone : (s.futures f).done = true
    · rw [if_pos hdone]
      rw [← s.setFuture_self f]
      refine h.leaves rfl (fun _ => rfl) (q := .handed c) ?_ (by rw [hpc]; rfl) rfl
        (by rw [hpc]; rfl) (by rw [hpc]; rfl) rfl ⟨rfl,by rw [hcall]; exact hdone⟩ ?_
      · funext p
        cases p <;> simp only [System.content,System.goTo,System.setFuture,enter,
          Function.update_apply] <;> grind [Pc.callbacks,Pc.bridges,Pc.hands]
      · rw [hcall]
        exact ⟨rfl,hdone⟩
    · rw [if_neg hdone]
      refine h.leaves rfl (fun hf => absurd hf hdone) (q := .bridged f) ?_ (by rw [hpc]; rfl) rfl
        (by rw [hpc]; rfl) (by rw [hpc]; rfl) rfl ⟨by rw [hcall]; rfl,by rw [hcall]; rfl⟩ ?_
      · funext p
        cases p <;> simp only [System.content,System.goTo,System.setFuture,enter,
          Function.update_apply] <;> grind [Pc.callbacks,Pc.bridges,Pc.hands]
      · rw [hcall]
        exact rfl

/-- The next section of an attempt. -/
theorem Inv.advance_finish (h : Inv program s) {f : ℕ} {o : Outcome α} {hookRaises : Bool}
    (hcall : program c = .finish f o) :
    Inv program (s.advance c (.finish f o) hookRaises) := by
  have hsound := h.settled.sound c
  rw [hcall] at hsound
  unfold System.advance
  cases hpc : s.calls c with
  | finishing =>
    refine h.begin (by rw [hpc]; rfl) (by rw [hpc]; rfl) (by rw [hpc]; rfl) rfl rfl ?_
    rw [hcall]
    exact rfl
  | reserved => exact h.commit hcall hpc
  | publishing callbacks bridges =>
    rw [hpc] at hsound
    have hkept : ∀ callbacks bridges, Sound s (program c) (.publishing callbacks bridges) := by
      intro callbacks bridges
      rw [hcall]
      exact hsound
    cases callbacks with
    | cons callback rest =>
      have hsplit : s.content (.taken c) = [callback] ++ rest := by
        simp [System.content,hpc,Pc.callbacks]
      have hfits := h.lodging.fits (.taken c) callback (by rw [hsplit]; simp)
      refine h.hands (by rw [hpc]; exact ⟨rfl,rfl⟩) (by rw [hpc]; rfl) rfl rfl (by simp) hsplit ?_
        ⟨hfits.1,hfits.2.2⟩ (hkept rest bridges)
      funext p
      cases p <;> simp only [System.content,System.goTo,transfer,Function.update_apply] <;>
        grind [Pc.callbacks,Pc.bridges,Pc.hands]
    | nil =>
      cases bridges with
      | cons bridge rest =>
        have hsplit : s.content (.takenBridge c) = [bridge] ++ rest := by
          simp [System.content,hpc,Pc.bridges]
        have hfits := h.lodging.fits (.takenBridge c) bridge (by rw [hsplit]; simp)
        refine h.completes (by rw [hpc]; exact ⟨rfl,rfl⟩) (by rw [hpc]; rfl) rfl (by simp) hsplit ?_
          ⟨hfits.1,hfits.2.2⟩ (hkept [] rest)
        funext p
        cases p <;> simp only [System.content,System.complete,System.goTo,transfer,
          Function.update_apply] <;> grind [Pc.callbacks,Pc.bridges,Pc.hands]
      | nil =>
        refine h.release (by rw [hpc]; rfl) (by rw [hpc]; rfl) ?_
        rw [hcall]
        exact hsound
  | ending result => exact h.ended hpc
  | _ => exact h

/-- The next section of `add_done_callback`. -/
theorem Inv.advance_add (h : Inv program s) {f k : ℕ} {hookRaises : Bool}
    (hcall : program c = .add f k) : Inv program (s.advance c (.add f k) hookRaises) := by
  have hsound := h.settled.sound c
  rw [hcall] at hsound
  have hadds : adds (program c) = true := by rw [hcall]; rfl
  unfold System.advance
  cases hpc : s.calls c with
  | adding =>
    dsimp only
    by_cases hdone : (s.futures f).done = true
    · rw [if_pos hdone]
      rw [← s.setFuture_self f]
      refine h.leaves rfl (fun _ => rfl) (q := .handed c) ?_ (by rw [hpc]; rfl) rfl
        (by rw [hpc]; rfl) (by rw [hpc]; rfl) rfl ⟨rfl,by rw [hcall]; exact hdone⟩ ?_
      · funext p
        cases p <;> simp only [System.content,System.goTo,System.setFuture,enter,
          Function.update_apply] <;> grind [Pc.callbacks,Pc.bridges,Pc.hands]
      · rw [hcall]
        exact ⟨rfl,hdone⟩
    · rw [if_neg hdone]
      refine h.leaves rfl (fun hf => absurd hf hdone) (q := .waiting f) ?_ (by rw [hpc]; rfl) rfl
        (by rw [hpc]; rfl) (by rw [hpc]; rfl) rfl ⟨hadds,by rw [hcall]; rfl⟩ ?_
      · funext p
        cases p <;> simp only [System.content,System.goTo,System.setFuture,enter,
          Function.update_apply] <;> grind [Pc.callbacks,Pc.bridges,Pc.hands]
      · rw [hcall]
        exact ⟨by simp,rfl⟩
  | scheduling =>
    rw [hpc] at hsound
    have hsplit : s.content (.handed c) = [c] ++ [] := by simp [System.content,hpc,Pc.hands]
    have hdone : (s.futures (program c).future).done = true := by rw [hcall]; exact hsound.2
    refine h.hands (by rw [hpc]; exact ⟨rfl,rfl⟩) (by rw [hpc]; rfl) rfl rfl (by simp) hsplit ?_
      ⟨hadds,hdone⟩ ⟨by simp,hadds⟩
    funext p
    cases p <;> simp only [System.content,System.goTo,transfer,Function.update_apply] <;>
      grind [Pc.callbacks,Pc.bridges,Pc.hands]
  | ending result => exact h.ended hpc
  | _ => exact h

/-- The next section of an await. -/
theorem Inv.advance_wait (h : Inv program s) {f : ℕ} {hookRaises : Bool}
    (hcall : program c = .wait f) : Inv program (s.advance c (.wait f) hookRaises) := by
  have hsound := h.settled.sound c
  rw [hcall] at hsound
  have hwaits : waits (program c) = true := by rw [hcall]; rfl
  unfold System.advance
  cases hpc : s.calls c with
  | completing =>
    rw [hpc] at hsound
    have hsplit : s.content (.handed c) = [c] ++ [] := by simp [System.content,hpc,Pc.hands]
    have hdone : (s.futures (program c).future).done = true := by rw [hcall]; exact hsound.2
    refine h.completes (by rw [hpc]; exact ⟨rfl,rfl⟩) (by rw [hpc]; rfl) rfl (by simp) hsplit ?_
      ⟨hwaits,hdone⟩ hwaits
    funext p
    cases p <;> simp only [System.content,System.complete,System.goTo,transfer,
      Function.update_apply] <;> grind [Pc.callbacks,Pc.bridges,Pc.hands]
  | ending result => exact h.ended hpc
  | _ => exact h

/-- The next section of a call. -/
theorem Inv.advance (h : Inv program s) (hookRaises : Bool) :
    Inv program (s.advance c (program c) hookRaises) := by
  cases hcall : program c with
  | finish f o => exact h.advance_finish hcall
  | add f k => exact h.advance_add hcall
  | wait f => exact h.advance_wait hcall

/-- A step that makes no call go on and ends no Future. -/
theorem Inv.rests (h : Inv program s) {s' : System α} (hkeeps : Preserves s s')
    (hcalls : s'.calls = s.calls) (hproducers : s'.producers = s.producers)
    (hlodging : Lodging program (fun f => (s.futures f).done) (fun c => (s.calls c).lodged)
      s'.content) (hstopping : Stopping program s') : Inv program s' := by
  refine ⟨?_,h.settled.rests hkeeps hcalls,?_,hstopping⟩
  · rw [hcalls]
    exact hlodging.stays hkeeps.extends.done
  · rw [hcalls,hproducers]
    exact h.reserved

/-- A Future whose outcome stays. -/
theorem preserves_setFuture {f : ℕ} {value : Future α} {s' : System α}
    (hfutures : s'.futures = Function.update s.futures f value)
    (hstate : s.state = .stopped → s'.state = .stopped)
    (houtcome : value.outcome = (s.futures f).outcome)
    (hended : (s.futures f).done = true →
      value.callbacks = (s.futures f).callbacks ∧ value.bridges = (s.futures f).bridges) :
    Preserves s s' := by
  refine ⟨fun f' => ?_,fun f' hf' => ?_,hstate⟩
  · rw [hfutures,Function.update_apply]
    by_cases hf : f' = f
    · rw [if_pos hf,hf,houtcome]
    · rw [if_neg hf]
  · rw [hfutures,Function.update_apply]
    by_cases hf : f' = f
    · rw [hf] at hf' ⊢
      rw [if_pos rfl]
      exact hended hf'
    · rw [if_neg hf]
      exact ⟨rfl,rfl⟩

/-- An await ends. -/
theorem Inv.leave (h : Inv program s) (hpc : s.calls c = .bridged) :
    Inv program (s.leave c (program c).future) := by
  have hsound := h.settled.sound c
  rw [hpc] at hsound
  have hkeeps : Preserves s (s.leave c (program c).future) := by
    refine preserves_setFuture rfl id rfl fun hdone => ?_
    have hempty := h.settled.empty _ hdone
    exact ⟨rfl,by simp [hempty.2]⟩
  refine ⟨?_,h.settled.goes hkeeps rfl (by rw [hpc]; rfl) hsound,
    reserves_update h.reserved (by rw [hpc]; rfl),?_⟩
  · have hcontent : (s.leave c (program c).future).content =
        transfer (.bridged (program c).future) .left
          ((s.content (.bridged (program c).future)).filter fun bridge => !(bridge == c))
          ((s.content (.bridged (program c).future)).filter fun bridge => !(!(bridge == c)))
          s.content := by
      funext p
      cases p <;> simp only [System.content,System.leave,System.setFuture,transfer,
        Function.update_apply] <;> grind [Pc.callbacks,Pc.bridges,Pc.hands]
    have hlodged : (fun d => ((s.leave c (program c).future).calls d).lodged) =
        fun d => (s.calls d).lodged := by
      show (fun d => (Function.update s.calls c (.returned .awaited) d).lodged) = _
      have hsame : (Pc.returned .awaited).lodged = (s.calls c).lodged := by rw [hpc]; rfl
      rw [lodged_update,hsame,Function.update_eq_self]
    rw [hlodged,hcontent]
    refine (h.lodging.moves (by simp) (.inr (.inr ⟨_,rfl,rfl⟩)) ?_).stays hkeeps.extends.done
    intro i hi
    exact (h.lodging.fits (.bridged (program c).future) i (List.mem_filter.mp hi).1).1
  · exact h.stopping.keeps hkeeps.extends.done rfl rfl rfl rfl
      (fun hstop => ⟨(h.stopping.quiet hstop).1,(h.stopping.quiet hstop).2.1,
        (h.stopping.quiet hstop).2.2.1⟩) (fresh_update rfl)

/-- Callbacks are removed. -/
theorem Inv.remove (h : Inv program s) (f k : ℕ) : Inv program (s.remove program f k) := by
  have hkeeps : Preserves s (s.remove program f k) := by
    refine preserves_setFuture rfl id rfl fun hdone => ?_
    have hempty := h.settled.empty f hdone
    exact ⟨by simp [hempty.1],rfl⟩
  refine h.rests hkeeps rfl rfl ?_ ?_
  · have hcontent : (s.remove program f k).content = transfer (.waiting f) .removed
        ((s.content (.waiting f)).filter fun c => !(callbackOf program c == some k))
        ((s.content (.waiting f)).filter fun c => !(!(callbackOf program c == some k)))
        s.content := by
      funext p
      cases p <;> simp only [System.content,System.remove,System.setFuture,transfer,
        Function.update_apply] <;> grind
    rw [hcontent]
    refine h.lodging.moves (by simp) (.inr (.inr ⟨_,rfl,rfl⟩)) ?_
    intro i hi
    exact (h.lodging.fits (.waiting f) i (List.mem_filter.mp hi).1).1
  · exact h.stopping.keeps hkeeps.extends.done rfl rfl rfl rfl
      (fun hstop => ⟨(h.stopping.quiet hstop).1,(h.stopping.quiet hstop).2.1,
        (h.stopping.quiet hstop).2.2.1⟩) (fun _ hc => hc)

/-- The owner takes a queued callback. -/
theorem Inv.take (h : Inv program s) (hrunning : s.running = none)
    (hqueued : s.notifications ≠ []) : Inv program
      { s with notifications := s.notifications.tail, running := s.notifications.head? } := by
  cases hnotifications : s.notifications with
  | nil => exact absurd hnotifications hqueued
  | cons c rest =>
    have hsplit : s.content .queued = [c] ++ rest := hnotifications
    have hfits := h.lodging.fits .queued c (by rw [hsplit]; simp)
    refine h.rests ⟨fun _ => rfl,fun _ _ => ⟨rfl,rfl⟩,id⟩ rfl rfl ?_ ?_
    · have hcontent : System.content
          { s with notifications := (c :: rest).tail, running := (c :: rest).head? } =
          transfer .queued .running rest [c] s.content := by
        funext p
        cases p <;> simp [System.content,transfer,hrunning]
      rw [hcontent]
      refine h.lodging.moves (by simp) (.inr (.inl hsplit)) ?_
      intro i hi
      rw [List.mem_singleton.mp hi]
      exact hfits
    · exact h.stopping.keeps (fun _ hf => hf) rfl rfl rfl rfl
        (fun hstop => absurd (h.stopping.quiet hstop).2.1 hqueued) (fun _ hc => hc)

/-- The owner runs the callback that it took. -/
theorem Inv.invoke (h : Inv program s) (hrunning : s.running ≠ none) : Inv program
      { s with invoked := s.invoked ++ s.running.toList, running := none } := by
  cases htaken : s.running with
  | none => exact absurd htaken hrunning
  | some c =>
    have hsplit : s.content .running = [] ++ [c] := by simp [System.content,htaken]
    have hfits := h.lodging.fits .running c (by rw [hsplit]; simp)
    refine h.rests ⟨fun _ => rfl,fun _ _ => ⟨rfl,rfl⟩,id⟩ rfl rfl ?_ ?_
    · have hcontent : System.content
          { s with invoked := s.invoked ++ (some c).toList, running := none } =
          transfer .running .invoked [] [c] s.content := by
        funext p
        cases p <;> simp [System.content,transfer]
      rw [hcontent]
      refine h.lodging.moves (by simp) (.inl hsplit) ?_
      intro i hi
      rw [List.mem_singleton.mp hi]
      exact hfits
    · exact h.stopping.keeps (fun _ hf => hf) rfl rfl rfl rfl
        (fun hstop => absurd (h.stopping.quiet hstop).2.2.1 hrunning) (fun _ hc => hc)

/-- The owner goes on in its shutdown. -/
theorem Inv.withDrain (h : Inv program s) {drain : Drain}
    (hdraining : drain.idle = false → s.state = .stopping)
    (hends : ∀ f ∈ s.created, drain.Covers program (fun f => (s.futures f).done) f)
    (hattempted : ∀ c, drain.attempt = some c → (s.calls c).fresh = false) :
    Inv program { s with drain := drain } := by
  have hcontent : System.content { s with drain := drain } = s.content := by
    funext p
    cases p <;> rfl
  refine h.rests ⟨fun _ => rfl,fun _ _ => ⟨rfl,rfl⟩,id⟩ rfl rfl (hcontent ▸ h.lodging) ?_
  exact ⟨h.stopping.quiet,hdraining,h.stopping.registered,hends,hattempted⟩

/-- The state of the executor changes. -/
theorem Inv.withState (h : Inv program s) {state : ExecutorState} {registered : List ℕ}
    {drain : Drain} (hkeeps : s.state = .stopped → state = .stopped)
    (hstopping : Stopping program
      { s with state := state, registered := registered, drain := drain }) :
    Inv program { s with state := state, registered := registered, drain := drain } := by
  have hcontent : System.content
      { s with state := state, registered := registered, drain := drain } = s.content := by
    funext p
    cases p <;> rfl
  exact h.rests ⟨fun _ => rfl,fun _ _ => ⟨rfl,rfl⟩,hkeeps⟩ rfl rfl (hcontent ▸ h.lodging) hstopping

/-- The first section of a call leaves the owner, and the call was made. -/
theorem first_frame (call : Call α) : (s.first c call).drain = s.drain ∧
    (s.first c call).created = s.created ∧ ((s.first c call).calls c).fresh = false := by
  cases call with
  | finish f o =>
    unfold System.first
    dsimp only
    split <;> exact ⟨rfl,rfl,by simp [System.goTo,Pc.fresh]⟩
  | add f k =>
    unfold System.first System.begin
    dsimp only
    split <;> exact ⟨rfl,rfl,by simp [System.goTo,Pc.fresh]⟩
  | wait f =>
    unfold System.first
    dsimp only
    split <;> exact ⟨rfl,rfl,by simp [System.goTo,Pc.fresh]⟩

/-- The owner's attempt ends its Future. -/
theorem Inv.attempted (h : Inv program s) {f : ℕ} (hends : endsWithCause program f c = true)
    (hover : (s.calls c).over = true) (hstate : s.state = .stopping) :
    (s.futures f).done = true := by
  have hsound := h.settled.sound c
  cases hpc : s.calls c with
  | returned r =>
    rw [hpc] at hsound
    unfold endsWithCause at hends
    cases hcall : program c with
    | finish f' o =>
      rw [hcall] at hends hsound
      cases o with
      | finished v =>
        have hf : f' = f := by simpa using hends
        rw [hf] at hsound
        cases r with
        | won =>
          have houtcome : (s.futures f).outcome = some (.finished v) := hsound
          unfold Future.done
          rw [houtcome]
          exact rfl
        | lost => exact hsound.2
        | hookRaised =>
          obtain ⟨f'', hcanceled⟩ := hsound
          simp at hcanceled
        | stopped =>
          have hstopped : s.state = .stopped := hsound
          rw [hstate] at hstopped
          cases hstopped
        | added => cases hsound
        | awaited => cases hsound
      | canceled => simp at hends
    | add f' k => simp [hcall] at hends
    | wait f' => simp [hcall] at hends
  | _ => simp [hpc,Pc.over] at hover

/-- A call that was not made. -/
theorem Pc.eq_idle {pc : Pc} (hfresh : pc.fresh = true) : pc = .idle := by
  cases pc with
  | idle => rfl
  | _ => cases hfresh

/-- An await that waits. -/
theorem Pc.eq_bridged {pc : Pc} (hwaits : pc.waits = true) : pc = .bridged := by
  cases pc with
  | bridged => rfl
  | _ => cases hwaits

/-- The executor runs. -/
theorem Inv.start (h : Inv program s) (hcreated : s.state = .created) :
    Inv program { s with state := .running } := by
  refine h.withState (fun hstop => ?_) ⟨fun hstop => (by cases hstop),?_,?_,
    h.stopping.ends,h.stopping.attempted⟩
  · rw [hcreated] at hstop
    cases hstop
  · intro hidle
    have hstopping := h.stopping.draining hidle
    rw [hcreated] at hstopping
    cases hstopping
  · intro _
    exact h.stopping.registered (by rw [hcreated]; exact fun hstop => by cases hstop)

/-- A Future is made. -/
theorem Inv.register (h : Inv program s) {f : ℕ}
    (hstate : s.state = .created ∨ s.state = .running) :
    Inv program (s.next program (.register f)) := by
  have hrunning : s.state ≠ .stopped := by
    rcases hstate with hstate | hstate <;> rw [hstate] <;> exact fun hstop => by cases hstop
  have hidle : s.drain.idle = true := by
    by_contra hidle
    have hstopping := h.stopping.draining (Bool.not_eq_true _ ▸ hidle)
    rcases hstate with hstate | hstate <;> rw [hstate] at hstopping <;> cases hstopping
  have hcontent : (s.next program (.register f)).content = s.content := by
    funext p
    cases p <;> rfl
  refine h.rests ⟨fun _ => rfl,fun _ _ => ⟨rfl,rfl⟩,id⟩ rfl rfl (hcontent ▸ h.lodging) ?_
  refine ⟨fun hstop => absurd hstop hrunning,h.stopping.draining,?_,?_,h.stopping.attempted⟩
  · intro _
    show f :: s.registered = f :: s.created
    rw [h.stopping.registered hrunning]
  · intro f' _
    show s.drain.Covers program _ f'
    cases hdrain : s.drain with
    | none => trivial
    | _ => simp [hdrain,Drain.idle] at hidle

/-- A Future gets its cancel hook. -/
theorem Inv.setHook (h : Inv program s) (f : ℕ) : Inv program (s.next program (.setHook f)) := by
  have hcontent : (s.next program (.setHook f)).content = s.content := by
    funext p
    cases p <;> simp only [System.content,System.next,System.setFuture,
      Function.update_apply] <;> grind
  have hkeeps : Preserves s (s.next program (.setHook f)) :=
    preserves_setFuture rfl id rfl fun _ => ⟨rfl,rfl⟩
  refine h.rests hkeeps rfl rfl (hcontent ▸ h.lodging) ?_
  exact h.stopping.keeps hkeeps.extends.done rfl rfl rfl rfl
    (fun hstop => ⟨(h.stopping.quiet hstop).1,(h.stopping.quiet hstop).2.1,
      (h.stopping.quiet hstop).2.2.1⟩) (fun _ hc => hc)

/-- The owner attempts to end the next Future. -/
theorem Inv.attempt (h : Inv program s) {f : ℕ} {rest : List ℕ}
    (hcancelling : s.drain = .cancelling (f :: rest)) (hpc : s.calls c = .idle)
    (hends : endsWithCause program f c = true) :
    Inv program { s.first c (program c) with drain := .attempting c rest } := by
  have hfirst := h.first hpc
  obtain ⟨hdrain, _, hmade⟩ := first_frame (s := s) (c := c) (program c)
  rw [hcancelling] at hdrain
  refine hfirst.withDrain (fun _ => hfirst.stopping.draining (by rw [hdrain]; rfl)) ?_ ?_
  · intro f' hf'
    have hcovers := hfirst.stopping.ends f' hf'
    rw [hdrain] at hcovers
    rcases hcovers with hmem | hdone
    · rcases List.mem_cons.mp hmem with hsame | hmem
      · exact .inr (.inr (hsame ▸ hends))
      · exact .inl hmem
    · exact .inr (.inl hdone)
  · intro c' hc'
    have hsame : c = c' := by simpa [Drain.attempt] using hc'
    rw [← hsame]
    exact hmade

/-- The attempt of the owner is over: its Future is done. -/
theorem Inv.endAttempt (h : Inv program s) {rest : List ℕ}
    (hattempting : s.drain = .attempting c rest) (hover : (s.calls c).over = true) :
    Inv program { s with drain := .cancelling rest } := by
  have hstate : s.state = .stopping := h.stopping.draining (by rw [hattempting]; rfl)
  refine h.withDrain (fun _ => hstate) (fun f hf => ?_) fun _ hnone => by cases hnone
  have hcovers := h.stopping.ends f hf
  rw [hattempting] at hcovers
  rcases hcovers with hmem | hdone | hends
  · exact .inl hmem
  · exact .inr hdone
  · exact .inr (h.attempted hends hover hstate)

/-- Every Future was attempted. -/
theorem Inv.beginControl (h : Inv program s) (hexhausted : s.drain = .cancelling []) :
    Inv program { s with drain := .control } := by
  refine h.withDrain (fun _ => h.stopping.draining (by rw [hexhausted]; rfl)) (fun f hf => ?_)
    fun _ hnone => by cases hnone
  have hcovers := h.stopping.ends f hf
  rw [hexhausted] at hcovers
  rcases hcovers with hmem | hdone
  · cases hmem
  · exact hdone

/-- The last look of the owner. -/
theorem Inv.finishDrain (h : Inv program s) (hcontrol : s.drain = .control)
    (hrunning : s.running = none) (quiescent : Bool) :
    Inv program (s.next program (.finishDrain quiescent)) := by
  have hdone : ∀ f ∈ s.created, (s.futures f).done = true := by
    intro f hf
    have hcovers := h.stopping.ends f hf
    rw [hcontrol] at hcovers
    exact hcovers
  unfold System.next
  dsimp only
  split
  · next hquiet =>
    exact h.withState (fun _ => rfl) ⟨fun _ => ⟨hquiet.1,hquiet.2.1,hrunning,hdone⟩,
      fun hidle => (by cases hidle),fun hstop => absurd rfl hstop,fun _ _ => trivial,
      fun _ hnone => by cases hnone⟩
  · exact h.withDrain (fun hidle => by cases hidle) (fun _ _ => trivial)
      fun _ hnone => by cases hnone

/-- One step. -/
theorem Inv.next (h : Inv program s) {event : Event} (hen : s.enabled program event) :
    Inv program (s.next program event) := by
  cases event with
  | start => exact h.start hen
  | requestShutdown =>
    unfold System.next
    dsimp only
    by_cases hstopped : s.state = .stopped
    · rw [if_pos hstopped]
      exact h
    · rw [if_neg hstopped]
      exact h.withState (fun hstop => absurd hstop hstopped)
        ⟨fun hstop => (by cases hstop),fun _ => rfl,fun _ => h.stopping.registered hstopped,
          h.stopping.ends,h.stopping.attempted⟩
  | register f => exact h.register hen.2
  | setHook f => exact h.setHook f
  | call c => exact h.first (Pc.eq_idle hen.1)
  | step c hookRaises => exact h.advance hookRaises
  | leave c => exact h.leave (Pc.eq_bridged hen)
  | remove f k => exact h.remove f k
  | take => exact h.take hen.1 hen.2.2
  | invoke => exact h.invoke hen
  | beginDrain =>
    obtain ⟨_, hstopping, _⟩ := hen
    refine h.withDrain (fun _ => hstopping) (fun f hf => .inl ?_)
      fun _ hnone => by cases hnone
    rw [h.stopping.registered (by rw [hstopping]; exact fun hstop => by cases hstop)]
    exact hf
  | attempt c =>
    obtain ⟨hfresh, hnext⟩ := hen
    unfold System.next
    dsimp only
    split
    · next f rest hcancelling =>
      rw [hcancelling] at hnext
      exact h.attempt hcancelling (Pc.eq_idle hfresh) (by simpa [Drain.next] using hnext)
    · exact h
  | attempted =>
    unfold System.next
    dsimp only
    split
    · next c rest hattempting =>
      refine h.endAttempt hattempting ?_
      simpa [System.enabled,hattempting,Drain.attempt] using hen
    · exact h
  | beginControl =>
    refine h.beginControl ?_
    cases hdrain : s.drain with
    | cancelling futures =>
      cases futures with
      | nil => rfl
      | cons f rest => simp [System.enabled,hdrain,Drain.exhausted] at hen
    | _ => simp [System.enabled,hdrain,Drain.exhausted] at hen
  | finishDrain quiescent =>
    obtain ⟨hrunning, hlast⟩ := hen
    refine h.finishDrain ?_ hrunning quiescent
    cases hdrain : s.drain with
    | control => rfl
    | _ => simp [hdrain,Drain.last] at hlast

end Dmw.Futures
