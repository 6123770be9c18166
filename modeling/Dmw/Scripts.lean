import Mathlib.Data.List.Basic

/-!
# Scripts that raise

A script reads and changes a state and ends with a value or an exception; what
it changed before it raised stays changed. The rules say what a script leaves
behind in both cases, for sequencing, handlers, cleanups and loops.
-/

namespace Dmw.Scripts

/-- A computation over a state that may raise. -/
def Script (σ ε α : Type) := σ → Except ε α × σ

namespace Script

variable {σ τ ε α β : Type}

instance : Monad (Script σ ε) where
  pure a := fun s => (.ok a,s)
  bind x f := fun s =>
    match x s with
    | (.ok a,s') => f a s'
    | (.error e,s') => (.error e,s')

/-- Raise an exception. -/
def raise (e : ε) : Script σ ε α := fun s => (.error e,s)

/-- The current state. -/
def get : Script σ ε σ := fun s => (.ok s,s)

/-- Change the state. -/
def modify (f : σ → σ) : Script σ ε Unit := fun s => (.ok (),f s)

/-- A value or an exception known already. -/
def lift (outcome : Except ε α) : Script σ ε α := fun s => (outcome,s)

/-- Run a script and keep how it ended, as the body of a handler does. -/
def attempt (x : Script σ ε α) : Script σ ε (Except ε α) := fun s => (.ok (x s).1,(x s).2)

/-- Run a script, then a cleanup in either case. A cleanup that raises hides
how the script ended. -/
def ensuring (x : Script σ ε α) (cleanup : Script σ ε Unit) : Script σ ε α := do
  let outcome ← attempt x
  cleanup
  lift outcome

/-- Loop over a list with an accumulator. -/
def fold (f : β → α → Script σ ε β) : β → List α → Script σ ε β
  | b, [] => pure b
  | b, a :: rest => do
    let b ← f b a
    fold f b rest

/-- Loop over a list. -/
def each (f : α → Script σ ε Unit) : List α → Script σ ε Unit
  | [] => pure ()
  | a :: rest => do
    f a
    each f rest

/-- Run a script several times and collect what it returns. -/
def times (x : Script σ ε α) : ℕ → Script σ ε (List α)
  | 0 => pure []
  | n + 1 => do
    let a ← x
    let rest ← times x n
    pure (a :: rest)

/-- Run a script on a part of the state. -/
def zoom (view : σ → τ) (set : τ → σ → σ) (x : Script τ ε α) : Script σ ε α := fun s =>
  ((x (view s)).1,set (x (view s)).2 s)

/-- A script that returns hands its value on. -/
theorem bind_ok {x : Script σ ε α} {f : α → Script σ ε β} {s : σ} {a : α}
    (h : (x s).1 = .ok a) : (x >>= f) s = f a (x s).2 := by
  change (match x s with
    | (.ok a,s') => f a s'
    | (.error e,s') => (.error e,s') : Except ε β × σ) = f a (x s).2
  rcases hresult : x s with ⟨_ | _, s'⟩ <;> rw [hresult] at h <;> cases h
  rfl

/-- What follows a script that raises does not run. -/
theorem bind_error {x : Script σ ε α} {f : α → Script σ ε β} {s : σ} {e : ε}
    (h : (x s).1 = .error e) : (x >>= f) s = (.error e,(x s).2) := by
  change (match x s with
    | (.ok a,s') => f a s'
    | (.error e,s') => (.error e,s') : Except ε β × σ) = (.error e,(x s).2)
  rcases hresult : x s with ⟨_ | _, s'⟩ <;> rw [hresult] at h <;> cases h
  rfl

/-- If a sequence returned, so did its parts. -/
theorem of_bind_ok {x : Script σ ε α} {f : α → Script σ ε β} {s s'' : σ} {b : β}
    (h : (x >>= f) s = (.ok b,s'')) : ∃ a s', x s = (.ok a,s') ∧ f a s' = (.ok b,s'') := by
  rcases hresult : x s with ⟨outcome,s'⟩
  cases outcome with
  | error e =>
    rw [bind_error (e := e) (by rw [hresult])] at h
    cases h
  | ok a =>
    rw [bind_ok (a := a) (by rw [hresult]),hresult] at h
    exact ⟨a,s',rfl,h⟩

/-- A handler hands on how a script ended. -/
theorem bind_attempt {x : Script σ ε α} {f : Except ε α → Script σ ε β} {s s' : σ}
    {outcome : Except ε α} (h : x s = (outcome,s')) : (attempt x >>= f) s = f outcome s' := by
  change f (x s).1 (x s).2 = f outcome s'
  rw [h]

/-- A round that returns hands its accumulator on. -/
theorem fold_ok {f : β → α → Script σ ε β} {b b' : β} {a : α} {rest : List α} {s s' : σ}
    (h : f b a s = (.ok b',s')) : fold f b (a :: rest) s = fold f b' rest s' := by
  change (f b a >>= fun b => fold f b rest) s = fold f b' rest s'
  rw [bind_ok (a := b') (by rw [h]),h]

/-- A round that raises ends the loop. -/
theorem fold_error {f : β → α → Script σ ε β} {b : β} {a : α} {rest : List α} {s s' : σ} {e : ε}
    (h : f b a s = (.error e,s')) : fold f b (a :: rest) s = (.error e,s') := by
  change (f b a >>= fun b => fold f b rest) s = (.error e,s')
  rw [bind_error (e := e) (by rw [h]),h]

/-- What a script started under a condition leaves behind, with its value or
with an exception. -/
def Ensures (pre : σ → Prop) (x : Script σ ε α) (post : α → σ → Prop) (failed : ε → σ → Prop) :
    Prop :=
  ∀ s, pre s →
    match x s with
    | (.ok a,s') => post a s'
    | (.error e,s') => failed e s'

/-- A script leaves a property of the state as it is, also when it raises. -/
abbrev Keeps (inv : σ → Prop) (x : Script σ ε α) : Prop :=
  Ensures inv x (fun _ => inv) fun _ => inv

/-- One property of the values, another one of the errors. -/
def either (post : α → σ → Prop) (failed : ε → σ → Prop) : Except ε α → σ → Prop
  | .ok a => post a
  | .error e => failed e

namespace Ensures

variable {pre pre' : σ → Prop} {post post' : α → σ → Prop} {failed failed' : ε → σ → Prop}
  {x : Script σ ε α}

/-- Demand more before, promise less after. -/
theorem weaken (h : Ensures pre x post failed) (hpre : ∀ s, pre' s → pre s)
    (hpost : ∀ a s, post a s → post' a s) (hfailed : ∀ e s, failed e s → failed' e s) :
    Ensures pre' x post' failed' := by
  intro s hs
  have hx := h s (hpre s hs)
  rcases hresult : x s with ⟨_ | _, s'⟩ <;> rw [hresult] at hx
  · exact hfailed _ _ hx
  · exact hpost _ _ hx

theorem pure {a : α} (h : ∀ s, pre s → post a s) :
    Ensures pre (Pure.pure a : Script σ ε α) post failed := h

theorem raise {e : ε} (h : ∀ s, pre s → failed e s) :
    Ensures pre (Script.raise e : Script σ ε α) post failed := h

theorem get {post : σ → σ → Prop} (h : ∀ s, pre s → post s s) :
    Ensures pre (Script.get : Script σ ε σ) post failed := h

theorem modify {f : σ → σ} {post : Unit → σ → Prop} (h : ∀ s, pre s → post () (f s)) :
    Ensures pre (Script.modify f : Script σ ε Unit) post failed := h

theorem lift {outcome : Except ε α} (hpost : ∀ a s, pre s → outcome = .ok a → post a s)
    (hfailed : ∀ e s, pre s → outcome = .error e → failed e s) :
    Ensures pre (Script.lift outcome) post failed := by
  intro s hs
  cases outcome with
  | error e => exact hfailed e s hs rfl
  | ok a => exact hpost a s hs rfl

/-- What the first script promises, the second one starts from. -/
theorem bind {m : α → σ → Prop} {f : α → Script σ ε β} {post : β → σ → Prop}
    (hx : Ensures pre x m failed) (hf : ∀ a, Ensures (m a) (f a) post failed) :
    Ensures pre (x >>= f) post failed := by
  intro s hs
  have hfirst := hx s hs
  change match (match x s with
    | (.ok a,s') => f a s'
    | (.error e,s') => (.error e,s') : Except ε β × σ) with
    | (.ok b,s') => post b s'
    | (.error e,s') => failed e s'
  rcases hresult : x s with ⟨_ | _, s'⟩ <;> rw [hresult] at hfirst
  · exact hfirst
  · exact hf _ _ hfirst

/-- What is read does not matter. -/
theorem observe {f : σ → Script σ ε α} (hf : ∀ s, Ensures pre (f s) post failed) :
    Ensures pre (Script.get >>= f) post failed :=
  (get fun _ h => h).bind hf

/-- What is read is the current state. -/
theorem inspect {f : σ → Script σ ε α} (hf : ∀ s, pre s → Ensures (· = s) (f s) post failed) :
    Ensures pre (Script.get >>= f) post failed := fun s hs => hf s hs s rfl

/-- A script from a known state. -/
theorem exact (h : Ensures pre x post failed) {s : σ} (hs : pre s) :
    Ensures (· = s) x post failed :=
  h.weaken (fun _ heq => heq ▸ hs) (fun _ _ h => h) fun _ _ h => h

/-- The state a script leaves behind, whatever its outcome. -/
theorem state {q : σ → Prop} (h : Ensures pre x (fun _ => q) fun _ => q) {s : σ} (hs : pre s) :
    q (x s).2 := by
  have hx := h s hs
  rcases hresult : x s with ⟨_ | _, s'⟩ <;> rw [hresult] at hx <;> exact hx

/-- What holds of the state if the script raises. -/
theorem error {e : ε} (h : Ensures pre x post failed) {s : σ} (hs : pre s)
    (he : (x s).1 = .error e) : failed e (x s).2 := by
  have hx := h s hs
  rcases hresult : x s with ⟨_ | _, s'⟩ <;> rw [hresult] at hx he <;> cases he
  exact hx

/-- What holds of the state if the script returns. -/
theorem ok {a : α} (h : Ensures pre x post failed) {s : σ} (hs : pre s)
    (ha : (x s).1 = .ok a) : post a (x s).2 := by
  have hx := h s hs
  rcases hresult : x s with ⟨_ | _, s'⟩ <;> rw [hresult] at hx ha <;> cases ha
  exact hx

/-- A script that does not raise. -/
theorem quiet (h : Ensures pre x post fun _ _ => False) : Ensures pre x post failed :=
  h.weaken (fun _ h => h) (fun _ _ h => h) fun _ _ h => h.elim

/-- A handler sees either outcome. -/
theorem attempt {q : Except ε α → σ → Prop} {g : ε → σ → Prop}
    (hx : Ensures pre x (fun a => q (.ok a)) fun e => q (.error e)) :
    Ensures pre (Script.attempt x) q g := by
  intro s hs
  have h := hx s hs
  change q (x s).1 (x s).2
  rcases hresult : x s with ⟨_ | _, s'⟩ <;> rw [hresult] at h <;> exact h

/-- A cleanup runs after either outcome. -/
theorem ensuring {cleanup : Script σ ε Unit} {m : Except ε α → σ → Prop}
    (hx : Ensures pre x (fun a => m (.ok a)) fun e => m (.error e))
    (hok : ∀ a, Ensures (m (.ok a)) cleanup (fun _ => post a) failed)
    (herror : ∀ e, Ensures (m (.error e)) cleanup (fun _ => failed e) failed) :
    Ensures pre (Script.ensuring x cleanup) post failed := by
  refine (attempt (g := failed) hx).bind fun outcome => ?_
  cases outcome with
  | error e => exact (herror e).bind fun _ => Ensures.raise fun _ h => h
  | ok a => exact (hok a).bind fun _ => Ensures.pure fun _ h => h

/-- The accumulator and the state keep a relation through every round. -/
theorem fold {p : β → σ → Prop} {f : β → α → Script σ ε β}
    (hstep : ∀ b a, Ensures (p b) (f b a) p failed) (b : β) (l : List α) :
    Ensures (p b) (Script.fold f b l) p failed := by
  induction l generalizing b with
  | nil => exact Ensures.pure fun _ h => h
  | cons a rest ih => exact (hstep b a).bind fun b' => ih b'

/-- Every round keeps the invariant. -/
theorem each {inv : σ → Prop} {f : α → Script σ ε Unit} {l : List α}
    (hstep : ∀ a ∈ l, Ensures inv (f a) (fun _ => inv) failed) :
    Ensures inv (Script.each f l) (fun _ => inv) failed := by
  induction l with
  | nil => exact Ensures.pure fun _ h => h
  | cons a rest ih =>
    refine (hstep a List.mem_cons_self).bind fun _ => ih fun a' h => ?_
    exact hstep a' (List.mem_cons_of_mem _ h)

end Ensures

end Script

end Dmw.Scripts
