import Mathlib.Data.List.Basic

/-!
# Calls with scoped locks

A call of one thread reads and changes a state and locks non-recursive
mutexes in nested scopes. Locking a mutex that the thread already holds blocks
it for ever. Calls are composed in order; a composition blocks where its first
blocking part does.
-/

namespace Dmw.LockScopes

/-- From the mutexes held and a state to a result and the next state, or to
the mutex the thread waits for although it holds it. -/
def Call (μ σ α : Type) := List μ → σ → Except μ (α × σ)

namespace Call

variable {μ σ α β ι : Type}

/-- The second call follows where the first one returns. -/
def bind (first : Call μ σ α) (second : α → Call μ σ β) : Call μ σ β := fun held s =>
  match first held s with
  | .ok (a,s') => second a held s'
  | .error m => .error m

instance : Monad (Call μ σ) where
  pure a := fun _ s => .ok (a,s)
  bind := bind

/-- Read the state. -/
def read (f : σ → α) : Call μ σ α := fun _ s => .ok (f s,s)

/-- Change the state. -/
def update (f : σ → σ) : Call μ σ Unit := fun _ s => .ok ((),f s)

/-- Run a call in the scope of a lock. -/
def locked [DecidableEq μ] (m : μ) (body : Call μ σ α) : Call μ σ α := fun held s =>
  if m ∈ held then .error m else body (m :: held) s

/-- Visit the elements of a list in order. -/
def forEach (visit : ι → Call μ σ Unit) : List ι → Call μ σ Unit
  | [] => pure ()
  | x :: rest => do
    visit x
    forEach visit rest

/-- The thread waits for a mutex that it holds. -/
def Blocks (call : Call μ σ α) (held : List μ) (s : σ) : Prop := ∃ m, call held s = .error m

variable {call : Call μ σ α} {held : List μ} {s s' : σ} {a : α} {m : μ}

@[simp] theorem pure_apply : (pure a : Call μ σ α) held s = .ok (a,s) := rfl

@[simp] theorem read_apply (f : σ → α) : (read f : Call μ σ α) held s = .ok (f s,s) := rfl

@[simp] theorem update_apply (f : σ → σ) : (update f : Call μ σ Unit) held s = .ok ((),f s) := rfl

/-- A call that returns is followed by the next one. -/
theorem bind_ok {next : α → Call μ σ β} (h : call held s = .ok (a,s')) :
    (call >>= next) held s = next a held s' := by
  change bind call next held s = _
  rw [bind, h]

/-- A composition blocks where its first part does. -/
theorem bind_error {next : α → Call μ σ β} (h : call held s = .error m) :
    (call >>= next) held s = .error m := by
  change bind call next held s = _
  rw [bind, h]

/-- A call returns or blocks. -/
theorem returns_or_blocks (call : Call μ σ α) (held : List μ) (s : σ) :
    (∃ a s', call held s = .ok (a,s')) ∨ Blocks call held s := by
  cases h : call held s with
  | ok outcome => exact Or.inl ⟨outcome.1, outcome.2, rfl⟩
  | error m => exact Or.inr ⟨m, h⟩

/-- A composition blocks if its first part does. -/
theorem Blocks.bind {next : α → Call μ σ β} (h : Blocks call held s) :
    Blocks (call >>= next) held s := by
  obtain ⟨m, hm⟩ := h
  exact ⟨m, bind_error hm⟩

/-- A composition blocks if its second part does after every outcome. -/
theorem blocks_bind {next : α → Call μ σ β} (h : ∀ a s', Blocks (next a) held s') :
    Blocks (call >>= next) held s := by
  rcases returns_or_blocks call held s with ⟨a, s', hreturns⟩ | hblocks
  · rw [Blocks, bind_ok hreturns]
    exact h a s'
  · exact hblocks.bind

section

variable [DecidableEq μ]

/-- A free mutex is taken for the scope. -/
theorem locked_free (hfree : m ∉ held) : locked m call held s = call (m :: held) s := if_neg hfree

/-- A mutex that is held blocks. -/
theorem locked_held (hheld : m ∈ held) : Blocks (locked m call) held s := ⟨m, if_pos hheld⟩

/-- A scope blocks if its body does. -/
theorem Blocks.locked (h : Blocks call (m :: held) s) : Blocks (locked m call) held s := by
  by_cases hheld : m ∈ held
  · exact locked_held hheld
  · rw [Blocks, locked_free hheld]
    exact h

end

/-- A loop with a visit that always blocks does so too. -/
theorem forEach_blocks {visit : ι → Call μ σ Unit} {x : ι} {xs : List ι} (hmem : x ∈ xs)
    (hblocks : ∀ s, Blocks (visit x) held s) : Blocks (forEach visit xs) held s := by
  induction xs generalizing s with
  | nil => cases hmem
  | cons x' rest ih =>
    rcases List.mem_cons.mp hmem with rfl | hrest
    · exact (hblocks s).bind
    · exact blocks_bind fun _ s' => ih hrest

/-- A loop whose visits return has the effect of one after the other. -/
theorem forEach_ok {visit : ι → Call μ σ Unit} {effect : ι → σ → σ} {xs : List ι}
    (h : ∀ x ∈ xs, ∀ s, visit x held s = .ok ((),effect x s)) :
    forEach visit xs held s = .ok ((),xs.foldl (fun s x => effect x s) s) := by
  induction xs generalizing s with
  | nil => rfl
  | cons x rest ih =>
    rw [forEach, bind_ok (h x List.mem_cons_self s)]
    exact ih fun x' hx' => h x' (List.mem_cons_of_mem x hx')

end Call

end Dmw.LockScopes
