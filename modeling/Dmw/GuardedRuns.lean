import Mathlib.Data.List.Basic

/-!
# Guarded machines and their runs

A machine pairs a decidable guard with a total effect for every event. Runs
are finite event lists; a conditioned run also records that every executed
event met a condition in the state it fired from. The induction over a run is
done here once: an invariant needs only its initial state and its step.
-/

namespace Dmw.GuardedRuns

universe u v

/-- Guarded effects over an arbitrary state and event type. -/
structure Machine (σ : Type u) (ε : Type v) where
  /-- The event may fire in this state. -/
  enabled : σ → ε → Prop
  /-- Effect of an event, meaningful where it is enabled. -/
  next : σ → ε → σ
  /-- The guard is evaluated, not only reasoned about. -/
  decidableEnabled : ∀ s e, Decidable (enabled s e)

namespace Machine

variable {σ : Type u} {ε : Type v} (m : Machine σ ε)

instance (s : σ) (e : ε) : Decidable (m.enabled s e) := m.decidableEnabled s e

/-- Execute a list of events, failing at the first one that is not enabled. -/
@[grind =] def exec (s : σ) : List ε → Option σ
  | [] => some s
  | e :: es => if m.enabled s e then exec (m.next s e) es else none

/-- Runs from a state whose every event was enabled and met the condition. -/
inductive RunWhen (ok : σ → ε → Prop) (s₀ : σ) : List ε → σ → Prop
  | nil : RunWhen ok s₀ [] s₀
  | snoc {es : List ε} {s : σ} {e : ε} :
      RunWhen ok s₀ es s → m.enabled s e → ok s e → RunWhen ok s₀ (es ++ [e]) (m.next s e)

/-- Unconditioned runs. -/
abbrev Run (s₀ : σ) (es : List ε) (s : σ) : Prop := m.RunWhen (fun _ _ => True) s₀ es s

variable {m} {ok : σ → ε → Prop} {s₀ s : σ} {es : List ε}

/-- What the initial state has and every admitted step keeps, every state
reached has. -/
theorem RunWhen.invariant (hrun : m.RunWhen ok s₀ es s) (inv : σ → Prop) (hinit : inv s₀)
    (hstep : ∀ s e, inv s → m.enabled s e → ok s e → inv (m.next s e)) : inv s := by
  induction hrun with
  | nil => exact hinit
  | snoc _ hen hok ih => exact hstep _ _ ih hen hok

/-- A step may use a fact already known of every reached state. -/
theorem RunWhen.invariant_using {known : σ → Prop} (hrun : m.RunWhen ok s₀ es s)
    (inv : σ → Prop) (hknown : ∀ {es s}, m.RunWhen ok s₀ es s → known s) (hinit : inv s₀)
    (hstep : ∀ s e, known s → inv s → m.enabled s e → ok s e → inv (m.next s e)) : inv s := by
  induction hrun with
  | nil => exact hinit
  | snoc hprev hen hok ih => exact hstep _ _ (hknown hprev) ih hen hok

/-- Runs compose at the state where the first one ends. -/
theorem RunWhen.append {s' : σ} {es' : List ε} (hfirst : m.RunWhen ok s₀ es s)
    (hsecond : m.RunWhen ok s es' s') : m.RunWhen ok s₀ (es ++ es') s' := by
  induction hsecond with
  | nil => simpa using hfirst
  | snoc _ hen hok ih =>
    rw [← List.append_assoc]
    exact .snoc ih hen hok

/-- Whether an execution meets a test at every step. -/
def meets (m : Machine σ ε) (test : σ → ε → Bool) (s : σ) : List ε → Bool
  | [] => true
  | e :: es => test s e && meets m test (m.next s e) es

/-- A successful execution whose steps pass a sufficient test is a
conditioned run. -/
theorem runWhen_of_exec {s' : σ} (test : σ → ε → Bool) (htest : ∀ s e, test s e = true → ok s e)
    (hexec : m.exec s es = some s') (hmeets : m.meets test s es = true) :
    m.RunWhen ok s es s' := by
  induction es generalizing s with
  | nil =>
    cases hexec
    exact .nil
  | cons e es ih =>
    obtain ⟨he, hes⟩ := Bool.and_eq_true_iff.mp hmeets
    by_cases hen : m.enabled s e
    · have hrest : m.RunWhen ok (m.next s e) es s' := ih (by simpa [exec, hen] using hexec) hes
      have hhead : m.RunWhen ok s ([] ++ [e]) (m.next s e) := .snoc .nil hen (htest s e he)
      simpa using hhead.append hrest
    · simp [exec, hen] at hexec

/-- A successful execution is a run. -/
theorem run_of_exec {s' : σ} (hexec : m.exec s es = some s') : m.Run s es s' := by
  have hmeets : ∀ s, m.meets (fun _ _ => true) s es = true := by
    clear hexec
    induction es with
    | nil => exact fun _ => rfl
    | cons e es ih => exact fun s => ih (m.next s e)
  exact runWhen_of_exec (fun _ _ => true) (fun _ _ _ => trivial) hexec (hmeets s)

/-- Execution continues where a prefix ended. -/
theorem exec_append (es' : List ε) :
    m.exec s (es ++ es') = (m.exec s es).bind fun s' => m.exec s' es' := by
  induction es generalizing s with
  | nil => rfl
  | cons e es ih =>
    by_cases hen : m.enabled s e
    · simp [exec, hen, ih]
    · simp [exec, hen]

/-- A run is the execution of its events. -/
theorem RunWhen.exec_eq (hrun : m.RunWhen ok s₀ es s) : m.exec s₀ es = some s := by
  induction hrun with
  | nil => rfl
  | snoc _ hen _ ih => simp [exec_append, ih, exec, hen]

/-- What no event of a list changes, its execution keeps. -/
theorem exec_keeps {α : Type*} {s' : σ} (read : σ → α)
    (hkeep : ∀ s, ∀ e ∈ es, read (m.next s e) = read s) (hexec : m.exec s es = some s') :
    read s' = read s := by
  induction es generalizing s with
  | nil =>
    cases hexec
    rfl
  | cons e es ih =>
    by_cases hen : m.enabled s e
    · have hrest : m.exec (m.next s e) es = some s' := by simpa [exec, hen] using hexec
      have htail := ih (fun s e he => hkeep s e (List.mem_cons_of_mem _ he)) hrest
      exact htail.trans (hkeep s e List.mem_cons_self)
    · simp [exec, hen] at hexec

/-- Every state visited while executing a list of events satisfies a property. -/
def Always (m : Machine σ ε) (P : σ → Prop) (s₀ : σ) (es : List ε) : Prop :=
  ∀ es' s, es' <+: es → m.exec s₀ es' = some s → P s

/-- What all conditioned runs end with, they also visit throughout. -/
theorem RunWhen.always {P : σ → Prop} (hP : ∀ {es s}, m.RunWhen ok s₀ es s → P s)
    (hrun : m.RunWhen ok s₀ es s) : m.Always P s₀ es := by
  induction hrun with
  | nil =>
    intro es' s' hstart hexec
    obtain rfl := List.prefix_nil.mp hstart
    cases hexec
    exact hP .nil
  | snoc hprev hen hok ih =>
    intro es' s' hstart hexec
    rcases List.prefix_concat_iff.mp hstart with rfl | hshorter
    · have hfull := RunWhen.snoc hprev hen hok
      rw [hfull.exec_eq, Option.some.injEq] at hexec
      exact hexec ▸ hP hfull
    · exact ih es' s' hshorter hexec

/-- If breaking the condition in a state known to be reached, and so far with the
property, breaks the property at once, a run that keeps the property throughout
met the condition throughout. -/
theorem RunWhen.of_always_kept {known P : σ → Prop} (hknown : ∀ {es s}, m.Run s₀ es s → known s)
    (hbreak : ∀ s e, known s → P s → m.enabled s e → ¬ ok s e → ¬ P (m.next s e))
    (hrun : m.Run s₀ es s) (halways : m.Always P s₀ es) : m.RunWhen ok s₀ es s := by
  induction hrun with
  | nil => exact .nil
  | snoc hprev hen _ ih =>
    have hbefore := halways _ _ (List.prefix_append _ _) hprev.exec_eq
    have hlast := halways _ _ List.prefix_rfl (RunWhen.snoc hprev hen trivial).exec_eq
    refine .snoc (ih fun es' s' hstart => halways es' s' ?_) hen ?_
    · exact hstart.trans (List.prefix_append _ _)
    · exact Classical.byContradiction fun hok => hbreak _ _ (hknown hprev) hbefore hen hok hlast

/-- If breaking the condition in a state known to be reached breaks the property
at once, a run that keeps the property throughout met the condition throughout. -/
theorem RunWhen.of_always {known P : σ → Prop} (hknown : ∀ {es s}, m.Run s₀ es s → known s)
    (hbreak : ∀ s e, known s → m.enabled s e → ¬ ok s e → ¬ P (m.next s e))
    (hrun : m.Run s₀ es s) (halways : m.Always P s₀ es) : m.RunWhen ok s₀ es s :=
  hrun.of_always_kept hknown (fun s e hs _ => hbreak s e hs) halways

end Machine

end Dmw.GuardedRuns
