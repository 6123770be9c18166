import Mathlib.Data.List.Perm.Subperm
import Mathlib.Logic.Relation

/-!
# Orders of dependencies

A depth-first search lists vertices behind everything they depend on. It keeps
the visits that are open: a vertex met again while its own visit is open lies on
a cycle. The graph is given by a reader that may fail, and the search stops at
the first failure. The search is given as many nested visits as it may open;
one more than there are readable vertices is always enough.
-/

namespace Dmw.DependencyOrders

open Relation

universe u v

/-- Why a search stops. -/
inductive Stop (α : Type u) (ε : Type v)
  /-- A vertex depends on itself. -/
  | cyclic (vertex : α)
  /-- A vertex cannot be read. -/
  | unreadable (vertex : α) (cause : ε)
  /-- More visits are open than were allowed. -/
  | exhausted

/-- A search between two visits. -/
structure Search (α : Type u) where
  /-- The vertices whose visits are open, the innermost first. -/
  visiting : List α
  /-- The vertices whose visits have ended, in order. -/
  order : List α

section Search

variable {α : Type u} {ε : Type v} [DecidableEq α] (read : α → Except ε (List α))

/-- Visit a vertex: read it, visit what it depends on, and list it. -/
def visit : ℕ → Search α → α → Except (Stop α ε) (Search α)
  | 0, _, _ => .error .exhausted
  | depth + 1, s, a =>
    if a ∈ s.visiting then .error (.cyclic a)
    else if a ∈ s.order then .ok s
    else
      match read a with
      | .error cause => .error (.unreadable a cause)
      | .ok next =>
        match next.foldlM (visit depth) { s with visiting := a :: s.visiting } with
        | .error stop => .error stop
        | .ok s' => .ok ⟨s'.visiting.erase a,s'.order ++ [a]⟩

/-- Visit several vertices in turn. -/
def search (depth : ℕ) (roots : List α) : Except (Stop α ε) (List α) :=
  (roots.foldlM (visit read depth) ⟨[],[]⟩).map Search.order

end Search

variable {α : Type u} {ε : Type v} (read : α → Except ε (List α))

/-- A vertex depends on another. -/
def Edge (a b : α) : Prop := ∃ next, read a = .ok next ∧ b ∈ next

/-- An order in which each vertex is new and comes behind what it depends on. -/
inductive Built : List α → Prop
  /-- Nothing is listed. -/
  | nil : Built []
  /-- One more vertex is listed. -/
  | snoc {order : List α} {a : α} {next : List α} (hbuilt : Built order) (hnew : a ∉ order)
      (hread : read a = .ok next) (hnext : ∀ b ∈ next, b ∈ order) : Built (order ++ [a])

variable {read} {order : List α} {a b : α}

/-- No vertex is listed twice. -/
theorem Built.nodup (h : Built read order) : order.Nodup := by
  induction h with
  | nil => exact List.nodup_nil
  | snoc _ hnew _ _ ih => grind [List.nodup_append]

/-- A listed vertex was read. -/
theorem Built.read_ok (h : Built read order) (ha : a ∈ order) : ∃ next, read a = .ok next := by
  induction h with
  | nil => cases ha
  | snoc _ _ hread _ ih => grind

/-- What a vertex depends on is listed before it. -/
theorem Built.before (h : Built read order) {front back : List α}
    (hsplit : order = front ++ a :: back) (hedge : Edge read a b) : b ∈ front := by
  induction h generalizing back with
  | nil => simp at hsplit
  | @snoc order c next hbuilt hnew hread hnext ih =>
    rcases List.eq_nil_or_concat back with hnil | ⟨back',last,hconcat⟩
    · rw [hnil] at hsplit
      obtain ⟨horder, hlast⟩ := List.append_inj' hsplit rfl
      obtain ⟨next', hread', hb⟩ := hedge
      have hsame : c = a := by simpa using hlast
      rw [hsame,hread'] at hread
      have hnexts : next' = next := by simpa using hread
      rw [← horder]
      exact hnext b (hnexts ▸ hb)
    · rw [hconcat,List.concat_eq_append,← List.cons_append,← List.append_assoc] at hsplit
      exact ih (List.append_inj' hsplit rfl).1

/-- A listed vertex has everything listed that it depends on, directly or not. -/
theorem Built.closed (h : Built read order) (ha : a ∈ order)
    (hreaches : ReflTransGen (Edge read) a b) : b ∈ order := by
  induction hreaches with
  | refl => exact ha
  | tail _ hedge ih =>
    obtain ⟨front, back, hsplit⟩ := List.append_of_mem ih
    have hfront := h.before hsplit hedge
    rw [hsplit]
    exact List.mem_append_left _ hfront

/-- A vertex depends, directly or not, only on vertices listed before it. -/
theorem Built.before_transGen (h : Built read order) {front back : List α}
    (hsplit : order = front ++ a :: back) (hreaches : TransGen (Edge read) a b) :
    b ∈ front := by
  induction hreaches with
  | single hedge => exact h.before hsplit hedge
  | @tail c d _ hedge ih =>
    obtain ⟨front', back', hfront⟩ := List.append_of_mem ih
    have hsplit' : order = front' ++ c :: (back' ++ a :: back) := by
      rw [hsplit,hfront,List.append_assoc,List.cons_append]
    have hmem := h.before hsplit' hedge
    rw [hfront]
    exact List.mem_append_left _ hmem

/-- A listed vertex does not depend on itself. -/
theorem Built.acyclic (h : Built read order) (ha : a ∈ order) : ¬ TransGen (Edge read) a a := by
  intro hcycle
  obtain ⟨front, back, hsplit⟩ := List.append_of_mem ha
  have hmem := h.before_transGen hsplit hcycle
  have hnodup := h.nodup
  rw [hsplit] at hnodup
  grind [List.nodup_append]

/-- What a visit that ends has done. -/
structure Visited (read : α → Except ε (List α)) (roots : List α) (s s' : Search α) : Prop where
  /-- The open visits are the ones that were open. -/
  visiting : s'.visiting = s.visiting
  /-- The order is still behind its dependencies. -/
  built : Built read s'.order
  /-- What was listed stays. -/
  grows : s.order ⊆ s'.order
  /-- The roots are listed. -/
  listed : ∀ a ∈ roots, a ∈ s'.order
  /-- Nothing else is listed that no root depends on, nor what is being visited. -/
  only : ∀ x ∈ s'.order, x ∈ s.order ∨ x ∉ s.visiting ∧ ∃ a ∈ roots, ReflTransGen (Edge read) a x

/-- Why a visit of some roots may stop. -/
def Justified (read : α → Except ε (List α)) (roots : List α) : Stop α ε → Prop
  | .cyclic x => (∃ a ∈ roots, ReflTransGen (Edge read) a x) ∧ TransGen (Edge read) x x
  | .unreadable x cause => (∃ a ∈ roots, ReflTransGen (Edge read) a x) ∧ read x = .error cause
  | .exhausted => False

/-- A reason holds for the roots of a vertex too. -/
theorem Justified.of_edge {stop : Stop α ε} {next : List α} (h : Justified read next stop)
    (hread : read a = .ok next) : Justified read [a] stop := by
  have hroot : ∀ x, (∃ b ∈ next, ReflTransGen (Edge read) b x) →
      ∃ b ∈ [a], ReflTransGen (Edge read) b x := by
    intro x hx
    obtain ⟨b, hb, hreaches⟩ := hx
    exact ⟨a,List.mem_singleton_self a,.head ⟨next,hread,hb⟩ hreaches⟩
  cases stop with
  | cyclic x => exact ⟨hroot x h.1,h.2⟩
  | unreadable x cause => exact ⟨hroot x h.1,h.2⟩
  | exhausted => exact h

/-- More roots, more reasons. -/
theorem Justified.mono {stop : Stop α ε} {roots roots' : List α} (h : Justified read roots stop)
    (hsub : roots ⊆ roots') : Justified read roots' stop := by
  cases stop with
  | cyclic x => exact ⟨by grind [Justified],h.2⟩
  | unreadable x cause => exact ⟨by grind [Justified],h.2⟩
  | exhausted => exact h

/-- What a visit of some roots comes to. -/
def Outcome (read : α → Except ε (List α)) (roots : List α) (s : Search α) :
    Except (Stop α ε) (Search α) → Prop
  | .ok s' => Visited read roots s s'
  | .error stop => Justified read roots stop

/-- A search that may go on: what is open is readable and depends on what comes next, and
there is room for one more open visit than there are readable vertices left. -/
structure Ready (read : α → Except ε (List α)) (vertices : List α) (depth : ℕ)
    (roots : List α) (s : Search α) : Prop where
  /-- The order is behind its dependencies. -/
  built : Built read s.order
  /-- No visit is open twice. -/
  nodup : s.visiting.Nodup
  /-- Only vertices that can be read are being visited. -/
  readable : s.visiting ⊆ vertices
  /-- What is being visited depends on the roots. -/
  above : ∀ v ∈ s.visiting, ∀ a ∈ roots, TransGen (Edge read) v a
  /-- There is room for more visits. -/
  room : vertices.length < depth + s.visiting.length

variable [DecidableEq α]

/-- Several visits in turn, if each comes to its outcome. -/
theorem outcome_foldlM {vertices : List α} {depth : ℕ}
    (hone : ∀ a s, Ready read vertices depth [a] s →
      Outcome read [a] s (visit read depth s a)) (roots : List α) {s : Search α}
    (hready : Ready read vertices depth roots s) :
    Outcome read roots s (roots.foldlM (visit read depth) s) := by
  induction roots generalizing s with
  | nil => exact ⟨rfl,hready.built,List.Subset.refl _,by simp,fun x hx => Or.inl hx⟩
  | cons a rest ih =>
    have hfirst := hone a s { hready with above := by grind [hready.above] }
    rw [List.foldlM_cons]
    cases hvisit : visit read depth s a with
    | error stop =>
      rw [hvisit] at hfirst
      exact Justified.mono hfirst (by simp)
    | ok s₁ =>
      rw [hvisit] at hfirst
      have hopen : s₁.visiting = s.visiting := hfirst.visiting
      have hready₁ : Ready read vertices depth rest s₁ := by
        refine ⟨hfirst.built,?_,?_,?_,?_⟩
        · rw [hopen]; exact hready.nodup
        · rw [hopen]; exact hready.readable
        · rw [hopen]; grind [hready.above]
        · rw [hopen]; exact hready.room
      have hrest := ih hready₁
      show Outcome read (a :: rest) s (rest.foldlM (visit read depth) s₁)
      cases hfold : rest.foldlM (visit read depth) s₁ with
      | error stop =>
        rw [hfold] at hrest
        exact Justified.mono hrest (List.subset_cons_self a rest)
      | ok s₂ =>
        rw [hfold] at hrest
        refine ⟨hrest.visiting.trans hopen,hrest.built,
          List.Subset.trans hfirst.grows hrest.grows,?_,?_⟩
        · intro x hx
          rcases List.mem_cons.mp hx with hsame | hx
          · rw [hsame]
            exact hrest.grows (hfirst.listed a (List.mem_singleton_self a))
          · exact hrest.listed x hx
        · intro x hx
          rcases hrest.only x hx with hx | ⟨hclosed, b, hb, hreaches⟩
          · rcases hfirst.only x hx with hx | ⟨hclosed, b, hb, hreaches⟩
            · exact Or.inl hx
            · refine Or.inr ⟨hclosed,a,List.mem_cons_self,?_⟩
              rw [← List.mem_singleton.mp hb]
              exact hreaches
          · exact Or.inr ⟨hopen ▸ hclosed,b,List.mem_cons_of_mem a hb,hreaches⟩

/-- A visit ends behind what its vertex depends on, or stops with reason. The induction is on
the number of nested visits, and the fold over the dependencies is the lemma above. -/
theorem visit_outcome {vertices : List α} (hread : ∀ a next, read a = .ok next → a ∈ vertices)
    {depth : ℕ} {s : Search α} (hready : Ready read vertices depth [a] s) :
    Outcome read [a] s (visit read depth s a) := by
  induction depth generalizing a s with
  | zero =>
    have hroom := hready.room
    have hshort := (hready.nodup.subperm hready.readable).length_le
    omega
  | succ depth ih =>
    unfold visit
    by_cases hopen : a ∈ s.visiting
    · rw [if_pos hopen]
      exact ⟨⟨a,List.mem_singleton_self a,.refl⟩,
        hready.above a hopen a (List.mem_singleton_self a)⟩
    · rw [if_neg hopen]
      by_cases hlisted : a ∈ s.order
      · rw [if_pos hlisted]
        exact ⟨rfl,hready.built,List.Subset.refl _,by simpa using hlisted,
          fun x hx => Or.inl hx⟩
      · rw [if_neg hlisted]
        cases hnext : read a with
        | error cause => exact ⟨⟨a,List.mem_singleton_self a,.refl⟩,hnext⟩
        | ok next =>
          have hinner : Ready read vertices depth next
              { s with visiting := a :: s.visiting } := by
            refine ⟨hready.built,List.nodup_cons.mpr ⟨hopen,hready.nodup⟩,?_,?_,?_⟩
            · exact List.cons_subset.mpr ⟨hread a next hnext,hready.readable⟩
            · intro v hv b hb
              have hedge : Edge read a b := ⟨next,hnext,hb⟩
              rcases List.mem_cons.mp hv with hsame | hv
              · rw [hsame]
                exact .single hedge
              · exact (hready.above v hv a (List.mem_singleton_self a)).tail hedge
            · have hroom := hready.room
              simp only [List.length_cons]
              omega
          have hfold := outcome_foldlM (fun b s' hs' => ih hs') next hinner
          dsimp only
          cases hresult : next.foldlM (visit read depth)
              { s with visiting := a :: s.visiting } with
          | error stop =>
            rw [hresult] at hfold
            exact Justified.of_edge hfold hnext
          | ok s' =>
            rw [hresult] at hfold
            have hvisiting : s'.visiting = a :: s.visiting := hfold.visiting
            have hfresh : a ∉ s'.order := by
              intro ha
              rcases hfold.only a ha with ha | ⟨hclosed, _⟩
              · exact hlisted ha
              · exact hclosed List.mem_cons_self
            refine ⟨?_,.snoc hfold.built hfresh hnext hfold.listed,?_,?_,?_⟩
            · dsimp only
              rw [hvisiting,List.erase_cons_head]
            · exact fun x hx => List.mem_append_left _ (hfold.grows hx)
            · simp
            · intro x hx
              rcases List.mem_append.mp hx with hx | hx
              · rcases hfold.only x hx with hx | ⟨hclosed, b, hb, hreaches⟩
                · exact Or.inl hx
                · refine Or.inr ⟨by grind,a,List.mem_singleton_self a,?_⟩
                  exact .head ⟨next,hnext,hb⟩ hreaches
              · rw [List.mem_singleton.mp hx]
                exact Or.inr ⟨hopen,a,List.mem_singleton_self a,.refl⟩

/-- What a search over some roots has listed: each vertex behind what it depends on, all
the roots, and nothing that no root depends on. -/
structure Lists (read : α → Except ε (List α)) (roots order : List α) : Prop where
  /-- Each vertex is new and comes behind what it depends on. -/
  built : Built read order
  /-- Exactly what the roots depend on is listed. -/
  exact : ∀ x, x ∈ order ↔ ∃ a ∈ roots, ReflTransGen (Edge read) a x

/-- A search lists what its roots depend on, or stops with reason. -/
theorem search_outcome {vertices : List α}
    (hread : ∀ a next, read a = .ok next → a ∈ vertices) {depth : ℕ}
    (hdepth : vertices.length < depth) (roots : List α) :
    match search read depth roots with
    | .ok order => Lists read roots order
    | .error stop => Justified read roots stop := by
  have hready : Ready read vertices depth roots ⟨[],[]⟩ :=
    ⟨.nil,List.nodup_nil,List.nil_subset _,by simp,by simpa using hdepth⟩
  have houtcome := outcome_foldlM (fun a s hs => visit_outcome hread hs) roots hready
  unfold search
  cases hfold : roots.foldlM (visit read depth) ⟨[],[]⟩ with
  | error stop =>
    rw [hfold] at houtcome
    exact houtcome
  | ok s =>
    rw [hfold] at houtcome
    refine ⟨houtcome.built,fun x => ⟨fun hx => ?_,fun hx => ?_⟩⟩
    · rcases houtcome.only x hx with hx | ⟨_, hreaches⟩
      · cases hx
      · exact hreaches
    · obtain ⟨a, ha, hreaches⟩ := hx
      exact houtcome.built.closed (houtcome.listed a ha) hreaches

/-- A search ends exactly if everything its roots depend on can be read and is on no cycle. -/
theorem search_ok_iff {vertices : List α}
    (hread : ∀ a next, read a = .ok next → a ∈ vertices) {depth : ℕ}
    (hdepth : vertices.length < depth) (roots : List α) :
    (∃ order, search read depth roots = .ok order) ↔
      ∀ a ∈ roots, ∀ x, ReflTransGen (Edge read) a x →
        (∃ next, read x = .ok next) ∧ ¬ TransGen (Edge read) x x := by
  have houtcome := search_outcome hread hdepth roots
  constructor
  · intro ⟨order, horder⟩ a ha x hreaches
    rw [horder] at houtcome
    have hx := (houtcome.exact x).mpr ⟨a,ha,hreaches⟩
    exact ⟨houtcome.built.read_ok hx,houtcome.built.acyclic hx⟩
  · intro hall
    cases hsearch : search read depth roots with
    | ok order => exact ⟨order,rfl⟩
    | error stop =>
      rw [hsearch] at houtcome
      cases stop with
      | cyclic x =>
        obtain ⟨⟨a, ha, hreaches⟩, hcycle⟩ := houtcome
        exact absurd hcycle (hall a ha x hreaches).2
      | unreadable x cause =>
        obtain ⟨⟨a, ha, hreaches⟩, hfails⟩ := houtcome
        obtain ⟨next, hnext⟩ := (hall a ha x hreaches).1
        rw [hfails] at hnext
        cases hnext
      | exhausted => exact houtcome.elim

end Dmw.DependencyOrders
