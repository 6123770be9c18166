import Mathlib.Data.Fintype.Card
import Mathlib.Data.List.Nodup
import Mathlib.Logic.Function.Basic

/-!
# Queues linked through their members

The members of a queue carry the links themselves; the queue knows its two
ends. Several queues share one array of links as long as no member is in two of
them. A queue is compared with the list of its members: appending, taking from
the front and unlinking from the middle have one rule each, and what happens
outside a list leaves its queue alone.
-/

namespace Dmw.LinkedQueues

universe u v

variable {ι : Type u}

/-- Two ends of a queue. -/
structure Queue (ι : Type u) where
  /-- First member. -/
  head : Option ι
  /-- Last member. -/
  tail : Option ι

/-- A queue of nobody. -/
def Queue.empty : Queue ι := ⟨none,none⟩

/-- Following the links from one place reads these members and ends at another
place. -/
def Segment (links : ι → Option ι) : Option ι → List ι → Option ι → Prop
  | start, [], stop => start = stop
  | start, i :: l, stop => start = some i ∧ Segment links (links i) l stop

/-- The queue reads exactly this list, without a repetition. -/
structure Holds (links : ι → Option ι) (q : Queue ι) (l : List ι) : Prop where
  /-- The links lead from the head through the whole list. -/
  segment : Segment links q.head l none
  /-- The tail is the last member. -/
  last : q.tail = l.getLast?
  /-- Nobody is queued twice. -/
  nodup : l.Nodup

section Segments

variable {links links' : ι → Option ι} {start stop : Option ι} {l m : List ι} {i : ι}

/-- A segment reads nothing but the links of its members. -/
theorem Segment.congr (h : Segment links start l stop) (hsame : ∀ j ∈ l, links' j = links j) :
    Segment links' start l stop := by
  induction l generalizing start with
  | nil => exact h
  | cons j l ih =>
    refine ⟨h.1, ?_⟩
    rw [hsame j List.mem_cons_self]
    exact ih h.2 fun k hk => hsame k (List.mem_cons_of_mem _ hk)

/-- Segments are joined end to end. -/
theorem segment_append :
    Segment links start (l ++ m) stop ↔
      ∃ mid, Segment links start l mid ∧ Segment links mid m stop := by
  induction l generalizing start with
  | nil =>
    constructor
    · intro h
      exact ⟨start, rfl, h⟩
    · intro h
      obtain ⟨mid, hmid, hrest⟩ := h
      have hstart : start = mid := hmid
      exact hstart ▸ hrest
  | cons j l ih =>
    constructor
    · intro h
      obtain ⟨mid, hfirst, hrest⟩ := ih.mp h.2
      exact ⟨mid, ⟨h.1, hfirst⟩, hrest⟩
    · intro h
      obtain ⟨mid, hfirst, hrest⟩ := h
      exact ⟨hfirst.1, ih.mpr ⟨mid, hfirst.2, hrest⟩⟩

/-- One member between two places. -/
theorem segment_singleton : Segment links start [i] stop ↔ start = some i ∧ links i = stop :=
  Iff.rfl

end Segments

section Queues

variable {links links' : ι → Option ι} {q : Queue ι} {l : List ι} {i : ι}

/-- A new queue is empty. -/
theorem Holds.empty : Holds links (Queue.empty : Queue ι) [] where
  segment := rfl
  last := rfl
  nodup := List.nodup_nil

/-- What happens to the links of others leaves the queue alone. -/
theorem Holds.congr (h : Holds links q l) (hsame : ∀ j ∈ l, links' j = links j) :
    Holds links' q l :=
  {h with segment := h.segment.congr hsame}

/-- The head is the first member. -/
theorem Holds.head_eq (h : Holds links q l) : q.head = l.head? := by
  cases l with
  | nil => exact h.segment
  | cons i l => exact h.segment.1

/-- Ends after the first member is taken. -/
def popQueue (links : ι → Option ι) (q : Queue ι) (i : ι) : Queue ι where
  head := links i
  tail := (links i).bind fun _ => q.tail

/-- Taking the first member leaves the rest. -/
theorem Holds.pop (h : Holds links q (i :: l)) : Holds links (popQueue links q i) l := by
  refine ⟨h.segment.2, ?_, (List.nodup_cons.mp h.nodup).2⟩
  have hlink : links i = l.head? := by
    have hrest := h.segment.2
    cases l with
    | nil => exact hrest
    | cons j l => exact hrest.1
  cases l with
  | nil => simp [popQueue, hlink]
  | cons j l => simp [popQueue, hlink, h.last]

variable [DecidableEq ι]

/-- Links after appending a member: it is the last one, behind the old tail. -/
def pushLinks (links : ι → Option ι) (q : Queue ι) (i : ι) : ι → Option ι :=
  match q.tail with
  | none => Function.update links i none
  | some t => Function.update (Function.update links i none) t (some i)

/-- Ends after appending a member. -/
def pushQueue (q : Queue ι) (i : ι) : Queue ι where
  head := match q.tail with
    | none => some i
    | some _ => q.head
  tail := some i

/-- Walk from a place to a member and report its predecessor. Nothing is
reported if the links end before, or go on for longer than the fuel lasts. -/
def search (links : ι → Option ι) (i : ι) : ℕ → Option ι → Option ι → Option (Option ι)
  | 0, _, _ => none
  | fuel+1, previous, current =>
    if current = some i then some previous
    else match current with
      | none => none
      | some c => search links i fuel (some c) (links c)

/-- Links after a member with this predecessor is taken out. -/
def unlinkLinks (links : ι → Option ι) (i : ι) (previous : Option ι) : ι → Option ι :=
  match previous with
  | none => links
  | some p => Function.update links p (links i)

/-- Ends after a member with this predecessor is taken out. -/
def unlinkQueue (links : ι → Option ι) (q : Queue ι) (i : ι) (previous : Option ι) : Queue ι where
  head := match previous with
    | none => links i
    | some _ => q.head
  tail := if q.tail = some i then previous else q.tail

/-- Appending touches the links of the new member and of the queue alone. -/
theorem pushLinks_of_notMem {j : ι} (h : Holds links q l) (hi : j ≠ i) (hl : j ∉ l) :
    pushLinks links q i j = links j := by
  unfold pushLinks
  cases htail : q.tail with
  | none => exact Function.update_of_ne hi _ _
  | some t =>
    have ht : t ∈ l := List.mem_of_getLast? (h.last.symm.trans htail)
    have hjt : j ≠ t := fun hj => hl (hj ▸ ht)
    simp only [Function.update_of_ne hjt, Function.update_of_ne hi]

/-- A member that was not queued comes last. -/
theorem Holds.push (h : Holds links q l) (hi : i ∉ l) :
    Holds (pushLinks links q i) (pushQueue q i) (l ++ [i]) := by
  have hlast : (pushQueue q i).tail = (l ++ [i]).getLast? := by simp [pushQueue]
  have hnodup : (l ++ [i]).Nodup :=
    h.nodup.append (List.nodup_singleton i) (by simpa using hi)
  refine ⟨?_, hlast, hnodup⟩
  rcases List.eq_nil_or_concat l with rfl | ⟨before, t, rfl⟩
  · have htail : q.tail = none := h.last
    simp [pushLinks, pushQueue, htail, Segment]
  · -- The old tail is the member whose link changes from the end to the new one.
    have htail : q.tail = some t := by simpa using h.last
    obtain ⟨mid, hbefore, htmid⟩ := segment_append.mp (List.concat_eq_append ▸ h.segment)
    have ht := segment_singleton.mp htmid
    have hnot : i ≠ t ∧ i ∉ before := by simpa [and_comm] using hi
    have htbefore : t ∉ before := by
      have hn := List.nodup_append.mp (List.concat_eq_append ▸ h.nodup)
      exact fun hmem => hn.2.2 t hmem t List.mem_cons_self rfl
    have hframe : ∀ j ∈ before, pushLinks links q i j = links j := by
      intro j hj
      have hji : j ≠ i := fun hji => hnot.2 (hji ▸ hj)
      have hjt : j ≠ t := fun hjt => htbefore (hjt ▸ hj)
      simp [pushLinks, htail, Function.update_of_ne hji, Function.update_of_ne hjt]
    have hlinkt : pushLinks links q i t = some i := by simp [pushLinks, htail]
    have hlinki : pushLinks links q i i = none := by
      simp [pushLinks, htail, Function.update_of_ne hnot.1]
    have hhead : (pushQueue q i).head = q.head := by simp [pushQueue, htail]
    rw [hhead, List.concat_eq_append, List.append_assoc]
    refine segment_append.mpr ⟨some t, ?_, rfl, ?_⟩
    · rw [← ht.1]
      exact hbefore.congr hframe
    · rw [hlinkt]
      exact ⟨rfl, hlinki⟩

/-- The search stops at the member, and its predecessor is what comes before
it. -/
theorem search_segment {fuel : ℕ} {start previous : Option ι} {before after : List ι}
    (hseg : Segment links start (before ++ i :: after) none) (hi : i ∉ before)
    (hfuel : before.length < fuel) :
    search links i fuel previous start = some (before.getLast?.or previous) := by
  induction before generalizing start previous fuel with
  | nil =>
    cases fuel with
    | zero => exact absurd hfuel (Nat.lt_irrefl 0)
    | succ fuel =>
      have hstart : start = some i := hseg.1
      simp [search, hstart]
  | cons j before ih =>
    cases fuel with
    | zero => exact absurd hfuel (Nat.not_lt_zero _)
    | succ fuel =>
      have hstart : start = some j := hseg.1
      have hji : ¬ j = i := fun hji => hi (hji ▸ List.mem_cons_self)
      have hlen : before.length < fuel := by
        have hcons : before.length+1 < fuel+1 := hfuel
        omega
      have hrest : search links i fuel (some j) (links j) =
          some (before.getLast?.or (some j)) :=
        ih hseg.2 (fun hmem => hi (List.mem_cons_of_mem _ hmem)) hlen
      simp only [search, hstart, Option.some.injEq, hji, ↓reduceIte, hrest]
      cases before with
      | nil => rfl
      | cons k before => simp [List.getLast?_cons]

/-- A queued member is found, with fuel for one place more than the members. -/
theorem Holds.search (h : Holds links q l) (hi : i ∈ l) {fuel : ℕ} (hfuel : l.length < fuel) :
    ∃ before after, l = before ++ i :: after ∧ i ∉ before ∧
      search links i fuel none q.head = some before.getLast? := by
  obtain ⟨before, after, rfl, hnot⟩ := List.eq_append_cons_of_mem hi
  have hlen : before.length < fuel := by
    simp only [List.length_append, List.length_cons] at hfuel
    omega
  refine ⟨before, after, rfl, hnot, ?_⟩
  rw [search_segment h.segment hnot hlen, Option.or_none]

/-- Taking out a member touches the links of the queue alone. -/
theorem unlinkLinks_of_notMem {before : List ι} {j : ι} (hj : j ∉ before) :
    unlinkLinks links i before.getLast? j = links j := by
  unfold unlinkLinks
  cases hlast : before.getLast? with
  | none => rfl
  | some p =>
    have hjp : j ≠ p := fun hjp => hj (hjp ▸ List.mem_of_getLast? hlast)
    exact Function.update_of_ne hjp _ _

/-- A member taken out leaves those before it and those behind it. -/
theorem Holds.unlink {before after : List ι} (h : Holds links q (before ++ i :: after)) :
    Holds (unlinkLinks links i before.getLast?) (unlinkQueue links q i before.getLast?)
      (before ++ after) := by
  have hnodup := List.nodup_append.mp h.nodup
  have hafter := List.nodup_cons.mp hnodup.2.1
  have hne : ∀ j ∈ before, ∀ k ∈ after, j ≠ k := fun j hj k hk =>
    hnodup.2.2 j hj k (List.mem_cons_of_mem _ hk)
  obtain ⟨mid, hbefore, hmid, hrest⟩ := segment_append.mp h.segment
  have hrest' : Segment (unlinkLinks links i before.getLast?) (links i) after none :=
    hrest.congr fun k hk => unlinkLinks_of_notMem fun hkb => hne k hkb k hk rfl
  refine ⟨?_, ?_, hnodup.1.append hafter.2 fun j hj hk => hne j hj j hk rfl⟩
  · rcases List.eq_nil_or_concat before with rfl | ⟨front, p, rfl⟩
    · simpa [unlinkQueue] using hrest'
    · -- The predecessor now leads where the member led.
      rw [List.concat_eq_append] at hbefore hrest' hnodup ⊢
      obtain ⟨place, hfront, hplace⟩ := segment_append.mp hbefore
      have hp := segment_singleton.mp hplace
      have hpfront : p ∉ front := fun hmem =>
        (List.nodup_append.mp hnodup.1).2.2 p hmem p List.mem_cons_self rfl
      have hframe : ∀ j ∈ front, unlinkLinks links i (some p) j = links j := by
        intro j hj
        have hjp : j ≠ p := fun hjp => hpfront (hjp ▸ hj)
        exact Function.update_of_ne hjp _ _
      have hlinkp : unlinkLinks links i (some p) p = links i := Function.update_self _ _ _
      have hlast : (front ++ [p]).getLast? = some p := by simp
      rw [hlast] at hrest' ⊢
      rw [List.append_assoc]
      have hplace : place = some p := hp.1
      rw [hplace] at hfront
      refine segment_append.mpr ⟨some p, hfront.congr hframe, rfl, ?_⟩
      rw [hlinkp]
      exact hrest'
  · have htail : q.tail = (before ++ i :: after).getLast? := h.last
    cases after with
    | nil =>
      have hlast : q.tail = some i := by simpa using htail
      simp [unlinkQueue, hlast]
    | cons k after =>
      have hlast : q.tail = (k :: after).getLast? := by
        simpa [List.getLast?_append, List.getLast?_cons] using htail
      have hki : q.tail ≠ some i := by
        intro heq
        exact hafter.1 (List.mem_of_getLast? (hlast.symm.trans heq))
      have hkeep : (unlinkQueue links q i before.getLast?).tail = q.tail := if_neg hki
      rw [hkeep, hlast]
      simp [List.getLast?_append, List.getLast?_cons]

end Queues

section Families

variable {κ : Type v} {links : ι → Option ι} {queues : κ → Queue ι} {place : ι → Option κ}
  {k : κ} {i : ι}

/-- Queues that share their links: each member is in the queue of its place and
in no other one. -/
def Shared (links : ι → Option ι) (queues : κ → Queue ι) (place : ι → Option κ) : Prop :=
  ∀ k, ∃ l, Holds links (queues k) l ∧ ∀ i, i ∈ l ↔ place i = some k

/-- At first nobody is queued. -/
theorem Shared.empty : Shared links (fun _ : κ => Queue.empty) fun _ => none := by
  intro k
  refine ⟨[], Holds.empty, fun i => ?_⟩
  simp

/-- The head of a queue has its place there. -/
theorem Shared.place_of_head (h : Shared links queues place) (hhead : (queues k).head = some i) :
    place i = some k := by
  obtain ⟨l, hl, hmem⟩ := h k
  rw [hl.head_eq] at hhead
  exact (hmem i).mp (List.mem_of_head? hhead)

variable [DecidableEq ι] [DecidableEq κ]

/-- A member that had no place is appended to one of the queues. -/
theorem Shared.push (h : Shared links queues place) (hi : place i = none) :
    Shared (pushLinks links (queues k) i) (Function.update queues k (pushQueue (queues k) i))
      (Function.update place i (some k)) := by
  obtain ⟨l, hl, hmem⟩ := h k
  have hil : i ∉ l := by
    intro hil
    have hplace := (hmem i).mp hil
    rw [hi] at hplace
    cases hplace
  intro k'
  by_cases hk : k' = k
  · subst hk
    refine ⟨l ++ [i], ?_, fun j => ?_⟩
    · rw [Function.update_self]
      exact hl.push hil
    · by_cases hj : j = i
      · subst hj
        simp
      · simp [hj, hmem j]
  · -- The links of the other queues are not touched.
    obtain ⟨m, hm, hmem'⟩ := h k'
    refine ⟨m, ?_, fun j => ?_⟩
    · rw [Function.update_of_ne hk]
      refine hm.congr fun j hj => pushLinks_of_notMem hl ?_ ?_
      · intro hji
        have hplace := (hmem' j).mp hj
        rw [hji, hi] at hplace
        cases hplace
      · intro hjl
        have hplace := ((hmem' j).mp hj).symm.trans ((hmem j).mp hjl)
        exact hk (Option.some.inj hplace)
    · by_cases hj : j = i
      · subst hj
        simp [hmem' j, hi, Ne.symm hk]
      · simp [hj, hmem' j]

/-- The head of a queue is taken. -/
theorem Shared.pop (h : Shared links queues place) (hhead : (queues k).head = some i) :
    Shared links (Function.update queues k (popQueue links (queues k) i))
      (Function.update place i none) := by
  have hi := h.place_of_head hhead
  obtain ⟨l, hl, hmem⟩ := h k
  intro k'
  by_cases hk : k' = k
  · subst hk
    rw [hl.head_eq] at hhead
    obtain ⟨rest, rfl⟩ := List.head?_eq_some_iff.mp hhead
    have hnot := (List.nodup_cons.mp hl.nodup).1
    refine ⟨rest, ?_, fun j => ?_⟩
    · rw [Function.update_self]
      exact hl.pop
    · by_cases hj : j = i
      · subst hj
        simp [hnot]
      · simp [hj, ← hmem j]
  · obtain ⟨m, hm, hmem'⟩ := h k'
    refine ⟨m, ?_, fun j => ?_⟩
    · rw [Function.update_of_ne hk]
      exact hm
    · by_cases hj : j = i
      · subst hj
        simp [hmem' j, hi, Ne.symm hk]
      · simp [hj, hmem' j]

/-- A member with a place is found in its queue and can be taken out there; the
fuel lasts for all members and the end. -/
theorem Shared.unlink [Fintype ι] {fuel : ℕ} (h : Shared links queues place)
    (hi : place i = some k) (hfuel : Fintype.card ι < fuel) :
    ∃ previous, search links i fuel none (queues k).head = some previous ∧
      Shared (unlinkLinks links i previous)
        (Function.update queues k (unlinkQueue links (queues k) i previous))
        (Function.update place i none) := by
  obtain ⟨l, hl, hmem⟩ := h k
  have hlen : l.length < fuel := lt_of_le_of_lt hl.nodup.length_le_card hfuel
  obtain ⟨before, after, rfl, hnot, hsearch⟩ := hl.search ((hmem i).mpr hi) hlen
  refine ⟨before.getLast?, hsearch, fun k' => ?_⟩
  by_cases hk : k' = k
  · subst hk
    have hafter : i ∉ after :=
      (List.nodup_cons.mp (List.nodup_append.mp hl.nodup).2.1).1
    refine ⟨before ++ after, ?_, fun j => ?_⟩
    · rw [Function.update_self]
      exact hl.unlink
    · by_cases hj : j = i
      · subst hj
        simp [hnot, hafter]
      · simp [hj, ← hmem j]
  · obtain ⟨m, hm, hmem'⟩ := h k'
    refine ⟨m, ?_, fun j => ?_⟩
    · rw [Function.update_of_ne hk]
      refine hm.congr fun j hj => unlinkLinks_of_notMem fun hjb => ?_
      have hplace := (hmem j).mp (List.mem_append_left _ hjb)
      exact hk (Option.some.inj (((hmem' j).mp hj).symm.trans hplace))
    · by_cases hj : j = i
      · subst hj
        simp [hmem' j, hi, Ne.symm hk]
      · simp [hj, hmem' j]

end Families

end Dmw.LinkedQueues
