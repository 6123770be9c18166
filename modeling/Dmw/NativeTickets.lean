import Dmw.NativeTables

/-!
# Tickets of the native I/O dispatcher

What the worker, the mailboxes and the history of a dispatcher are to its slots:
what was done to a ticket is a life in the sense of `TicketLife`, and the slot
that holds the ticket shows the stage it has reached. Each change of one slot
keeps the relations that do not read it.
-/

namespace Dmw.NativeIo

open Counting GuardedRuns Identity KeyedTable LinkedQueues Rings TicketLife

/-- Port in whose mailbox a slot belongs. -/
def Slot.mailedTo (slot : Slot) : Option PortRef :=
  if slot.state = .completed then slot.port else none

/-- Stage of the ticket of a slot; a completed one may still be on its way. -/
def Slot.stage (slot : Slot) (publishing : Bool) : Stage :=
  match slot.state with
  | .free => .released
  | .reserved => .reserved
  | .queued => .queued
  | .running => .running
  | .retryWaiting => .retryWaiting
  | .completed => if publishing then .completed else .mailed

/-- Stage of the ticket of a slot. -/
def System.stage (i : Index) (s : System) : Stage :=
  (s.io.slots i).stage (decide (s.worker = .publishing i))

/-- What was done to one ticket. -/
def deedsOf (ticket : ℕ) (log : List (ℕ × Deed)) : List Deed :=
  (log.filter fun entry => decide (entry.1 = ticket)).map (·.2)

/-- Tickets of a port to which deeds of one kind were done, in their order. -/
def System.history (p : PortRef) (kind : Deed → Bool) (s : System) : List ℕ :=
  (s.log.filter fun entry => decide (s.home entry.1 = some p) && kind entry.2).map (·.1)

/-- Tickets in the mailbox of a port, in their order. -/
def System.mailed (p : PortRef) (s : System) : List ℕ :=
  (s.io.ports p).mailbox.toList.map fun i => (s.io.slots i).ticket

/-- Ticket of a port that the worker is about to publish. -/
def System.pending (p : PortRef) (s : System) : List ℕ :=
  match s.worker with
  | .publishing i =>
    if s.home (s.io.slots i).ticket = some p then [(s.io.slots i).ticket] else []
  | _ => []

/-- The slot that runs is the one the worker is at. -/
structure Working (d : NativeIoDispatcher) (w : Worker) : Prop where
  /-- Only the worker runs a slot. -/
  running : ∀ i, (d.slots i).state = .running ↔ w.runs = some i
  /-- What is about to be published is completed. -/
  publishing : ∀ i, w = .publishing i → (d.slots i).state = .completed

/-- A mailbox lists the completed slots of its port, but for the one that the
worker is about to publish. -/
def Mailboxes (d : NativeIoDispatcher) (w : Worker) : Prop :=
  ∀ p, (d.ports p).mailbox.toList.Nodup ∧
    ∀ i, i ∈ (d.ports p).mailbox.toList ↔ (d.slots i).mailedTo = some p ∧ w ≠ .publishing i

/-- The history of every ticket ends where the slots show it to be. -/
structure Logged (s : System) : Prop where
  /-- A ticket that is held stands where its slot stands. -/
  live : ∀ i, (s.io.slots i).Live →
    Stage.unissued.after (deedsOf (s.io.slots i).ticket s.log) = some (s.stage i)
  /-- A ticket that is no longer held was released. -/
  released : ∀ ticket, 0 < ticket → ticket < s.io.nextTicket →
    (∀ i, (s.io.slots i).Live → (s.io.slots i).ticket ≠ ticket) →
    Stage.unissued.after (deedsOf ticket s.log) = some .released
  /-- Nothing was done to a ticket that was not issued. -/
  unissued : ∀ ticket, ticket = 0 ∨ s.io.nextTicket ≤ ticket → deedsOf ticket s.log = []
  /-- A ticket stays with its port. -/
  home : ∀ i, (s.io.slots i).Live → s.home (s.io.slots i).ticket = (s.io.slots i).port
  /-- What was cancelled is marked. -/
  skipped : ∀ i, (s.io.slots i).Live → .cancel ∈ deedsOf (s.io.slots i).ticket s.log →
    (s.io.slots i).completion.skipped = true

/-- What was acknowledged and what is in the mailbox is what was mailed, in the
same order. -/
def Delivered (s : System) : Prop :=
  ∀ p, s.history p Deed.mails = s.history p (fun deed => decide (deed = .acknowledge)) ++ s.mailed p

/-- What the worker completes it publishes in the same order. -/
def Ordered (s : System) : Prop :=
  ∀ p, s.history p (fun deed => decide (deed = .complete)) =
    s.history p (fun deed => decide (deed = .publish)) ++ s.pending p

/-- Everything holds together. -/
structure Consistent (s : System) : Prop where
  /-- Tickets and slots. -/
  tickets : Ticketed s.io
  /-- Ready queues. -/
  ready : Ready s.io
  /-- Counters. -/
  counts : Counted s.io
  /-- The worker. -/
  working : Working s.io s.worker
  /-- Mailboxes. -/
  mailboxes : Mailboxes s.io s.worker
  /-- The lives of the tickets. -/
  logged : Logged s
  /-- The order of completions. -/
  delivered : Delivered s
  /-- The order of the worker. -/
  ordered : Ordered s

section Slots

variable {slot : Slot} {p : PortRef} {b : Bool}

theorem Slot.mailedTo_eq_some :
    slot.mailedTo = some p ↔ slot.state = .completed ∧ slot.port = some p := by
  simp [Slot.mailedTo]

/-- Two slots that are not completed. -/
theorem Slot.mailedTo_same {slot slot' : Slot} (h : slot.state ≠ .completed)
    (h' : slot'.state ≠ .completed) : slot.mailedTo = slot'.mailedTo := by
  rw [Slot.mailedTo, Slot.mailedTo, if_neg h, if_neg h']

/-- A slot that holds a ticket has not released it. -/
theorem Slot.Live.stage_ne (h : slot.Live) : slot.stage b ≠ .released := by
  cases hstate : slot.state <;> simp [Slot.stage, hstate]
  · exact h hstate
  · cases b <;> simp

end Slots

section Worker

variable {d d' : NativeIoDispatcher} {w w' : Worker} {i : Index} {slot : Slot}

/-- One slot changes away from the worker. -/
theorem Working.change (h : Working d w) (hslots : d'.slots = Function.update d.slots i slot)
    (hbefore : (d.slots i).state ≠ .running) (hafter : slot.state ≠ .running)
    (hpublishing : w = .publishing i → slot.state = .completed) : Working d' w := by
  constructor
  · intro j
    by_cases hj : j = i
    · subst hj
      rw [hslots, Function.update_self]
      exact iff_of_false hafter fun hruns => hbefore ((h.running j).mpr hruns)
    · rw [hslots, Function.update_of_ne hj]
      exact h.running j
  · intro j hw
    by_cases hj : j = i
    · subst hj
      rw [hslots, Function.update_self]
      exact hpublishing hw
    · rw [hslots, Function.update_of_ne hj]
      exact h.publishing j hw

/-- The worker moves on with the only slot it is at. -/
theorem Working.move (h : Working d w) (hslots : d'.slots = Function.update d.slots i slot)
    (hbefore : ∀ j, w.runs = some j → j = i) (hafter : ∀ j, w'.runs = some j → j = i)
    (hruns : slot.state = .running ↔ w'.runs = some i)
    (hpublishing : ∀ j, w' = .publishing j → j = i ∧ slot.state = .completed) :
    Working d' w' := by
  constructor
  · intro j
    by_cases hj : j = i
    · subst hj
      rw [hslots, Function.update_self]
      exact hruns
    · rw [hslots, Function.update_of_ne hj, h.running j]
      exact iff_of_false (fun hw => hj (hbefore j hw)) fun hw => hj (hafter j hw)
  · intro j hw
    obtain ⟨hj,hstate⟩ := hpublishing j hw
    subst hj
    rw [hslots, Function.update_self]
    exact hstate

end Worker

section Mail

variable {d d' : NativeIoDispatcher} {w w' : Worker} {i : Index} {slot : Slot} {p : PortRef}

/-- What belongs into the mailboxes stays the same. -/
theorem Mailboxes.congr (h : Mailboxes d w)
    (hports : ∀ p, (d'.ports p).mailbox = (d.ports p).mailbox)
    (hslots : ∀ i p, (d'.slots i).mailedTo = some p ∧ w' ≠ .publishing i ↔
      (d.slots i).mailedTo = some p ∧ w ≠ .publishing i) : Mailboxes d' w' := by
  intro p
  rw [hports]
  refine ⟨(h p).1, fun i => ?_⟩
  rw [hslots]
  exact (h p).2 i

/-- One slot changes, but not where it belongs. -/
theorem Mailboxes.change (h : Mailboxes d w)
    (hslots : d'.slots = Function.update d.slots i slot)
    (hports : ∀ p, (d'.ports p).mailbox = (d.ports p).mailbox)
    (hslot : slot.mailedTo = (d.slots i).mailedTo)
    (hworker : ∀ j, w' = .publishing j ↔ w = .publishing j) : Mailboxes d' w' := by
  refine h.congr hports fun j p => ?_
  rw [hslots, read_same Slot.mailedTo hslot, Ne, hworker]

/-- A slot that is in no mailbox finds room in each. -/
theorem Mailboxes.room (h : Mailboxes d w) (hi : i ∉ (d.ports p).mailbox.toList) :
    (d.ports p).mailbox.count < 256 := by
  have hnodup : (i :: (d.ports p).mailbox.toList).Nodup := List.nodup_cons.mpr ⟨hi,(h p).1⟩
  have hlen := hnodup.length_le_card
  rw [List.length_cons, Ring.length_toList, Fintype.card_fin] at hlen
  omega

/-- A slot comes to belong into a mailbox and is put there. -/
theorem Mailboxes.deliver (h : Mailboxes d w)
    (hports : ∀ q, (d'.ports q).mailbox =
      if q = p then (d.ports q).mailbox.push i else (d.ports q).mailbox)
    (hbefore : ∀ q, ¬ ((d.slots i).mailedTo = some q ∧ w ≠ .publishing i))
    (hafter : (d'.slots i).mailedTo = some p ∧ w' ≠ .publishing i)
    (hothers : ∀ j, j ≠ i → ∀ q, (d'.slots j).mailedTo = some q ∧ w' ≠ .publishing j ↔
      (d.slots j).mailedTo = some q ∧ w ≠ .publishing j) : Mailboxes d' w' := by
  intro q
  have hnot : i ∉ (d.ports q).mailbox.toList := fun hi => hbefore q (((h q).2 i).mp hi)
  rw [hports]
  by_cases hq : q = p
  · subst hq
    rw [if_pos rfl, Ring.toList_push (h.room hnot)]
    refine ⟨(h q).1.append (List.nodup_singleton i) (by simpa using hnot), fun j => ?_⟩
    by_cases hj : j = i
    · subst hj
      simp [hafter]
    · rw [hothers j hj q, ← (h q).2 j]
      simp [hj]
  · rw [if_neg hq]
    refine ⟨(h q).1, fun j => ?_⟩
    by_cases hj : j = i
    · subst hj
      refine iff_of_false hnot fun hboth => ?_
      exact hq (Option.some.inj (hboth.1.symm.trans hafter.1))
    · rw [hothers j hj q]
      exact (h q).2 j

/-- The head of a mailbox is taken out, and its slot no longer belongs there. -/
theorem Mailboxes.retire (h : Mailboxes d w) (hpeek : (d.ports p).mailbox.peek = some i)
    (hports : ∀ q, (d'.ports q).mailbox =
      if q = p then (d.ports q).mailbox.pop else (d.ports q).mailbox)
    (hafter : ∀ q, (d'.slots i).mailedTo ≠ some q)
    (hothers : ∀ j, j ≠ i → ∀ q, (d'.slots j).mailedTo = some q ∧ w ≠ .publishing j ↔
      (d.slots j).mailedTo = some q ∧ w ≠ .publishing j) : Mailboxes d' w := by
  have hcount : (d.ports p).mailbox.count ≠ 0 := by
    intro hcount
    simp [Ring.peek, hcount] at hpeek
  have hcons := Ring.toList_eq_cons hcount
  have hhead : (d.ports p).mailbox.cells (d.ports p).mailbox.head = i := by
    simpa [Ring.peek, hcount] using hpeek
  rw [hhead] at hcons
  have hi : i ∈ (d.ports p).mailbox.toList := hcons ▸ List.mem_cons_self
  have hmailed := ((h p).2 i).mp hi
  intro q
  rw [hports]
  by_cases hq : q = p
  · subst hq
    have hnodup := List.nodup_cons.mp (hcons ▸ (h q).1)
    rw [if_pos rfl]
    refine ⟨hnodup.2, fun j => ?_⟩
    by_cases hj : j = i
    · subst hj
      exact iff_of_false hnodup.1 fun hboth => hafter q hboth.1
    · rw [hothers j hj q, ← (h q).2 j, hcons]
      simp [hj]
  · rw [if_neg hq]
    refine ⟨(h q).1, fun j => ?_⟩
    by_cases hj : j = i
    · subst hj
      refine iff_of_false (fun hjq => ?_) fun hboth => hafter q hboth.1
      have hother := ((h q).2 j).mp hjq
      exact hq (Option.some.inj (hother.1.symm.trans hmailed.1))
    · rw [hothers j hj q]
      exact (h q).2 j

end Mail

section Histories

variable {s s' : System} {i : Index} {slot : Slot} {p : PortRef} {ticket : ℕ} {ds : List Deed}
  {log : List (ℕ × Deed)}

/-- Deeds done to one ticket are appended to its own. -/
theorem deedsOf_append_self :
    deedsOf ticket (log ++ ds.map (ticket,·)) = deedsOf ticket log ++ ds := by
  simp [deedsOf, List.filter_append, List.filter_map, Function.comp_def]

/-- Deeds done to one ticket are not done to another one. -/
theorem deedsOf_append_ne {other : ℕ} (hne : other ≠ ticket) :
    deedsOf other (log ++ ds.map (ticket,·)) = deedsOf other log := by
  simp [deedsOf, List.filter_append, List.filter_map, Function.comp_def, Ne.symm hne]

/-- Nothing that the history is about changes. -/
theorem Logged.congr (h : Logged s) (hslots : s'.io.slots = s.io.slots)
    (hnext : s'.io.nextTicket = s.io.nextTicket) (hlog : s'.log = s.log) (hhome : s'.home = s.home)
    (hworker : ∀ j, s'.worker = .publishing j ↔ s.worker = .publishing j) : Logged s' := by
  have hstage : ∀ i, s'.stage i = s.stage i := by
    intro i
    simp only [System.stage, hslots, hworker]
  obtain ⟨hlive,hreleased,hunissued,hport,hskipped⟩ := h
  constructor <;> simp only [hslots, hnext, hlog, hhome, hstage] <;> assumption

/-- Deeds are done to a ticket that keeps its slot. -/
theorem Logged.change (h : Logged s) (ds : List Deed) (ht : Ticketed s.io)
    (hslots : s'.io.slots = Function.update s.io.slots i slot) (hlive : (s.io.slots i).Live)
    (hlive' : slot.Live) (hticket : slot.ticket = (s.io.slots i).ticket)
    (hport : slot.port = (s.io.slots i).port) (hnext : s'.io.nextTicket = s.io.nextTicket)
    (hhome : s'.home = s.home) (hlog : s'.log = s.log ++ ds.map ((s.io.slots i).ticket,·))
    (hothers : ∀ j, j ≠ i → (s'.worker = .publishing j ↔ s.worker = .publishing j))
    (hstage : (s.stage i).after ds = some (slot.stage (decide (s'.worker = .publishing i))))
    (hmailed : s.stage i ≠ .mailed)
    (hskip : .cancel ∈ ds → slot.completion.skipped = true) : Logged s' := by
  have hself : s'.io.slots i = slot := by rw [hslots, Function.update_self]
  have hother : ∀ j, j ≠ i → s'.io.slots j = s.io.slots j := by
    intro j hj
    rw [hslots, Function.update_of_ne hj]
  have hne : ∀ j, j ≠ i → (s.io.slots j).Live → (s.io.slots j).ticket ≠ (s.io.slots i).ticket :=
    fun j hj hjlive hsame => hj (ht.distinct j i hjlive hlive hsame)
  have hdone : deedsOf (s.io.slots i).ticket s'.log = deedsOf (s.io.slots i).ticket s.log ++ ds := by
    rw [hlog, deedsOf_append_self]
  have hrest : ∀ t, t ≠ (s.io.slots i).ticket → deedsOf t s'.log = deedsOf t s.log := by
    intro t htne
    rw [hlog, deedsOf_append_ne htne]
  refine ⟨?_, ?_, ?_, ?_, ?_⟩
  · intro j hj
    by_cases hji : j = i
    · rw [hji, System.stage, hself, hticket, hdone, after_append, h.live i hlive]
      exact hstage
    · have hsame : s'.stage j = s.stage j := by
        simp only [System.stage, hother j hji, hothers j hji]
      rw [hother j hji] at hj ⊢
      rw [hrest _ (hne j hji hj), hsame]
      exact h.live j hj
  · intro t hpos hlt hnone
    have hti : t ≠ (s.io.slots i).ticket := by
      intro heq
      apply hnone i (hself ▸ hlive')
      rw [hself, hticket, heq]
    rw [hrest t hti]
    refine h.released t hpos (hnext ▸ hlt) fun j hj => ?_
    by_cases hji : j = i
    · rw [hji]
      exact hti.symm
    · have hnot := hnone j
      rw [hother j hji] at hnot
      exact hnot hj
  · intro t hout
    have hti : t ≠ (s.io.slots i).ticket := by
      have hrange := ht.range i hlive
      rw [hnext] at hout
      omega
    rw [hrest t hti]
    exact h.unissued t (hnext ▸ hout)
  · intro j hj
    rw [hhome]
    by_cases hji : j = i
    · rw [hji, hself, hticket, hport]
      exact h.home i hlive
    · rw [hother j hji] at hj ⊢
      exact h.home j hj
  · intro j hj hcancel
    by_cases hji : j = i
    · rw [hji, hself] at hcancel ⊢
      rw [hticket, hdone] at hcancel
      rcases List.mem_append.mp hcancel with hold | hnew
      · -- A ticket that was cancelled before would be in its mailbox.
        rcases stage_of_cancel (h.live i hlive) hold with hend | hend
        · exact absurd hend hmailed
        · exact absurd hend hlive.stage_ne
      · exact hskip hnew
    · rw [hother j hji] at hj hcancel ⊢
      rw [hrest _ (hne j hji hj)] at hcancel
      exact h.skipped j hj hcancel

/-- The last deed to a ticket releases it, and its slot with it. -/
theorem Logged.release {deed : Deed} (h : Logged s) (ht : Ticketed s.io)
    (hslots : s'.io.slots = Function.update s.io.slots i slot) (hlive : (s.io.slots i).Live)
    (hfree : slot.state = .free) (hnext : s'.io.nextTicket = s.io.nextTicket)
    (hhome : s'.home = s.home) (hlog : s'.log = s.log ++ [((s.io.slots i).ticket,deed)])
    (hworker : s'.worker = s.worker) (hstage : (s.stage i).next deed = some .released) :
    Logged s' := by
  have hother : ∀ j, (s'.io.slots j).Live → j ≠ i ∧ s'.io.slots j = s.io.slots j := by
    intro j hj
    have hji : j ≠ i := by
      intro heq
      rw [heq, hslots, Function.update_self] at hj
      exact hj hfree
    refine ⟨hji,?_⟩
    rw [hslots, Function.update_of_ne hji]
  have hne : ∀ j, j ≠ i → (s.io.slots j).Live → (s.io.slots j).ticket ≠ (s.io.slots i).ticket :=
    fun j hj hjlive hsame => hj (ht.distinct j i hjlive hlive hsame)
  have hlog' : s'.log = s.log ++ [deed].map ((s.io.slots i).ticket,·) := hlog
  have hrest : ∀ t, t ≠ (s.io.slots i).ticket → deedsOf t s'.log = deedsOf t s.log := by
    intro t htne
    rw [hlog', deedsOf_append_ne htne]
  refine ⟨?_, ?_, ?_, ?_, ?_⟩
  · intro j hj
    obtain ⟨hji,hsame⟩ := hother j hj
    have hstage : s'.stage j = s.stage j := by simp only [System.stage, hsame, hworker]
    rw [hsame] at hj ⊢
    rw [hrest _ (hne j hji hj), hstage]
    exact h.live j hj
  · intro t hpos hlt hnone
    by_cases hti : t = (s.io.slots i).ticket
    · rw [hti, hlog', deedsOf_append_self]
      exact (after_concat (h.live i hlive)).trans hstage
    · rw [hrest t hti]
      refine h.released t hpos (hnext ▸ hlt) fun j hj => ?_
      by_cases hji : j = i
      · rw [hji]
        exact Ne.symm hti
      · have hnot := hnone j
        rw [hslots, Function.update_of_ne hji] at hnot
        exact hnot hj
  · intro t hout
    have hti : t ≠ (s.io.slots i).ticket := by
      have hrange := ht.range i hlive
      rw [hnext] at hout
      omega
    rw [hrest t hti]
    exact h.unissued t (hnext ▸ hout)
  · intro j hj
    obtain ⟨_,hsame⟩ := hother j hj
    rw [hhome]
    rw [hsame] at hj ⊢
    exact h.home j hj
  · intro j hj hcancel
    obtain ⟨hji,hsame⟩ := hother j hj
    rw [hsame] at hj hcancel ⊢
    rw [hrest _ (hne j hji hj)] at hcancel
    exact h.skipped j hj hcancel

/-- The next ticket is reserved in a free slot. -/
theorem Logged.issue (h : Logged s) (ht : Ticketed s.io)
    (hslots : s'.io.slots = Function.update s.io.slots i slot)
    (hfree : (s.io.slots i).state = .free) (hslot : slot.state = .reserved)
    (hticket : slot.ticket = s.io.nextTicket) (hport : slot.port = some p)
    (hnext : s'.io.nextTicket = s.io.nextTicket+1)
    (hhome : s'.home = Function.update s.home s.io.nextTicket (some p))
    (hlog : s'.log = s.log ++ [(s.io.nextTicket,.reserve)]) (hworker : s'.worker = s.worker) :
    Logged s' := by
  have hself : s'.io.slots i = slot := by rw [hslots, Function.update_self]
  have hother : ∀ j, j ≠ i → s'.io.slots j = s.io.slots j := by
    intro j hj
    rw [hslots, Function.update_of_ne hj]
  have hlog' : s'.log = s.log ++ [Deed.reserve].map (s.io.nextTicket,·) := hlog
  have hnew : deedsOf s.io.nextTicket s'.log = [.reserve] := by
    rw [hlog', deedsOf_append_self, h.unissued _ (.inr (Nat.le_refl _))]
    rfl
  have hrest : ∀ t, t ≠ s.io.nextTicket → deedsOf t s'.log = deedsOf t s.log := by
    intro t htne
    rw [hlog', deedsOf_append_ne htne]
  have hold : ∀ j, (s.io.slots j).Live → (s.io.slots j).ticket ≠ s.io.nextTicket := by
    intro j hj
    have hrange := ht.range j hj
    omega
  refine ⟨?_, ?_, ?_, ?_, ?_⟩
  · intro j hj
    by_cases hji : j = i
    · have hstage : s'.stage i = .reserved := by simp [System.stage, hself, Slot.stage, hslot]
      rw [hji, hself, hticket, hnew, hstage]
      rfl
    · have hstage : s'.stage j = s.stage j := by simp only [System.stage, hother j hji, hworker]
      rw [hother j hji] at hj ⊢
      rw [hrest _ (hold j hj), hstage]
      exact h.live j hj
  · intro t hpos hlt hnone
    have hti : t ≠ s.io.nextTicket := by
      intro heq
      have hlive : (s'.io.slots i).Live := by
        rw [hself, Slot.Live, hslot]
        decide
      apply hnone i hlive
      rw [hself, hticket, heq]
    rw [hrest t hti]
    refine h.released t hpos (by omega) fun j hj => ?_
    have hji : j ≠ i := fun heq => hj (heq ▸ hfree)
    have hnot := hnone j
    rw [hother j hji] at hnot
    exact hnot hj
  · intro t hout
    have hpos := ht.issued
    have hti : t ≠ s.io.nextTicket := by omega
    rw [hrest t hti]
    exact h.unissued t (by omega)
  · intro j hj
    rw [hhome]
    by_cases hji : j = i
    · rw [hji, hself, hticket, hport, Function.update_self]
    · rw [hother j hji] at hj ⊢
      rw [Function.update_of_ne (hold j hj)]
      exact h.home j hj
  · intro j hj hcancel
    by_cases hji : j = i
    · rw [hji, hself, hticket, hnew] at hcancel
      cases hcancel with
      | tail _ hmem => cases hmem
    · rw [hother j hji] at hj hcancel ⊢
      rw [hrest _ (hold j hj)] at hcancel
      exact h.skipped j hj hcancel

end Histories

section Order

variable {s s' : System} {i : Index} {p : PortRef} {ticket : ℕ} {deed : Deed} {ds : List Deed}
  {kind : Deed → Bool}

/-- What is appended to the history of a port. -/
theorem history_append (hhome : s'.home = s.home) (hlog : s'.log = s.log ++ ds.map (ticket,·)) :
    s'.history p kind = s.history p kind ++
      if s.home ticket = some p then (ds.filter kind).map fun _ => ticket else [] := by
  simp only [System.history, hhome, hlog, List.filter_append, List.map_append, List.filter_map,
    List.map_map, Function.comp_def]
  by_cases hp : s.home ticket = some p <;> simp [hp]

/-- Deeds of other kinds are not in the history. -/
theorem history_other (hhome : s'.home = s.home) (hlog : s'.log = s.log ++ ds.map (ticket,·))
    (hkind : ∀ deed ∈ ds, kind deed = false) : s'.history p kind = s.history p kind := by
  have hnone : ds.filter kind = [] := by
    rw [List.filter_eq_nil_iff]
    intro deed hdeed
    rw [hkind deed hdeed]
    exact Bool.false_ne_true
  rw [history_append hhome hlog, hnone]
  simp

/-- Mailboxes whose entries keep their tickets. -/
theorem mailed_congr (hports : (s'.io.ports p).mailbox = (s.io.ports p).mailbox)
    (htickets : ∀ i ∈ (s.io.ports p).mailbox.toList,
      (s'.io.slots i).ticket = (s.io.slots i).ticket) : s'.mailed p = s.mailed p := by
  rw [System.mailed, hports]
  exact List.map_congr_left htickets

/-- Nothing is mailed or acknowledged. -/
theorem Delivered.change (h : Delivered s) (ds : List Deed) (ticket : ℕ) (hhome : s'.home = s.home)
    (hlog : s'.log = s.log ++ ds.map (ticket,·))
    (hkind : ∀ deed ∈ ds, deed.mails = false ∧ deed ≠ .acknowledge)
    (hports : ∀ p, (s'.io.ports p).mailbox = (s.io.ports p).mailbox)
    (htickets : ∀ i, (s'.io.slots i).ticket = (s.io.slots i).ticket) : Delivered s' := by
  intro p
  have hack : ∀ deed ∈ ds, (fun deed => decide (deed = Deed.acknowledge)) deed = false :=
    fun deed hdeed => decide_eq_false (hkind deed hdeed).2
  rw [history_other hhome hlog fun deed hdeed => (hkind deed hdeed).1,
    history_other hhome hlog hack, mailed_congr (hports p) fun i _ => htickets i]
  exact h p

/-- A completion is put into the mailbox of its port. -/
theorem Delivered.deliver (h : Delivered s) (hhome : s'.home = s.home)
    (hlog : s'.log = s.log ++ [((s.io.slots i).ticket,deed)]) (hmails : deed.mails = true)
    (hack : deed ≠ .acknowledge) (hp : s.home (s.io.slots i).ticket = some p)
    (hroom : (s.io.ports p).mailbox.count < 256)
    (hports : ∀ q, (s'.io.ports q).mailbox =
      if q = p then (s.io.ports q).mailbox.push i else (s.io.ports q).mailbox)
    (htickets : ∀ i, (s'.io.slots i).ticket = (s.io.slots i).ticket) : Delivered s' := by
  have hlog' : s'.log = s.log ++ [deed].map ((s.io.slots i).ticket,·) := hlog
  intro q
  have hacks : s'.history q (fun deed => decide (deed = .acknowledge)) =
      s.history q (fun deed => decide (deed = .acknowledge)) := by
    refine history_other hhome hlog' fun d hd => ?_
    rw [List.mem_singleton.mp hd]
    exact decide_eq_false hack
  rw [hacks, history_append hhome hlog']
  by_cases hq : q = p
  · subst hq
    have hmailed : s'.mailed q = s.mailed q ++ [(s.io.slots i).ticket] := by
      simp only [System.mailed, hports, if_pos, Ring.toList_push hroom, htickets,
        List.map_append, List.map_cons, List.map_nil]
    rw [hmailed, if_pos hp, h q, List.append_assoc]
    simp [hmails]
  · have hne : s.home (s.io.slots i).ticket ≠ some q := by
      rw [hp]
      exact fun heq => hq (Option.some.inj heq).symm
    have hmailed : s'.mailed q = s.mailed q :=
      mailed_congr (by rw [hports, if_neg hq]) fun j _ => htickets j
    rw [hmailed, if_neg hne, List.append_nil]
    exact h q

/-- The head of a mailbox is acknowledged. -/
theorem Delivered.retire (h : Delivered s) (hhome : s'.home = s.home)
    (hlog : s'.log = s.log ++ [((s.io.slots i).ticket,.acknowledge)])
    (hp : s.home (s.io.slots i).ticket = some p) (hpeek : (s.io.ports p).mailbox.peek = some i)
    (hports : ∀ q, (s'.io.ports q).mailbox =
      if q = p then (s.io.ports q).mailbox.pop else (s.io.ports q).mailbox)
    (htickets : ∀ i, (s'.io.slots i).ticket = (s.io.slots i).ticket) : Delivered s' := by
  have hlog' : s'.log = s.log ++ [Deed.acknowledge].map ((s.io.slots i).ticket,·) := hlog
  intro q
  have hmails : s'.history q Deed.mails = s.history q Deed.mails := by
    refine history_other hhome hlog' fun d hd => ?_
    rw [List.mem_singleton.mp hd]
    rfl
  rw [hmails, history_append hhome hlog']
  by_cases hq : q = p
  · subst hq
    have hcount : (s.io.ports q).mailbox.count ≠ 0 := by
      intro hcount
      simp [Ring.peek, hcount] at hpeek
    have hhead : (s.io.ports q).mailbox.cells (s.io.ports q).mailbox.head = i := by
      simpa [Ring.peek, hcount] using hpeek
    have hcons := Ring.toList_eq_cons hcount
    have hmailed : s.mailed q = (s.io.slots i).ticket :: s'.mailed q := by
      simp only [System.mailed, hports, if_pos, htickets, hcons, hhead, List.map_cons]
    rw [h q, hmailed, if_pos hp, List.append_assoc]
    rfl
  · have hne : s.home (s.io.slots i).ticket ≠ some q := by
      rw [hp]
      exact fun heq => hq (Option.some.inj heq).symm
    have hmailed : s'.mailed q = s.mailed q :=
      mailed_congr (by rw [hports, if_neg hq]) fun j _ => htickets j
    rw [hmailed, if_neg hne, List.append_nil]
    exact h q

/-- Reserving a ticket to which nothing was done is in no other history. -/
theorem history_issue {q : PortRef} (hnone : deedsOf ticket s.log = [])
    (hhome : s'.home = Function.update s.home ticket (some p))
    (hlog : s'.log = s.log ++ [(ticket,.reserve)]) (hkind : kind .reserve = false) :
    s'.history q kind = s.history q kind := by
  have hentries : ∀ entry ∈ s.log, entry.1 ≠ ticket := by
    intro entry hentry heq
    have hmem : entry.2 ∈ deedsOf ticket s.log :=
      List.mem_map.mpr ⟨entry, List.mem_filter.mpr ⟨hentry, decide_eq_true heq⟩, rfl⟩
    rw [hnone] at hmem
    cases hmem
  have hsame : s.log.filter (fun entry => decide (s'.home entry.1 = some q) && kind entry.2) =
      s.log.filter fun entry => decide (s.home entry.1 = some q) && kind entry.2 := by
    apply List.filter_congr
    intro entry hentry
    rw [hhome, Function.update_of_ne (hentries entry hentry)]
  rw [System.history, System.history, hlog, List.filter_append, hsame]
  simp [hkind]

/-- A ticket to which nothing was done is reserved. -/
theorem Delivered.issue (h : Delivered s) (hnone : deedsOf ticket s.log = [])
    (hhome : s'.home = Function.update s.home ticket (some p))
    (hlog : s'.log = s.log ++ [(ticket,.reserve)])
    (hmailed : ∀ q, s'.mailed q = s.mailed q) : Delivered s' := by
  intro q
  rw [history_issue hnone hhome hlog rfl, history_issue hnone hhome hlog rfl, hmailed]
  exact h q

/-- Nothing is pending unless the worker is about to publish it. -/
theorem pending_eq_nil (hworker : ∀ i, s.worker ≠ .publishing i) : s.pending p = [] := by
  unfold System.pending
  split
  · next i hw => exact absurd hw (hworker i)
  · rfl

/-- What the worker is about to publish stays the same. -/
theorem pending_congr (hworker : ∀ i, s'.worker = .publishing i ↔ s.worker = .publishing i)
    (htickets : ∀ i, s.worker = .publishing i → (s'.io.slots i).ticket = (s.io.slots i).ticket ∧
      s'.home (s.io.slots i).ticket = s.home (s.io.slots i).ticket) : s'.pending p = s.pending p := by
  by_cases hpending : ∃ i, s.worker = .publishing i
  · obtain ⟨i,hw⟩ := hpending
    obtain ⟨hticket,hhome⟩ := htickets i hw
    have hw' := (hworker i).mpr hw
    simp only [System.pending, hw, hw', hticket, hhome]
  · have hnone : ∀ i, s.worker ≠ .publishing i := fun i hw => hpending ⟨i,hw⟩
    rw [pending_eq_nil hnone, pending_eq_nil fun i hw => hnone i ((hworker i).mp hw)]

/-- The worker neither completes nor publishes. -/
theorem Ordered.change (h : Ordered s) (ds : List Deed) (ticket : ℕ) (hhome : s'.home = s.home)
    (hlog : s'.log = s.log ++ ds.map (ticket,·))
    (hkind : ∀ deed ∈ ds, deed ≠ .complete ∧ deed ≠ .publish)
    (hworker : ∀ i, s'.worker = .publishing i ↔ s.worker = .publishing i)
    (htickets : ∀ i, (s'.io.slots i).ticket = (s.io.slots i).ticket) : Ordered s' := by
  intro p
  have hcomplete : ∀ deed ∈ ds, (fun deed => decide (deed = Deed.complete)) deed = false :=
    fun deed hdeed => decide_eq_false (hkind deed hdeed).1
  have hpublish : ∀ deed ∈ ds, (fun deed => decide (deed = Deed.publish)) deed = false :=
    fun deed hdeed => decide_eq_false (hkind deed hdeed).2
  rw [history_other hhome hlog hcomplete, history_other hhome hlog hpublish,
    pending_congr hworker fun i _ => ⟨htickets i, by rw [hhome]⟩]
  exact h p

/-- The worker completes a ticket. -/
theorem Ordered.complete (h : Ordered s) (hhome : s'.home = s.home)
    (hlog : s'.log = s.log ++ [((s.io.slots i).ticket,.complete)])
    (hbefore : ∀ j, s.worker ≠ .publishing j) (hafter : s'.worker = .publishing i)
    (hticket : (s'.io.slots i).ticket = (s.io.slots i).ticket) : Ordered s' := by
  have hlog' : s'.log = s.log ++ [Deed.complete].map ((s.io.slots i).ticket,·) := hlog
  intro p
  have hsame := h p
  rw [pending_eq_nil hbefore, List.append_nil] at hsame
  have hpublish : s'.history p (fun deed => decide (deed = .publish)) =
      s.history p (fun deed => decide (deed = .publish)) := by
    refine history_other hhome hlog' fun d hd => ?_
    rw [List.mem_singleton.mp hd]
    rfl
  rw [hpublish, history_append hhome hlog', hsame]
  simp only [System.pending, hafter, hticket, hhome]
  by_cases hp : s.home (s.io.slots i).ticket = some p <;> simp [hp]

/-- The worker publishes what it completed. -/
theorem Ordered.publish (h : Ordered s) (hhome : s'.home = s.home)
    (hlog : s'.log = s.log ++ [((s.io.slots i).ticket,.publish)])
    (hbefore : s.worker = .publishing i) (hafter : ∀ j, s'.worker ≠ .publishing j) :
    Ordered s' := by
  have hlog' : s'.log = s.log ++ [Deed.publish].map ((s.io.slots i).ticket,·) := hlog
  intro p
  have hcomplete : s'.history p (fun deed => decide (deed = .complete)) =
      s.history p (fun deed => decide (deed = .complete)) := by
    refine history_other hhome hlog' fun d hd => ?_
    rw [List.mem_singleton.mp hd]
    rfl
  rw [hcomplete, history_append hhome hlog', pending_eq_nil hafter, List.append_nil, h p]
  simp only [System.pending, hbefore]
  by_cases hp : s.home (s.io.slots i).ticket = some p <;> simp [hp]

/-- A ticket to which nothing was done is reserved. -/
theorem Ordered.issue (h : Ordered s) (hnone : deedsOf ticket s.log = [])
    (hhome : s'.home = Function.update s.home ticket (some p))
    (hlog : s'.log = s.log ++ [(ticket,.reserve)])
    (hpending : ∀ q, s'.pending q = s.pending q) : Ordered s' := by
  intro q
  rw [history_issue hnone hhome hlog rfl, history_issue hnone hhome hlog rfl, hpending]
  exact h q

end Order

end Dmw.NativeIo
