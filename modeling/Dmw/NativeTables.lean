import Dmw.Counting
import Dmw.NativeIo

/-!
# Tables of the native I/O dispatcher

What the slots, the two ready queues, the counters and the routes of a
dispatcher are to each other. Each operation changes one slot, so each of these
relations is kept by what it needs of that slot: what it reads of it stays the
same, or the table changes with it.
-/

namespace Dmw.NativeIo

open Counting Identity KeyedTable LinkedQueues Rings TicketLife

/-- Priority under which a slot is queued. -/
def Slot.queuedAs (slot : Slot) : Option Bool :=
  if slot.state = .queued then some slot.priority else none

/-- What a slot is charged to. -/
def Slot.charge (slot : Slot) : Option (Bool × Option PortRef) :=
  if slot.state = .free then none else some (slot.control,slot.port)

theorem Slot.queuedAs_eq_some {slot : Slot} {priority : Bool} :
    slot.queuedAs = some priority ↔ slot.state = .queued ∧ slot.priority = priority := by
  simp [Slot.queuedAs]

theorem Slot.queuedAs_eq_none {slot : Slot} : slot.queuedAs = none ↔ slot.state ≠ .queued := by
  simp [Slot.queuedAs]

theorem Slot.live_iff_charge {slot : Slot} : slot.Live ↔ slot.charge ≠ none := by
  simp [Slot.Live, Slot.charge]

/-- Two slots that are not queued. -/
theorem Slot.queuedAs_same {slot slot' : Slot} (h : slot.state ≠ .queued)
    (h' : slot'.state ≠ .queued) : slot.queuedAs = slot'.queuedAs :=
  (queuedAs_eq_none.mpr h).trans (queuedAs_eq_none.mpr h').symm

/-- Two slots that hold a ticket of the same kind for the same port. -/
theorem Slot.charge_same {slot slot' : Slot} (h : slot.Live) (h' : slot'.Live)
    (hcontrol : slot.control = slot'.control) (hport : slot.port = slot'.port) :
    slot.charge = slot'.charge := by
  rw [Slot.charge, Slot.charge, if_neg h, if_neg h', hcontrol, hport]

/-- What is read of one slot, read of all of them after a change. -/
theorem read_update {α : Type*} (read : Slot → α) (slots : Index → Slot) (i : Index) (slot : Slot) :
    (fun j => read (Function.update slots i slot j)) =
      Function.update (fun j => read (slots j)) i (read slot) :=
  Function.comp_update read slots i slot

/-- A change that is not read. -/
theorem read_same {α : Type*} (read : Slot → α) {slots : Index → Slot} {i : Index} {slot : Slot}
    (h : read slot = read (slots i)) (j : Index) :
    read (Function.update slots i slot j) = read (slots j) := by
  by_cases hj : j = i
  · subst hj
    rw [Function.update_self, h]
  · rw [Function.update_of_ne hj]

/-- Ports after one of them changes. -/
theorem setPort_ports (f : CompletionPort → CompletionPort) (d : NativeIoDispatcher)
    (p q : PortRef) :
    (d.setPort (some p) f).ports q = if q = p then f (d.ports q) else d.ports q := by
  by_cases hq : q = p
  · subst hq
    rw [if_pos rfl]
    exact Function.update_self _ _ _
  · rw [if_neg hq]
    exact Function.update_of_ne hq _ _

/-- Mailboxes after a slot was delivered to its port. -/
theorem deliver_mailbox {d : NativeIoDispatcher} {i : Index} {p : PortRef}
    (hport : (d.slots i).port = some p) (q : PortRef) :
    ((d.deliver i).ports q).mailbox =
      if q = p then (d.ports q).mailbox.push i else (d.ports q).mailbox := by
  rw [NativeIoDispatcher.deliver, hport, setPort_ports]
  split <;> rfl

/-- Delivering a slot does not release it. -/
theorem deliver_outstanding {d : NativeIoDispatcher} {i : Index} {p : PortRef}
    (hport : (d.slots i).port = some p) (q : PortRef) :
    ((d.deliver i).ports q).outstanding = (d.ports q).outstanding := by
  rw [NativeIoDispatcher.deliver, hport, setPort_ports]
  split <;> rfl

/-- Releasing a slot touches no mailbox. -/
theorem releaseSlot_mailbox {d : NativeIoDispatcher} {i : Index} {p : PortRef}
    (hport : (d.slots i).port = some p) (q : PortRef) :
    ((d.releaseSlot i).ports q).mailbox = (d.ports q).mailbox := by
  have hports := setPort_ports (fun port => {port with outstanding := port.outstanding-1}) d p q
  rw [← hport] at hports
  refine (congrArg CompletionPort.mailbox hports).trans ?_
  split <;> rfl

/-- Releasing a slot takes it off its port. -/
theorem releaseSlot_outstanding {d : NativeIoDispatcher} {i : Index} {p : PortRef}
    (hport : (d.slots i).port = some p) (q : PortRef) :
    ((d.releaseSlot i).ports q).outstanding =
      if q = p then (d.ports q).outstanding-1 else (d.ports q).outstanding := by
  have hports := setPort_ports (fun port => {port with outstanding := port.outstanding-1}) d p q
  rw [← hport] at hports
  refine (congrArg CompletionPort.outstanding hports).trans ?_
  split <;> rfl

section Lookups

variable {d : NativeIoDispatcher} {test : Slot → Bool} {i : Index} {ticket : ℕ}
  {port : Option PortRef} {p : PortRef}

/-- What is found passes the test. -/
theorem find_some (h : d.find test = some i) : test (d.slots i) = true :=
  List.find?_some (p := fun i => test (d.slots i)) h

/-- Nothing is found where nothing passes the test. -/
theorem find_none (h : d.find test = none) (i : Index) : test (d.slots i) = false := by
  have hnot := List.find?_eq_none.mp h i (List.mem_finRange i)
  exact Bool.eq_false_iff.mpr hnot

/-- The slot of a ticket holds it. -/
theorem indexOf_some (h : d.indexOf ticket = some i) :
    (d.slots i).Live ∧ (d.slots i).ticket = ticket :=
  of_decide_eq_true (find_some h)

/-- `locate` yields the slot of the ticket. -/
theorem locate_ok (h : d.locate ticket = .ok i) :
    (d.slots i).Live ∧ (d.slots i).ticket = ticket := by
  unfold NativeIoDispatcher.locate at h
  cases hindex : d.indexOf ticket with
  | none =>
    rw [hindex] at h
    cases h
  | some j =>
    rw [hindex] at h
    cases h
    exact indexOf_some hindex

/-- A validated route is a registered one. -/
theorem validateRoute_ok (h : d.validateRoute port = .ok p) :
    port = some p ∧ d.routes.lookup p.id = some p := by
  cases port with
  | none => cases h
  | some q =>
    by_cases hroute : d.routes.lookup q.id = some q
    · simp only [NativeIoDispatcher.validateRoute, if_pos hroute] at h
      cases h
      exact ⟨rfl,hroute⟩
    · simp only [NativeIoDispatcher.validateRoute, if_neg hroute] at h
      cases h

end Lookups

section Calls

variable {d d' : NativeIoDispatcher} {port : Option PortRef} {p : PortRef} {ticket t : ℕ}
  {record : CompletionRecord} {control : Bool}

/-- `open_route` opens a new port. -/
theorem openRoute_ok {waitSet : Option NativeWaitSet} (h : d.openRoute waitSet = .ok (p,d')) :
    d' = d.addRoute := by
  unfold NativeIoDispatcher.openRoute at h
  split at h
  · cases h
  · repeat' split at h
    all_goals cases h
    rfl

/-- `stop_route` stops a registered route. -/
theorem stopRoute_ok (h : d.stopRoute port = .ok d') :
    ∃ p, d' = d.setPort (some p) fun port => {port with accepting := false} := by
  unfold NativeIoDispatcher.stopRoute at h
  split at h
  · cases h
  · next p _ =>
    cases h
    exact ⟨p,rfl⟩

/-- `retire_route` removes a registered route without tickets. -/
theorem retireRoute_ok (h : d.retireRoute port = .ok d') :
    ∃ p, d.routes.lookup p.id = some p ∧ (d.ports p).outstanding = 0 ∧ d' = d.removeRoute p := by
  unfold NativeIoDispatcher.retireRoute at h
  split at h
  · cases h
  · next p hvalid =>
    split at h
    · cases h
    · next houtstanding =>
      split at h
      · cases h
      · cases h
        exact ⟨p, (validateRoute_ok hvalid).2, not_not.mp houtstanding, rfl⟩

/-- `reserve` admits the next ticket to a free slot, within the quota. -/
theorem reserve_ok (h : d.reserve port record control = .ok (ticket,d')) :
    ∃ p i, port = some p ∧ d.routes.lookup p.id = some p ∧ (d.slots i).state = .free ∧
      (control = true ∨ d.ordinaryUsed ≠ 224) ∧ ticket = d.nextTicket ∧
      d' = d.issueTicket p record control i := by
  unfold NativeIoDispatcher.reserve at h
  split at h
  · cases h
  · next p hvalid =>
    split at h
    · cases h
    · split at h
      · cases h
      · split at h
        · cases h
        · next hcapacity =>
          split at h
          · cases h
          · split at h
            · next i hfind =>
              cases h
              obtain ⟨hport,hroute⟩ := validateRoute_ok hvalid
              refine ⟨p, i, hport, hroute, of_decide_eq_true (find_some hfind), ?_, rfl, rfl⟩
              cases control with
              | true => exact .inl rfl
              | false => exact .inr fun hfull => hcapacity (.inr ⟨rfl,hfull⟩)
            · cases h

/-- `install` gives a reserved slot its job. -/
theorem install_ok {job : Option JobId} (h : d.install ticket job = .ok d') :
    ∃ i j, (d.slots i).state = .reserved ∧
      d' = d.setSlot i {d.slots i with job := some j} := by
  unfold NativeIoDispatcher.install at h
  split at h
  · cases h
  · next j =>
    split at h
    · cases h
    · next i _ =>
      split at h
      · cases h
      · next hprepared =>
        cases h
        exact ⟨i, j, not_not.mp fun hstate => hprepared (.inl hstate), rfl⟩

/-- `enqueue_prepared` queues the reserved slot of the ticket. -/
theorem enqueuePrepared_ok (h : d.enqueuePrepared ticket = .ok d') :
    ∃ i, (d.slots i).ticket = ticket ∧ (d.slots i).state = .reserved ∧
      (d.slots i).job ≠ none ∧ d' = d.enqueueSlot i := by
  unfold NativeIoDispatcher.enqueuePrepared at h
  split at h
  · cases h
  · next i hlocate =>
    split at h
    · cases h
    · next hprepared =>
      cases h
      exact ⟨i, (locate_ok hlocate).2, not_not.mp fun hstate => hprepared (.inl hstate),
        fun hjob => hprepared (.inr hjob), rfl⟩

/-- `abandon` releases the reserved slot of the ticket. -/
theorem abandon_ok (h : d.abandon ticket = .ok d') :
    ∃ i, (d.slots i).ticket = ticket ∧ (d.slots i).state = .reserved ∧ d' = d.releaseSlot i := by
  unfold NativeIoDispatcher.abandon at h
  split at h
  · cases h
  · next i hlocate =>
    split at h
    · cases h
    · next hstate =>
      cases h
      exact ⟨i, (locate_ok hlocate).2, not_not.mp hstate, rfl⟩

/-- `acknowledge` retires the slot of the ticket at the head of its mailbox. -/
theorem acknowledge_ok (h : d.acknowledge port ticket = .ok d') :
    ∃ p i, (d.slots i).ticket = ticket ∧ (d.ports p).mailbox.peek = some i ∧
      (d.slots i).port = some p ∧ d' = d.retire p i := by
  unfold NativeIoDispatcher.acknowledge at h
  split at h
  · cases h
  · next p _ =>
    split at h
    · cases h
    · next i hlocate =>
      split at h
      · cases h
      · next hhead =>
        cases h
        exact ⟨p, i, (locate_ok hlocate).2, not_not.mp fun hpeek => hhead (.inl hpeek),
          not_not.mp fun hport => hhead (.inr hport), rfl⟩

end Calls

/-- Slots hold distinct tickets that were issued, for routes that are open. -/
structure Ticketed (d : NativeIoDispatcher) : Prop where
  /-- Tickets are positive. -/
  issued : 0 < d.nextTicket
  /-- Tickets that are held were issued. -/
  range : ∀ i, (d.slots i).Live → 0 < (d.slots i).ticket ∧ (d.slots i).ticket < d.nextTicket
  /-- No ticket is held twice. -/
  distinct : ∀ i j, (d.slots i).Live → (d.slots j).Live →
    (d.slots i).ticket = (d.slots j).ticket → i = j
  /-- The port of a ticket is a route. -/
  routed : ∀ i, (d.slots i).Live →
    ∃ p, (d.slots i).port = some p ∧ d.routes.lookup p.id = some p
  /-- A ticket that is no longer reserved only has a job. -/
  prepared : ∀ i, (d.slots i).Live → (d.slots i).state ≠ .reserved → (d.slots i).job ≠ none
  /-- Routes are ports that were opened here. -/
  routes : ∀ id p, d.routes.lookup id = some p → p = .own id ∧ id < d.nextOwner

/-- Both ready queues list the queued slots of their priority. -/
def Ready (d : NativeIoDispatcher) : Prop :=
  Shared d.next (fun priority => d.queue priority) fun i => (d.slots i).queuedAs

/-- The counters count. -/
structure Counted (d : NativeIoDispatcher) : Prop where
  /-- `used_`. -/
  used : Counts (fun i => (d.slots i).Live) d.used
  /-- `ordinary_used_`. -/
  ordinary : Counts (fun i => (d.slots i).Live ∧ (d.slots i).control = false) d.ordinaryUsed
  /-- `outstanding_`. -/
  outstanding : ∀ p, Counts (fun i => (d.slots i).Live ∧ (d.slots i).port = some p)
    (d.ports p).outstanding
  /-- User work has its quota. -/
  limit : d.ordinaryUsed ≤ 224

section Tickets

variable {d d' : NativeIoDispatcher} {i : Index} {slot : Slot} {p : PortRef}
  {record : CompletionRecord} {control : Bool}

/-- One slot changes, but not whose it is. -/
theorem Ticketed.change (h : Ticketed d) (hlive : (d.slots i).Live)
    (hslots : d'.slots = Function.update d.slots i slot)
    (hticket : slot.ticket = (d.slots i).ticket) (hport : slot.port = (d.slots i).port)
    (hjob : slot.state ≠ .reserved → slot.job ≠ none)
    (hnext : d'.nextTicket = d.nextTicket) (hroutes : d'.routes = d.routes)
    (howner : d'.nextOwner = d.nextOwner) : Ticketed d' := by
  have htickets : ∀ j, (d'.slots j).ticket = (d.slots j).ticket := by
    rw [hslots]
    exact read_same Slot.ticket hticket
  have hports : ∀ j, (d'.slots j).port = (d.slots j).port := by
    rw [hslots]
    exact read_same Slot.port hport
  have hlives : ∀ j, (d'.slots j).Live → (d.slots j).Live := by
    intro j hj
    by_cases hji : j = i
    · exact hji ▸ hlive
    · rw [hslots, Function.update_of_ne hji] at hj
      exact hj
  refine ⟨hnext ▸ h.issued, ?_, ?_, ?_, ?_, ?_⟩
  · intro j hj
    rw [htickets, hnext]
    exact h.range j (hlives j hj)
  · intro j k hj hk hsame
    rw [htickets, htickets] at hsame
    exact h.distinct j k (hlives j hj) (hlives k hk) hsame
  · intro j hj
    rw [hports, hroutes]
    exact h.routed j (hlives j hj)
  · intro j hj hstate
    by_cases hji : j = i
    · subst hji
      rw [hslots, Function.update_self] at hstate ⊢
      exact hjob hstate
    · rw [hslots, Function.update_of_ne hji] at hj hstate ⊢
      exact h.prepared j hj hstate
  · rw [hroutes, howner]
    exact h.routes

/-- Ports alone change. -/
theorem Ticketed.congr (h : Ticketed d) (hslots : d'.slots = d.slots)
    (hnext : d'.nextTicket = d.nextTicket) (hroutes : d'.routes = d.routes)
    (howner : d'.nextOwner = d.nextOwner) : Ticketed d' := by
  obtain ⟨hissued,hrange,hdistinct,hrouted,hprepared,hrts⟩ := h
  constructor <;> simp only [hslots, hnext, hroutes, howner] <;> assumption

/-- A slot is freed. -/
theorem Ticketed.release (h : Ticketed d) (hslots : d'.slots = Function.update d.slots i slot)
    (hfree : slot.state = .free) (hnext : d'.nextTicket = d.nextTicket)
    (hroutes : d'.routes = d.routes) (howner : d'.nextOwner = d.nextOwner) : Ticketed d' := by
  have hkeep : ∀ j, (d'.slots j).Live → d'.slots j = d.slots j := by
    intro j hj
    by_cases hji : j = i
    · subst hji
      rw [hslots, Function.update_self] at hj
      exact absurd hfree hj
    · rw [hslots, Function.update_of_ne hji]
  refine ⟨hnext ▸ h.issued, ?_, ?_, ?_, ?_, ?_⟩
  · intro j hj
    have hsame := hkeep j hj
    rw [hnext, hsame]
    exact h.range j (hsame ▸ hj)
  · intro j k hj hk hticket
    have hsamej := hkeep j hj
    have hsamek := hkeep k hk
    rw [hsamej, hsamek] at hticket
    exact h.distinct j k (hsamej ▸ hj) (hsamek ▸ hk) hticket
  · intro j hj
    have hsame := hkeep j hj
    rw [hroutes, hsame]
    exact h.routed j (hsame ▸ hj)
  · intro j hj
    have hsame := hkeep j hj
    rw [hsame]
    exact h.prepared j (hsame ▸ hj)
  · rw [hroutes, howner]
    exact h.routes

/-- A free slot takes the next ticket. -/
theorem Ticketed.issueTicket (h : Ticketed d) (hroute : d.routes.lookup p.id = some p) :
    Ticketed (d.issueTicket p record control i) := by
  have hother : ∀ j, j ≠ i → (d.issueTicket p record control i).slots j = d.slots j := fun j hj =>
    Function.update_of_ne hj _ _
  have hself : ((d.issueTicket p record control i).slots i).ticket = d.nextTicket :=
    congrArg Slot.ticket (Function.update_self i _ d.slots)
  have hport : ((d.issueTicket p record control i).slots i).port = some p :=
    congrArg Slot.port (Function.update_self i _ d.slots)
  have hstate : ((d.issueTicket p record control i).slots i).state = .reserved :=
    congrArg Slot.state (Function.update_self i _ d.slots)
  have hnext : (d.issueTicket p record control i).nextTicket = d.nextTicket+1 := rfl
  have hissued := h.issued
  refine ⟨Nat.succ_pos _, ?_, ?_, ?_, ?_, h.routes⟩
  · intro j hj
    rw [hnext]
    by_cases hji : j = i
    · rw [hji, hself]
      omega
    · rw [hother j hji] at hj ⊢
      have hrange := h.range j hj
      omega
  · intro j k hj hk hticket
    by_cases hji : j = i
    · by_cases hki : k = i
      · rw [hji, hki]
      · rw [hji, hself, hother k hki] at hticket
        rw [hother k hki] at hk
        have hrange := h.range k hk
        omega
    · by_cases hki : k = i
      · rw [hki, hself, hother j hji] at hticket
        rw [hother j hji] at hj
        have hrange := h.range j hj
        omega
      · rw [hother j hji] at hj hticket
        rw [hother k hki] at hk hticket
        exact h.distinct j k hj hk hticket
  · intro j hj
    by_cases hji : j = i
    · rw [hji]
      exact ⟨p,hport,hroute⟩
    · rw [hother j hji] at hj ⊢
      exact h.routed j hj
  · intro j hj hreserved
    by_cases hji : j = i
    · rw [hji] at hreserved
      exact absurd hstate hreserved
    · rw [hother j hji] at hj hreserved ⊢
      exact h.prepared j hj hreserved

/-- A new port becomes a route. -/
theorem Ticketed.addRoute (h : Ticketed d) : Ticketed d.addRoute := by
  have hnew : ∀ id q, d.routes.lookup id = some q → id ≠ d.nextOwner := by
    intro id q hq heq
    have hlt := (h.routes id q hq).2
    omega
  have hlookup : ∀ id, d.addRoute.routes.lookup id =
      if id = d.nextOwner then some (.own d.nextOwner) else d.routes.lookup id := by
    intro id
    by_cases hid : id = d.nextOwner
    · rw [if_pos hid, hid]
      exact AList.lookup_insert d.routes
    · rw [if_neg hid]
      exact AList.lookup_insert_ne hid
  refine ⟨h.issued, h.range, h.distinct, ?_, h.prepared, ?_⟩
  · intro j hj
    obtain ⟨q,hport,hroute⟩ := h.routed j hj
    refine ⟨q,hport,?_⟩
    rw [hlookup, if_neg (hnew q.id q hroute)]
    exact hroute
  · intro id q hq
    have hnext : d.addRoute.nextOwner = d.nextOwner+1 := rfl
    rw [hlookup] at hq
    rw [hnext]
    by_cases hid : id = d.nextOwner
    · rw [if_pos hid] at hq
      have hown : q = .own d.nextOwner := (Option.some.inj hq).symm
      exact ⟨hid ▸ hown, by omega⟩
    · rw [if_neg hid] at hq
      have hold := h.routes id q hq
      exact ⟨hold.1, by omega⟩

/-- A route without tickets is removed. -/
theorem Ticketed.removeRoute (h : Ticketed d)
    (hunused : ∀ i, (d.slots i).Live → (d.slots i).port ≠ some p)
    (hp : d.routes.lookup p.id = some p) : Ticketed (d.removeRoute p) := by
  have hne : ∀ q, d.routes.lookup q.id = some q → q ≠ p → q.id ≠ p.id := by
    intro q hq hqp hid
    rw [hid, hp] at hq
    exact hqp (Option.some.inj hq).symm
  refine ⟨h.issued, h.range, h.distinct, ?_, h.prepared, ?_⟩
  · intro j hj
    obtain ⟨q,hport,hroute⟩ := h.routed j hj
    have hqp : q ≠ p := by
      intro heq
      exact hunused j hj (heq ▸ hport)
    refine ⟨q,hport,?_⟩
    exact (AList.lookup_erase_ne (hne q hroute hqp)).trans hroute
  · intro id q hq
    have hrest : (d.routes.erase p.id).lookup id = some q := hq
    by_cases hid : id = p.id
    · rw [hid, AList.lookup_erase] at hrest
      cases hrest
    · rw [AList.lookup_erase_ne hid] at hrest
      exact h.routes id q hrest

end Tickets

section Queues

variable {d d' : NativeIoDispatcher} {i : Index} {slot : Slot} {priority : Bool}

/-- What both queues are after one of them changes. -/
theorem queue_setQueue (q : Queue Index) (d : NativeIoDispatcher) :
    (fun k => (d.setQueue priority q).queue k) =
      Function.update (fun k => d.queue k) priority q := by
  funext k
  cases k <;> cases priority <;> rfl

/-- Slots that are queued stay where they are. -/
theorem Ready.congr (h : Ready d) (hslots : ∀ i, (d'.slots i).queuedAs = (d.slots i).queuedAs)
    (hnext : d'.next = d.next) (hcontrol : d'.controlQueue = d.controlQueue)
    (huser : d'.userQueue = d.userQueue) : Ready d' := by
  have hplaces : (fun i => (d'.slots i).queuedAs) = fun i => (d.slots i).queuedAs :=
    funext hslots
  have hqueues : (fun k => d'.queue k) = fun k => d.queue k := by
    funext k
    simp only [NativeIoDispatcher.queue, hcontrol, huser]
  rw [Ready, hplaces, hqueues, hnext]
  exact h

/-- A slot is put into the queue of its priority. -/
theorem Ready.enqueueSlot (h : Ready d) (hi : (d.slots i).state ≠ .queued) :
    Ready (d.enqueueSlot i) := by
  have hpush := Shared.push (k := (d.slots i).priority) h (Slot.queuedAs_eq_none.mpr hi)
  have hqueues : (fun k => (d.enqueueSlot i).queue k) = _ :=
    queue_setQueue (pushQueue (d.queue (d.slots i).priority) i) (d.setState i .queued)
  have hplaces : (fun j => ((d.enqueueSlot i).slots j).queuedAs) = _ :=
    read_update Slot.queuedAs d.slots i {d.slots i with state := .queued}
  rw [Ready, hqueues, hplaces]
  exact hpush

/-- The first slot of a queue is queued under its priority, and can be taken. -/
theorem Ready.take (h : Ready d) (hhead : (d.queue priority).head = some i) :
    (d.slots i).state = .queued ∧ Ready ((d.pop priority i).setState i .running) := by
  have hshared : Shared d.next (fun k => d.queue k) fun j => (d.slots j).queuedAs := h
  have hplace := Slot.queuedAs_eq_some.mp (hshared.place_of_head hhead)
  have hpop := hshared.pop hhead
  have hqueues : (fun k => ((d.pop priority i).setState i .running).queue k) = _ :=
    queue_setQueue (popQueue d.next (d.queue priority) i) d
  have hplaces : (fun j => (((d.pop priority i).setState i .running).slots j).queuedAs) = _ :=
    read_update Slot.queuedAs d.slots i {d.slots i with state := .running}
  refine ⟨hplace.1,?_⟩
  rw [Ready, hqueues, hplaces]
  exact hpop

/-- A queued slot is found in the queue of its priority, and can be skipped. -/
theorem Ready.skip (h : Ready d) (hi : (d.slots i).state = .queued) :
    ∃ previous, search d.next i 257 none (d.queue (d.slots i).priority).head = some previous ∧
      Ready ((d.unlink i previous).skip i) := by
  have hplace := Slot.queuedAs_eq_some.mpr ⟨hi,rfl⟩
  obtain ⟨previous,hsearch,hunlink⟩ := Shared.unlink h hplace
    (lt_of_eq_of_lt (Fintype.card_fin 256) (Nat.lt_succ_self 256))
  refine ⟨previous,hsearch,?_⟩
  have hqueues : (fun k => ((d.unlink i previous).skip i).queue k) = _ :=
    queue_setQueue (unlinkQueue d.next (d.queue (d.slots i).priority) i previous) d
  have hplaces : (fun j => (((d.unlink i previous).skip i).slots j).queuedAs) = _ :=
    read_update Slot.queuedAs d.slots i {d.slots i with
      completion := {(d.slots i).completion with skipped := true}
      state := .completed}
  rw [Ready, hqueues, hplaces]
  exact hunlink

end Queues

section Counters

variable {d d' : NativeIoDispatcher} {i : Index} {slot : Slot} {p : PortRef}
  {record : CompletionRecord} {control : Bool}

/-- What is charged, and what is counted, stays the same. -/
theorem Counted.congr (h : Counted d) (hslots : ∀ i, (d'.slots i).charge = (d.slots i).charge)
    (hused : d'.used = d.used) (hordinary : d'.ordinaryUsed = d.ordinaryUsed)
    (hports : ∀ p, (d'.ports p).outstanding = (d.ports p).outstanding) : Counted d' := by
  have hlive : ∀ i, (d'.slots i).Live ↔ (d.slots i).Live := by
    intro i
    rw [Slot.live_iff_charge, Slot.live_iff_charge, hslots]
  have hpair : ∀ i, (d'.slots i).Live →
      (d'.slots i).control = (d.slots i).control ∧ (d'.slots i).port = (d.slots i).port := by
    intro i hi
    have hcharge := hslots i
    rw [Slot.charge, Slot.charge, if_neg hi, if_neg ((hlive i).mp hi)] at hcharge
    exact Prod.mk.inj (Option.some.inj hcharge)
  refine ⟨?_, ?_, ?_, hordinary ▸ h.limit⟩
  · rw [hused]
    exact h.used.congr hlive
  · rw [hordinary]
    refine h.ordinary.congr fun i => ?_
    constructor
    · intro hi
      exact ⟨(hlive i).mp hi.1, (hpair i hi.1).1 ▸ hi.2⟩
    · intro hi
      have hi' := (hlive i).mpr hi.1
      exact ⟨hi', (hpair i hi').1.trans hi.2⟩
  · intro p
    rw [hports]
    refine (h.outstanding p).congr fun i => ?_
    constructor
    · intro hi
      exact ⟨(hlive i).mp hi.1, (hpair i hi.1).2 ▸ hi.2⟩
    · intro hi
      have hi' := (hlive i).mpr hi.1
      exact ⟨hi', (hpair i hi').2.trans hi.2⟩

/-- One slot changes, and the counters with it. -/
theorem Counted.shift (h : Counted d) (hslots : d'.slots = Function.update d.slots i slot)
    (hused : d'.used + (if (d.slots i).Live then 1 else 0) = d.used + if slot.Live then 1 else 0)
    (hordinary : d'.ordinaryUsed +
        (if (d.slots i).Live ∧ (d.slots i).control = false then 1 else 0) =
      d.ordinaryUsed + if slot.Live ∧ slot.control = false then 1 else 0)
    (hports : ∀ p, (d'.ports p).outstanding +
        (if (d.slots i).Live ∧ (d.slots i).port = some p then 1 else 0) =
      (d.ports p).outstanding + if slot.Live ∧ slot.port = some p then 1 else 0)
    (hlimit : d'.ordinaryUsed ≤ 224) : Counted d' where
  used := by
    rw [hslots]
    exact Counts.shift (R := Slot.Live) h.used hused
  ordinary := by
    rw [hslots]
    exact Counts.shift (R := fun slot : Slot => slot.Live ∧ slot.control = false) h.ordinary
      hordinary
  outstanding := fun p => by
    rw [hslots]
    exact Counts.shift (R := fun slot : Slot => slot.Live ∧ slot.port = some p)
      (h.outstanding p) (hports p)
  limit := hlimit

/-- A free slot is charged. -/
theorem Counted.issueTicket (h : Counted d) (hi : (d.slots i).state = .free)
    (hquota : control = true ∨ d.ordinaryUsed ≠ 224) : Counted (d.issueTicket p record control i) := by
  have hfree : ¬ (d.slots i).Live := fun hlive => hlive hi
  have hlimit := h.limit
  refine Counted.shift h rfl ?_ ?_ ?_ ?_
  · rw [if_neg hfree, if_pos (by simp [Slot.Live, NativeIoDispatcher.admitted])]
    rfl
  · rw [if_neg (fun hboth => hfree hboth.1)]
    cases control <;> simp [Slot.Live, NativeIoDispatcher.issueTicket, NativeIoDispatcher.admitted]
  · intro q
    rw [if_neg (fun hboth => hfree hboth.1)]
    by_cases hq : q = p
    · subst hq
      simp [Slot.Live, NativeIoDispatcher.issueTicket, NativeIoDispatcher.admitted,
        NativeIoDispatcher.setPort, NativeIoDispatcher.setSlot]
    · simp [NativeIoDispatcher.issueTicket, NativeIoDispatcher.admitted, NativeIoDispatcher.setPort,
        NativeIoDispatcher.setSlot, hq, Ne.symm hq]
  · show (if control = true then d.ordinaryUsed else d.ordinaryUsed+1) ≤ 224
    split
    · exact hlimit
    · rcases hquota with hcontrol | hquota
      · contradiction
      · omega

/-- A slot is no longer charged. -/
theorem Counted.release (h : Counted d) (hi : (d.slots i).Live)
    (hport : (d.slots i).port = some p) : Counted (d.releaseSlot i) := by
  have hlimit := h.limit
  have hgone : ∀ slot : Slot, slot.state = .free → ¬ slot.Live := fun slot hfree hlive =>
    hlive hfree
  refine Counted.shift h rfl ?_ ?_ ?_ ?_
  · have hpos := h.used.pos hi
    rw [if_pos hi, if_neg (hgone _ rfl)]
    show d.used-1+1 = d.used+0
    omega
  · show (if (d.slots i).control = true then d.ordinaryUsed else d.ordinaryUsed-1) +
      (if (d.slots i).Live ∧ (d.slots i).control = false then 1 else 0) = d.ordinaryUsed + 0
    cases hcontrol : (d.slots i).control with
    | false =>
      have hpos := h.ordinary.pos ⟨hi,hcontrol⟩
      rw [if_neg Bool.false_ne_true, if_pos ⟨hi,rfl⟩]
      omega
    | true =>
      rw [if_pos rfl, if_neg (fun hboth => Bool.noConfusion hboth.2)]
  · intro q
    rw [if_neg (c := _ ∧ none = some q) (fun hboth => hgone _ rfl hboth.1)]
    rw [releaseSlot_outstanding hport, hport]
    by_cases hq : q = p
    · subst hq
      have hpos := (h.outstanding q).pos ⟨hi,hport⟩
      rw [if_pos rfl, if_pos ⟨hi,rfl⟩]
      omega
    · have hne : ¬ ((d.slots i).Live ∧ some p = some q) := fun hboth =>
        hq (Option.some.inj hboth.2).symm
      rw [if_neg hq, if_neg hne]
  · show (if (d.slots i).control = true then d.ordinaryUsed else d.ordinaryUsed-1) ≤ 224
    split <;> omega

/-- Below capacity there is a free slot. -/
theorem Counted.find_free (h : Counted d) (hroom : d.used ≠ 256) :
    ∃ i, (d.find fun slot => decide (slot.state = .free)) = some i := by
  cases hfind : d.find fun slot => decide (slot.state = .free) with
  | some i => exact ⟨i,rfl⟩
  | none =>
    have hall : ∀ i, (d.slots i).Live := fun i => of_decide_eq_false (find_none hfind i)
    exact absurd ((h.used.card hall).trans (Fintype.card_fin 256)) hroom

/-- With all slots in use, at least 32 of them are control tickets. -/
theorem Counted.manyControl (h : Counted d) (hfull : d.used = 256) :
    ∃ n, Counts (fun i => (d.slots i).Live ∧ (d.slots i).control = true) n ∧ 32 ≤ n := by
  have hlimit := h.limit
  refine ⟨d.used-d.ordinaryUsed, ?_, by omega⟩
  refine (h.used.without h.ordinary).congr fun i => ?_
  simp

end Counters

end Dmw.NativeIo
