import Dmw.NativeTickets

/-!
# Runs of the native I/O dispatcher

Each operation and each step of the worker keeps the tables, the mailboxes and
the history of a dispatcher in agreement, and so does every run. What a run did
to a ticket then follows from what a ticket is for.
-/

namespace Dmw.NativeIo

open Counting GuardedRuns Identity KeyedTable LinkedQueues Rings TicketLife

section Steps

variable {s : System} {i : Index} {slot : Slot} {p : PortRef} {w : Worker} {ticket : ℕ}
  {ds : List Deed} {io : NativeIoDispatcher}

/-- Only routes and their ports change. -/
theorem Consistent.reroute (h : Consistent s) (htickets : Ticketed io)
    (hslots : io.slots = s.io.slots) (hnext : io.next = s.io.next)
    (hcontrol : io.controlQueue = s.io.controlQueue) (huser : io.userQueue = s.io.userQueue)
    (hused : io.used = s.io.used) (hordinary : io.ordinaryUsed = s.io.ordinaryUsed)
    (hissued : io.nextTicket = s.io.nextTicket)
    (hboxes : ∀ p, (io.ports p).mailbox = (s.io.ports p).mailbox)
    (hports : ∀ p, (io.ports p).outstanding = (s.io.ports p).outstanding) :
    Consistent {s with io := io} where
  tickets := htickets
  ready := h.ready.congr (fun i => by rw [hslots]) hnext hcontrol huser
  counts := h.counts.congr (fun i => by rw [hslots]) hused hordinary hports
  working := by
    constructor
    · exact fun i => by rw [hslots]; exact h.working.running i
    · exact fun i hw => by rw [hslots]; exact h.working.publishing i hw
  mailboxes := h.mailboxes.congr hboxes fun i p => by rw [hslots]
  logged := h.logged.congr hslots hissued rfl rfl fun _ => Iff.rfl
  delivered := h.delivered.change [] 0 rfl (List.append_nil _).symm
    (fun _ hd => absurd hd List.not_mem_nil) hboxes fun i => by rw [hslots]
  ordered := h.ordered.change [] 0 rfl (List.append_nil _).symm (fun _ hd => absurd hd List.not_mem_nil)
    (fun _ => Iff.rfl) fun i => by rw [hslots]

/-- No slot is charged to a port that is not open yet. -/
theorem Consistent.not_own (h : Consistent s) (hlive : (s.io.slots i).Live) :
    (s.io.slots i).port ≠ some (.own s.io.nextOwner) := by
  obtain ⟨q,hport,hroute⟩ := h.tickets.routed i hlive
  intro heq
  rw [hport] at heq
  have hlt := (h.tickets.routes q.id q hroute).2
  rw [Option.some.inj heq] at hlt
  exact absurd hlt (Nat.lt_irrefl _)

/-- A port is opened. -/
theorem Consistent.addRoute (h : Consistent s) : Consistent {s with io := s.io.addRoute} := by
  have hother : ∀ p, p ≠ .own s.io.nextOwner → s.io.addRoute.ports p = s.io.ports p :=
    fun p hp => Function.update_of_ne hp _ _
  have hself : s.io.addRoute.ports (.own s.io.nextOwner) = .fresh := Function.update_self _ _ _
  have hunmailed : ∀ j, (s.io.slots j).mailedTo ≠ some (.own s.io.nextOwner) := by
    intro j hj
    have hboth := Slot.mailedTo_eq_some.mp hj
    have hlive : (s.io.slots j).Live := by
      rw [Slot.Live, hboth.1]
      decide
    exact h.not_own hlive hboth.2
  have hempty : (s.io.ports (.own s.io.nextOwner)).mailbox.toList = [] := by
    refine List.eq_nil_iff_forall_not_mem.mpr fun j hj => ?_
    exact hunmailed j (((h.mailboxes _).2 j).mp hj).1
  have hworking : Working s.io.addRoute s.worker := ⟨h.working.running,h.working.publishing⟩
  refine ⟨h.tickets.addRoute, h.ready, ?_, hworking, ?_, ?_, ?_, h.ordered⟩
  · refine ⟨h.counts.used, h.counts.ordinary, fun p => ?_, h.counts.limit⟩
    by_cases hp : p = .own s.io.nextOwner
    · show Counts _ (s.io.addRoute.ports p).outstanding
      rw [hp, hself]
      exact Counts.none fun j hj => h.not_own hj.1 hj.2
    · show Counts _ (s.io.addRoute.ports p).outstanding
      rw [hother p hp]
      exact h.counts.outstanding p
  · intro p
    show (s.io.addRoute.ports p).mailbox.toList.Nodup ∧
      ∀ i, i ∈ (s.io.addRoute.ports p).mailbox.toList ↔ _
    by_cases hp : p = .own s.io.nextOwner
    · rw [hp, hself]
      refine ⟨List.nodup_nil, fun j => iff_of_false List.not_mem_nil ?_⟩
      exact fun hboth => hunmailed j hboth.1
    · rw [hother p hp]
      exact h.mailboxes p
  · exact h.logged.congr rfl rfl rfl rfl fun _ => Iff.rfl
  · intro p
    have hmailed : System.mailed p {s with io := s.io.addRoute} = s.mailed p := by
      by_cases hp : p = .own s.io.nextOwner
      · show (s.io.addRoute.ports p).mailbox.toList.map _ = _
        rw [hp, hself, System.mailed, hempty]
        rfl
      · show (s.io.addRoute.ports p).mailbox.toList.map _ = _
        rw [hother p hp]
        rfl
    rw [hmailed]
    exact h.delivered p

/-- A free slot is not in a mailbox. -/
theorem Consistent.not_mailed (h : Consistent s) (hi : (s.io.slots i).state ≠ .completed)
    (p : PortRef) : i ∉ (s.io.ports p).mailbox.toList := by
  intro hmem
  exact hi (Slot.mailedTo_eq_some.mp (((h.mailboxes p).2 i).mp hmem).1).1

/-- A slot that is not completed is not about to be published. -/
theorem Consistent.not_publishing (h : Consistent s) (hi : (s.io.slots i).state ≠ .completed) :
    s.worker ≠ .publishing i :=
  fun hw => hi (h.working.publishing i hw)

/-- A ticket is reserved. -/
theorem Consistent.issueTicket {record : CompletionRecord} {control : Bool} (h : Consistent s)
    (hroute : s.io.routes.lookup p.id = some p) (hfree : (s.io.slots i).state = .free)
    (hquota : control = true ∨ s.io.ordinaryUsed ≠ 224) :
    Consistent
      ⟨s.io.issueTicket p record control i, s.worker, s.log ++ [(s.io.nextTicket,.reserve)],
        Function.update s.home s.io.nextTicket (some p)⟩ := by
  have hcompleted : (s.io.slots i).state ≠ .completed := by
    rw [hfree]
    decide
  have hslots : (s.io.issueTicket p record control i).slots =
    Function.update s.io.slots i (NativeIoDispatcher.admitted p record control s.io.nextTicket
      (s.io.slots i)) := rfl
  have hstate : (NativeIoDispatcher.admitted p record control s.io.nextTicket
    (s.io.slots i)).state = .reserved := rfl
  generalize hslot : NativeIoDispatcher.admitted p record control s.io.nextTicket
    (s.io.slots i) = slot at hslots hstate
  have hbox : ∀ q, ((s.io.issueTicket p record control i).ports q).mailbox =
      (s.io.ports q).mailbox := by
    intro q
    have hport := setPort_ports (fun port => {port with outstanding := port.outstanding+1})
      s.io p q
    refine (congrArg CompletionPort.mailbox hport).trans ?_
    split <;> rfl
  have hunmailed : slot.mailedTo = (s.io.slots i).mailedTo := by
    simp [Slot.mailedTo, hstate, hfree]
  have hnone := h.logged.unissued _ (.inr (Nat.le_refl s.io.nextTicket))
  refine ⟨h.tickets.issueTicket hroute, ?_, h.counts.issueTicket hfree hquota, ?_, ?_, ?_, ?_, ?_⟩
  · refine h.ready.congr ?_ rfl rfl rfl
    rw [hslots]
    exact read_same Slot.queuedAs (by simp [Slot.queuedAs, hstate, hfree])
  · refine h.working.change hslots (by simp [hfree]) (by simp [hstate]) fun hw => ?_
    exact absurd hw (h.not_publishing hcompleted)
  · exact h.mailboxes.change hslots hbox hunmailed fun _ => Iff.rfl
  · refine h.logged.issue h.tickets hslots hfree hstate ?_ ?_ rfl rfl rfl rfl
    · rw [← hslot]
      rfl
    · rw [← hslot]
      rfl
  · refine h.delivered.issue hnone rfl rfl fun q => ?_
    refine mailed_congr (hbox q) fun j hj => ?_
    have hji : j ≠ i := fun heq => h.not_mailed hcompleted q (heq ▸ hj)
    exact congrArg Slot.ticket (Function.update_of_ne hji _ _)
  · refine h.ordered.issue hnone rfl rfl fun q => ?_
    refine pending_congr (fun _ => Iff.rfl) fun j hw => ?_
    have hji : j ≠ i := fun heq => h.not_publishing hcompleted (heq ▸ hw)
    have hlive : (s.io.slots j).Live := by simp [Slot.Live, h.working.publishing j hw]
    have hrange := h.tickets.range j hlive
    refine ⟨congrArg Slot.ticket (Function.update_of_ne hji _ _), ?_⟩
    exact Function.update_of_ne (by omega) _ _

/-- A prepared job is installed. -/
theorem Consistent.install {job : JobId} (h : Consistent s)
    (hi : (s.io.slots i).state = .reserved) :
    Consistent {s with io := s.io.setSlot i {s.io.slots i with job := some job}} := by
  have hlive : (s.io.slots i).Live := by simp [Slot.Live, hi]
  have hpublishing := h.not_publishing (i := i) (by simp [hi])
  refine ⟨?_, ?_, ?_, ?_, ?_, ?_, ?_, ?_⟩
  · exact h.tickets.change hlive rfl rfl rfl (fun _ => Option.some_ne_none job) rfl rfl rfl
  · exact h.ready.congr (read_same Slot.queuedAs rfl) rfl rfl rfl
  · exact h.counts.congr (read_same Slot.charge rfl) rfl rfl fun _ => rfl
  · exact h.working.change rfl (by simp [hi]) (by simp [hi]) fun hw => absurd hw hpublishing
  · exact h.mailboxes.change rfl (fun _ => rfl) rfl fun _ => Iff.rfl
  · refine h.logged.change [] h.tickets rfl hlive hlive rfl rfl rfl rfl
      (List.append_nil _).symm (fun _ _ => Iff.rfl) ?_ ?_ fun hmem => absurd hmem List.not_mem_nil
    · simp [Stage.after, System.stage, Slot.stage, hi]
    · simp [System.stage, Slot.stage, hi]
  · exact h.delivered.change [] 0 rfl (List.append_nil _).symm
      (fun _ hd => absurd hd List.not_mem_nil) (fun _ => rfl) (read_same Slot.ticket rfl)
  · exact h.ordered.change [] 0 rfl (List.append_nil _).symm
      (fun _ hd => absurd hd List.not_mem_nil) (fun _ => Iff.rfl) (read_same Slot.ticket rfl)

/-- A reserved slot, or one that waits for another attempt, is queued. -/
theorem Consistent.enqueueSlot {deed : Deed} (h : Consistent s)
    (hi : (s.io.slots i).state = .reserved ∧ (s.io.slots i).job ≠ none ∧ deed = .enqueue ∨
      (s.io.slots i).state = .retryWaiting ∧ deed = .requeue) :
    Consistent {s.note i deed with io := s.io.enqueueSlot i} := by
  have hstate : (s.io.slots i).state = .reserved ∨ (s.io.slots i).state = .retryWaiting :=
    hi.imp (·.1) (·.1)
  have hlive : (s.io.slots i).Live := by
    rcases hstate with hstate | hstate <;> simp [Slot.Live, hstate]
  have hcompleted : (s.io.slots i).state ≠ .completed := by
    rcases hstate with hstate | hstate <;> simp [hstate]
  have hjob : (s.io.slots i).job ≠ none := by
    rcases hi with ⟨_,hjob,_⟩ | ⟨hwaiting,_⟩
    · exact hjob
    · exact h.tickets.prepared i hlive (by simp [hwaiting])
  refine ⟨?_, ?_, ?_, ?_, ?_, ?_, ?_, ?_⟩
  · exact h.tickets.change hlive rfl rfl rfl (fun _ => hjob) rfl rfl rfl
  · refine h.ready.enqueueSlot ?_
    rcases hstate with hstate | hstate <;> simp [hstate]
  · exact h.counts.congr
      (read_same Slot.charge (Slot.charge_same SlotState.noConfusion hlive rfl rfl)) rfl rfl
      fun _ => rfl
  · refine h.working.change rfl ?_ SlotState.noConfusion fun hw =>
      absurd hw (h.not_publishing hcompleted)
    rcases hstate with hstate | hstate <;> simp [hstate]
  · exact h.mailboxes.change rfl (fun _ => rfl)
      (Slot.mailedTo_same SlotState.noConfusion hcompleted) fun _ => Iff.rfl
  · refine h.logged.change [deed] h.tickets rfl hlive SlotState.noConfusion rfl rfl rfl
      rfl rfl (fun _ _ => Iff.rfl) ?_ ?_ ?_
    · rcases hi with ⟨hstate,_,rfl⟩ | ⟨hstate,rfl⟩ <;>
        simp [Stage.after, Stage.next, System.stage, Slot.stage, hstate]
    · rcases hstate with hstate | hstate <;> simp [System.stage, Slot.stage, hstate]
    · rcases hi with ⟨_,_,rfl⟩ | ⟨_,rfl⟩ <;> simp
  · refine h.delivered.change [deed] (s.io.slots i).ticket rfl rfl ?_
      (fun _ => rfl) (read_same Slot.ticket rfl)
    rcases hi with ⟨_,_,rfl⟩ | ⟨_,rfl⟩ <;> simp [Deed.mails]
  · refine h.ordered.change [deed] (s.io.slots i).ticket rfl rfl ?_ (fun _ => Iff.rfl)
      (read_same Slot.ticket rfl)
    rcases hi with ⟨_,_,rfl⟩ | ⟨_,rfl⟩ <;> simp

/-- A queued slot is skipped: it is found in its queue, and its completion in the
mailbox of its port. -/
theorem Consistent.cancel (h : Consistent s) (hi : (s.io.slots i).state = .queued) :
    ∃ previous,
      search s.io.next i 257 none (s.io.queue (s.io.slots i).priority).head = some previous ∧
      Consistent {s.note i .cancel with io := ((s.io.unlink i previous).skip i).deliver i} := by
  obtain ⟨previous,hsearch,hready⟩ := h.ready.skip hi
  have hlive : (s.io.slots i).Live := by simp [Slot.Live, hi]
  have hcompleted : (s.io.slots i).state ≠ .completed := by simp [hi]
  have hpublishing := h.not_publishing hcompleted
  obtain ⟨p,hport,_⟩ := h.tickets.routed i hlive
  have hhome : s.home (s.io.slots i).ticket = some p := (h.logged.home i hlive).trans hport
  have hslots : (((s.io.unlink i previous).skip i).deliver i).slots =
    Function.update s.io.slots i {s.io.slots i with
      completion := {(s.io.slots i).completion with skipped := true}
      state := .completed} := rfl
  have hself : (((s.io.unlink i previous).skip i).slots i).port = some p :=
    (congrArg Slot.port (Function.update_self i _ s.io.slots)).trans hport
  have hbox : ∀ q, ((((s.io.unlink i previous).skip i).deliver i).ports q).mailbox =
      if q = p then (s.io.ports q).mailbox.push i else (s.io.ports q).mailbox :=
    deliver_mailbox hself
  refine ⟨previous, hsearch, ?_, ?_, ?_, ?_, ?_, ?_, ?_, ?_⟩
  · exact h.tickets.change hlive hslots rfl rfl
      (fun _ => h.tickets.prepared i hlive (by simp [hi])) rfl rfl rfl
  · exact hready.congr (fun _ => rfl) rfl rfl rfl
  · exact h.counts.congr
      (read_same Slot.charge (Slot.charge_same SlotState.noConfusion hlive rfl rfl)) rfl rfl
      (deliver_outstanding hself)
  · exact h.working.change hslots (by simp [hi]) SlotState.noConfusion fun hw =>
      absurd hw hpublishing
  · refine h.mailboxes.deliver hbox ?_ ?_ ?_
    · exact fun q hboth => hcompleted (Slot.mailedTo_eq_some.mp hboth.1).1
    · rw [hslots, Function.update_self]
      exact ⟨Slot.mailedTo_eq_some.mpr ⟨rfl,hport⟩,hpublishing⟩
    · intro j hj q
      rw [hslots, Function.update_of_ne hj]
      rfl
  · refine h.logged.change [.cancel] h.tickets hslots hlive SlotState.noConfusion rfl rfl
      rfl rfl rfl (fun _ _ => Iff.rfl) ?_ ?_ fun _ => rfl
    · simp [Stage.after, Stage.next, System.stage, Slot.stage, System.note, hi, hpublishing]
    · simp [System.stage, Slot.stage, hi]
  · exact h.delivered.deliver rfl rfl rfl (by decide) hhome
      (h.mailboxes.room (h.not_mailed hcompleted p)) hbox (read_same Slot.ticket rfl)
  · exact h.ordered.change [.cancel] (s.io.slots i).ticket rfl rfl (by simp) (fun _ => Iff.rfl)
      (read_same Slot.ticket rfl)

/-- A reserved ticket is abandoned. -/
theorem Consistent.abandon (h : Consistent s) (hi : (s.io.slots i).state = .reserved) :
    Consistent {s.note i .abandon with io := s.io.releaseSlot i} := by
  have hlive : (s.io.slots i).Live := by simp [Slot.Live, hi]
  have hcompleted : (s.io.slots i).state ≠ .completed := by simp [hi]
  have hqueued : (s.io.slots i).state ≠ .queued := by simp [hi]
  obtain ⟨p,hport,_⟩ := h.tickets.routed i hlive
  have hbox := releaseSlot_mailbox hport
  refine ⟨?_, ?_, h.counts.release hlive hport, ?_, ?_, ?_, ?_, ?_⟩
  · exact h.tickets.release (i := i) rfl rfl rfl rfl rfl
  · exact h.ready.congr
      (read_same Slot.queuedAs (Slot.queuedAs_same SlotState.noConfusion hqueued)) rfl rfl rfl
  · exact h.working.change rfl (by simp [hi]) SlotState.noConfusion fun hw =>
      absurd hw (h.not_publishing hcompleted)
  · exact h.mailboxes.change rfl hbox (Slot.mailedTo_same SlotState.noConfusion hcompleted)
      fun _ => Iff.rfl
  · refine h.logged.release h.tickets rfl hlive rfl rfl rfl rfl rfl ?_
    simp [Stage.next, System.stage, Slot.stage, hi]
  · exact h.delivered.change [.abandon] (s.io.slots i).ticket rfl rfl
      (by simp [Deed.mails]) hbox (read_same Slot.ticket rfl)
  · exact h.ordered.change [.abandon] (s.io.slots i).ticket rfl rfl (by simp) (fun _ => Iff.rfl)
      (read_same Slot.ticket rfl)

/-- The head of a mailbox is acknowledged. -/
theorem Consistent.retire (h : Consistent s) (hpeek : (s.io.ports p).mailbox.peek = some i)
    (hport : (s.io.slots i).port = some p) :
    Consistent {s.note i .acknowledge with io := s.io.retire p i} := by
  have hmem : i ∈ (s.io.ports p).mailbox.toList :=
    List.mem_of_head? ((Ring.peek_eq _).symm.trans hpeek)
  have hmailed := ((h.mailboxes p).2 i).mp hmem
  have hstate := (Slot.mailedTo_eq_some.mp hmailed.1).1
  have hlive : (s.io.slots i).Live := by simp [Slot.Live, hstate]
  have hqueued : (s.io.slots i).state ≠ .queued := by simp [hstate]
  have hhome : s.home (s.io.slots i).ticket = some p := (h.logged.home i hlive).trans hport
  have hslots : (s.io.retire p i).slots = Function.update s.io.slots i
    {s.io.slots i with job := none, port := none, state := .free} := rfl
  have hpopped := setPort_ports (fun port => {port with mailbox := port.mailbox.pop}) s.io p
  have hcounts : Counted (s.io.setPort (some p) fun port =>
      {port with mailbox := port.mailbox.pop}) := by
    refine h.counts.congr (fun _ => rfl) rfl rfl fun q => ?_
    rw [hpopped q]
    split <;> rfl
  have hbox : ∀ q, ((s.io.retire p i).ports q).mailbox =
      if q = p then (s.io.ports q).mailbox.pop else (s.io.ports q).mailbox := by
    intro q
    refine (releaseSlot_mailbox (d := s.io.setPort (some p) _) hport q).trans ?_
    rw [hpopped q]
    split <;> rfl
  refine ⟨?_, ?_, hcounts.release (i := i) hlive hport, ?_, ?_, ?_, ?_, ?_⟩
  · exact h.tickets.release hslots rfl rfl rfl rfl
  · exact h.ready.congr (read_same Slot.queuedAs
      (Slot.queuedAs_same SlotState.noConfusion hqueued)) rfl rfl rfl
  · exact h.working.change hslots (by simp [hstate]) SlotState.noConfusion fun hw =>
      absurd hw hmailed.2
  · refine h.mailboxes.retire hpeek hbox ?_ ?_
    · intro q hq
      rw [hslots, Function.update_self] at hq
      exact SlotState.noConfusion (Slot.mailedTo_eq_some.mp hq).1
    · intro j hj q
      rw [hslots, Function.update_of_ne hj]
  · refine h.logged.release h.tickets hslots hlive rfl rfl rfl rfl rfl ?_
    simp [Stage.next, System.stage, Slot.stage, hstate, hmailed.2]
  · exact h.delivered.retire rfl rfl hhome hpeek hbox (read_same Slot.ticket rfl)
  · exact h.ordered.change [.acknowledge] (s.io.slots i).ticket rfl rfl (by simp)
      (fun _ => Iff.rfl) (read_same Slot.ticket rfl)

/-- The worker takes the first slot of a queue. -/
theorem Consistent.takeSlot (h : Consistent s) (priority : Bool) (hlooking : s.worker = .looking)
    (hhead : (s.io.queue priority).head = some i) : Consistent (s.takeSlot priority i) := by
  obtain ⟨hi,hready⟩ := h.ready.take hhead
  have hlive : (s.io.slots i).Live := by simp [Slot.Live, hi]
  have hcompleted : (s.io.slots i).state ≠ .completed := by simp [hi]
  have hworker : ∀ j, (s.takeSlot priority i).worker = .publishing j ↔ s.worker = .publishing j := by
    intro j
    rw [hlooking]
    exact iff_of_false Worker.noConfusion Worker.noConfusion
  refine ⟨?_, hready, ?_, ?_, ?_, ?_, ?_, ?_⟩
  · exact h.tickets.change hlive rfl rfl rfl
      (fun _ => h.tickets.prepared i hlive (by simp [hi])) rfl rfl rfl
  · exact h.counts.congr
      (read_same Slot.charge (Slot.charge_same SlotState.noConfusion hlive rfl rfl)) rfl rfl
      fun _ => rfl
  · refine h.working.move (i := i) rfl ?_ ?_ (iff_of_true rfl rfl) fun j hj => Worker.noConfusion hj
    · intro j hj
      rw [hlooking] at hj
      cases hj
    · exact fun j hj => (Option.some.inj hj).symm
  · exact h.mailboxes.change rfl (fun _ => rfl)
      (Slot.mailedTo_same SlotState.noConfusion hcompleted) hworker
  · refine h.logged.change [.take] h.tickets rfl hlive SlotState.noConfusion rfl rfl
      rfl rfl rfl (fun j _ => hworker j) ?_ ?_ fun hmem => ?_
    · simp [Stage.after, Stage.next, System.stage, Slot.stage, hi]
    · simp [System.stage, Slot.stage, hi]
    · simp at hmem
  · exact h.delivered.change [.take] (s.io.slots i).ticket rfl rfl
      (by simp [Deed.mails]) (fun _ => rfl) (read_same Slot.ticket rfl)
  · exact h.ordered.change [.take] (s.io.slots i).ticket rfl rfl (by simp) hworker
      (read_same Slot.ticket rfl)

/-- A worker that runs a slot is not about to publish one. -/
theorem not_publishing_of_runs (hat : w.runs = some i) (j : Index) : w ≠ .publishing j := by
  intro hw
  rw [hw] at hat
  cases hat

/-- The worker goes on with the slot that it runs, hands it over to another
attempt or completes it. -/
theorem Consistent.work (h : Consistent s) (ds : List Deed) (hat : s.worker.runs = some i)
    (hticket : slot.ticket = (s.io.slots i).ticket) (hport : slot.port = (s.io.slots i).port)
    (hcontrol : slot.control = (s.io.slots i).control) (hjob : slot.job = (s.io.slots i).job)
    (hgoes : slot.state = .running ∧ w.runs = some i ∨
      slot.state = .retryWaiting ∧ w = .looking ∨ slot.state = .completed ∧ w = .publishing i)
    (hstage : Stage.running.after ds = some (slot.stage (decide (w = .publishing i))))
    (hkind : ∀ deed ∈ ds, deed.mails = false ∧ deed ≠ .acknowledge)
    (hordered : Ordered
      ⟨s.io.setSlot i slot, w, s.log ++ ds.map ((s.io.slots i).ticket,·), s.home⟩) :
    Consistent
      ⟨s.io.setSlot i slot, w, s.log ++ ds.map ((s.io.slots i).ticket,·), s.home⟩ := by
  have hi : (s.io.slots i).state = .running := (h.working.running i).mpr hat
  have hlive : (s.io.slots i).Live := by simp [Slot.Live, hi]
  have hlive' : slot.Live := by
    rcases hgoes with ⟨hstate,_⟩ | ⟨hstate,_⟩ | ⟨hstate,_⟩ <;> simp [Slot.Live, hstate]
  have hbefore := not_publishing_of_runs hat
  have hafter : ∀ j, j ≠ i → w ≠ .publishing j := by
    intro j hj hw
    subst hw
    rcases hgoes with ⟨_,hw⟩ | ⟨_,hw⟩ | ⟨_,hw⟩
    · cases hw
    · cases hw
    · exact hj (Worker.publishing.inj hw)
  refine ⟨?_, ?_, ?_, ?_, ?_, ?_, ?_, hordered⟩
  · refine h.tickets.change hlive rfl hticket hport (fun _ => ?_) rfl rfl rfl
    rw [hjob]
    exact h.tickets.prepared i hlive (by simp [hi])
  · refine h.ready.congr (read_same Slot.queuedAs (Slot.queuedAs_same ?_ ?_)) rfl rfl rfl
    · rcases hgoes with ⟨hstate,_⟩ | ⟨hstate,_⟩ | ⟨hstate,_⟩ <;> simp [hstate]
    · simp [hi]
  · exact h.counts.congr (read_same Slot.charge (Slot.charge_same hlive' hlive hcontrol hport))
      rfl rfl fun _ => rfl
  · refine h.working.move (i := i) rfl ?_ ?_ ?_ ?_
    · intro j hj
      exact Option.some.inj (hj.symm.trans hat)
    · intro j hj
      rcases hgoes with ⟨_,hw⟩ | ⟨_,hw⟩ | ⟨_,hw⟩
      · exact Option.some.inj (hj.symm.trans hw)
      · rw [hw] at hj
        cases hj
      · rw [hw] at hj
        cases hj
    · rcases hgoes with ⟨hstate,hw⟩ | ⟨hstate,hw⟩ | ⟨hstate,hw⟩
      · exact iff_of_true hstate hw
      · simp [hstate, hw, Worker.runs]
      · simp [hstate, hw, Worker.runs]
    · intro j hj
      have hji : j = i := by
        by_contra hne
        exact hafter j hne hj
      subst hji
      subst hj
      rcases hgoes with ⟨_,hw⟩ | ⟨_,hw⟩ | ⟨hstate,_⟩
      · cases hw
      · cases hw
      · exact ⟨rfl,hstate⟩
  · refine h.mailboxes.congr (fun _ => rfl) fun j q => ?_
    by_cases hj : j = i
    · subst hj
      refine iff_of_false (fun hboth => ?_) fun hboth => ?_
      · have hmailed := hboth.1
        rw [show (s.io.setSlot j slot).slots j = slot from Function.update_self _ _ _] at hmailed
        have hstate := (Slot.mailedTo_eq_some.mp hmailed).1
        rcases hgoes with ⟨hrun,_⟩ | ⟨hwait,_⟩ | ⟨_,hw⟩
        · cases hrun.symm.trans hstate
        · cases hwait.symm.trans hstate
        · exact hboth.2 hw
      · cases hi.symm.trans (Slot.mailedTo_eq_some.mp hboth.1).1
    · rw [show (s.io.setSlot i slot).slots j = s.io.slots j from Function.update_of_ne hj _ _]
      simp [hafter j hj, hbefore j]
  · refine h.logged.change ds h.tickets rfl hlive hlive' hticket hport rfl rfl rfl
      (fun j hj => iff_of_false (hafter j hj) (hbefore j)) ?_ ?_ fun hmem => ?_
    · rw [show s.stage i = .running by simp [System.stage, Slot.stage, hi]]
      exact hstage
    · simp [System.stage, Slot.stage, hi]
    · exact absurd (hkind _ hmem).1 (by decide)
  · exact h.delivered.change ds _ rfl rfl hkind (fun _ => rfl)
      (read_same Slot.ticket hticket)

/-- The worker goes on with the slot that it runs. -/
theorem Consistent.goOn (h : Consistent s) (ds : List Deed) (hat : s.worker.runs = some i)
    (record : CompletionRecord) (hw : w.runs = some i)
    (hstage : Stage.running.after ds = some .running)
    (hkind : ∀ deed ∈ ds, deed = .run) :
    Consistent
      ⟨s.io.setSlot i {s.io.slots i with completion := record}, w,
        s.log ++ ds.map ((s.io.slots i).ticket,·), s.home⟩ := by
  have hi := (h.working.running i).mpr hat
  refine h.work ds hat rfl rfl rfl rfl (.inl ⟨hi,hw⟩) ?_ ?_ ?_
  · simp [hstage, Slot.stage, hi]
  · intro deed hdeed
    rw [hkind deed hdeed]
    decide
  · refine h.ordered.change ds (s.io.slots i).ticket rfl rfl ?_ ?_ (read_same Slot.ticket rfl)
    · intro deed hdeed
      rw [hkind deed hdeed]
      decide
    · exact fun j => iff_of_false (not_publishing_of_runs hw j) (not_publishing_of_runs hat j)

/-- The worker leaves the slot that it runs to another attempt. -/
theorem Consistent.delay (h : Consistent s) (hat : s.worker.runs = some i) (due retries : ℕ) :
    Consistent
      {s.note i .delay with io := s.io.delaySlot i due retries, worker := .looking} := by
  refine h.work [.delay] hat rfl rfl rfl rfl (.inr (.inl ⟨rfl,rfl⟩)) rfl (by simp [Deed.mails]) ?_
  exact h.ordered.change [.delay] (s.io.slots i).ticket rfl rfl (by simp)
    (fun j => iff_of_false Worker.noConfusion (not_publishing_of_runs hat j))
    (read_same Slot.ticket rfl)

/-- The completed slot is put into the mailbox of its port. -/
theorem Consistent.publish (h : Consistent s) (hat : s.worker = .publishing i) :
    Consistent (s.publish i) := by
  have hi : (s.io.slots i).state = .completed := h.working.publishing i hat
  have hlive : (s.io.slots i).Live := by simp [Slot.Live, hi]
  obtain ⟨p,hport,_⟩ := h.tickets.routed i hlive
  have hhome : s.home (s.io.slots i).ticket = some p := (h.logged.home i hlive).trans hport
  have hnot : ∀ q, i ∉ (s.io.ports q).mailbox.toList := fun q hmem =>
    (((h.mailboxes q).2 i).mp hmem).2 hat
  have hslots : (s.publish i).io.slots = Function.update s.io.slots i (s.io.slots i) :=
    (Function.update_eq_self i s.io.slots).symm
  refine ⟨?_, ?_, ?_, ?_, ?_, ?_, ?_, ?_⟩
  · exact h.tickets.congr rfl rfl rfl rfl
  · exact h.ready.congr (fun _ => rfl) rfl rfl rfl
  · exact h.counts.congr (fun _ => rfl) rfl rfl (deliver_outstanding hport)
  · refine h.working.move hslots ?_ ?_ ?_ fun j hj => Worker.noConfusion hj
    · intro j hj
      rw [hat] at hj
      cases hj
    · intro j hj
      cases hj
    · exact iff_of_false (by simp [hi]) (Option.some_ne_none i).symm
  · refine h.mailboxes.deliver (deliver_mailbox hport) ?_ ?_ ?_
    · exact fun q hboth => hboth.2 hat
    · exact ⟨Slot.mailedTo_eq_some.mpr ⟨hi,hport⟩,Worker.noConfusion⟩
    · intro j hj q
      rw [hat]
      refine and_congr_right fun _ => iff_of_true Worker.noConfusion ?_
      exact fun heq => hj (Worker.publishing.inj heq).symm
  · refine h.logged.change [.publish] h.tickets hslots hlive hlive rfl rfl rfl rfl rfl
      ?_ ?_ ?_ fun hmem => ?_
    · intro j hj
      rw [hat]
      exact iff_of_false Worker.noConfusion fun heq => hj (Worker.publishing.inj heq).symm
    · simp [Stage.after, Stage.next, System.stage, Slot.stage, System.publish, hi, hat]
    · simp [System.stage, Slot.stage, hi, hat]
    · simp at hmem
  · exact h.delivered.deliver rfl rfl rfl (by decide) hhome (h.mailboxes.room (hnot p))
      (deliver_mailbox hport) fun _ => rfl
  · exact h.ordered.publish rfl rfl hat fun _ => Worker.noConfusion

/-- Slots that are due are queued again. -/
theorem Consistent.wakeDelayed {scan : System × Option ℕ} (now : ℕ) (h : Consistent scan.1)
    (hlooking : scan.1.worker = .looking) (i : Index) :
    Consistent (System.wakeDelayed now scan i).1 ∧
      (System.wakeDelayed now scan i).1.worker = .looking := by
  unfold System.wakeDelayed
  by_cases hi : (scan.1.io.slots i).state = .retryWaiting
  · by_cases hdue : (scan.1.io.slots i).retryDue ≤ now
    · simp only [hi, hdue, ne_eq, not_true_eq_false, if_true, if_false]
      exact ⟨h.enqueueSlot (.inr ⟨hi,rfl⟩),hlooking⟩
    · simp only [hi, hdue, ne_eq, not_true_eq_false, if_false]
      exact ⟨h,hlooking⟩
  · simp only [hi, ne_eq, not_false_eq_true, if_true]
    exact ⟨h,hlooking⟩

/-- The worker ends. -/
theorem Consistent.exit (h : Consistent s) (hlooking : s.worker = .looking) :
    Consistent {s with worker := .exited} := by
  have hworker : ∀ j, Worker.exited = .publishing j ↔ s.worker = .publishing j := by
    intro j
    rw [hlooking]
    exact iff_of_false Worker.noConfusion Worker.noConfusion
  refine ⟨h.tickets,h.ready,h.counts,?_,?_,?_,?_,?_⟩
  · constructor
    · intro j
      rw [h.working.running j, hlooking]
      rfl
    · exact fun j hj => Worker.noConfusion hj
  · refine h.mailboxes.congr (fun _ => rfl) fun j q => ?_
    rw [Ne, hworker]
  · exact h.logged.congr rfl rfl rfl rfl hworker
  · exact h.delivered.change [] 0 rfl (List.append_nil _).symm (fun _ hd => absurd hd List.not_mem_nil)
      (fun _ => rfl) fun _ => rfl
  · exact h.ordered.change [] 0 rfl (List.append_nil _).symm (fun _ hd => absurd hd List.not_mem_nil) hworker
      fun _ => rfl

/-- The worker looks for work. -/
theorem Consistent.take (h : Consistent s) (now : ℕ) (hlooking : s.worker = .looking) :
    Consistent (s.take now) := by
  have hscan : ∀ (indices : List Index) (scan : System × Option ℕ), Consistent scan.1 →
      scan.1.worker = .looking →
      Consistent (indices.foldl (System.wakeDelayed now) scan).1 ∧
        (indices.foldl (System.wakeDelayed now) scan).1.worker = .looking := by
    intro indices
    induction indices with
    | nil => exact fun _ hscan hworker => ⟨hscan,hworker⟩
    | cons i indices ih =>
      intro scan hscan hworker
      obtain ⟨hnext,hworker'⟩ := hscan.wakeDelayed now hworker i
      exact ih _ hnext hworker'
  obtain ⟨hwoken,hworker⟩ := hscan (List.finRange 256) (s,none) h hlooking
  unfold System.take
  generalize (List.finRange 256).foldl (System.wakeDelayed now) (s,none) = scan at hwoken hworker
  obtain ⟨woken,earliest⟩ := scan
  simp only
  cases hcontrol : woken.io.controlQueue.head with
  | some i => exact hwoken.takeSlot true hworker hcontrol
  | none =>
    cases huser : woken.io.userQueue.head with
    | some i => exact hwoken.takeSlot false hworker huser
    | none =>
      simp only
      split
      · exact hwoken.exit hworker
      · exact hwoken

/-- A call that fails changes nothing. -/
theorem Consistent.call {result : Except Fault NativeIoDispatcher} {deed : Option (ℕ × Deed)}
    (h : Consistent s)
    (hok : ∀ io, result = .ok io → Consistent {s with io := io, log := s.log ++ deed.toList}) :
    Consistent (s.call result deed) := by
  cases result with
  | error fault => exact h
  | ok io => exact hok io rfl

/-- Every step keeps everything together. -/
theorem Consistent.step {e : Event} (h : Consistent s) (hen : Enabled s e) :
    Consistent (next s e) := by
  have hquiet : ∀ io, Consistent {s with io := io} →
      Consistent {s with io := io, log := s.log ++ []} := by
    intro io hio
    rw [List.append_nil]
    exact hio
  cases e with
  | openRoute waitSet =>
    refine h.call fun io hio => hquiet io ?_
    cases hopen : s.io.openRoute waitSet with
    | error fault =>
      rw [hopen] at hio
      cases hio
    | ok result =>
      rw [hopen] at hio
      cases hio
      show Consistent {s with io := result.2}
      rw [openRoute_ok hopen]
      exact h.addRoute
  | stopRoute port =>
    refine h.call fun io hio => hquiet io ?_
    obtain ⟨p,rfl⟩ := stopRoute_ok hio
    have hports := setPort_ports (fun port => {port with accepting := false}) s.io p
    refine h.reroute (h.tickets.congr rfl rfl rfl rfl) rfl rfl rfl rfl rfl rfl rfl ?_ ?_
    · intro q
      rw [hports]
      split <;> rfl
    · intro q
      rw [hports]
      split <;> rfl
  | retireRoute port =>
    refine h.call fun io hio => hquiet io ?_
    obtain ⟨p,hroute,hunused,rfl⟩ := retireRoute_ok hio
    have hports := setPort_ports (fun port => {port with accepting := false}) s.io p
    have hnone : ∀ i, (s.io.slots i).Live → (s.io.slots i).port ≠ some p := by
      intro i hlive hport
      have hcount := h.counts.outstanding p
      rw [hunused] at hcount
      exact hcount.not_of_zero i ⟨hlive,hport⟩
    refine h.reroute (h.tickets.removeRoute hnone hroute) rfl rfl rfl rfl rfl rfl rfl ?_ ?_
    · intro q
      refine (congrArg CompletionPort.mailbox (hports q)).trans ?_
      split <;> rfl
    · intro q
      refine (congrArg CompletionPort.outstanding (hports q)).trans ?_
      split <;> rfl
  | reserve port record control =>
    show Consistent (s.reserve port record control)
    unfold System.reserve
    cases hreserve : s.io.reserve port record control with
    | error fault => exact h
    | ok result =>
      obtain ⟨ticket,io⟩ := result
      obtain ⟨p,i,hport,hroute,hfree,hquota,hticket,hio⟩ := reserve_ok hreserve
      subst hport hticket hio
      exact h.issueTicket hroute hfree hquota
  | install ticket job =>
    refine h.call fun io hio => hquiet io ?_
    obtain ⟨i,j,hstate,rfl⟩ := install_ok hio
    exact h.install hstate
  | enqueuePrepared ticket =>
    refine h.call fun io hio => ?_
    obtain ⟨i,hticket,hstate,hjob,rfl⟩ := enqueuePrepared_ok hio
    subst hticket
    exact h.enqueueSlot (.inl ⟨hstate,hjob,rfl⟩)
  | cancelQueued ticket =>
    show Consistent (s.cancelQueued ticket)
    unfold System.cancelQueued NativeIoDispatcher.cancelQueued
    cases hindex : s.io.indexOf ticket with
    | none => exact hquiet s.io h
    | some i =>
      by_cases hstate : (s.io.slots i).state = .queued
      · obtain ⟨previous,hsearch,hcancel⟩ := h.cancel hstate
        obtain ⟨_,hticket⟩ := indexOf_some hindex
        subst hticket
        simp only [hstate, hsearch, ne_eq, not_true_eq_false, if_false, if_true]
        exact hcancel
      · simp only [hstate, ne_eq, not_false_eq_true, if_true, Bool.false_eq_true, if_false]
        exact hquiet s.io h
  | abandon ticket =>
    refine h.call fun io hio => ?_
    obtain ⟨i,hticket,hstate,rfl⟩ := abandon_ok hio
    subst hticket
    exact h.abandon hstate
  | peek port => exact h
  | acknowledge port ticket =>
    refine h.call fun io hio => ?_
    obtain ⟨p,i,hticket,hpeek,hport,rfl⟩ := acknowledge_ok hio
    subst hticket
    exact h.retire hpeek hport
  | shutdown =>
    refine h.call fun io hio => hquiet io ?_
    unfold NativeIoDispatcher.shutdown at hio
    split at hio
    · cases hio
    · cases hio
      exact h.reroute (h.tickets.congr rfl rfl rfl rfl) rfl rfl rfl rfl rfl rfl rfl (fun _ => rfl)
        fun _ => rfl
  | take now => exact h.take now hen
  | run i step retryable maxAttempts =>
    have hat : s.worker.runs = some i := by
      rw [show s.worker = .executing i from hen]
      rfl
    have hgoes : (if (s.io.slots i).again step retryable maxAttempts then
        Worker.delaying i else .settling i).runs = some i := by
      split <;> rfl
    exact h.goOn [.run] hat ((s.io.slots i).ran step) hgoes rfl (by simp)
  | delay i now =>
    have hat : s.worker.runs = some i := by
      rw [show s.worker = .delaying i from hen]
      rfl
    exact h.delay hat _ _
  | settle i step cleanupPending =>
    have hat : s.worker.runs = some i := by
      rw [show s.worker = .settling i from hen]
      rfl
    have hgoes : (if cleanupPending then Worker.postponing i else .completing i).runs = some i := by
      split <;> rfl
    have hwork := h.goOn [] hat ((s.io.slots i).told step) hgoes rfl (fun _ hd => absurd hd List.not_mem_nil)
    rw [List.map_nil, List.append_nil] at hwork
    exact hwork
  | postpone i now =>
    have hat : s.worker.runs = some i := by
      rw [show s.worker = .postponing i from hen]
      rfl
    exact h.delay hat _ _
  | complete i =>
    have hat : s.worker.runs = some i := by
      rw [show s.worker = .completing i from hen]
      rfl
    refine h.work [.complete] hat rfl rfl rfl rfl (.inr (.inr ⟨rfl,rfl⟩)) ?_ (by simp [Deed.mails]) ?_
    · simp [Stage.after, Stage.next, Slot.stage]
    · refine h.ordered.complete rfl rfl (not_publishing_of_runs hat) rfl ?_
      show (Function.update s.io.slots i _ i).ticket = _
      rw [Function.update_self]
  | publish i => exact h.publish hen

/-- A new dispatcher is consistent. -/
theorem Consistent.initial : Consistent .initial := by
  have hfree : ∀ i, ¬ (System.initial.io.slots i).Live := fun _ hlive => hlive rfl
  have hqueues : (fun priority => System.initial.io.queue priority) = fun _ => Queue.empty := by
    funext priority
    cases priority <;> rfl
  have hready : Ready System.initial.io := by
    rw [Ready, hqueues]
    exact Shared.empty
  refine ⟨?_, hready, ?_, ?_, ?_, ?_, fun _ => rfl, fun _ => rfl⟩
  · refine ⟨Nat.one_pos, ?_, ?_, ?_, ?_, ?_⟩
    · exact fun i hlive => absurd hlive (hfree i)
    · exact fun i _ hlive => absurd hlive (hfree i)
    · exact fun i hlive => absurd hlive (hfree i)
    · exact fun i hlive => absurd hlive (hfree i)
    · intro id p hp
      rw [show System.initial.io.routes = ∅ from rfl, AList.lookup_empty] at hp
      cases hp
  · exact ⟨Counts.none hfree, Counts.none fun i hi => hfree i hi.1,
      fun _ => Counts.none fun i hi => hfree i hi.1, Nat.zero_le _⟩
  · exact ⟨fun i => iff_of_false SlotState.noConfusion (Option.some_ne_none i).symm,
      fun _ hw => Worker.noConfusion hw⟩
  · exact fun p => ⟨List.nodup_nil,
      fun i => iff_of_false List.not_mem_nil fun hboth => (Option.some_ne_none p).symm hboth.1⟩
  · refine ⟨?_, ?_, fun _ _ => rfl, ?_, ?_⟩
    · exact fun i hlive => absurd hlive (hfree i)
    · intro ticket hpos hlt
      have hone : ticket < 1 := hlt
      omega
    · exact fun i hlive => absurd hlive (hfree i)
    · exact fun i hlive => absurd hlive (hfree i)

/-- Every run keeps everything together. -/
theorem consistent {es : List Event} (hrun : machine.Run .initial es s) : Consistent s :=
  hrun.invariant Consistent Consistent.initial fun _ _ hs hen _ => hs.step hen

end Steps

section Outcomes

variable {s : System} {ticket : ℕ}

/-- Every ticket has a life. -/
theorem Consistent.life (h : Consistent s) (ticket : ℕ) :
    ∃ stage, Stage.unissued.after (deedsOf ticket s.log) = some stage := by
  by_cases hissued : 0 < ticket ∧ ticket < s.io.nextTicket
  · by_cases hlive : ∃ i, (s.io.slots i).Live ∧ (s.io.slots i).ticket = ticket
    · obtain ⟨i,hi,hticket⟩ := hlive
      exact ⟨s.stage i, hticket ▸ h.logged.live i hi⟩
    · refine ⟨.released, h.logged.released ticket hissued.1 hissued.2 fun i hi hticket => ?_⟩
      exact hlive ⟨i,hi,hticket⟩
  · refine ⟨.unissued, ?_⟩
    rw [h.logged.unissued ticket (by omega)]
    rfl

/-- What is told of every ticket. -/
theorem Consistent.told (h : Consistent s) (ticket : ℕ) :
    ∃ stage, Told (deedsOf ticket s.log) stage := by
  obtain ⟨stage,hstage⟩ := h.life ticket
  exact ⟨stage, told_of_after hstage⟩

/-- Deeds to a ticket are deeds in the log. -/
theorem mem_deedsOf {log : List (ℕ × Deed)} {deed : Deed} :
    deed ∈ deedsOf ticket log ↔ (ticket,deed) ∈ log := by
  constructor
  · intro h
    obtain ⟨entry,hentry,hdeed⟩ := List.mem_map.mp h
    obtain ⟨hmem,hticket⟩ := List.mem_filter.mp hentry
    have heq : entry = (ticket,deed) := Prod.ext (of_decide_eq_true hticket) hdeed
    exact heq ▸ hmem
  · intro h
    exact List.mem_map.mpr ⟨_, List.mem_filter.mpr ⟨h, decide_eq_true rfl⟩, rfl⟩

/-- A reserved ticket is held until it is released, and released once. -/
theorem Consistent.release_once (h : Consistent s) (hreserved : (ticket,.reserve) ∈ s.log) :
    (deedsOf ticket s.log).countP Deed.releases =
      if ∃ i, (s.io.slots i).Live ∧ (s.io.slots i).ticket = ticket then 0 else 1 := by
  have hdone := mem_deedsOf.mpr hreserved
  split
  · next hlive =>
    obtain ⟨i,hi,hticket⟩ := hlive
    have htold := told_of_after (h.logged.live i hi)
    rw [← hticket, htold.releases, if_neg]
    exact hi.stage_ne
  · next hlive =>
    have hissued : 0 < ticket ∧ ticket < s.io.nextTicket := by
      by_contra hout
      rw [h.logged.unissued ticket (by omega)] at hdone
      cases hdone
    have hreleased := h.logged.released ticket hissued.1 hissued.2 fun i hi hticket =>
      hlive ⟨i,hi,hticket⟩
    rw [(told_of_after hreleased).releases, if_pos rfl]

/-- After a cancellation the job of the ticket is not run. -/
theorem Consistent.not_rerun (h : Consistent s) {before after : List (ℕ × Deed)}
    (hlog : s.log = before ++ (ticket,.cancel) :: after) : (ticket,.run) ∉ after := by
  obtain ⟨stage,hstage⟩ := h.life ticket
  have hsplit : deedsOf ticket s.log =
      deedsOf ticket before ++ .cancel :: deedsOf ticket after := by
    simp [hlog, deedsOf, List.filter_append]
  rw [hsplit] at hstage
  intro hrun
  have hmem := mem_deedsOf.mpr hrun
  rcases after_cancel hstage with hnil | hack
  · rw [hnil] at hmem
    cases hmem
  · rw [hack] at hmem
    exact absurd (List.mem_singleton.mp hmem) (by decide)

/-- A slot whose ticket was cancelled is completed and marked. -/
theorem Consistent.cancelled (h : Consistent s) {i : Index} (hi : (s.io.slots i).Live)
    (hcancel : ((s.io.slots i).ticket,.cancel) ∈ s.log) :
    (s.io.slots i).state = .completed ∧ (s.io.slots i).completion.skipped = true := by
  have hdone := mem_deedsOf.mpr hcancel
  refine ⟨?_, h.logged.skipped i hi hdone⟩
  have hend := stage_of_cancel (h.logged.live i hi) hdone
  by_contra hstate
  cases hslot : (s.io.slots i).state <;>
    simp [System.stage, Slot.stage, hslot] at hend hstate
  exact hi hslot

/-- A reservation is refused for capacity where all slots are in use, or all
that user work may use. -/
theorem reserve_refused {d : NativeIoDispatcher} {port : Option PortRef}
    {record : CompletionRecord} {control : Bool}
    (h : d.reserve port record control = .error (.failure .resourceExhausted
      "Native I/O admission capacity exhausted")) :
    d.used = 256 ∨ control = false ∧ d.ordinaryUsed = 224 := by
  unfold NativeIoDispatcher.reserve at h
  split at h
  · next fault hvalid =>
    cases h
    unfold NativeIoDispatcher.validateRoute at hvalid
    split at hvalid
    · cases hvalid
    · split at hvalid <;> cases hvalid
  · split at h
    · cases h
    · split at h
      · cases h
      · split at h
        · next hcapacity => exact hcapacity
        · split at h
          · simp at h
          · split at h <;> cases h

/-- The free slot that the counters promise is found. -/
theorem Consistent.reserve_consistent (h : Consistent s) (port : Option PortRef)
    (record : CompletionRecord) (control : Bool) :
    s.io.reserve port record control ≠ .error (.failure .invalidState
      "Native I/O capacity accounting is inconsistent") := by
  intro herror
  unfold NativeIoDispatcher.reserve at herror
  split at herror
  · next fault hvalid =>
    cases herror
    unfold NativeIoDispatcher.validateRoute at hvalid
    split at hvalid
    · cases hvalid
    · split at hvalid <;> cases hvalid
  · split at herror
    · cases herror
    · split at herror
      · simp at herror
      · split at herror
        · cases herror
        · next hcapacity =>
          split at herror
          · cases herror
          · obtain ⟨i,hfind⟩ := h.counts.find_free fun hfull => hcapacity (.inl hfull)
            rw [hfind] at herror
            cases herror

/-- A queued ticket is found in its queue. -/
theorem Consistent.cancel_listed (h : Consistent s) (ticket : ℕ) :
    s.io.cancelQueued ticket ≠ .error (.failure .invalidState
      "Queued native ticket is missing from its ready list") := by
  intro herror
  unfold NativeIoDispatcher.cancelQueued at herror
  split at herror
  · cases herror
  · next i _ =>
    split at herror
    · cases herror
    · next hstate =>
      obtain ⟨previous,hsearch,_⟩ := h.cancel (not_not.mp hstate)
      rw [hsearch] at herror
      cases herror

end Outcomes

/-- The life of every ticket is accounted for, and so is every table. -/
structure Accounted (s : System) : Prop where
  /-- No ticket is reserved twice. -/
  reserved : ∀ ticket, (deedsOf ticket s.log).count .reserve ≤ 1
  /-- A reserved ticket is released exactly once, and held by a slot until then. -/
  released : ∀ ticket, (ticket,.reserve) ∈ s.log →
    (deedsOf ticket s.log).countP Deed.releases =
      if ∃ i, (s.io.slots i).Live ∧ (s.io.slots i).ticket = ticket then 0 else 1
  /-- A ticket that was abandoned was never enqueued. -/
  abandoned : ∀ ticket, (ticket,.abandon) ∈ s.log → (ticket,.enqueue) ∉ s.log
  /-- A ticket is put into a mailbox once at most. -/
  mailed : ∀ ticket, (deedsOf ticket s.log).countP Deed.mails ≤ 1
  /-- A ticket that was acknowledged was put there. -/
  acknowledged : ∀ ticket, (ticket,.acknowledge) ∈ s.log →
    (deedsOf ticket s.log).countP Deed.mails = 1
  /-- After a cancellation its job is not run. -/
  notRerun : ∀ ticket before after, s.log = before ++ (ticket,.cancel) :: after →
    (ticket,.run) ∉ after
  /-- While it is held, its completion is marked. -/
  skipped : ∀ i, (s.io.slots i).Live → ((s.io.slots i).ticket,.cancel) ∈ s.log →
    (s.io.slots i).state = .completed ∧ (s.io.slots i).completion.skipped = true
  /-- Both queues list the queued slots of their priority, none of them twice. -/
  queues : ∀ priority, ∃ l, Holds s.io.next (s.io.queue priority) l ∧
    ∀ i, i ∈ l ↔ (s.io.slots i).state = .queued ∧ (s.io.slots i).priority = priority
  /-- The counters count. -/
  counts : Counted s.io
  /-- No mailbox has more entries than cells. -/
  room : ∀ p, (s.io.ports p).mailbox.count ≤ 256
  /-- Mailboxes are drained in the order in which they are filled. -/
  drained : ∀ p, s.history p Deed.mails =
    s.history p (fun deed => decide (deed = .acknowledge)) ++ s.mailed p
  /-- The worker fills them in the order in which it completes. -/
  filled : ∀ p, s.history p (fun deed => decide (deed = .complete)) =
    s.history p (fun deed => decide (deed = .publish)) ++ s.pending p
  /-- With control reservations refused for capacity, 32 are outstanding. -/
  capacity : ∀ port record, s.io.reserve port record true = .error (.failure .resourceExhausted
      "Native I/O admission capacity exhausted") →
    ∃ n, Counts (fun i => (s.io.slots i).Live ∧ (s.io.slots i).control = true) n ∧ 32 ≤ n
  /-- The accounting is never found inconsistent. -/
  consistent : ∀ port record control, s.io.reserve port record control ≠
    .error (.failure .invalidState "Native I/O capacity accounting is inconsistent")
  /-- No queued ticket is missing from its list. -/
  listed : ∀ ticket, s.io.cancelQueued ticket ≠
    .error (.failure .invalidState "Queued native ticket is missing from its ready list")

/-- In every run the tickets and the tables of the dispatcher are accounted for. -/
theorem tickets_accounted {es : List Event} {s : System} (hrun : machine.Run .initial es s) :
    Accounted s := by
  have h := consistent hrun
  refine ⟨?_, fun _ => h.release_once, ?_, ?_, ?_, fun _ _ _ => h.not_rerun, fun _ => h.cancelled, ?_,
    h.counts, ?_, h.delivered, h.ordered, ?_, h.reserve_consistent, h.cancel_listed⟩
  · intro ticket
    obtain ⟨stage,htold⟩ := h.told ticket
    have hreserves := htold.reserves
    split at hreserves <;> omega
  · intro ticket habandon henqueue
    obtain ⟨stage,htold⟩ := h.told ticket
    have hcount : 0 < (deedsOf ticket s.log).count .abandon :=
      List.count_pos_iff.mpr (mem_deedsOf.mpr habandon)
    have hnone := htold.abandons (Nat.ne_of_gt hcount)
    exact List.count_eq_zero.mp hnone (mem_deedsOf.mpr henqueue)
  · intro ticket
    obtain ⟨stage,htold⟩ := h.told ticket
    have hmails := htold.mails
    split at hmails <;> omega
  · intro ticket hack
    obtain ⟨stage,htold⟩ := h.told ticket
    exact htold.acknowledged (mem_deedsOf.mpr hack)
  · intro priority
    obtain ⟨l,hl,hmem⟩ := h.ready priority
    exact ⟨l, hl, fun i => (hmem i).trans Slot.queuedAs_eq_some⟩
  · intro p
    have hlen := (h.mailboxes p).1.length_le_card
    rw [Ring.length_toList, Fintype.card_fin] at hlen
    exact hlen
  · intro port record hrefused
    rcases reserve_refused hrefused with hfull | ⟨hcontrol,_⟩
    · exact h.counts.manyControl hfull
    · cases hcontrol

/-- A step of a job that changes and throws nothing. -/
def silently : Step := ⟨id,none⟩

/-- A step of a job that throws. -/
def failing : Step := ⟨id,some (.failure .ddsError "write failed")⟩

/-- The first slot. -/
def firstSlot : Index := ⟨0,by decide⟩

/-- The port that is opened first. -/
def firstPort : Option PortRef := some (.own 1)

/-- Three tickets: a job that is run again, one that is cancelled and one that
is abandoned. -/
def sampleRun : List Event :=
  [.openRoute (some ⟨true,none⟩),.reserve firstPort .fresh false,.install 1 (some 7),
    .enqueuePrepared 1,.reserve firstPort .fresh false,.install 2 (some 8),.enqueuePrepared 2,
    .reserve firstPort .fresh false,.abandon 3,.take 0,.run firstSlot failing true 2,
    .delay firstSlot 0,.cancelQueued 2,.take 10,.run firstSlot silently true 2,
    .settle firstSlot silently false,.complete firstSlot,.publish firstSlot,
    .acknowledge firstPort 2]

theorem tickets_accounted_sampleRun : ∃ s, machine.exec .initial sampleRun = some s ∧
    (deedsOf 1 s.log = [.reserve,.enqueue,.take,.run,.delay,.requeue,.take,.run,.complete,
        .publish] ∧
      deedsOf 2 s.log = [.reserve,.enqueue,.cancel,.acknowledge] ∧
      deedsOf 3 s.log = [.reserve,.abandon] ∧ s.mailed (.own 1) = [1]) ∧
    Accounted s := by
  have hread : (machine.exec .initial sampleRun).map (fun s => decide
      (deedsOf 1 s.log = [.reserve,.enqueue,.take,.run,.delay,.requeue,.take,.run,.complete,
        .publish] ∧
      deedsOf 2 s.log = [.reserve,.enqueue,.cancel,.acknowledge] ∧
      deedsOf 3 s.log = [.reserve,.abandon] ∧ s.mailed (.own 1) = [1])) = some true := by
    decide +kernel
  obtain ⟨s,hexec,htrue⟩ := Option.map_eq_some_iff.mp hread
  exact ⟨s, hexec, of_decide_eq_true htrue, tickets_accounted (Machine.run_of_exec hexec)⟩

/-- The worker completes ticket 1, then ticket 2 is cancelled, and then the
worker publishes. -/
def overtakingRun : List Event :=
  [.openRoute (some ⟨true,none⟩),.reserve firstPort .fresh false,.install 1 (some 7),
    .enqueuePrepared 1,.reserve firstPort .fresh false,.install 2 (some 8),.enqueuePrepared 2,
    .take 0,.run firstSlot silently false 1,.settle firstSlot silently false,.complete firstSlot,
    .cancelQueued 2,.publish firstSlot,.acknowledge firstPort 2,.acknowledge firstPort 1]

/-- A completion can be drained before one that was completed earlier. -/
theorem not_in_completion_order : ¬ ∀ es s, machine.Run .initial es s → ∀ p,
    (s.history p fun deed => decide (deed = .acknowledge)).Sublist
      (s.history p Deed.completes) := by
  intro hordered
  have hread : (machine.exec .initial overtakingRun).map (fun s =>
      (s.history (.own 1) (fun deed => decide (deed = .acknowledge)),
        s.history (.own 1) Deed.completes)) = some ([2,1],[1,2]) := by decide +kernel
  obtain ⟨s,hexec,hhistories⟩ := Option.map_eq_some_iff.mp hread
  obtain ⟨hacknowledged,hcompleted⟩ := Prod.mk.inj hhistories
  have hsublist := hordered _ s (Machine.run_of_exec hexec) (.own 1)
  rw [hacknowledged, hcompleted] at hsublist
  exact absurd hsublist (by decide)

end Dmw.NativeIo
