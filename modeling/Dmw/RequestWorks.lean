import Dmw.ActionProtocol
import Dmw.ResultRequests

/-!
# Works, jobs and kept requests

Where a taken request is: in the hands of a step, retained for its goal, or
with a job. The ledger is the part of a server that says so; its entries agree
through every change, and the steps that do not touch it are collected here.
-/

namespace Dmw.ActionProtocol

open Identity KeyedTable GoalRegistry Scripts ResultRequests

/-- A taken request whose work is not submitted. -/
structure Hand where
  /-- The ticket of the work. -/
  work : Ticket
  /-- The kind of the work. -/
  kind : Kind
  /-- The request. -/
  request : RequestId

/-- The part of a server that requests are about. -/
structure Ledger where
  /-- `_pending_results`. -/
  pendingResults : Table RequestId Ticket
  /-- The works. -/
  works : Ticket → Work
  /-- The jobs. -/
  jobs : Table Ticket Job
  /-- The next ticket. -/
  nextTicket : Ticket
  /-- Requests taken. -/
  taken : List RequestId
  /-- The goals. -/
  registry : Registry

/-- The ledger of a server. -/
def Server.ledger (s : Server) : Ledger :=
  ⟨s.pendingResults,s.works,s.jobs,s.nextTicket,s.taken,s.registry⟩

/-- A ticket with neither a request nor a job. -/
structure Ledger.Reserved (l : Ledger) (work : Ticket) (kind : Kind) : Prop where
  /-- The work waits for a request. -/
  waits : l.works work = ⟨kind,none,false,true⟩
  /-- It was handed out. -/
  old : work < l.nextTicket
  /-- It has no job. -/
  idle : l.jobs.lookup work = none

/-- A ticket with a request and no job. -/
structure Ledger.Open (l : Ledger) (hand : Hand) : Prop where
  /-- The work waits for its response. -/
  waits : l.works hand.work = ⟨hand.kind,some hand.request,false,true⟩
  /-- It was handed out. -/
  old : hand.work < l.nextTicket
  /-- It has no job. -/
  idle : l.jobs.lookup hand.work = none
  /-- The request was taken. -/
  taken : hand.request ∈ l.taken
  /-- No other job is about the request. -/
  alone : ∀ ticket job, l.jobs.lookup ticket = some job →
    job.request.map (·.2) ≠ some hand.request

/-- The ledger with these requests in hand and those not taken yet. -/
structure Ledger.Agrees (hands : List Hand) (unseen : List RequestId) (l : Ledger) : Prop where
  /-- A retained request has an open work. -/
  pending : ∀ request work, l.pendingResults.lookup request = some work →
    l.Open ⟨work,.result,request⟩
  /-- The tickets of jobs were handed out. -/
  jobs : ∀ ticket job, l.jobs.lookup ticket = some job → ticket < l.nextTicket
  /-- A job is about a taken request. -/
  submitted : ∀ ticket job request, l.jobs.lookup ticket = some job →
    job.request = some request → request.2 ∈ l.taken
  /-- A goal keeps taken requests. -/
  kept : ∀ goalId request, l.registry.Keeps goalId request → request ∈ l.taken
  /-- The requests in hand have open works and are not retained. -/
  inHand : ∀ hand ∈ hands, l.Open hand ∧ l.pendingResults.lookup hand.request = none
  /-- They are distinct. -/
  distinct : (hands.map (·.request)).Nodup
  /-- Requests not taken yet. -/
  fresh : ∀ request ∈ unseen, request ∉ l.taken

namespace Ledger

variable {hands : List Hand} {unseen : List RequestId} {l : Ledger} {hand : Hand} {work : Ticket}
  {kind : Kind} {request : RequestId}

/-- Open works of different requests are different. -/
theorem Open.work_ne {other : Hand} (h : l.Open hand) (hother : l.Open other)
    (hne : other.request ≠ hand.request) : other.work ≠ hand.work := by
  intro heq
  have hsame := hother.waits
  rw [heq, h.waits] at hsame
  injection hsame with _ hrequest
  exact hne (Option.some.inj hrequest).symm

/-- A reserved work is not open. -/
theorem Reserved.work_ne (h : l.Reserved work kind) (hopen : l.Open hand) : hand.work ≠ work := by
  intro heq
  have hsame := hopen.waits
  rw [heq, h.waits] at hsame
  injection hsame with _ hrequest
  exact Option.some_ne_none _ hrequest.symm

/-- A work stays open while another work changes. -/
theorem Open.other {new : Work} (h : l.Open hand) (hne : hand.work ≠ work) :
    Ledger.Open {l with works := Function.update l.works work new} hand where
  waits := by
    change Function.update l.works work new hand.work = _
    rw [Function.update_of_ne hne, h.waits]
  old := h.old
  idle := h.idle
  taken := h.taken
  alone := h.alone

/-- A work stays open while a job about something else arrives. -/
theorem Open.arrival {ticket : Ticket} {job : Job} (h : l.Open hand) (hne : hand.work ≠ ticket)
    (hjob : job.request.map (·.2) ≠ some hand.request) :
    Ledger.Open {l with jobs := l.jobs.insert ticket job} hand where
  waits := h.waits
  old := h.old
  idle := by
    change (l.jobs.insert ticket job).lookup hand.work = none
    rw [AList.lookup_insert_ne hne, h.idle]
  taken := h.taken
  alone := by
    intro ticket' job' hfound
    change (l.jobs.insert ticket job).lookup ticket' = some job' at hfound
    by_cases heq : ticket' = ticket
    · rw [heq, AList.lookup_insert] at hfound
      rw [← Option.some.inj hfound]
      exact hjob
    · rw [AList.lookup_insert_ne heq] at hfound
      exact h.alone ticket' job' hfound

/-- The hands with one of them gone. -/
theorem Agrees.tail (h : l.Agrees (hand :: hands) unseen) : l.Agrees hands unseen :=
  ⟨h.pending,h.jobs,h.submitted,h.kept,fun other hmem =>
    h.inHand other (List.mem_cons_of_mem _ hmem),(List.nodup_cons.mp h.distinct).2,h.fresh⟩

/-- Nothing has to be fresh any more. -/
theorem Agrees.forget (h : l.Agrees hands unseen) : l.Agrees hands [] :=
  ⟨h.pending,h.jobs,h.submitted,h.kept,h.inHand,h.distinct,fun _ hmem =>
    absurd hmem List.not_mem_nil⟩

/-- The goals change; what they keep was taken. -/
theorem Agrees.registry {registry : Registry} (h : l.Agrees hands unseen)
    (hkept : ∀ goalId request, registry.Keeps goalId request → request ∈ l.taken) :
    Ledger.Agrees hands unseen {l with registry := registry} :=
  ⟨fun request work hfound =>
    let hopen := h.pending request work hfound
    ⟨hopen.waits,hopen.old,hopen.idle,hopen.taken,hopen.alone⟩,
    h.jobs,h.submitted,hkept,
    fun hand hmem =>
      let hopen := (h.inHand hand hmem).1
      ⟨⟨hopen.waits,hopen.old,hopen.idle,hopen.taken,hopen.alone⟩,(h.inHand hand hmem).2⟩,
    h.distinct,h.fresh⟩

/-- A work that is neither retained nor in hand changes. -/
theorem Agrees.other {n : Work} (h : l.Agrees hands unseen)
    (hpending : ∀ request, l.pendingResults.lookup request ≠ some work)
    (hhands : ∀ hand ∈ hands, hand.work ≠ work) :
    Ledger.Agrees hands unseen {l with works := Function.update l.works work n} where
  pending := by
    intro request work' hfound
    have hne : work' ≠ work := by
      rintro rfl
      exact hpending request hfound
    exact (h.pending request work' hfound).other hne
  jobs := h.jobs
  submitted := h.submitted
  kept := h.kept
  inHand := fun hand hmem =>
    ⟨(h.inHand hand hmem).1.other (hhands hand hmem),(h.inHand hand hmem).2⟩
  distinct := h.distinct
  fresh := h.fresh

/-- A ticket is handed out. -/
theorem Open.later (h : l.Open hand) : Ledger.Open {l with nextTicket := l.nextTicket + 1} hand :=
  ⟨h.waits,Nat.lt_succ_of_lt h.old,h.idle,h.taken,h.alone⟩

/-- A ticket is handed out. -/
theorem Agrees.later (h : l.Agrees hands unseen) :
    Ledger.Agrees hands unseen {l with nextTicket := l.nextTicket + 1} :=
  ⟨fun request work hfound => (h.pending request work hfound).later,
    fun ticket job hfound => Nat.lt_succ_of_lt (h.jobs ticket job hfound),
    h.submitted,h.kept,
    fun hand hmem => ⟨(h.inHand hand hmem).1.later,(h.inHand hand hmem).2⟩,h.distinct,h.fresh⟩

/-- A job about no request arrives at a ticket handed out that no open work has. -/
theorem Agrees.publication {ticket : Ticket} {d : Delivery} {c : Option Bool}
    (h : l.Agrees hands unseen) (hold : ticket < l.nextTicket)
    (hpending : ∀ request, l.pendingResults.lookup request ≠ some ticket)
    (hhands : ∀ hand ∈ hands, hand.work ≠ ticket) :
    Ledger.Agrees hands unseen {l with jobs := l.jobs.insert ticket ⟨none,d,c⟩} where
  pending := by
    intro request work hfound
    have hne : work ≠ ticket := by
      rintro rfl
      exact hpending request hfound
    exact (h.pending request work hfound).arrival hne (Option.some_ne_none _).symm
  jobs := by
    intro ticket' job hfound
    change (l.jobs.insert ticket _).lookup ticket' = some job at hfound
    by_cases heq : ticket' = ticket
    · exact heq ▸ hold
    · rw [AList.lookup_insert_ne heq] at hfound
      exact h.jobs ticket' job hfound
  submitted := by
    intro ticket' job request hfound hrequest
    change (l.jobs.insert ticket _).lookup ticket' = some job at hfound
    by_cases heq : ticket' = ticket
    · rw [heq, AList.lookup_insert] at hfound
      rw [← Option.some.inj hfound] at hrequest
      exact absurd hrequest.symm (Option.some_ne_none _)
    · rw [AList.lookup_insert_ne heq] at hfound
      exact h.submitted ticket' job request hfound hrequest
  kept := h.kept
  inHand := fun hand hmem =>
    ⟨(h.inHand hand hmem).1.arrival (hhands hand hmem) (Option.some_ne_none _).symm,
      (h.inHand hand hmem).2⟩
  distinct := h.distinct
  fresh := h.fresh

/-- A publication takes the next ticket. -/
theorem Agrees.publish {delivery : Delivery} (h : l.Agrees hands unseen) :
    Ledger.Agrees hands unseen
      {l with
        jobs := l.jobs.insert l.nextTicket ⟨none,delivery,none⟩
        nextTicket := l.nextTicket + 1} := by
  have hnew := h.later.publication (d := delivery) (c := none)
    (Nat.lt_succ_self l.nextTicket)
    (fun request hfound => absurd (h.pending request _ hfound).old (Nat.lt_irrefl _))
    (fun hand hmem heq => absurd (heq ▸ (h.inHand hand hmem).1.old) (Nat.lt_irrefl _))
  exact hnew

/-- A new work takes the next ticket. -/
theorem Agrees.reserve (h : l.Agrees hands unseen) (kind : Kind) :
    Ledger.Agrees hands unseen
      {l with
        works := Function.update l.works l.nextTicket ⟨kind,none,false,true⟩
        nextTicket := l.nextTicket + 1} := by
  have hnew := h.other (n := ⟨kind,none,false,true⟩)
    (fun request hfound => absurd (h.pending request _ hfound).old (Nat.lt_irrefl _))
    (fun hand hmem heq => absurd (heq ▸ (h.inHand hand hmem).1.old) (Nat.lt_irrefl _))
  exact hnew.later

/-- The new work is reserved. -/
theorem Agrees.reserved (h : l.Agrees hands unseen) (kind : Kind) :
    Ledger.Reserved
      {l with
        works := Function.update l.works l.nextTicket ⟨kind,none,false,true⟩
        nextTicket := l.nextTicket + 1} l.nextTicket kind where
  waits := Function.update_self _ _ _
  old := Nat.lt_succ_self _
  idle := by
    change l.jobs.lookup l.nextTicket = none
    cases hfound : l.jobs.lookup l.nextTicket with
    | none => rfl
    | some job => exact absurd (h.jobs _ job hfound) (Nat.lt_irrefl _)

/-- A reserved work changes, and stays apart from the others. -/
theorem Reserved.spares (hreserved : l.Reserved work kind) (h : l.Agrees hands unseen) :
    (∀ request, l.pendingResults.lookup request ≠ some work) ∧
      ∀ hand ∈ hands, hand.work ≠ work :=
  ⟨fun request hfound => hreserved.work_ne (h.pending request work hfound) rfl,
    fun hand hmem => hreserved.work_ne (h.inHand hand hmem).1⟩

/-- A request is taken by a reserved work. -/
theorem Agrees.receive (h : l.Agrees [] unseen) (hreserved : l.Reserved work kind)
    (hfresh : request ∉ l.taken) :
    Ledger.Agrees [⟨work,kind,request⟩] []
      {l with
        works := Function.update l.works work {l.works work with requestId := some request}
        taken := request :: l.taken} := by
  obtain ⟨hpending, hhands⟩ := hreserved.spares h
  have hother := h.other (n := {l.works work with requestId := some request}) hpending hhands
  refine ⟨fun request' work' hfound => ?_,hother.jobs,fun ticket job request' hfound hrequest =>
    List.mem_cons_of_mem _ (h.submitted ticket job request' hfound hrequest),
    fun goalId request' hkeeps => List.mem_cons_of_mem _ (h.kept goalId request' hkeeps),
    fun hand hmem => ?_,List.nodup_singleton _,fun _ hmem => absurd hmem List.not_mem_nil⟩
  · have hopen := hother.pending request' work' hfound
    exact ⟨hopen.waits,hopen.old,hopen.idle,List.mem_cons_of_mem _ hopen.taken,hopen.alone⟩
  · rw [List.mem_singleton.mp hmem]
    refine ⟨⟨?_,hreserved.old,hreserved.idle,List.mem_cons_self,fun ticket job hfound heq => ?_⟩,?_⟩
    · change Function.update l.works work {l.works work with requestId := some request} work = _
      rw [Function.update_self, hreserved.waits]
    · obtain ⟨request', hrequest, rfl⟩ := Option.map_eq_some_iff.mp heq
      exact hfresh (h.submitted ticket job request' hfound hrequest)
    · change l.pendingResults.lookup request = none
      cases hfound : l.pendingResults.lookup request with
      | none => rfl
      | some work' => exact absurd (h.pending request work' hfound).taken hfresh

/-- The work of a request in hand is not that of another one. -/
theorem Agrees.spares (h : l.Agrees (hand :: hands) unseen) :
    (∀ request, l.pendingResults.lookup request ≠ some hand.work) ∧
      ∀ other ∈ hands, other.work ≠ hand.work ∧ other.request ≠ hand.request := by
  have hopen := h.inHand hand List.mem_cons_self
  refine ⟨fun request hfound => ?_, fun other hmem => ?_⟩
  · have hother := h.pending request hand.work hfound
    refine hopen.1.work_ne hother (fun heq => ?_) rfl
    change request = hand.request at heq
    rw [heq, hopen.2] at hfound
    exact Option.some_ne_none _ hfound.symm
  · have hne : other.request ≠ hand.request := by
      intro heq
      exact (List.nodup_cons.mp h.distinct).1 (List.mem_map.mpr ⟨other, hmem, heq⟩)
    exact ⟨hopen.1.work_ne (h.inHand other (List.mem_cons_of_mem _ hmem)).1 hne, hne⟩

/-- A request in hand gets its job. -/
theorem Agrees.submit {job : Job} {new : Work} (h : l.Agrees (hand :: hands) unseen)
    (hjob : job.request = some (hand.kind,hand.request)) :
    Ledger.Agrees hands unseen
      {l with
        works := Function.update l.works hand.work new
        jobs := l.jobs.insert hand.work job} := by
  obtain ⟨hpending, hhands⟩ := h.spares
  have hopen := h.inHand hand List.mem_cons_self
  have hother := h.tail.other (n := new) hpending fun other hmem => (hhands other hmem).1
  have hdifferent : ∀ request', request' ≠ hand.request →
      job.request.map (·.2) ≠ some request' := by
    intro request' hne heq
    rw [hjob] at heq
    exact hne (Option.some.inj heq).symm
  refine ⟨fun request' work' hfound => ?_,fun ticket job' hfound => ?_,
    fun ticket job' request' hfound hrequest => ?_,h.kept,fun other hmem => ?_,
    hother.distinct,h.fresh⟩
  · have hwork : work' ≠ hand.work := by
      rintro rfl
      exact hpending request' hfound
    have hne : request' ≠ hand.request := by
      rintro rfl
      exact Option.some_ne_none _ (hfound.symm.trans hopen.2)
    exact (hother.pending request' work' hfound).arrival hwork (hdifferent request' hne)
  · change (l.jobs.insert hand.work job).lookup ticket = some job' at hfound
    by_cases heq : ticket = hand.work
    · exact heq ▸ hopen.1.old
    · rw [AList.lookup_insert_ne heq] at hfound
      exact h.jobs ticket job' hfound
  · change (l.jobs.insert hand.work job).lookup ticket = some job' at hfound
    by_cases heq : ticket = hand.work
    · rw [heq, AList.lookup_insert] at hfound
      rw [← Option.some.inj hfound, hjob] at hrequest
      rw [← Option.some.inj hrequest]
      exact hopen.1.taken
    · rw [AList.lookup_insert_ne heq] at hfound
      exact h.submitted ticket job' request' hfound hrequest
  · obtain ⟨hstill, hnone⟩ := hother.inHand other hmem
    exact ⟨hstill.arrival (hhands other hmem).1 (hdifferent _ (hhands other hmem).2), hnone⟩

/-- A result request in hand is retained. -/
theorem Agrees.retain (h : l.Agrees (hand :: hands) unseen) (hkind : hand.kind = .result) :
    Ledger.Agrees hands unseen
      {l with pendingResults := l.pendingResults.insert hand.request hand.work} where
  pending := by
    intro request' work' hfound
    change (l.pendingResults.insert hand.request hand.work).lookup request' = some work' at hfound
    by_cases heq : request' = hand.request
    · rw [heq, AList.lookup_insert] at hfound
      obtain ⟨hwaits, hold, hidle, htaken, halone⟩ := (h.inHand hand List.mem_cons_self).1
      rw [hkind] at hwaits
      obtain rfl := Option.some.inj hfound
      rw [heq]
      exact ⟨hwaits,hold,hidle,htaken,halone⟩
    · rw [AList.lookup_insert_ne heq] at hfound
      have hopen := h.pending request' work' hfound
      exact ⟨hopen.waits,hopen.old,hopen.idle,hopen.taken,hopen.alone⟩
  jobs := h.jobs
  submitted := h.submitted
  kept := h.kept
  inHand := by
    intro other hmem
    obtain ⟨hopen, hnone⟩ := h.inHand other (List.mem_cons_of_mem _ hmem)
    refine ⟨⟨hopen.waits,hopen.old,hopen.idle,hopen.taken,hopen.alone⟩, ?_⟩
    change (l.pendingResults.insert hand.request hand.work).lookup other.request = none
    rw [AList.lookup_insert_ne (h.spares.2 other hmem).2, hnone]
  distinct := h.tail.distinct
  fresh := h.fresh

/-- A retained request is taken out. -/
theorem Agrees.takeOut (h : l.Agrees hands unseen)
    (hfound : l.pendingResults.lookup request = some work) :
    Ledger.Agrees (⟨work,.result,request⟩ :: hands) unseen
      {l with pendingResults := l.pendingResults.erase request} where
  pending := by
    intro request' work' hfound'
    change (l.pendingResults.erase request).lookup request' = some work' at hfound'
    by_cases heq : request' = request
    · rw [heq, AList.lookup_erase] at hfound'
      exact absurd hfound'.symm (Option.some_ne_none _)
    · rw [AList.lookup_erase_ne heq] at hfound'
      have hopen := h.pending request' work' hfound'
      exact ⟨hopen.waits,hopen.old,hopen.idle,hopen.taken,hopen.alone⟩
  jobs := h.jobs
  submitted := h.submitted
  kept := h.kept
  inHand := by
    intro other hmem
    rcases List.mem_cons.mp hmem with rfl | hmem
    · have hopen := h.pending request work hfound
      exact ⟨⟨hopen.waits,hopen.old,hopen.idle,hopen.taken,hopen.alone⟩,AList.lookup_erase _ _⟩
    · obtain ⟨hopen, hnone⟩ := h.inHand other hmem
      refine ⟨⟨hopen.waits,hopen.old,hopen.idle,hopen.taken,hopen.alone⟩, ?_⟩
      change (l.pendingResults.erase request).lookup other.request = none
      by_cases heq : other.request = request
      · rw [heq, AList.lookup_erase]
      · rw [AList.lookup_erase_ne heq, hnone]
  distinct := by
    refine List.nodup_cons.mpr ⟨fun hmem => ?_, h.distinct⟩
    obtain ⟨other, hmem, heq⟩ := List.mem_map.mp hmem
    change other.request = request at heq
    have hnone := (h.inHand other hmem).2
    rw [heq, hfound] at hnone
    exact Option.some_ne_none _ hnone
  fresh := h.fresh

/-- A job keeps its request, or goes. -/
theorem Agrees.job {jobs : Table Ticket Job} (h : l.Agrees hands unseen)
    (hjobs : ∀ ticket job, jobs.lookup ticket = some job →
      ∃ old, l.jobs.lookup ticket = some old ∧ old.request = job.request) :
    Ledger.Agrees hands unseen {l with jobs := jobs} := by
  have hopen : ∀ hand, l.Open hand → Ledger.Open {l with jobs := jobs} hand := by
    intro hand hopen
    refine ⟨hopen.waits,hopen.old,?_,hopen.taken,fun ticket job hfound => ?_⟩
    · change jobs.lookup hand.work = none
      cases hfound : jobs.lookup hand.work with
      | none => rfl
      | some job =>
        obtain ⟨old, hold, -⟩ := hjobs _ job hfound
        exact absurd (hold.symm.trans hopen.idle) (Option.some_ne_none _)
    · obtain ⟨old, hold, hsame⟩ := hjobs ticket job hfound
      exact hsame ▸ hopen.alone ticket old hold
  refine ⟨fun request work hfound => hopen _ (h.pending request work hfound),
    fun ticket job hfound => ?_,fun ticket job request hfound hrequest => ?_,h.kept,
    fun hand hmem => ⟨hopen _ (h.inHand hand hmem).1,(h.inHand hand hmem).2⟩,h.distinct,h.fresh⟩
  · obtain ⟨old, hold, -⟩ := hjobs ticket job hfound
    exact h.jobs ticket old hold
  · obtain ⟨old, hold, hsame⟩ := hjobs ticket job hfound
    exact h.submitted ticket old request hold (hsame.trans hrequest)

/-- A work with a job is neither retained nor in hand. -/
theorem Agrees.spares_job {job : Job} (h : l.Agrees hands unseen)
    (hjob : l.jobs.lookup work = some job) :
    (∀ request, l.pendingResults.lookup request ≠ some work) ∧
      ∀ hand ∈ hands, hand.work ≠ work := by
  refine ⟨fun request hfound => ?_, fun hand hmem heq => ?_⟩
  · exact Option.some_ne_none _ (hjob.symm.trans (h.pending request work hfound).idle)
  · have hidle : l.jobs.lookup hand.work = none := (h.inHand hand hmem).1.idle
    rw [heq, hjob] at hidle
    cases hidle

end Ledger

/-- A call meets what is next in its phase. -/
def Server.meet (phase : Phase) (met : Circumstance) (rest : List Circumstance) (s : Server) :
    Server :=
  {s with
    circumstances := Function.update s.circumstances phase rest
    clock := s.clock + met.elapsed
    closing := s.closing || met.closes}

/-- The delivery is about no request. -/
def Delivery.published : Delivery → Bool
  | .status => true
  | .feedback => true
  | _ => false

/-- The operation neither ends a goal nor is about result requests. -/
def quietOp : Op → Bool
  | .statusSnapshot => true
  | .takeExpiredGoals => true
  | .state _ => true
  | .selectCancelGoals _ => true
  | .updateState _ .cancelGoal => true
  | .updateState _ .execute => true
  | _ => false

/-- A property that calls and publications leave as it is. -/
structure Stable (inv : Server → Prop) : Prop where
  /-- A call meets something. -/
  meet : ∀ s phase met rest, inv s → s.circumstances phase = met :: rest →
    inv (s.meet phase met rest)
  /-- The registration comes and goes. -/
  registered : ∀ s registered, inv s → inv {s with registered := registered}
  /-- A publication. -/
  publication : ∀ s delivery, delivery.published = true → inv s →
    inv {s with
      jobs := s.jobs.insert s.nextTicket ⟨none,delivery,none⟩
      nextTicket := s.nextTicket + 1}
  /-- The slot of the status. -/
  status : ∀ s revision ticket inflight, inv s →
    inv {s with
      statusRevision := revision
      statusInflightTicket := ticket
      statusInflightRevision := inflight}
  /-- The goals and their handles. -/
  goals : ∀ s goals results handles nextHandle, inv s →
    inv {s with
      goals := goals
      results := results
      handles := handles
      nextHandle := nextHandle}
  /-- A quiet operation of the registry. -/
  registry : ∀ s op, quietOp op = true → inv s →
    inv {s with registry := (s.registry.apply s.clock op).2}

section

variable {inv : Server → Prop} {phase : Phase}

/-- A call may raise; what nothing met changes stays. -/
theorem circumstance_keeps (hmeet : ∀ s met rest, inv s → s.circumstances phase = met :: rest →
    inv (s.meet phase met rest)) : Script.Keeps inv (circumstance phase) := by
  intro s hs
  simp only [circumstance]
  cases hqueue : s.circumstances phase with
  | nil => exact hs
  | cons met rest =>
    have hmet := hmeet s met rest hs hqueue
    cases hraises : met.raises <;> simp only [hraises, Bool.false_eq_true, if_false, if_true] <;>
      exact hmet

/-- In a calm phase it does not raise. -/
theorem circumstance_calm (hmeet : ∀ s met rest, inv s → s.circumstances phase = met :: rest →
    inv (s.meet phase met rest))
    (hcalm : ∀ s, inv s → ∀ met ∈ s.circumstances phase, met.raises = false) :
    Script.Ensures inv (circumstance phase) (fun _ => inv) fun _ _ => False := by
  intro s hs
  simp only [circumstance]
  cases hqueue : s.circumstances phase with
  | nil => exact hs
  | cons met rest =>
    have hmet := hmeet s met rest hs hqueue
    have hraises := hcalm s hs met (hqueue ▸ List.mem_cons_self)
    simp only [hraises, Bool.false_eq_true, if_false]
    exact hmet

/-- A call may raise; the property stays. -/
theorem Stable.circumstance_keeps (h : Stable inv) (phase : Phase) :
    Script.Keeps inv (circumstance phase) :=
  ActionProtocol.circumstance_keeps fun s met rest => h.meet s phase met rest

/-- A native call, by its outcomes. -/
theorem native_ensures {α : Type} {call : ℤ → Registry → Result α × Registry}
    {post : α → Server → Prop} {failed : Exception → Server → Prop}
    (hmeet : Script.Ensures inv (circumstance phase) (fun _ => inv) failed)
    (hok : ∀ s a, inv s → (call s.clock s.registry).1 = .ok a →
      post a {s with registry := (call s.clock s.registry).2})
    (herror : ∀ s e, inv s → (call s.clock s.registry).1 = .error e →
      failed (.failure e) {s with registry := (call s.clock s.registry).2}) :
    Script.Ensures inv (native phase call) post failed := by
  refine hmeet.bind fun _ s hs => ?_
  cases houtcome : (call s.clock s.registry).1 with
  | error e =>
    simp only [Except.mapError]
    exact herror s e hs houtcome
  | ok a =>
    simp only [Except.mapError]
    exact hok s a hs houtcome

/-- A quiet native call. -/
theorem Stable.native_keeps (h : Stable inv) {α : Type} {call : ℤ → Registry → Result α × Registry}
    (hcall : ∀ now r, ∃ op, quietOp op = true ∧ (call now r).2 = (r.apply now op).2) :
    Script.Keeps inv (native phase call) := by
  have hafter : ∀ s, inv s → inv {s with registry := (call s.clock s.registry).2} := by
    intro s hs
    obtain ⟨op, hquiet, heq⟩ := hcall s.clock s.registry
    rw [heq]
    exact h.registry s op hquiet hs
  exact native_ensures (h.circumstance_keeps phase) (fun s _ hs _ => hafter s hs)
    fun s _ hs _ => hafter s hs

theorem Stable.suspendRegistration_keeps (h : Stable inv) :
    Script.Keeps inv suspendRegistration := by
  refine Script.Ensures.observe fun s => ?_
  split_ifs
  · exact (h.circumstance_keeps _).bind fun _ => Script.Ensures.modify fun s hs =>
      h.registered s false hs
  · exact Script.Ensures.pure fun _ hs => hs

theorem Stable.restoreRegistration_keeps (h : Stable inv) (phase : Phase) :
    Script.Keeps inv (restoreRegistration phase) := by
  refine Script.Ensures.observe fun s => ?_
  split_ifs
  · exact Script.Ensures.pure fun _ hs => hs
  · exact (h.circumstance_keeps _).bind fun _ => Script.Ensures.modify fun s hs =>
      h.registered s true hs

theorem assertOwnerThread_keeps : Script.Keeps inv assertOwnerThread := by
  refine Script.Ensures.observe fun s => ?_
  split_ifs
  · exact Script.Ensures.pure fun _ hs => hs
  · exact Script.Ensures.raise fun _ hs => hs

theorem Stable.publish_keeps (h : Stable inv) (phase : Phase) {delivery : Delivery}
    (hdelivery : delivery.published = true) : Script.Keeps inv (publish phase delivery) := by
  refine assertOwnerThread_keeps.bind fun _ => (h.circumstance_keeps _).bind fun _ => ?_
  refine Script.Ensures.inspect fun s hs => ?_
  refine Script.Ensures.bind (m := fun _ => inv) (Script.Ensures.modify ?_)
    fun _ => Script.Ensures.pure fun _ hs => hs
  rintro _ rfl
  exact h.publication _ delivery hdelivery hs

theorem Stable.startStatusPublication_keeps (h : Stable inv) (phase : Phase) :
    Script.Keeps inv (startStatusPublication phase) := by
  refine assertOwnerThread_keeps.bind fun _ => Script.Ensures.observe fun s => ?_
  split_ifs
  · exact Script.Ensures.pure fun _ hs => hs
  · refine (h.native_keeps fun now r => ⟨.statusSnapshot, rfl, rfl⟩).bind fun _ => ?_
    refine Script.Ensures.bind (m := fun _ => inv) (Script.Ensures.modify fun s hs =>
      h.status s s.statusRevision s.statusInflightTicket s.statusRevision hs) fun _ => ?_
    exact (h.publish_keeps phase rfl).bind fun ticket => Script.Ensures.modify fun s hs =>
      h.status s s.statusRevision (some ticket) s.statusInflightRevision hs

theorem Stable.publishStatus_keeps (h : Stable inv) (phase : Phase) :
    Script.Keeps inv (publishStatus phase) := by
  refine assertOwnerThread_keeps.bind fun _ => ?_
  refine Script.Ensures.bind (m := fun _ => inv) (Script.Ensures.modify fun s hs =>
    h.status s (s.statusRevision + 1) s.statusInflightTicket s.statusInflightRevision hs)
    fun _ => Script.Ensures.observe fun s => ?_
  split_ifs
  · exact Script.Ensures.pure fun _ hs => hs
  · exact h.startStatusPublication_keeps phase

theorem Stable.statusCompletion_keeps (h : Stable inv) (ticket : Ticket) (succeeded : Bool) :
    Script.Keeps inv (statusCompletion ticket succeeded) := by
  refine assertOwnerThread_keeps.bind fun _ => Script.Ensures.observe fun s => ?_
  split_ifs
  · exact Script.Ensures.raise fun _ hs => hs
  · exact Script.Ensures.bind (m := fun _ => inv) (Script.Ensures.modify fun s hs =>
      h.status s s.statusRevision none s.statusInflightRevision hs)
      fun _ => h.startStatusPublication_keeps _
  · exact Script.Ensures.bind (m := fun _ => inv) (Script.Ensures.modify fun s hs =>
      h.status s s.statusRevision none s.statusInflightRevision hs)
      fun _ => Script.Ensures.pure fun _ hs => hs

theorem Stable.publishFeedback_keeps (h : Stable inv) (handle : HandleId) :
    Script.Keeps inv (publishFeedback handle) := by
  refine assertOwnerThread_keeps.bind fun _ => Script.Ensures.observe fun s => ?_
  split_ifs
  · exact Script.Ensures.raise fun _ hs => hs
  · exact (h.publish_keeps _ rfl).bind fun _ => Script.Ensures.pure fun _ hs => hs

theorem Stable.forgetExpired_keeps (h : Stable inv) : Script.Keeps inv forgetExpired := by
  refine (h.native_keeps fun now r => ⟨.takeExpiredGoals, rfl, rfl⟩).bind fun expired => ?_
  split_ifs
  · exact Script.Ensures.pure fun _ hs => hs
  · refine Script.Ensures.bind (m := fun _ => inv) (Script.Ensures.modify fun s hs =>
      h.goals s _ _ s.handles s.nextHandle hs) fun _ => h.publishStatus_keeps _

end

/-- A work whose request job is on its way. -/
def Submitted (work : Ticket) (s : Server) : Prop :=
  (s.works work).submitted = true ∧
    ∃ job, s.jobs.lookup work = some job ∧ job.delivery.published = false

/-- The job of a work that waits. -/
theorem enqueue_waiting {work : Ticket} {kind : Kind} {request : RequestId} {s : Server}
    (hwaits : s.works work = ⟨kind,some request,false,true⟩) (delivery : Delivery) :
    s.enqueue work delivery =
      {s with
        works := Function.update s.works work ⟨kind,some request,true,true⟩
        jobs := s.jobs.insert work ⟨some (kind,request),delivery,none⟩} := by
  simp only [Server.enqueue, hwaits, Option.map_some]

/-- The job is on its way. -/
theorem submitted_enqueue {delivery : Delivery} (hdelivery : delivery.published = false)
    (work : Ticket) (request : RequestId) (s : Server) :
    Submitted work ((s.enqueue work delivery).note request delivery) := by
  have hsubmitted : Submitted work (s.enqueue work delivery) := by
    refine ⟨?_, _, AList.lookup_insert _, hdelivery⟩
    change (Function.update s.works work _ work).submitted = true
    rw [Function.update_self]
  cases delivery <;> exact hsubmitted

/-- Works that are neither retained nor in hand can change. -/
def Spares (inv : Server → Prop) (hands : List Hand) : Prop :=
  ∀ s work new, inv s → (∀ request, s.pendingResults.lookup request ≠ some work) →
    (∀ hand ∈ hands, hand.work ≠ work) →
      inv {s with works := Function.update s.works work new}

section

variable {inv : Server → Prop} {hands : List Hand} {unseen : List RequestId}

/-- A work that has its job is let go. -/
theorem release_submitted (hledger : ∀ s, inv s → s.ledger.Agrees hands unseen)
    (hspares : Spares inv hands) (work : Ticket) :
    Script.Ensures (fun s => inv s ∧ Submitted work s) (release work) (fun _ => inv)
      fun _ _ => False := by
  refine Script.Ensures.modify fun s hs => ?_
  obtain ⟨h, hsubmitted, job, hjob, -⟩ := hs
  obtain ⟨hpending, hhands⟩ := (hledger s h).spares_job hjob
  dsimp only
  split_ifs with hheld hopen
  · rw [hsubmitted] at hopen
    simp at hopen
  · exact hspares s work _ h hpending hhands
  · exact h

/-- A work that has taken nothing is let go. -/
theorem release_reserved (hledger : ∀ s, inv s → s.ledger.Agrees hands unseen)
    (hspares : Spares inv hands) (work : Ticket) (kind : Kind) :
    Script.Ensures (fun s => inv s ∧ s.ledger.Reserved work kind) (release work) (fun _ => inv)
      fun _ _ => False := by
  refine Script.Ensures.modify fun s hs => ?_
  obtain ⟨h, hreserved⟩ := hs
  have hwaits : s.works work = ⟨kind,none,false,true⟩ := hreserved.waits
  obtain ⟨hpending, hhands⟩ := hreserved.spares (hledger s h)
  dsimp only
  split_ifs with hheld hopen
  · rw [hwaits] at hopen
    cases hopen
  · exact hspares s work _ h hpending hhands
  · exact h

end

end Dmw.ActionProtocol
