import Dmw.RequestWorks

/-!
# Who has the protocol lane

Where a step of an ActionServer is with its lane: whether the lane is busy, the
entry that has it, a job whose entry is not there yet or not any more, and the
requests in hand. Every part of a step takes one such place to another while
nothing raises between the receipt of a request and the entry of its owner.
-/

namespace Dmw.ActionProtocol

open Identity KeyedTable GoalRegistry Scripts ResultRequests GuardedRuns

/-- A place of a step. -/
structure Point where
  /-- `_lane_busy`. -/
  busy : Bool
  /-- The ticket whose entry has the lane. -/
  entry : Option Ticket
  /-- The ticket of a request job that has no entry. -/
  loose : Option Ticket
  /-- Requests in hand. -/
  hands : List Hand
  /-- Requests that are not taken yet. -/
  unseen : List RequestId
  /-- User code that is waited for. -/
  stage : Stage

/-- The part of a server that the lane is about. -/
structure Lane where
  /-- Works, jobs and requests. -/
  ledger : Ledger
  /-- `_lane_busy`. -/
  laneBusy : Bool
  /-- `_protocol`. -/
  protocol : Table Ticket Operation
  /-- The executor has a record. -/
  attached : Bool
  /-- User code that is waited for. -/
  stage : Stage
  /-- What the calls meet. -/
  circumstances : Circumstances

/-- The lane of a server. -/
def Server.lane (s : Server) : Lane :=
  ⟨s.ledger,s.laneBusy,s.protocol,s.attached,s.stage,s.circumstances⟩

/-- Phases between the lane's start, the receipt of a request and the entry of
its owner. -/
def Phase.decisive : Phase → Bool
  | .beginning => true
  | .answering => true
  | .restoring => true
  | _ => false

/-- Nothing raises in these phases. -/
def Calm (met : Circumstances) : Prop :=
  ∀ phase, phase.decisive = true → ∀ c ∈ met phase, c.raises = false

/-- A lane is at a place. -/
structure Lane.Fits (p : Point) (l : Lane) : Prop where
  /-- Works, jobs and requests agree. -/
  ledger : l.ledger.Agrees p.hands p.unseen
  /-- Nothing raises where it matters. -/
  calm : Calm l.circumstances
  /-- The lane is busy as it should be. -/
  busy : l.laneBusy = p.busy
  /-- A busy lane is that of an attached server. -/
  attached : p.busy = true → l.attached = true
  /-- User code that is waited for. -/
  stage : l.stage = p.stage
  /-- No other entry has the lane. -/
  alone : ∀ ticket operation, l.protocol.lookup ticket = some operation →
    operation.isLane = true → p.entry = some ticket
  /-- The entry that has it is there, with its job. -/
  entry : ∀ ticket, p.entry = some ticket →
    (∃ operation, l.protocol.lookup ticket = some operation ∧ operation.isLane = true) ∧
      ∃ job, l.ledger.jobs.lookup ticket = some job ∧ job.delivery.published = false
  /-- Every other request job has an entry. -/
  owned : ∀ ticket job, l.ledger.jobs.lookup ticket = some job →
    job.delivery.published = false → p.loose ≠ some ticket →
      ∃ operation, l.protocol.lookup ticket = some operation
  /-- The jobs that are not publications are about requests. -/
  requests : ∀ ticket job, l.ledger.jobs.lookup ticket = some job →
    job.delivery.published = job.request.isNone

/-- A server is at a place. -/
def At (p : Point) (s : Server) : Prop := s.lane.Fits p

section

variable {p : Point} {s : Server} {phase : Phase}

/-- What a call meets is not met again. -/
theorem calm_rest {circumstances : Circumstances} {phase phase' : Phase} {met : Circumstance}
    {rest : List Circumstance} (hcalm : ∀ c ∈ circumstances phase', c.raises = false)
    (hqueue : circumstances phase = met :: rest) :
    ∀ c ∈ Function.update circumstances phase rest phase', c.raises = false := by
  intro c hc
  by_cases heq : phase' = phase
  · rw [heq, Function.update_self] at hc
    rw [heq, hqueue] at hcalm
    exact hcalm c (List.mem_cons_of_mem _ hc)
  · rw [Function.update_of_ne heq] at hc
    exact hcalm c hc

/-- Calls stay calm. -/
theorem Calm.rest {circumstances : Circumstances} {met : Circumstance} {rest : List Circumstance}
    (h : Calm circumstances) (hqueue : circumstances phase = met :: rest) :
    Calm (Function.update circumstances phase rest) := fun phase' hdecisive =>
  calm_rest (h phase' hdecisive) hqueue

/-- The jobs change; each keeps its request, and that of the entry stays. -/
theorem Lane.Fits.jobs {l : Lane} {m : Ledger} (h : l.Fits p)
    (hledger : m.Agrees p.hands p.unseen)
    (hnew : ∀ ticket job, m.jobs.lookup ticket = some job →
      (∃ old, l.ledger.jobs.lookup ticket = some old ∧
        old.delivery.published = job.delivery.published ∧ old.request = job.request) ∨
      job.delivery.published = true ∧ job.request = none)
    (hentry : ∀ ticket, p.entry = some ticket → ∀ old, l.ledger.jobs.lookup ticket = some old →
      ∃ job, m.jobs.lookup ticket = some job ∧
        job.delivery.published = old.delivery.published) :
    Lane.Fits p {l with ledger := m} where
  ledger := hledger
  calm := h.calm
  busy := h.busy
  attached := h.attached
  stage := h.stage
  alone := h.alone
  entry := by
    intro ticket hticket
    obtain ⟨hoperation, old, hold, hpublished⟩ := h.entry ticket hticket
    obtain ⟨job, hjob, hsame⟩ := hentry ticket hticket old hold
    exact ⟨hoperation, job, hjob, hsame.trans hpublished⟩
  owned := by
    intro ticket job hjob hpublished hloose
    rcases hnew ticket job hjob with ⟨old, hold, hsame, -⟩ | ⟨hpublication, -⟩
    · exact h.owned ticket old hold (hsame.trans hpublished) hloose
    · rw [hpublication] at hpublished
      cases hpublished
  requests := by
    intro ticket job hjob
    rcases hnew ticket job hjob with ⟨old, hold, hsame, hrequest⟩ | ⟨hpublication, hnone⟩
    · rw [← hsame, ← hrequest]
      exact h.requests ticket old hold
    · rw [hpublication, hnone]
      rfl

/-- The goals change; what they keep was taken. -/
theorem At.registry {registry : Registry} (h : At p s)
    (hkept : ∀ goalId request, registry.Keeps goalId request → request ∈ s.taken) :
    At p {s with registry := registry} :=
  ⟨h.ledger.registry hkept,h.calm,h.busy,h.attached,h.stage,h.alone,h.entry,h.owned,h.requests⟩

/-- An operation that registers nothing new keeps taken requests only. -/
theorem kept_apply {l : Ledger} {hands : List Hand} {unseen : List RequestId} {now : ℤ} {op : Op}
    (h : l.Agrees hands unseen)
    (hop : ∀ goalId request, op ≠ .registerResultRequest goalId request) :
    ∀ goalId request, (l.registry.apply now op).2.Keeps goalId request → request ∈ l.taken := by
  intro goalId request hkeeps
  rcases keeps_apply hkeeps with ⟨record, hfound, hmem, -⟩ | ⟨⟨rfl, -⟩, -⟩
  · exact h.kept goalId request ⟨record, hfound, hmem⟩
  · exact absurd rfl (hop goalId request)

/-- Quiet operations register nothing. -/
theorem quietOp_registers {op : Op} (h : quietOp op = true) (goalId : GoalId)
    (request : RequestId) : op ≠ .registerResultRequest goalId request := by
  rintro rfl
  cases h

/-- Calls and publications leave the place as it is. -/
theorem at_stable (p : Point) : Stable (At p) where
  meet s phase met rest h hqueue :=
    ⟨h.ledger,h.calm.rest hqueue,h.busy,h.attached,h.stage,h.alone,h.entry,h.owned,h.requests⟩
  registered s registered h := h
  publication s delivery hdelivery h := by
    refine Lane.Fits.jobs (m := ⟨s.pendingResults,s.works,
      s.jobs.insert s.nextTicket ⟨none,delivery,none⟩,s.nextTicket + 1,s.taken,s.registry⟩) h
      h.ledger.publish (fun ticket job hjob => ?_) fun ticket hticket old hold => ?_
    · change (s.jobs.insert s.nextTicket _).lookup ticket = some job at hjob
      by_cases heq : ticket = s.nextTicket
      · rw [heq, AList.lookup_insert] at hjob
        rw [← Option.some.inj hjob]
        exact Or.inr ⟨hdelivery, rfl⟩
      · rw [AList.lookup_insert_ne heq] at hjob
        exact Or.inl ⟨job, hjob, rfl, rfl⟩
    · have heq : ticket ≠ s.nextTicket := by
        rintro rfl
        exact absurd (h.ledger.jobs _ old hold) (Nat.lt_irrefl _)
      refine ⟨old, ?_, rfl⟩
      change (s.jobs.insert s.nextTicket _).lookup ticket = some old
      rw [AList.lookup_insert_ne heq]
      exact hold
  status s revision ticket inflight h := h
  goals s goals results handles nextHandle h := h
  registry s op hop h := At.registry h (kept_apply h.ledger (quietOp_registers hop))

/-- A call in a decisive phase does not raise. -/
theorem circumstance_decisive (p : Point) (hphase : phase.decisive = true) :
    Script.Ensures (At p) (circumstance phase) (fun _ => At p) fun _ _ => False :=
  circumstance_calm (fun s met rest => (at_stable p).meet s phase met rest)
    fun _ h => h.calm phase hphase

/-- The lane goes free. -/
theorem finishLane_at (phase : Phase) (p : Point) :
    Script.Ensures (At p) (finishLane phase) (fun _ => At {p with busy := false})
      fun _ => At {p with busy := false} := by
  refine Script.Ensures.bind (m := fun _ => At {p with busy := false})
    (Script.Ensures.modify fun s h => ?_) fun _ => (at_stable _).restoreRegistration_keeps phase
  exact ⟨h.ledger,h.calm,rfl,fun hfalse => (by cases hfalse),h.stage,h.alone,h.entry,h.owned,
    h.requests⟩

/-- The lane goes free, and nothing raises. -/
theorem finishLane_restoring (p : Point) :
    Script.Ensures (At p) (finishLane .restoring) (fun _ => At {p with busy := false})
      fun _ _ => False := by
  refine Script.Ensures.bind (m := fun _ => At {p with busy := false})
    (Script.Ensures.modify fun s h => ?_) fun _ => Script.Ensures.observe fun s => ?_
  · exact ⟨h.ledger,h.calm,rfl,fun hfalse => (by cases hfalse),h.stage,h.alone,h.entry,h.owned,
      h.requests⟩
  · split_ifs
    · exact Script.Ensures.pure fun _ h => h
    · exact (circumstance_decisive _ rfl).bind fun _ => Script.Ensures.modify fun s h =>
        (at_stable _).registered s true h

/-- The lane is taken. -/
theorem beginLane_at (p : Point) (hfree : p.busy = false) :
    Script.Ensures (fun s => At p s ∧ s.attached = true) beginLane
      (fun _ => At {p with busy := true}) fun _ _ => False := by
  refine Script.Ensures.inspect fun s hs => ?_
  have hbusy : s.laneBusy = false := hs.1.busy.trans hfree
  rw [hbusy]
  refine Script.Ensures.bind (m := fun _ => At {p with busy := true})
    (Script.Ensures.modify ?_) fun _ => Script.Ensures.observe fun s => ?_
  · rintro _ rfl
    exact ⟨hs.1.ledger,hs.1.calm,rfl,fun _ => hs.2,hs.1.stage,hs.1.alone,hs.1.entry,hs.1.owned,
      hs.1.requests⟩
  · split_ifs
    · exact (circumstance_decisive _ rfl).bind fun _ => Script.Ensures.modify fun s h =>
        (at_stable _).registered s false h
    · exact Script.Ensures.pure fun _ h => h

end

section

variable {p : Point} {s : Server} {hand : Hand} {hands : List Hand} {work : Ticket}

/-- A work that is neither retained nor in hand changes. -/
theorem at_spares (p : Point) : Spares (At p) p.hands := fun _ _ _ h hpending hhands =>
  ⟨h.ledger.other hpending hhands,h.calm,h.busy,h.attached,h.stage,h.alone,h.entry,h.owned,
    h.requests⟩

/-- A work that has its job is let go. -/
theorem release_submitted_at (p : Point) (work : Ticket) :
    Script.Ensures (fun s => At p s ∧ Submitted work s) (release work) (fun _ => At p)
      fun _ _ => False :=
  release_submitted (fun _ h => h.ledger) (at_spares p) work

/-- A work that has taken nothing is let go. -/
theorem release_reserved_at (p : Point) (work : Ticket) (kind : Kind) :
    Script.Ensures (fun s => At p s ∧ s.ledger.Reserved work kind) (release work) (fun _ => At p)
      fun _ _ => False :=
  release_reserved (fun _ h => h.ledger) (at_spares p) work kind

/-- A request in hand gets its job. -/
theorem At.enqueue (h : At p s) (hhands : p.hands = hand :: hands) {delivery : Delivery}
    (hdelivery : delivery.published = false) (held : Bool) {loose : Option Ticket}
    (hentry : loose ≠ some hand.work → ∃ op, s.protocol.lookup hand.work = some op)
    (hloose : ∀ ticket, ticket ≠ hand.work → loose ≠ some ticket → p.loose ≠ some ticket) :
    At {p with hands := hands, loose := loose}
      {s with
        works := Function.update s.works hand.work ⟨hand.kind,some hand.request,true,held⟩
        jobs := s.jobs.insert hand.work ⟨some (hand.kind,hand.request),delivery,none⟩} := by
  have hagrees : s.ledger.Agrees (hand :: hands) p.unseen := hhands ▸ h.ledger
  have hopen : s.ledger.Open hand := (hagrees.inHand hand List.mem_cons_self).1
  have hidle : s.jobs.lookup hand.work = none := hopen.idle
  refine ⟨hagrees.submit rfl,h.calm,h.busy,h.attached,h.stage,h.alone,fun ticket hticket => ?_,
    fun ticket job hjob hpublished hother => ?_,fun ticket job hjob => ?_⟩
  · obtain ⟨hoperation, old, hold, hpublished⟩ := h.entry ticket hticket
    have hne : ticket ≠ hand.work := by
      rintro rfl
      exact Option.some_ne_none _ (hold.symm.trans hidle)
    refine ⟨hoperation, old, ?_, hpublished⟩
    change (s.jobs.insert hand.work _).lookup ticket = some old
    rw [AList.lookup_insert_ne hne]
    exact hold
  · change (s.jobs.insert hand.work _).lookup ticket = some job at hjob
    by_cases heq : ticket = hand.work
    · subst heq
      exact hentry hother
    · rw [AList.lookup_insert_ne heq] at hjob
      exact h.owned ticket job hjob hpublished (hloose ticket heq hother)
  · change (s.jobs.insert hand.work _).lookup ticket = some job at hjob
    by_cases heq : ticket = hand.work
    · rw [heq, AList.lookup_insert] at hjob
      rw [← Option.some.inj hjob, hdelivery]
      rfl
    · rw [AList.lookup_insert_ne heq] at hjob
      exact h.requests ticket job hjob

/-- The history of the answers does not matter. -/
theorem At.note (h : At p s) (request : RequestId) (delivery : Delivery) :
    At p (s.note request delivery) := by
  cases delivery <;> exact h

/-- A request in hand is submitted before its owner is recorded. -/
theorem submit_answering (hhands : p.hands = hand :: hands) (hwork : hand.work = work)
    (hloose : p.loose = none) {delivery : Delivery} (hdelivery : delivery.published = false) :
    Script.Ensures (At p) (submit .answering work delivery)
      (fun _ s => At {p with hands := hands, loose := some work} s ∧ Submitted work s)
      fun _ _ => False := by
  refine (circumstance_decisive p rfl).bind fun _ => Script.Ensures.inspect fun s h => ?_
  subst hwork
  have hwaits : s.works hand.work = ⟨hand.kind,some hand.request,false,true⟩ :=
    (h.ledger.inHand hand (hhands ▸ List.mem_cons_self)).1.waits
  simp only [hwaits]
  refine Script.Ensures.modify ?_
  rintro s rfl
  refine ⟨.note ?_ _ _, submitted_enqueue hdelivery _ _ s⟩
  rw [enqueue_waiting hwaits]
  refine h.enqueue hhands hdelivery true (fun hother => absurd rfl hother) fun _ _ _ => ?_
  rw [hloose]
  exact nofun

/-- The owner of a submitted request is recorded. -/
theorem own_at (work : Ticket) {operation : Operation} (hlane : operation.isLane = true)
    (hentry : p.entry = none) (hloose : p.loose = some work) :
    Script.Ensures (fun s => At p s ∧ Submitted work s) (own work operation)
      (fun _ s => At {p with entry := some work, loose := none} s ∧ Submitted work s)
      fun _ _ => False := by
  refine Script.Ensures.modify fun s hs => ?_
  obtain ⟨h, hsubmitted⟩ := hs
  refine ⟨⟨h.ledger,h.calm,h.busy,h.attached,h.stage,fun ticket op hfound hop => ?_,
    fun ticket hticket => ?_,fun ticket job hjob hpublished _ => ?_,h.requests⟩, hsubmitted⟩
  · change (s.protocol.insert work operation).lookup ticket = some op at hfound
    by_cases heq : ticket = work
    · exact congrArg some heq.symm
    · rw [AList.lookup_insert_ne heq] at hfound
      have hother := h.alone ticket op hfound hop
      rw [hentry] at hother
      cases hother
  · obtain rfl := Option.some.inj hticket
    exact ⟨⟨operation, AList.lookup_insert _, hlane⟩, hsubmitted.2⟩
  · change ∃ op, (s.protocol.insert work operation).lookup ticket = some op
    by_cases heq : ticket = work
    · exact ⟨operation, by rw [heq, AList.lookup_insert]⟩
    · rw [AList.lookup_insert_ne heq]
      refine h.owned ticket job hjob hpublished ?_
      rw [hloose]
      exact fun hsame => heq (Option.some.inj hsame).symm

end

/-- The work of a request that a callback decides on. -/
def Stage.asked : Stage → Option Ticket
  | .askingGoal work _ => some work
  | .askingCancel work _ _ _ _ => some work
  | _ => none

/-- The lane is busy with this request. -/
def working (hand : Hand) : Point := ⟨true,none,none,[hand],[],.idle⟩

/-- How far a request came. -/
def Handled (hand : Hand) : Progress → Server → Prop
  | .declined, _ => False
  | .asking, s => ∃ stage, stage.asked = some hand.work ∧ At {working hand with stage := stage} s
  | .retained, s => At ⟨false,none,none,[],[],.idle⟩ s
  | .answered, s => At ⟨true,some hand.work,none,[],[],.idle⟩ s ∧ Submitted hand.work s

section

variable {hand : Hand} {p : Point}

/-- A request is answered and its owner recorded. -/
theorem answer_handled (hand : Hand) {delivery : Delivery} {operation : Operation}
    (hdelivery : delivery.published = false) (hlane : operation.isLane = true) :
    Script.Ensures (At (working hand))
      (do
        submit .answering hand.work delivery
        own hand.work operation
        pure Progress.answered)
      (Handled hand) fun _ _ => False :=
  (submit_answering (p := working hand) rfl rfl rfl hdelivery).bind fun _ =>
    (own_at hand.work hlane rfl rfl).bind fun _ => Script.Ensures.pure fun _ h => h

theorem refuseGoal_handled (hand : Hand) :
    Script.Ensures (At (working hand)) (refuseGoal hand.work) (Handled hand) fun _ _ => False :=
  answer_handled hand rfl rfl

theorem acceptGoal_handled (hand : Hand) (goalId : GoalId) (now : ℤ) :
    Script.Ensures (At (working hand)) (acceptGoal hand.work goalId now) (Handled hand)
      fun _ _ => False := by
  refine (circumstance_decisive _ rfl).bind fun _ => Script.Ensures.observe fun s => ?_
  exact Script.Ensures.bind (m := fun _ => At (working hand))
    (Script.Ensures.modify fun s h => (at_stable _).goals s s.goals s.results _ _ h)
    fun _ => answer_handled hand rfl rfl

/-- A callback is asked. -/
theorem asking_handled (hand : Hand) {stage : Stage} (hstage : stage.asked = some hand.work) :
    Script.Ensures (At (working hand))
      (do
        Script.modify fun s => {s with stage := stage}
        pure .asking : Act Progress)
      (Handled hand) fun _ _ => False := by
  refine Script.Ensures.bind (m := fun _ => At {working hand with stage := stage})
    (Script.Ensures.modify fun s h => ?_) fun _ => Script.Ensures.pure fun s h => ⟨stage, hstage, h⟩
  exact ⟨h.ledger,h.calm,h.busy,h.attached,rfl,h.alone,h.entry,h.owned,h.requests⟩

theorem takeGoal_handled (hand : Hand) (identifier : Option GoalId) :
    Script.Ensures (At (working hand)) (takeGoal hand.work identifier) (Handled hand)
      fun _ _ => False := by
  refine Script.Ensures.observe fun s => ?_
  cases identifier with
  | none => exact refuseGoal_handled hand
  | some goalId =>
    dsimp only
    split_ifs
    · exact refuseGoal_handled hand
    · exact asking_handled hand rfl

/-- The owner's thread is known while the lane is busy. -/
theorem assertOwnerThread_busy (hbusy : p.busy = true) :
    Script.Ensures (At p) assertOwnerThread (fun _ => At p) fun _ _ => False := by
  refine Script.Ensures.inspect fun s h => ?_
  rw [show s.attached = true from h.attached hbusy]
  exact Script.Ensures.pure fun _ heq => heq ▸ h

/-- A snapshot of the status never fails. -/
theorem statusSnapshot_answering (p : Point) :
    Script.Ensures (At p)
      (native .answering fun now r => ((r.statusSnapshot now).map .ok id :
        Result (List GoalStatusInfo) × Registry)) (fun _ => At p) fun _ _ => False :=
  native_ensures (circumstance_decisive p rfl)
    (fun s _ h _ => (at_stable p).registry s .statusSnapshot rfl h)
    fun s e _ herror => by cases herror

/-- The status is published while a request is answered. -/
theorem publishStatus_answering (hbusy : p.busy = true) :
    Script.Ensures (At p) (publishStatus .answering) (fun _ => At p) fun _ _ => False := by
  refine (assertOwnerThread_busy hbusy).bind fun _ => ?_
  refine Script.Ensures.bind (m := fun _ => At p) (Script.Ensures.modify fun s h =>
    (at_stable p).status s (s.statusRevision + 1) s.statusInflightTicket s.statusInflightRevision h)
    fun _ => Script.Ensures.observe fun s => ?_
  split_ifs
  · exact Script.Ensures.pure fun _ h => h
  refine (assertOwnerThread_busy hbusy).bind fun _ => Script.Ensures.observe fun s => ?_
  split_ifs
  · exact Script.Ensures.pure fun _ h => h
  refine (statusSnapshot_answering p).bind fun _ => ?_
  refine Script.Ensures.bind (m := fun _ => At p) (Script.Ensures.modify fun s h =>
    (at_stable p).status s s.statusRevision s.statusInflightTicket s.statusRevision h)
    fun _ => ?_
  refine Script.Ensures.bind (m := fun _ => At p) ?_ fun ticket => Script.Ensures.modify fun s h =>
    (at_stable p).status s s.statusRevision (some ticket) s.statusInflightRevision h
  refine (assertOwnerThread_busy hbusy).bind fun _ => (circumstance_decisive p rfl).bind fun _ => ?_
  refine Script.Ensures.inspect fun s h => ?_
  refine Script.Ensures.bind (m := fun _ => At p) (Script.Ensures.modify ?_)
    fun _ => Script.Ensures.pure fun _ h => h
  rintro s rfl
  exact (at_stable p).publication s .status rfl h

/-- A candidate is moved to `Canceling`, or the failure is passed over. -/
theorem commitCancel_at (p : Point) (committed : List GoalInfo) (accepted : GoalInfo × HandleId) :
    Script.Ensures (At p) (commitCancel committed accepted) (fun _ => At p) fun _ _ => False := by
  refine (Script.Ensures.attempt (q := fun _ => At p) ((at_stable p).native_keeps fun now r =>
    ⟨.updateState accepted.1.goalId .cancelGoal, rfl, rfl⟩)).bind fun outcome => ?_
  cases outcome with
  | error e => exact Script.Ensures.pure fun _ h => h
  | ok transition =>
    refine Script.Ensures.bind (m := fun _ => At p) (Script.Ensures.modify fun s h =>
      (at_stable p).goals s s.goals s.results _ s.nextHandle h) fun _ => ?_
    exact (circumstance_decisive p rfl).bind fun _ => Script.Ensures.pure fun _ h => h

theorem answerCancel_handled (hand : Hand) (returnCode : ℤ) (goals : List GoalInfo) :
    Script.Ensures (At (working hand)) (answerCancel hand.work returnCode goals) (Handled hand)
      fun _ _ => False :=
  answer_handled hand rfl rfl

theorem commitCancels_handled (hand : Hand) (accepted : List (GoalInfo × HandleId)) :
    Script.Ensures (At (working hand)) (commitCancels hand.work accepted) (Handled hand)
      fun _ _ => False := by
  refine (Script.Ensures.fold (p := fun _ => At (working hand))
    (fun committed accepted => commitCancel_at _ committed accepted) [] accepted).bind
    fun committed => ?_
  refine Script.Ensures.bind (m := fun _ => At (working hand)) ?_
    fun _ => answerCancel_handled hand _ committed
  unfold announce
  split_ifs
  · exact Script.Ensures.pure fun _ h => h
  · exact publishStatus_answering rfl

theorem considerCandidates_handled (hand : Hand) (candidates : List GoalInfo)
    (accepted : List (GoalInfo × HandleId)) :
    Script.Ensures (At (working hand)) (considerCandidates hand.work candidates accepted)
      (Handled hand) fun _ _ => False := by
  induction candidates with
  | nil => exact commitCancels_handled hand accepted
  | cons info rest ih =>
    refine Script.Ensures.observe fun s => ?_
    cases s.goals.lookup info.goalId with
    | none => exact ih
    | some handle => exact asking_handled hand rfl

theorem selectCandidates_handled (hand : Hand) (identifier : Option GoalId) {stamp : ℤ}
    (hstamp : 0 ≤ stamp) :
    Script.Ensures (At (working hand)) (selectCandidates hand.work identifier stamp)
      (Handled hand) fun _ _ => False := by
  refine Script.Ensures.bind (m := fun _ => At (working hand)) ?_
    fun candidates => considerCandidates_handled hand candidates []
  refine native_ensures (circumstance_decisive _ rfl) (fun s _ h _ => h) fun s e h herror => ?_
  have hstamped : ¬ (⟨identifier.getD noGoalId,stamp⟩ : CancelGoalCriteria).stamp < 0 :=
    Int.not_lt.mpr hstamp
  rw [Registry.selectCancelGoals, if_neg hstamped] at herror
  cases herror

theorem takeCancel_handled (hand : Hand) (identifier : Option GoalId) {stamp : ℤ}
    (hstamp : 0 ≤ stamp) :
    Script.Ensures (At (working hand)) (takeCancel hand.work identifier stamp) (Handled hand)
      fun _ _ => False := by
  refine (circumstance_decisive _ rfl).bind fun _ => ?_
  split
  · exact selectCandidates_handled hand identifier hstamp
  · next goalId _ =>
    refine (Script.Ensures.attempt (q := fun _ => At (working hand))
      ((at_stable _).native_keeps fun now r => ⟨.state goalId, rfl, rfl⟩)).bind fun outcome => ?_
    cases outcome with
    | error e => exact answerCancel_handled hand _ _
    | ok state =>
      dsimp only
      split_ifs
      · exact selectCandidates_handled hand identifier hstamp
      · exact answerCancel_handled hand _ _

end

section

variable {hand : Hand} {p : Point} {s : Server} {kind : Kind} {work : Ticket}
  {unseen : List RequestId}

/-- A new request is kept by no goal. -/
def Unkept (request : RequestId) (s : Server) : Prop :=
  ∀ goalId, ¬ s.registry.Keeps goalId request

/-- A result request that no goal keeps yet is registered. -/
theorem register_result (hand : Hand) (goalId : GoalId) :
    Script.Ensures (fun s => At (working hand) s ∧ Unkept hand.request s)
      (native .answering fun now r => r.registerResultRequest now goalId hand.request)
      (fun _ => At (working hand)) fun _ _ => False := by
  have hmeet : Script.Ensures (fun s => At (working hand) s ∧ Unkept hand.request s)
      (circumstance .answering) (fun _ s => At (working hand) s ∧ Unkept hand.request s)
      fun _ _ => False :=
    circumstance_calm (fun s met rest hs hqueue =>
      ⟨(at_stable _).meet s .answering met rest hs.1 hqueue, hs.2⟩)
      fun _ hs => hs.1.calm .answering rfl
  refine native_ensures hmeet (fun s disposition hs _ => ?_) fun s e hs herror => ?_
  · refine hs.1.registry fun other request hkeeps => ?_
    have happlied : (s.registry.apply s.clock (.registerResultRequest goalId hand.request)).2.Keeps
        other request := hkeeps
    rcases keeps_apply happlied with
      ⟨record, hfound, hmem, -⟩ | ⟨⟨heq, -⟩, -⟩
    · exact hs.1.ledger.kept other request ⟨record, hfound, hmem⟩
    · obtain ⟨-, rfl⟩ := Op.registerResultRequest.inj heq
      exact (hs.1.ledger.inHand hand List.mem_cons_self).1.taken
  · have hunkept : (s.registry.pruneExpiredLocked s.clock).hasRequest hand.request = false := by
      by_contra hrequest
      obtain ⟨other, hkeeps⟩ := Registry.hasRequest_iff.mp (by simpa using hrequest)
      obtain ⟨record, hfound, -, hmem⟩ := keeps_prune.mp hkeeps
      exact hs.2 other ⟨record, hfound, hmem⟩
    unfold Registry.registerResultRequest at herror
    dsimp only at herror
    split at herror
    · cases herror
    · split_ifs at herror with hcommitted hterminal hrequest
      · rw [hunkept] at hrequest
        cases hrequest

theorem answerResult_handled (hand : Hand) (payload : Payload) :
    Script.Ensures (At (working hand)) (answerResult hand.work payload) (Handled hand)
      fun _ _ => False :=
  answer_handled hand rfl rfl

theorem unknownResult_handled (hand : Hand) :
    Script.Ensures (At (working hand))
      (do
        circumstance .answering
        answerResult hand.work unknownResult : Act Progress)
      (Handled hand) fun _ _ => False :=
  (circumstance_decisive _ rfl).bind fun _ => answerResult_handled hand unknownResult

theorem takeResult_handled (hand : Hand) (hkind : hand.kind = .result)
    (identifier : Option GoalId) :
    Script.Ensures (fun s => At (working hand) s ∧ Unkept hand.request s)
      (takeResult hand.work hand.request identifier) (Handled hand) fun _ _ => False := by
  cases identifier with
  | none => exact (unknownResult_handled hand).weaken (fun _ h => h.1) (fun _ _ h => h) fun _ _ h => h
  | some goalId =>
    refine (register_result hand goalId).bind fun disposition => Script.Ensures.observe fun s => ?_
    split
    · refine Script.Ensures.bind (m := fun _ => At ⟨true,none,none,[],[],.idle⟩)
        (Script.Ensures.modify fun s h => ?_) fun _ =>
          (finishLane_restoring _).bind fun _ => Script.Ensures.pure fun _ h => h
      exact ⟨Ledger.Agrees.retain h.ledger hkind,h.calm,h.busy,h.attached,h.stage,h.alone,h.entry,
        h.owned,h.requests⟩
    · exact answerResult_handled hand _
    · exact unknownResult_handled hand

/-- A request is handled, a cancel request with a stamp that is not negative. -/
theorem handle_handled (hand : Hand) (request : Request)
    (hkind : match request with
      | .goal _ => True
      | .cancel _ stamp => 0 ≤ stamp
      | .result _ => hand.kind = .result) :
    Script.Ensures (fun s => At (working hand) s ∧ Unkept hand.request s)
      (handle hand.work hand.request request) (Handled hand) fun _ _ => False := by
  cases request with
  | goal identifier =>
    exact (takeGoal_handled hand identifier).weaken (fun _ h => h.1) (fun _ _ h => h) fun _ _ h => h
  | cancel identifier stamp =>
    exact (takeCancel_handled hand identifier hkind).weaken (fun _ h => h.1) (fun _ _ h => h)
      fun _ _ h => h
  | result identifier => exact takeResult_handled hand hkind identifier

/-- The lane is busy and no request is taken yet. -/
def seeking (unseen : List RequestId) : Point := ⟨true,none,none,[],unseen,.idle⟩

theorem newWork_at (p : Point) (kind : Kind) :
    Script.Ensures (At p) (newWork kind) (fun work s => At p s ∧ s.ledger.Reserved work kind)
      fun _ => At p := by
  refine ((at_stable p).circumstance_keeps _).bind fun _ => Script.Ensures.inspect fun s h => ?_
  refine Script.Ensures.bind (m := fun _ s' => At p s' ∧ s'.ledger.Reserved s.nextTicket kind)
    (Script.Ensures.modify ?_) fun _ => Script.Ensures.pure fun _ h => h
  rintro s rfl
  exact ⟨⟨h.ledger.reserve kind,h.calm,h.busy,h.attached,h.stage,h.alone,h.entry,h.owned,
    h.requests⟩,h.ledger.reserved kind⟩

/-- A request is taken, if there is one. -/
theorem receive_at (work : Ticket) (kind : Kind) (incoming : Option (RequestId × Request))
    (hfresh : ∀ request, incoming = some request → request.1 ∈ unseen) :
    Script.Ensures (fun s => At (seeking unseen) s ∧ s.ledger.Reserved work kind)
      (receive work incoming)
      (fun received s => received = incoming ∧ match incoming with
        | none => At (seeking unseen) s ∧ s.ledger.Reserved work kind
        | some request => At (working ⟨work,kind,request.1⟩) s ∧ Unkept request.1 s)
      fun _ s => At (seeking unseen) s ∧ s.ledger.Reserved work kind := by
  have hmeet : Script.Keeps (fun s => At (seeking unseen) s ∧ s.ledger.Reserved work kind)
      (circumstance .taking) :=
    circumstance_keeps fun s met rest hs hqueue =>
      ⟨(at_stable _).meet s .taking met rest hs.1 hqueue, hs.2⟩
  refine hmeet.bind fun _ => ?_
  cases incoming with
  | none => exact Script.Ensures.pure fun _ h => ⟨rfl, h⟩
  | some request =>
    obtain ⟨requestId, request⟩ := request
    refine Script.Ensures.bind
      (m := fun _ s => At (working ⟨work,kind,requestId⟩) s ∧ Unkept requestId s)
      (Script.Ensures.modify fun s hs => ?_) fun _ => Script.Ensures.pure fun _ h => ⟨rfl, h⟩
    have h := hs.1
    have hnew : requestId ∉ s.taken := h.ledger.fresh requestId (hfresh _ rfl)
    refine ⟨⟨h.ledger.receive hs.2 hnew,h.calm,h.busy,h.attached,h.stage,h.alone,h.entry,h.owned,
      h.requests⟩, fun goalId hkeeps => hnew (h.ledger.kept goalId requestId hkeeps)⟩

end

/-- Where a server can be between the steps of its owner, or in user code. -/
inductive Between (s : Server) : Prop
  | idle (entry : Option Ticket) : At ⟨entry.isSome,entry,none,[],[],.idle⟩ s → Between s
  | asking (hand : Hand) (stage : Stage) : stage.asked = some hand.work →
      At {working hand with stage := stage} s → Between s
  | executing (ticket : Ticket) (handle : HandleId) :
      At ⟨true,none,some ticket,[],[],.executing ticket handle⟩ s → Between s

/-- The lane has neither an entry nor a request. -/
def Bare (s : Server) : Prop := ∃ busy unseen, At ⟨busy,none,none,[],unseen,.idle⟩ s

/-- A request kind that can be taken. -/
structure Takeable (incoming : Incoming) (unseen : List RequestId) (kind : Kind) : Prop where
  /-- The request is new. -/
  fresh : ∀ request, incoming.request kind = some request → request.1 ∈ unseen
  /-- Its stamp is not negative. -/
  stamped : ∀ requestId identifier stamp,
    incoming.request kind = some (requestId,.cancel identifier stamp) → 0 ≤ stamp

section

variable {hand : Hand} {s : Server} {kind : Kind} {unseen : List RequestId} {incoming : Incoming}

/-- The bare lane forgets what is not taken. -/
theorem At.forget {p : Point} (h : At p s) : At {p with unseen := []} s :=
  ⟨h.ledger.forget,h.calm,h.busy,h.attached,h.stage,h.alone,h.entry,h.owned,h.requests⟩

/-- The `finally` around a request that is handled. -/
theorem carry_handled {x : Act Progress} {pre : Server → Prop}
    (hx : Script.Ensures pre x (Handled hand) fun _ _ => False) :
    Script.Ensures pre (carry hand.work x) (fun found s => found = true ∧ Between s)
      fun _ _ => False := by
  refine (Script.Ensures.attempt (q := Script.either (Handled hand) fun _ _ => False) hx).bind fun outcome => ?_
  rcases outcome with e | progress
  · exact fun _ hfalse => hfalse.elim
  · cases progress with
    | declined => exact fun _ hfalse => hfalse.elim
    | asking =>
      exact Script.Ensures.pure fun s ⟨stage, hstage, h⟩ => ⟨rfl, .asking hand stage hstage h⟩
    | retained => exact Script.Ensures.pure fun s h => ⟨rfl, .idle none h⟩
    | answered =>
      exact (release_submitted_at ⟨true,some hand.work,none,[],[],.idle⟩ hand.work).bind fun _ =>
        Script.Ensures.pure fun s h => ⟨rfl, .idle (some hand.work) h⟩

/-- A kind of request of a result is a result request. -/
theorem kind_of_result {requestId : RequestId} {identifier : Option GoalId}
    (h : incoming.request kind = some (requestId,.result identifier)) : kind = .result := by
  cases kind with
  | goal =>
    obtain ⟨_, _, heq⟩ := Option.map_eq_some_iff.mp h
    cases heq
  | cancel =>
    obtain ⟨_, _, heq⟩ := Option.map_eq_some_iff.mp h
    cases heq
  | result => rfl

/-- A request of one kind is taken and handled, or there is none. -/
theorem takeKind_between (h : Takeable incoming unseen kind) :
    Script.Ensures (At (seeking unseen)) (takeKind incoming kind)
      (fun found s => if found then Between s
        else incoming.request kind = none ∧ At (seeking unseen) s)
      fun _ => At (seeking unseen) := by
  refine (newWork_at _ kind).bind fun work => ?_
  cases hrequest : incoming.request kind with
  | none =>
    refine Script.Ensures.bind (m := fun (outcome : Except Exception Progress) s =>
      (outcome = .ok .declined ∨ ∃ e, outcome = .error e) ∧
        At (seeking unseen) s ∧ s.ledger.Reserved work kind)
      (Script.Ensures.attempt ?_) fun outcome => ?_
    · refine Script.Ensures.bind (m := fun received s => received = none ∧
        At (seeking unseen) s ∧ s.ledger.Reserved work kind)
        ((receive_at work kind none fun _ hno => by cases hno).weaken (fun _ h => h)
          (fun _ _ h => h) fun e _ h => ⟨Or.inr ⟨e, rfl⟩, h⟩) fun received => ?_
      rintro s ⟨rfl, hs⟩
      exact ⟨Or.inl rfl, hs⟩
    rcases outcome with e | progress
    · exact (Script.Ensures.quiet (release_reserved_at (seeking unseen) work kind)).weaken
        (fun _ h => h.2) (fun _ _ h => h) (fun _ _ h => h) |>.bind fun _ =>
          Script.Ensures.raise fun _ h => h
    · cases progress with
      | declined =>
        refine Script.Ensures.bind (m := fun _ => At (seeking unseen))
          ((Script.Ensures.quiet (release_reserved_at (seeking unseen) work kind)).weaken
            (fun _ h => h.2) (fun _ _ h => h) fun _ _ h => h)
          fun _ => Script.Ensures.pure fun _ h => ⟨rfl, h⟩
      | _ =>
        intro s hs
        rcases hs.1 with hno | ⟨e, hno⟩ <;> cases hno
  | some request =>
    obtain ⟨requestId, request⟩ := request
    have hhandle : Script.Ensures
        (fun s => At (working ⟨work,kind,requestId⟩) s ∧ Unkept requestId s)
        (handle work requestId request) (Handled ⟨work,kind,requestId⟩) fun _ _ => False := by
      refine handle_handled ⟨work,kind,requestId⟩ request ?_
      cases request with
      | goal => trivial
      | cancel identifier stamp => exact h.stamped requestId identifier stamp hrequest
      | result identifier => exact kind_of_result hrequest
    refine Script.Ensures.bind (m := Script.either (Handled ⟨work,kind,requestId⟩)
      fun _ s => At (seeking unseen) s ∧ s.ledger.Reserved work kind)
      (Script.Ensures.attempt ?_) fun outcome => ?_
    · refine (receive_at work kind (some (requestId,request)) fun request' heq =>
        h.fresh request' (hrequest.trans heq)).bind fun received => ?_
      rintro s ⟨rfl, hs⟩
      exact Script.Ensures.quiet hhandle s hs
    rcases outcome with e | progress
    · exact (Script.Ensures.quiet (release_reserved_at (seeking unseen) work kind)).bind fun _ =>
        Script.Ensures.raise fun _ h => h
    · cases progress with
      | declined => exact fun _ hfalse => hfalse.elim
      | asking =>
        exact Script.Ensures.pure fun s ⟨stage, hstage, h⟩ => .asking _ stage hstage h
      | retained => exact Script.Ensures.pure fun s h => .idle none h
      | answered =>
        exact (Script.Ensures.quiet
          (release_submitted_at ⟨true,some work,none,[],[],.idle⟩ work)).bind fun _ =>
            Script.Ensures.pure fun s h => .idle (some work) h

end

section

variable {hand : Hand} {s : Server} {kind : Kind} {unseen : List RequestId} {incoming : Incoming}

/-- The next kind is tried when there is no request of the first one. -/
theorem takeFirst_cons {kinds : List Kind} (hkind : Takeable incoming unseen kind)
    (hrest : incoming.request kind = none →
      Script.Ensures (At (seeking unseen)) (takeFirst incoming kinds) (fun _ => Between)
        fun _ => Bare) :
    Script.Ensures (At (seeking unseen)) (takeFirst incoming (kind :: kinds)) (fun _ => Between)
      fun _ => Bare := by
  refine ((takeKind_between hkind).weaken (fun _ h => h) (fun _ _ h => h)
    fun _ s h => ⟨true, unseen, h⟩).bind fun found => ?_
  cases found with
  | true => exact Script.Ensures.pure fun _ h => h
  | false =>
    intro s hs
    exact hrest hs.1 s hs.2

/-- A bare lane goes free, whatever is raised. -/
theorem finishLane_bare : Script.Ensures Bare (finishLane .settling) (fun _ => Between)
    fun _ => Between := by
  rintro s ⟨busy, unseen, h⟩
  exact ((finishLane_at .settling ⟨busy,none,none,[],unseen,.idle⟩).weaken (fun _ h => h)
    (fun _ _ h => Between.idle none h.forget) fun _ _ h => Between.idle none h.forget) s h

/-- The first request is taken and handled; without one the lane goes free. -/
theorem takeFirst_between (hgoal : Takeable incoming unseen .goal)
    (hcancel : incoming.request .goal = none → Takeable incoming unseen .cancel)
    (hresult : Takeable incoming unseen .result) :
    Script.Ensures (At (seeking unseen)) (takeFirst incoming [.goal,.cancel,.result])
      (fun _ => Between) fun _ => Bare := by
  refine takeFirst_cons hgoal fun hnone => ?_
  refine takeFirst_cons (hcancel hnone) fun _ => ?_
  refine takeFirst_cons hresult fun _ => ?_
  exact (finishLane_at .settling (seeking unseen)).weaken (fun _ h => h)
    (fun _ _ h => Between.idle none h.forget) fun _ _ h => ⟨false, unseen, h⟩

/-- What is raised over a bare lane frees it. -/
theorem guardLane_between {x : Act Unit} {pre : Server → Prop}
    (hx : Script.Ensures pre x (fun _ => Between) fun _ => Bare) :
    Script.Ensures pre (guardLane x) (fun _ => Between) fun _ => Between := by
  refine (Script.Ensures.attempt (q := Script.either (fun _ => Between) fun _ => Bare) hx).bind fun outcome => ?_
  rcases outcome with e | _
  · exact finishLane_bare.bind fun _ => Script.Ensures.raise fun _ h => h
  · exact Script.Ensures.pure fun _ h => h

/-- The requests that can be taken. -/
def Incoming.identities (incoming : Incoming) : List RequestId :=
  ([Kind.goal,.cancel,.result].filterMap incoming.request).map (·.1)

/-- A cancel request that is taken has no negative stamp. -/
def Incoming.Stamped (incoming : Incoming) : Prop :=
  incoming.goal = none → ∀ requestId identifier stamp,
    incoming.cancel = some (requestId,identifier,stamp) → 0 ≤ stamp

/-- A request of any kind is one of them. -/
theorem mem_identities {request : RequestId × Request} (hrequest : incoming.request kind = some request) :
    request.1 ∈ incoming.identities := by
  refine List.mem_map.mpr ⟨request, List.mem_filterMap.mpr ⟨kind, ?_, hrequest⟩, rfl⟩
  cases kind <;> simp

/-- Those that are fresh were not taken. -/
theorem fresh_identities (hfresh : s.fresh incoming = true) :
    ∀ request ∈ incoming.identities, request ∉ s.taken := by
  intro requestId hmem
  obtain ⟨request, hrequest, rfl⟩ := List.mem_map.mp hmem
  obtain ⟨kind, hkind, heq⟩ := List.mem_filterMap.mp hrequest
  have hall := List.all_eq_true.mp hfresh kind hkind
  rw [heq] at hall
  exact of_decide_eq_true hall

/-- Every kind can be taken, if the cancel request is stamped well. -/
theorem takeable_of_stamped (hstamped : incoming.Stamped) :
    Takeable incoming incoming.identities .goal ∧
      (incoming.request .goal = none → Takeable incoming incoming.identities .cancel) ∧
      Takeable incoming incoming.identities .result := by
  refine ⟨⟨fun _ => mem_identities, ?_⟩, fun hnone => ⟨fun _ => mem_identities, ?_⟩,
    ⟨fun _ => mem_identities, ?_⟩⟩
  · intro requestId identifier stamp heq
    obtain ⟨_, _, hcancel⟩ := Option.map_eq_some_iff.mp heq
    cases hcancel
  · intro requestId identifier stamp heq
    obtain ⟨⟨requestId', identifier', stamp'⟩, hcancel, hrequest⟩ := Option.map_eq_some_iff.mp heq
    obtain ⟨rfl, hkind⟩ := Prod.mk.inj hrequest
    obtain ⟨rfl, rfl⟩ := Request.cancel.inj hkind
    exact hstamped (Option.map_eq_none_iff.mp hnone) _ _ _ hcancel
  · intro requestId identifier stamp heq
    obtain ⟨_, _, hcancel⟩ := Option.map_eq_some_iff.mp heq
    cases hcancel

/-- An idle server keeps the requests to come apart from those taken. -/
theorem At.expecting {p : Point} (h : At p s) (hfresh : s.fresh incoming = true) :
    At {p with unseen := incoming.identities} s :=
  ⟨⟨h.ledger.pending,h.ledger.jobs,h.ledger.submitted,h.ledger.kept,h.ledger.inHand,
    h.ledger.distinct,fresh_identities hfresh⟩,h.calm,h.busy,h.attached,h.stage,h.alone,h.entry,
    h.owned,h.requests⟩

/-- The dispatch of a ready server. -/
theorem takeReady_between (hstamped : incoming.Stamped) :
    Script.Ensures (fun s => (∃ entry, At ⟨entry.isSome,entry,none,[],[],.idle⟩ s) ∧
        s.attached = true ∧ s.fresh incoming = true)
      (takeReady incoming) (fun _ => Between) fun _ => Between := by
  refine Script.Ensures.inspect fun s ⟨⟨entry, h⟩, hattached, hfresh⟩ => ?_
  have hbusy : s.laneBusy = entry.isSome := h.busy
  rw [hbusy]
  cases entry with
  | some ticket => exact Script.Ensures.pure fun _ heq => heq ▸ .idle (some ticket) h
  | none =>
    obtain ⟨hgoal, hcancel, hresult⟩ := takeable_of_stamped hstamped
    refine Script.Ensures.bind (m := fun _ => At (seeking incoming.identities)) ?_ fun _ => ?_
    · exact (Script.Ensures.quiet (beginLane_at ⟨false,none,none,[],incoming.identities,.idle⟩
        rfl)).exact ⟨h.expecting hfresh, hattached⟩
    · refine guardLane_between ?_
      refine ((at_stable (seeking incoming.identities)).forgetExpired_keeps.weaken (fun _ h => h)
        (fun _ _ h => h) fun _ s h => ⟨true, incoming.identities, h⟩).bind fun _ => ?_
      exact takeFirst_between hgoal hcancel hresult

/-- A dispatch that waits for a callback goes on. -/
theorem resume_between {stage : Stage} {x : Act Progress}
    (hx : Script.Ensures (At (working hand)) x (Handled hand) fun _ _ => False) :
    Script.Ensures (At {working hand with stage := stage}) (resume hand.work x)
      (fun _ => Between) fun _ => Between := by
  refine Script.Ensures.bind (m := fun _ => At (working hand))
    (Script.Ensures.modify fun s h => ?_) fun _ => guardLane_between ?_
  · exact ⟨h.ledger,h.calm,h.busy,h.attached,rfl,h.alone,h.entry,h.owned,h.requests⟩
  · exact (Script.Ensures.quiet (carry_handled hx)).bind fun _ =>
      Script.Ensures.pure fun _ h => h.2

theorem goalDecided_between (answer : Option Bool) (now : ℤ) :
    Script.Ensures Between (goalDecided answer now) (fun _ => Between) fun _ => Between := by
  refine Script.Ensures.inspect fun s hs => ?_
  cases hstage : s.stage with
  | askingGoal work goalId =>
    cases hs with
    | idle entry h => exact absurd (hstage.symm.trans h.stage) (by simp)
    | executing ticket handle h => exact absurd (hstage.symm.trans h.stage) (by simp)
    | asking hand stage hasked h =>
      have hsame : stage = .askingGoal work goalId := (h.stage.symm.trans hstage)
      rw [hsame] at hasked h
      obtain rfl := Option.some.inj hasked
      refine (resume_between ?_).exact h
      split_ifs
      · exact acceptGoal_handled hand goalId now
      · exact refuseGoal_handled hand
  | _ => exact Script.Ensures.pure fun _ heq => heq ▸ hs

theorem cancelDecided_between (answer : Option Bool) :
    Script.Ensures Between (cancelDecided answer) (fun _ => Between) fun _ => Between := by
  refine Script.Ensures.inspect fun s hs => ?_
  cases hstage : s.stage with
  | askingCancel work info handle rest accepted =>
    cases hs with
    | idle entry h => exact absurd (hstage.symm.trans h.stage) (by simp)
    | executing ticket handle' h => exact absurd (hstage.symm.trans h.stage) (by simp)
    | asking hand stage hasked h =>
      have hsame : stage = .askingCancel work info handle rest accepted :=
        (h.stage.symm.trans hstage)
      rw [hsame] at hasked h
      obtain rfl := Option.some.inj hasked
      refine (resume_between ?_).exact h
      cases answer with
      | none => exact commitCancels_handled hand []
      | some answer =>
        cases answer with
        | true => exact considerCandidates_handled hand rest (accepted ++ [(info,handle)])
        | false => exact considerCandidates_handled hand rest accepted
  | _ => exact Script.Ensures.pure fun _ heq => heq ▸ hs

end

section

variable {p : Point} {s : Server} {hand : Hand} {hands : List Hand} {work ticket : Ticket}
  {handle : HandleId} {ending : Ending} {payload : Payload}

/-- A retained request that is taken out has an entry without the lane. -/
def Delivering (p : Point) (hand : Hand) (s : Server) : Prop :=
  At {p with hands := hand :: p.hands} s ∧
    s.protocol.lookup hand.work = some .resultDelivery

/-- A retained request is taken out and recorded. -/
theorem takeOut_at (h : At p s) {requestId : RequestId}
    (hfound : s.pendingResults.lookup requestId = some work) :
    Delivering p ⟨work,.result,requestId⟩
      {s with
        pendingResults := s.pendingResults.erase requestId
        protocol := s.protocol.insert work .resultDelivery} := by
  have hidle : s.jobs.lookup work = none := (h.ledger.pending requestId work hfound).idle
  refine ⟨⟨h.ledger.takeOut hfound,h.calm,h.busy,h.attached,h.stage,fun ticket op hop hlane => ?_,
    fun ticket hticket => ?_,fun ticket job hjob hpublished hloose => ?_,h.requests⟩,
    AList.lookup_insert _⟩
  · change (s.protocol.insert work .resultDelivery).lookup ticket = some op at hop
    by_cases heq : ticket = work
    · rw [heq, AList.lookup_insert] at hop
      rw [← Option.some.inj hop] at hlane
      cases hlane
    · rw [AList.lookup_insert_ne heq] at hop
      exact h.alone ticket op hop hlane
  · obtain ⟨⟨op, hop, hlane⟩, job, hjob, hpublished⟩ := h.entry ticket hticket
    have hne : ticket ≠ work := by
      rintro rfl
      exact Option.some_ne_none _ (hjob.symm.trans hidle)
    refine ⟨⟨op, ?_, hlane⟩, job, hjob, hpublished⟩
    change (s.protocol.insert work .resultDelivery).lookup ticket = some op
    rw [AList.lookup_insert_ne hne]
    exact hop
  · change ∃ op, (s.protocol.insert work .resultDelivery).lookup ticket = some op
    by_cases heq : ticket = work
    · exact ⟨_, by rw [heq, AList.lookup_insert]⟩
    · rw [AList.lookup_insert_ne heq]
      exact h.owned ticket job hjob hpublished hloose

/-- A job with an entry joins the others. -/
theorem At.deliver (h : Delivering p hand s) {d : Delivery}
    (hdelivery : d.published = false) (held : Bool) :
    At p
      {s with
        works := Function.update s.works hand.work ⟨hand.kind,some hand.request,true,held⟩
        jobs := s.jobs.insert hand.work ⟨some (hand.kind,hand.request),d,none⟩} := by
  exact h.1.enqueue rfl hdelivery held (fun _ => ⟨_, h.2⟩) fun _ _ hother => hother

/-- A retained work gets its result, or is discarded with an entry. -/
theorem deliverResult_keeps (p : Point) (payload : Payload) (requestId : RequestId) :
    Script.Keeps (At p) (deliverResult payload requestId) := by
  refine Script.Ensures.inspect fun s h => ?_
  cases hfound : s.pendingResults.lookup requestId with
  | none => exact Script.Ensures.pure fun _ heq => heq ▸ h
  | some work =>
    refine Script.Ensures.bind (m := fun _ s' => s' =
      {s with pendingResults := s.pendingResults.erase requestId})
      (Script.Ensures.modify fun _ heq => by rw [heq]) fun _ => ?_
    refine Script.Ensures.bind (m := fun _ => Delivering p ⟨work,.result,requestId⟩)
      (Script.Ensures.modify ?_) fun _ => ?_
    · rintro _ rfl
      exact takeOut_at h hfound
    · have hsubmit : Script.Ensures (Delivering p ⟨work,.result,requestId⟩)
          (submit .handing work (.result payload))
          (fun _ s => At p s ∧ Submitted work s)
          fun _ => Delivering p ⟨work,.result,requestId⟩ := by
        refine Script.Ensures.bind (m := fun _ => Delivering p ⟨work,.result,requestId⟩)
          (circumstance_keeps fun s met rest hs hqueue =>
            ⟨(at_stable _).meet s .handing met rest hs.1 hqueue, hs.2⟩)
          fun _ => Script.Ensures.inspect fun s hs => ?_
        have hwaits : s.works work = ⟨.result,some requestId,false,true⟩ :=
          (hs.1.ledger.inHand _ List.mem_cons_self).1.waits
        simp only [hwaits]
        refine Script.Ensures.modify ?_
        rintro s rfl
        refine ⟨.note ?_ _ _, submitted_enqueue rfl _ _ s⟩
        rw [enqueue_waiting hwaits]
        exact At.deliver hs (d := .result payload) rfl true
      refine Script.Ensures.ensuring (m := Script.either
        (fun _ s => At p s ∧ Submitted work s)
        fun _ s => Delivering p ⟨work,.result,requestId⟩ s) hsubmit (fun _ => ?_) fun _ => ?_
      · exact Script.Ensures.quiet (release_submitted_at p work)
      · refine Script.Ensures.modify fun s hs => ?_
        have hwaits : s.works work = ⟨.result,some requestId,false,true⟩ :=
          (hs.1.ledger.inHand _ List.mem_cons_self).1.waits
        have hat := At.deliver hs (d := .discard) rfl false
        have hsame : {(s.enqueue work .discard) with
              works := Function.update (s.enqueue work .discard).works work
                {(s.enqueue work .discard).works work with held := false}} =
            {s with
              works := Function.update s.works work ⟨.result,some requestId,true,false⟩
              jobs := s.jobs.insert work ⟨some (.result,requestId),.discard,none⟩} := by
          simp only [enqueue_waiting hwaits, Function.update_self, Function.update_idem]
        dsimp only
        rw [hwaits]
        simp only [Option.isSome_some, Bool.not_false, Bool.and_true, if_true]
        rw [hsame]
        exact hat

/-- A native call that registers no request. -/
theorem native_at (p : Point) {α : Type} {phase : Phase}
    {call : ℤ → Registry → Result α × Registry}
    (hcall : ∀ now r, ∃ op, (call now r).2 = (r.apply now op).2 ∧
      ∀ goalId request, op ≠ .registerResultRequest goalId request) :
    Script.Keeps (At p) (native phase call) := by
  have hafter : ∀ s, At p s → At p {s with registry := (call s.clock s.registry).2} := by
    intro s h
    obtain ⟨op, heq, hop⟩ := hcall s.clock s.registry
    rw [heq]
    exact h.registry (kept_apply h.ledger hop)
  exact native_ensures ((at_stable p).circumstance_keeps phase) (fun s _ h _ => hafter s h)
    fun s _ h _ => hafter s h

theorem terminal_keeps (p : Point) (handle : HandleId) (ending : Ending) (result : ResultMessage) :
    Script.Keeps (At p) (terminal handle ending result) := by
  refine Script.Ensures.bind (m := fun _ => At p) ?_ fun ⟨goalId, payload⟩ => ?_
  · refine assertOwnerThread_keeps.bind fun _ => Script.Ensures.observe fun s => ?_
    split_ifs
    · exact Script.Ensures.raise fun _ h => h
    · refine ((at_stable p).circumstance_keeps _).bind fun _ => ?_
      refine (native_at p fun now r => ⟨.updateState _ _, rfl, nofun⟩).bind fun transition => ?_
      exact Script.Ensures.bind (m := fun _ => At p) (Script.Ensures.modify fun _ h => h)
        fun _ => Script.Ensures.pure fun _ h => h
  · refine ((at_stable p).publishStatus_keeps _).bind fun _ => ?_
    refine (native_at p fun now r => ⟨.takePendingResultRequests goalId, rfl, nofun⟩).bind
      fun requests => ?_
    exact Script.Ensures.each fun requestId _ => deliverResult_keeps p payload requestId

theorem abortActive_keeps (p : Point) (handle : HandleId) (result : ResultMessage) :
    Script.Keeps (At p) (abortActive handle result) := by
  refine Script.Ensures.observe fun s => ?_
  split_ifs
  · exact terminal_keeps p handle .abort result
  · exact Script.Ensures.pure fun _ h => h

theorem finishExecute_keeps (p : Point) (handle : HandleId) (result : ResultMessage) :
    Script.Keeps (At p) (finishExecute handle result) :=
  assertOwnerThread_keeps.bind fun _ => abortActive_keeps p handle result

theorem concludeExecute_keeps (p : Point) (handle : HandleId) (returned : Returned) :
    Script.Keeps (At p) (concludeExecute handle returned) := by
  cases returned with
  | result result => exact abortActive_keeps p handle result
  | raised => exact abortActive_keeps p handle none
  | scheduled => exact Script.Ensures.pure fun _ h => h

end

/-- The place of an idle server, with the ticket that is being drained. -/
def draining (entry loose : Option Ticket) : Point := ⟨entry.isSome,entry,loose,[],[],.idle⟩

/-- The place of a completed transaction that has the lane. -/
def completing (ticket : Ticket) (stage : Stage) : Point := ⟨true,none,some ticket,[],[],stage⟩

/-- A drained ticket has no entry any more; another one may have the lane. -/
def Drained (ticket : Ticket) (s : Server) : Prop :=
  ∃ entry, At (draining entry (some ticket)) s ∧ entry ≠ some ticket

section

variable {p : Point} {s : Server} {ticket : Ticket} {operation : Operation} {entry : Option Ticket}

/-- What every place keeps, the places between steps keep. -/
theorem between_keeps {α : Type} {x : Act α} (hx : ∀ p, Script.Keeps (At p) x) :
    Script.Keeps Between x := by
  intro s hs
  cases hs with
  | idle entry h =>
    exact ((hx _).weaken (fun _ h => h) (fun _ _ h => Between.idle entry h)
      fun _ _ h => Between.idle entry h) s h
  | asking hand stage hasked h =>
    exact ((hx _).weaken (fun _ h => h) (fun _ _ h => Between.asking hand stage hasked h)
      fun _ _ h => Between.asking hand stage hasked h) s h
  | executing ticket handle h =>
    exact ((hx _).weaken (fun _ h => h) (fun _ _ h => Between.executing ticket handle h)
      fun _ _ h => Between.executing ticket handle h) s h

/-- One more job may be without an entry. -/
theorem At.loosen {entry : Option Ticket} (h : At (draining entry none) s) (ticket : Ticket) :
    At (draining entry (some ticket)) s :=
  ⟨h.ledger,h.calm,h.busy,h.attached,h.stage,h.alone,h.entry,
    fun other job hjob hpublished _ =>
      h.owned other job hjob hpublished (Option.some_ne_none _).symm,h.requests⟩

/-- An acknowledged job is gone. -/
theorem acknowledge_at (hentry : p.entry ≠ some ticket)
    (hloose : ∀ other, p.loose = some other → other = ticket) :
    Script.Ensures (At p) (acknowledge ticket) (fun _ => At {p with loose := none})
      fun _ _ => False := by
  refine Script.Ensures.modify fun s h => ?_
  have hold : ∀ other job, (s.jobs.erase ticket).lookup other = some job →
      other ≠ ticket ∧ s.jobs.lookup other = some job := by
    intro other job hjob
    by_cases heq : other = ticket
    · rw [heq, AList.lookup_erase] at hjob
      cases hjob
    · rw [AList.lookup_erase_ne heq] at hjob
      exact ⟨heq, hjob⟩
  refine ⟨h.ledger.job fun other job hjob => ⟨job, (hold other job hjob).2, rfl⟩,h.calm,h.busy,
    h.attached,h.stage,h.alone,fun other hother => ?_,fun other job hjob hpublished _ => ?_,
    fun other job hjob => h.requests other job (hold other job hjob).2⟩
  · obtain ⟨hoperation, job, hjob, hpublished⟩ := h.entry other hother
    have hne : other ≠ ticket := by
      rintro rfl
      exact hentry hother
    refine ⟨hoperation, job, ?_, hpublished⟩
    change (s.jobs.erase ticket).lookup other = some job
    rw [AList.lookup_erase_ne hne]
    exact hjob
  · obtain ⟨hne, hjob⟩ := hold other job hjob
    exact h.owned other job hjob hpublished fun hsame => hne (hloose other hsame)

/-- A drained ticket is acknowledged. -/
theorem acknowledge_drained (ticket : Ticket) :
    Script.Ensures (Drained ticket) (acknowledge ticket) (fun _ => Between) fun _ _ => False := by
  rintro s ⟨entry, h, hne⟩
  exact ((acknowledge_at (p := draining entry (some ticket)) hne
    fun other hother => (Option.some.inj hother).symm).weaken (fun _ h => h)
    (fun _ _ h => Between.idle entry h) fun _ _ h => h) s h

/-- What the table has after a ticket is popped. -/
theorem lookup_popped (protocol : Table Ticket Operation) {other : Ticket}
    (hfound : (protocol.erase ticket).lookup other = some operation) :
    other ≠ ticket ∧ protocol.lookup other = some operation := by
  by_cases heq : other = ticket
  · rw [heq, AList.lookup_erase] at hfound
    cases hfound
  · rw [AList.lookup_erase_ne heq] at hfound
    exact ⟨heq, hfound⟩

/-- Jobs of other tickets still have their entries. -/
theorem owned_popped (h : At (draining entry none) s) {other : Ticket} {job : Job}
    (hjob : s.jobs.lookup other = some job) (hpublished : job.delivery.published = false)
    (hne : some ticket ≠ some other) :
    ∃ op, (s.protocol.erase ticket).lookup other = some op := by
  obtain ⟨op, hop⟩ := h.owned other job hjob hpublished (Option.some_ne_none _).symm
  have hother : other ≠ ticket := by
    rintro rfl
    exact hne rfl
  exact ⟨op, (AList.lookup_erase_ne hother).trans hop⟩

/-- The entry that has the lane is popped. -/
theorem pop_lane (h : At (draining entry none) s)
    (hfound : s.protocol.lookup ticket = some operation) (hlane : operation.isLane = true) :
    At (completing ticket .idle) {s with protocol := s.protocol.erase ticket} := by
  have hentry : entry = some ticket := h.alone ticket operation hfound hlane
  subst hentry
  refine ⟨h.ledger,h.calm,h.busy,fun _ => h.attached rfl,h.stage,fun other op hop hop' => ?_,
    fun other hother => (by cases hother),fun other job hjob hpublished hne =>
      owned_popped h hjob hpublished hne,h.requests⟩
  obtain ⟨hne, hop⟩ := lookup_popped s.protocol hop
  exact absurd (Option.some.inj (h.alone other op hop hop')).symm hne

/-- An entry without the lane is popped. -/
theorem pop_other (h : At (draining entry none) s)
    (hfound : s.protocol.lookup ticket = some operation) (hlane : operation.isLane = false) :
    At (draining entry (some ticket)) {s with protocol := s.protocol.erase ticket} ∧
      entry ≠ some ticket := by
  have hentry : entry ≠ some ticket := by
    intro heq
    obtain ⟨⟨op, hop, hop'⟩, -⟩ := h.entry ticket heq
    obtain rfl := Option.some.inj (hfound.symm.trans hop)
    rw [hlane] at hop'
    cases hop'
  refine ⟨⟨h.ledger,h.calm,h.busy,h.attached,h.stage,fun other op hop hop' =>
    h.alone other op (lookup_popped s.protocol hop).2 hop',fun other hother => ?_,
    fun other job hjob hpublished hne => owned_popped h hjob hpublished hne,h.requests⟩, hentry⟩
  obtain ⟨⟨op, hop, hop'⟩, hjob⟩ := h.entry other hother
  have hne : other ≠ ticket := by
    rintro rfl
    exact hentry hother
  exact ⟨⟨op, (AList.lookup_erase_ne hne).trans hop, hop'⟩, hjob⟩

/-- The execute callback is started, or not. -/
theorem runExecute_at (ticket : Ticket) (handle : HandleId) :
    Script.Ensures (At (completing ticket .idle)) (runExecute ticket handle)
      (fun asked => At (completing ticket (if asked then .executing ticket handle else .idle)))
      fun _ => At (completing ticket .idle) := by
  refine assertOwnerThread_keeps.bind fun _ => Script.Ensures.observe fun s => ?_
  split_ifs
  · exact Script.Ensures.pure fun _ h => h
  · refine ((at_stable _).native_keeps fun now r =>
      ⟨.updateState (s.handles handle).goalId .execute, rfl, rfl⟩).bind fun _ => ?_
    refine Script.Ensures.bind (m := fun _ => At (completing ticket (.executing ticket handle)))
      (Script.Ensures.modify fun s h => ?_) fun _ => Script.Ensures.pure fun _ h => h
    exact ⟨h.ledger,h.calm,h.busy,h.attached,rfl,h.alone,h.entry,h.owned,h.requests⟩

/-- What the completion of a transaction leaves of the lane. -/
def Concluded (ticket : Ticket) (asked : Bool) (s : Server) : Prop :=
  if asked then ∃ handle, At (completing ticket (.executing ticket handle)) s
  else At (completing ticket .idle) s

theorem conclude_lane (ticket : Ticket) (operation : Operation) (succeeded : Bool) :
    Script.Ensures (At (completing ticket .idle)) (conclude ticket operation succeeded)
      (Concluded ticket) fun _ => At (completing ticket .idle) := by
  unfold conclude
  split_ifs
  · cases operation with
    | accept handle =>
      refine Script.Ensures.bind (m := fun _ => At (completing ticket .idle))
        (Script.Ensures.modify fun s h =>
          (at_stable _).goals s _ s.results s.handles s.nextHandle h) fun _ => ?_
      refine ((at_stable _).publishStatus_keeps _).bind fun _ => ?_
      refine (runExecute_at ticket handle).weaken (fun _ h => h) (fun asked s h => ?_)
        fun _ _ h => h
      cases asked with
      | true => exact ⟨handle, h⟩
      | false => exact h
    | _ => exact Script.Ensures.pure fun _ h => h
  · exact Script.Ensures.raise fun _ h => h

/-- An entry without the lane asks nobody. -/
theorem conclude_other (p : Point) (ticket : Ticket) (succeeded : Bool)
    (hlane : operation.isLane = false) :
    Script.Ensures (At p) (conclude ticket operation succeeded)
      (fun asked s => asked = false ∧ At p s) fun _ => At p := by
  cases operation with
  | resultDelivery =>
    unfold conclude
    split_ifs
    · exact Script.Ensures.pure fun _ h => ⟨rfl, h⟩
    · exact Script.Ensures.raise fun _ h => h
  | _ => cases hlane

/-- A transaction that has the lane gives it back. -/
theorem settle_lane (hlane : operation.isLane = true) :
    Script.Ensures (At (completing ticket .idle)) (settle operation) (fun _ => Drained ticket)
      fun _ => Drained ticket := by
  unfold settle
  rw [if_pos hlane]
  exact (finishLane_at .settling (completing ticket .idle)).weaken (fun _ h => h)
    (fun _ _ h => ⟨none, h, (Option.some_ne_none _).symm⟩)
    fun _ _ h => ⟨none, h, (Option.some_ne_none _).symm⟩

theorem settle_other (q : Server → Prop) (hlane : operation.isLane = false) :
    Script.Keeps q (settle operation) := by
  unfold settle
  rw [hlane]
  exact Script.Ensures.pure fun _ h => h

/-- A completion pops its entry, and gives the lane back unless a callback is
waited for. -/
theorem protocolCompletion_drained (ticket : Ticket) (succeeded : Bool) :
    Script.Ensures (fun s => ∃ entry, At (draining entry none) s)
      (protocolCompletion ticket succeeded)
      (fun asked s => if asked then Between s else Drained ticket s) fun _ => Drained ticket := by
  refine Script.Ensures.inspect fun s ⟨entry, h⟩ => ?_
  cases hfound : s.protocol.lookup ticket with
  | none =>
    refine Script.Ensures.raise ?_
    rintro _ rfl
    refine ⟨entry, h.loosen ticket, fun heq => ?_⟩
    obtain ⟨⟨op, hop, -⟩, -⟩ := h.entry ticket heq
    exact Option.some_ne_none _ (hop.symm.trans hfound)
  | some operation =>
    cases hlane : operation.isLane with
    | true =>
      refine Script.Ensures.bind (m := fun _ => At (completing ticket .idle))
        (Script.Ensures.modify ?_) fun _ => ?_
      · rintro _ rfl
        exact pop_lane h hfound hlane
      refine (Script.Ensures.attempt (q := Script.either (Concluded ticket)
        fun _ => At (completing ticket .idle)) (conclude_lane ticket operation succeeded)).bind
        fun outcome => ?_
      rcases outcome with e | asked
      · exact (settle_lane hlane).bind fun _ => Script.Ensures.raise fun _ h => h
      · cases asked with
        | true => exact Script.Ensures.pure fun s ⟨handle, h⟩ => .executing ticket handle h
        | false => exact (settle_lane hlane).bind fun _ => Script.Ensures.pure fun _ h => h
    | false =>
      obtain ⟨hpopped, hne⟩ := pop_other h hfound hlane
      have hsettle : Script.Ensures (At (draining entry (some ticket))) (settle operation)
          (fun _ => Drained ticket) fun _ => Drained ticket :=
        (settle_other _ hlane).weaken (fun _ h => h) (fun _ _ h => ⟨entry, h, hne⟩)
          fun _ _ h => ⟨entry, h, hne⟩
      refine Script.Ensures.bind (m := fun _ => At (draining entry (some ticket)))
        (Script.Ensures.modify ?_) fun _ => ?_
      · rintro _ rfl
        exact hpopped
      refine (Script.Ensures.attempt (q := Script.either
        (fun asked s => asked = false ∧ At (draining entry (some ticket)) s)
        fun _ => At (draining entry (some ticket))) (conclude_other _ ticket succeeded hlane)).bind
        fun outcome => ?_
      rcases outcome with e | asked
      · exact hsettle.bind fun _ => Script.Ensures.raise fun _ h => h
      · cases asked with
        | true => exact fun _ hs => (by cases hs.1)
        | false =>
          exact (hsettle.weaken (fun _ hs => hs.2) (fun _ _ h => h) fun _ _ h => h).bind
            fun _ => Script.Ensures.pure fun _ h => h

end

section

variable {p : Point} {s : Server} {ticket : Ticket} {entry : Option Ticket}

/-- What a completion leaves behind. -/
def Completed (ticket : Ticket) (asked : Bool) (s : Server) : Prop :=
  if asked then Between s else Drained ticket s

/-- The completion of a publication has nothing to do with the lane. -/
theorem published_completed {x : Act Bool} (hne : entry ≠ some ticket)
    (hx : Script.Ensures (At (draining entry none)) x
      (fun asked s => asked = false ∧ At (draining entry none) s) fun _ => At (draining entry none)) :
    Script.Ensures (At (draining entry none)) x (Completed ticket) fun _ => Drained ticket := by
  refine hx.weaken (fun _ h => h) (fun asked s hs => ?_) fun _ s h => ⟨entry, h.loosen ticket, hne⟩
  obtain ⟨rfl, h⟩ := hs
  exact ⟨entry, h.loosen ticket, hne⟩

/-- A completion is processed and acknowledged. -/
theorem drain_between (ticket : Ticket) :
    Script.Ensures (fun s => ∃ entry, At (draining entry none) s) (drain ticket)
      (fun _ => Between) fun _ => Between := by
  refine Script.Ensures.inspect fun s ⟨entry, h⟩ => ?_
  cases hjob : s.jobs.lookup ticket with
  | none =>
    refine Script.Ensures.pure ?_
    rintro _ rfl
    exact .idle entry h
  | some job =>
    have hprotocol : Script.Ensures (At (draining entry none))
        (protocolCompletion ticket (job.completed.getD false)) (Completed ticket)
        fun _ => Drained ticket :=
      (protocolCompletion_drained ticket _).weaken (fun _ h => ⟨entry, h⟩) (fun _ _ h => h)
        fun _ _ h => h
    have hpublication : job.delivery.published = true → entry ≠ some ticket := by
      intro hpublished heq
      obtain ⟨-, job', hjob', hunpublished⟩ := h.entry ticket heq
      obtain rfl := Option.some.inj (hjob.symm.trans hjob')
      rw [hpublished] at hunpublished
      cases hunpublished
    refine Script.Ensures.exact ?_ h
    refine Script.Ensures.bind (m := Script.either (Completed ticket) fun _ => Drained ticket)
      (Script.Ensures.attempt ?_) fun outcome => ?_
    · cases hdelivery : job.delivery with
      | status =>
        refine published_completed (hpublication (by rw [hdelivery]; rfl)) ?_
        exact ((at_stable _).statusCompletion_keeps ticket _).bind fun _ =>
          Script.Ensures.pure fun _ h => ⟨rfl, h⟩
      | feedback =>
        refine published_completed (hpublication (by rw [hdelivery]; rfl)) ?_
        dsimp only
        split_ifs
        · exact Script.Ensures.pure fun _ h => ⟨rfl, h⟩
        · exact Script.Ensures.raise fun _ h => h
      | _ => exact hprotocol
    · rcases outcome with e | asked
      · exact (acknowledge_drained ticket).quiet.bind fun _ => Script.Ensures.raise fun _ h => h
      · cases asked with
        | true => exact Script.Ensures.pure fun _ h => h
        | false => exact (acknowledge_drained ticket).quiet

/-- The execute callback returns. -/
theorem executeReturned_between (returned : Returned) :
    Script.Ensures Between (executeReturned returned) (fun _ => Between) fun _ => Between := by
  refine Script.Ensures.inspect fun s hs => ?_
  cases hstage : s.stage with
  | executing ticket handle =>
    cases hs with
    | idle entry h => exact absurd (hstage.symm.trans h.stage) (by simp)
    | asking hand stage hasked h =>
      have hsame : stage = .executing ticket handle := h.stage.symm.trans hstage
      rw [hsame] at hasked
      cases hasked
    | executing ticket' handle' h =>
      obtain ⟨rfl, rfl⟩ := Stage.executing.inj (hstage.symm.trans h.stage)
      refine Script.Ensures.exact ?_ h
      refine Script.Ensures.bind (m := fun _ => At (completing ticket .idle))
        (Script.Ensures.modify fun s h => ?_) fun _ => ?_
      · exact ⟨h.ledger,h.calm,h.busy,h.attached,rfl,h.alone,h.entry,h.owned,h.requests⟩
      · have hsettle : Script.Ensures (At (completing ticket .idle)) (settle (.accept handle))
            (fun _ => Drained ticket) fun _ => Drained ticket := settle_lane rfl
        refine Script.Ensures.ensuring (m := fun _ => Drained ticket)
          (Script.Ensures.ensuring (m := fun _ => At (completing ticket .idle))
            (concludeExecute_keeps _ handle returned) (fun _ => hsettle) fun _ => hsettle)
          (fun _ => ?_) fun _ => ?_
        · exact (acknowledge_drained ticket).quiet
        · exact (acknowledge_drained ticket).quiet
  | _ => exact Script.Ensures.pure fun _ heq => heq ▸ hs

/-- Accepting a goal registers no result request. -/
theorem acceptGoalJob_keeps {info : GoalInfo} {r : Registry} {goalId : GoalId}
    {request : RequestId} (hkeeps : (acceptGoalJob info r).2.Keeps goalId request) :
    r.Keeps goalId request := by
  have hreserve : ∀ goalId request, (r.reserve info.goalId).2.Keeps goalId request →
      r.Keeps goalId request := by
    intro goalId request hkeeps
    have happlied : (r.apply 0 (.reserve info.goalId)).2.Keeps goalId request := hkeeps
    rcases keeps_apply happlied with ⟨record, hfound, hmem, -⟩ | ⟨⟨heq, -⟩, -⟩
    · exact ⟨record, hfound, hmem⟩
    · cases heq
  unfold acceptGoalJob at hkeeps
  rcases hreserved : r.reserve info.goalId with ⟨reserved, r'⟩
  rw [hreserved] at hkeeps hreserve
  cases reserved with
  | false => exact hreserve _ _ hkeeps
  | true =>
    have happlied : (r'.apply 0 (.commit info .defer)).2.Keeps goalId request := hkeeps
    rcases keeps_apply happlied with ⟨record, hfound, hmem, -⟩ | ⟨⟨heq, -⟩, -⟩
    · exact hreserve _ _ ⟨record, hfound, hmem⟩
    · cases heq

/-- The outcome of a job is noted. -/
theorem At.complete (h : At p s) {job : Job} (hjob : s.jobs.lookup ticket = some job)
    (completed : Option Bool) :
    At p {s with jobs := s.jobs.insert ticket {job with completed := completed}} := by
  have hsame : ∀ other job', (s.jobs.insert ticket {job with completed := completed}).lookup other =
      some job' → ∃ old, s.jobs.lookup other = some old ∧
        old.delivery.published = job'.delivery.published ∧ old.request = job'.request := by
    intro other job' hfound
    by_cases heq : other = ticket
    · rw [heq, AList.lookup_insert] at hfound
      rw [← Option.some.inj hfound, heq]
      exact ⟨job, hjob, rfl, rfl⟩
    · rw [AList.lookup_insert_ne heq] at hfound
      exact ⟨job', hfound, rfl, rfl⟩
  refine Lane.Fits.jobs h (h.ledger.job fun other job' hfound => ?_)
    (fun other job' hfound => Or.inl (hsame other job' hfound)) fun other _ old hold => ?_
  · obtain ⟨old, hold, -, hrequest⟩ := hsame other job' hfound
    exact ⟨old, hold, hrequest⟩
  · change ∃ job', (s.jobs.insert ticket _).lookup other = some job' ∧ _
    by_cases heq : other = ticket
    · rw [heq, AList.lookup_insert]
      rw [heq] at hold
      obtain rfl := Option.some.inj (hjob.symm.trans hold)
      exact ⟨_, rfl, rfl⟩
    · rw [AList.lookup_insert_ne heq]
      exact ⟨old, hold, rfl⟩

/-- The worker is done with a job. -/
theorem deliver_at (h : At p s) (succeeds drops : Bool) : At p (s.deliver ticket succeeds drops) := by
  have hsame : ∀ goalId request, s.registry.Keeps goalId request → request ∈ s.taken := h.ledger.kept
  unfold Server.deliver
  split
  · exact h
  · rename_i job hjob
    split
    · rename_i info _
      refine At.registry (h.complete hjob _) fun goalId request hkeeps => ?_
      split_ifs at hkeeps
      · exact hsame goalId request (acceptGoalJob_keeps hkeeps)
      · exact hsame goalId request hkeeps
    · refine At.registry (h.complete hjob _) fun goalId request hkeeps => ?_
      split_ifs at hkeeps
      · exact hsame goalId request (keeps_remove.mp hkeeps).2
      · exact hsame goalId request hkeeps
    · exact h.complete hjob _

/-- A server is let go of when no job is left. -/
theorem retire_between (h : Between s) (hidle : s.stage = .idle) (hunleased : s.unleased = true) :
    Between s.retire := by
  have hjobs : s.jobs.entries = [] := of_decide_eq_true (Bool.and_eq_true_iff.mp hunleased).1
  have hnone : ∀ ticket, s.jobs.lookup ticket = none := by
    intro ticket
    rw [AList.lookup_eq_none]
    intro hmem
    rw [AList.mem_keys, AList.keys, hjobs] at hmem
    exact absurd hmem List.not_mem_nil
  cases h with
  | asking hand stage hasked h =>
    have hsame : stage = .idle := h.stage.symm.trans hidle
    rw [hsame] at hasked
    cases hasked
  | executing ticket handle h => exact absurd (h.stage.symm.trans hidle) (by simp)
  | idle entry h =>
    cases entry with
    | some ticket =>
      obtain ⟨-, job, hjob, -⟩ := h.entry ticket rfl
      exact absurd (hjob.symm.trans (hnone ticket)) (Option.some_ne_none _)
    | none =>
      refine .idle none ⟨⟨fun request work hfound => ?_,h.ledger.jobs,h.ledger.submitted,
        h.ledger.kept,fun hand hmem => absurd hmem List.not_mem_nil,h.ledger.distinct,
        h.ledger.fresh⟩,h.calm,h.busy,fun hfalse => (by cases hfalse),h.stage,
        fun ticket op hop => ?_,fun ticket hticket => (by cases hticket),
        fun ticket job hjob => absurd (hjob.symm.trans (hnone ticket)) (Option.some_ne_none _),
        h.requests⟩
      · change (∅ : Table RequestId Ticket).lookup request = some work at hfound
        rw [AList.lookup_empty] at hfound
        cases hfound
      · change (∅ : Table Ticket Operation).lookup ticket = some op at hop
        rw [AList.lookup_empty] at hop
        cases hop

end

/-- A step in which nothing raises between the lane's start, or the receipt of a
request, and the entry of its owner. -/
def Uninterrupted (_ : Server) (e : Event) : Prop :=
  (∀ x met, e.act = some (x,met) → Calm met) ∧
    ∀ incoming met, e = .takeReady incoming met → incoming.Stamped

/-- The lane and its entries agree. -/
structure LaneOwned (s : Server) : Prop where
  /-- The completion of every request job finds its entry. -/
  owned : ∀ ticket job, s.jobs.lookup ticket = some job → job.delivery.published = false →
    ∃ operation, s.protocol.lookup ticket = some operation
  /-- The lane is busy exactly while there is one entry that has it. -/
  busy : s.laneBusy = true ↔
    ∃! ticket, ∃ operation, s.protocol.lookup ticket = some operation ∧ operation.isLane = true
  /-- There is at most one. -/
  alone : ∀ ticket ticket' operation operation', s.protocol.lookup ticket = some operation →
    operation.isLane = true → s.protocol.lookup ticket' = some operation' →
      operation'.isLane = true → ticket = ticket'
  /-- Its job is outstanding. -/
  outstanding : ∀ ticket operation, s.protocol.lookup ticket = some operation →
    operation.isLane = true →
      ∃ job, s.jobs.lookup ticket = some job ∧ job.delivery.published = false

section

variable {s : Server} {e : Event}

/-- A server is idle at a place of its own. -/
theorem Between.idle_at (h : Between s) (hidle : s.stage = .idle) :
    ∃ entry, At (draining entry none) s := by
  cases h with
  | idle entry h => exact ⟨entry, h⟩
  | executing ticket handle h => exact absurd (h.stage.symm.trans hidle) (by simp)
  | asking hand stage hasked h =>
    have hsame : stage = .idle := h.stage.symm.trans hidle
    rw [hsame] at hasked
    cases hasked

/-- What calls meet is part of the step. -/
theorem Between.meets (h : Between s) {met : Circumstances} (hmet : Calm met) :
    Between {s with circumstances := met} := by
  have hcalm : ∀ {p}, At p s → At p {s with circumstances := met} := fun h =>
    ⟨h.ledger,hmet,h.busy,h.attached,h.stage,h.alone,h.entry,h.owned,h.requests⟩
  cases h with
  | idle entry h => exact .idle entry (hcalm h)
  | asking hand stage hasked h => exact .asking hand stage hasked (hcalm h)
  | executing ticket handle h => exact .executing ticket handle (hcalm h)

/-- What every place keeps, stays between steps. -/
theorem Between.map {t : Server} (h : Between s) (hat : ∀ p, At p s → At p t) : Between t := by
  cases h with
  | idle entry h => exact .idle entry (hat _ h)
  | asking hand stage hasked h => exact .asking hand stage hasked (hat _ h)
  | executing ticket handle h => exact .executing ticket handle (hat _ h)

/-- Every step goes from a place to a place. -/
theorem Between.next (h : Between s) (henabled : machine.enabled s e) (hok : Uninterrupted s e) :
    Between (machine.next s e) := by
  obtain ⟨hcalm, hstamped⟩ := hok
  cases e with
  | takeReady incoming met =>
    obtain ⟨hidle, -, -, -, hattached, hfresh⟩ := henabled
    have hmet := h.meets (hcalm _ met rfl)
    exact (takeReady_between (hstamped incoming met rfl)).state
      ⟨hmet.idle_at hidle, hattached, hfresh⟩
  | goalDecided answer now met =>
    exact (goalDecided_between answer now).state (h.meets (hcalm _ met rfl))
  | cancelDecided answer met =>
    exact (cancelDecided_between answer).state (h.meets (hcalm _ met rfl))
  | drain ticket met =>
    have hmet := h.meets (hcalm _ met rfl)
    exact (drain_between ticket).state (hmet.idle_at henabled.1)
  | executeReturned returned met =>
    exact (executeReturned_between returned).state (h.meets (hcalm _ met rfl))
  | finishExecute handle result met =>
    exact (between_keeps fun p => finishExecute_keeps p handle result).state
      (h.meets (hcalm _ met rfl))
  | terminal handle ending result met =>
    exact (between_keeps fun p => terminal_keeps p handle ending result).state
      (h.meets (hcalm _ met rfl))
  | publishFeedback handle met =>
    exact (between_keeps fun p => (at_stable p).publishFeedback_keeps handle).state
      (h.meets (hcalm _ met rfl))
  | deliver ticket succeeds drops => exact h.map fun p hp => deliver_at hp succeeds drops
  | close => exact h.map fun p hp => hp
  | stop => exact h.map fun p hp => hp
  | retire => exact retire_between h henabled.1 henabled.2.2.2

/-- The lane is free at first. -/
theorem between_initial (resultTimeout : ℕ) (clock : ℤ) :
    Between (Server.initial resultTimeout clock) := by
  have hnone : ∀ {α β : Type} [DecidableEq α] (a : α) (b : β),
      (∅ : Table α β).lookup a ≠ some b := by
    intro α β _ a b heq
    rw [AList.lookup_empty] at heq
    cases heq
  refine .idle none ⟨⟨fun request work hfound => absurd hfound (hnone request work),
    fun ticket job hjob => absurd hjob (hnone ticket job),
    fun ticket job request hjob => absurd hjob (hnone ticket job),
    fun goalId request ⟨record, hfound, _⟩ => absurd hfound (hnone goalId record),
    fun hand hmem => absurd hmem List.not_mem_nil,List.nodup_nil,
    fun request hmem => absurd hmem List.not_mem_nil⟩,
    fun phase _ c hc => absurd hc List.not_mem_nil,rfl,fun hfalse => (by cases hfalse),rfl,
    fun ticket op hop => absurd hop (hnone ticket op),fun ticket hticket => (by cases hticket),
    fun ticket job hjob => absurd hjob (hnone ticket job),
    fun ticket job hjob => absurd hjob (hnone ticket job)⟩

/-- The law of an idle place. -/
theorem At.laneOwned {entry : Option Ticket} (h : At (draining entry none) s) : LaneOwned s where
  owned := fun ticket job hjob hpublished =>
    h.owned ticket job hjob hpublished (Option.some_ne_none _).symm
  busy := by
    have hbusy : s.laneBusy = entry.isSome := h.busy
    rw [hbusy, Option.isSome_iff_exists]
    constructor
    · rintro ⟨ticket, hentry⟩
      refine ⟨ticket, (h.entry ticket hentry).1, ?_⟩
      rintro other ⟨operation, hfound, hlane⟩
      exact Option.some.inj ((h.alone other operation hfound hlane).symm.trans hentry)
    · rintro ⟨ticket, ⟨operation, hfound, hlane⟩, -⟩
      exact ⟨ticket, h.alone ticket operation hfound hlane⟩
  alone := fun ticket ticket' operation operation' hfound hlane hfound' hlane' =>
    Option.some.inj ((h.alone ticket operation hfound hlane).symm.trans
      (h.alone ticket' operation' hfound' hlane'))
  outstanding := fun ticket operation hfound hlane =>
    (h.entry ticket (h.alone ticket operation hfound hlane)).2

end

/-- Where no step is interrupted, the lane is busy between steps exactly while
one entry has it, and every completion finds its entry. -/
theorem lane_owned (resultTimeout : ℕ) (clock : ℤ) (es : List Event) (s : Server)
    (hrun : machine.RunWhen Uninterrupted (Server.initial resultTimeout clock) es s)
    (hidle : s.stage = .idle) : LaneOwned s := by
  have hbetween : Between s := hrun.invariant Between (between_initial resultTimeout clock)
    fun _ _ h henabled hok => h.next henabled hok
  obtain ⟨entry, h⟩ := hbetween.idle_at hidle
  exact h.laneOwned

/-- The first request of the sample runs. -/
def sampleRequest : RequestId := ⟨⟨Vector.replicate 16 2⟩,1⟩

/-- The goal of the sample runs. -/
def sampleGoal : GoalId := ⟨Vector.replicate 16 1⟩

/-- Calls that meet nothing. -/
def undisturbed : Circumstances := fun _ => []

/-- A goal is accepted, executed and ended. -/
def executed : List Event :=
  [.takeReady ⟨some (sampleRequest,some sampleGoal),none,none⟩ undisturbed,
    .goalDecided (some true) 5 undisturbed,.deliver 0 true false,.drain 0 undisturbed,
    .executeReturned (.result none) undisturbed]

/-- A test for steps without interruption. -/
def Event.passes (e : Event) : Bool :=
  (e.act.all fun step =>
    [Phase.beginning,.answering,.restoring].all fun phase => (step.2 phase).all (!·.raises)) &&
  match e with
  | .takeReady incoming _ => incoming.cancel.isNone
  | _ => true

theorem uninterrupted_of_passes (s : Server) (e : Event) (h : e.passes = true) :
    Uninterrupted s e := by
  obtain ⟨hcalm, hcancel⟩ := Bool.and_eq_true_iff.mp h
  refine ⟨fun x met hact phase hdecisive c hc => ?_, ?_⟩
  · rw [hact] at hcalm
    have hphase : phase ∈ [Phase.beginning,.answering,.restoring] := by
      cases phase <;> first | simp; done | cases hdecisive
    have hraises := List.all_eq_true.mp (List.all_eq_true.mp hcalm phase hphase) c hc
    simpa using hraises
  · rintro incoming met rfl hgoal requestId identifier stamp hfound
    change incoming.cancel.isNone = true at hcancel
    rw [hfound] at hcancel
    cases hcancel

/-- The law for a goal. -/
theorem lane_owned_executed :
    ∃ s, machine.RunWhen Uninterrupted (Server.initial 0 0) executed s ∧ LaneOwned s := by
  have hsome : ((machine.exec (Server.initial 0 0) executed).map fun s =>
    decide (s.stage = .idle)) = some true := by decide +kernel
  obtain ⟨s, hexec, hidle⟩ := Option.map_eq_some_iff.mp hsome
  have hrun := Machine.runWhen_of_exec (fun _ e => e.passes) uninterrupted_of_passes hexec
    (by decide +kernel)
  exact ⟨s, hrun, lane_owned 0 0 executed s hrun (of_decide_eq_true hidle)⟩

/-- A cancel request whose stamp is negative: the selection raises, and the
request is discarded by a job without an owner. -/
def misstamped : List Event :=
  [.takeReady ⟨none,some (sampleRequest,none,-1),none⟩ undisturbed]

theorem misstamped_not_owned :
    ¬ ∀ resultTimeout clock es s, machine.Run (Server.initial resultTimeout clock) es s →
      s.stage = .idle → LaneOwned s := by
  intro hclaim
  have hfinal : ((machine.exec (Server.initial 0 0) misstamped).map fun s =>
      decide (s.stage = .idle) && (s.protocol.lookup 1).isNone &&
        (s.jobs.lookup 1).any (!·.delivery.published)) = some true := by decide +kernel
  obtain ⟨s, hexec, htest⟩ := Option.map_eq_some_iff.mp hfinal
  obtain ⟨hfirst, hjob⟩ := Bool.and_eq_true_iff.mp htest
  obtain ⟨hidle, hentry⟩ := Bool.and_eq_true_iff.mp hfirst
  obtain ⟨job, hlookup, hpublished⟩ := (Option.any_eq_true _ _).mp hjob
  have howned := (hclaim 0 0 misstamped s (Machine.run_of_exec hexec) (of_decide_eq_true hidle)).owned
  obtain ⟨operation, hoperation⟩ := howned 1 job hlookup (by simpa using hpublished)
  rw [hoperation] at hentry
  cases hentry

end Dmw.ActionProtocol
