import Dmw.LaneOwnership

/-!
# What becomes of the retained result requests

A result request that is retained waits with its goal until the goal ends, and
is then answered once with the frozen payload. The status is published between
the transition and the hand-over, so the goal has to outlive the publication
and the publication must not raise.
-/

namespace Dmw.ActionProtocol

open Identity KeyedTable GoalRegistry Scripts ResultRequests GuardedRuns

section

variable {r : Registry} {now : ℤ} {op : Op} {goalId : GoalId} {request : RequestId}

/-- A request stays with its goal unless it is handed over, removed or pruned. -/
theorem keeps_stays (hkeeps : r.Keeps goalId request)
    (hpruned : op.prunes = true → ∀ record, r.goals.lookup goalId = some record →
      r.prunable now record = false)
    (htake : op ≠ .takePendingResultRequests goalId)
    (hremove : op ≠ .removeResultRequest request) : (r.apply now op).2.Keeps goalId request := by
  obtain ⟨record, hfound, hmem⟩ := hkeeps
  have howed : (goalId,request) ∈ ResultRequests.settle op (r.apply now op).1 [(goalId,request)] :=
    mem_settle_of_mem List.mem_cons_self (fun _ heq => absurd heq htake) hremove
  refine keeps_of_mem_settle (fun _ => ⟨record, hfound, hmem⟩)
    (fun hop record' hfound' hprunable => ?_) howed
  rw [hpruned hop record' hfound'] at hprunable
  cases hprunable

/-- The operation ends no goal. -/
def lastingOp : Op → Bool
  | .updateState _ .succeed => false
  | .updateState _ .abort => false
  | .updateState _ .canceled => false
  | _ => true

/-- What waits, waits with a goal that has not ended, or is due. -/
def Waiting (due : List RequestId) (r : Registry) : Prop :=
  ∀ goalId record, r.goals.lookup goalId = some record →
    ∀ request ∈ record.pendingResultRequests, request ∉ due →
      isTerminalGoalState record.state = false

/-- Events that end no goal lead to states that are not terminal. -/
theorem active_of_lasting {event : GoalEvent} (hlasting : lastingOp (.updateState goalId event) = true)
    {state next : GoalState} (hnext : nextGoalState state event = some next) :
    isTerminalGoalState next = false := by
  cases event with
  | succeed => cases hlasting
  | abort => cases hlasting
  | canceled => cases hlasting
  | _ => cases state <;> cases hnext <;> rfl

/-- Such an operation leaves what waits with goals that have not ended. -/
theorem Waiting.apply {due : List RequestId} (h : Waiting due r) (hlasting : lastingOp op = true) :
    Waiting due (r.apply now op).2 := by
  intro goalId record' hafter request hmem hdue
  have hstep := Registry.apply_recordStep now op r goalId
  rw [hafter] at hstep
  have hbefore : ∀ record, r.goals.lookup goalId = some record →
      request ∈ record.pendingResultRequests → isTerminalGoalState record.state = false :=
    fun record hfound hmem => h goalId record hfound request hmem hdue
  generalize r.goals.lookup goalId = before at hstep hbefore
  generalize (r.apply now op).1 = outcome at hstep
  cases hstep with
  | keep => exact hbefore record' rfl hmem
  | reserve => cases hmem
  | commit => cases hmem
  | enter event next record hcommitted hactive hnext => exact active_of_lasting hlasting hnext
  | append requestId record hcommitted hactive => exact hactive
  | take => cases hmem
  | forget requestId record => exact hbefore record rfl (List.mem_filter.mp hmem).1

/-- Nothing that waits is pruned. -/
theorem Waiting.unprunable (h : Waiting [] r) (hkeeps : r.Keeps goalId request) :
    ∀ record, r.goals.lookup goalId = some record → r.prunable now record = false := by
  intro record hfound
  obtain ⟨record', hfound', hmem⟩ := hkeeps
  obtain rfl := Option.some.inj (hfound.symm.trans hfound')
  exact Registry.not_prunable_of_active
    (h goalId record hfound request hmem List.not_mem_nil)

end

/-- Which requests are in hand at a place of a step. -/
structure Scene where
  /-- Requests in hand. -/
  hands : List Hand
  /-- Requests that are not taken yet. -/
  unseen : List RequestId
  /-- The work whose callback is waited for. -/
  asked : Option Ticket

/-- A request was answered once, with this payload, and is not retained. -/
def Server.Delivered (s : Server) (request : RequestId) (payload : Payload) : Prop :=
  s.answers.filter (·.1 = request) = [(request,payload)] ∧ s.pendingResults.lookup request = none

/-- Where the retained requests of a server are, while those of a goal that
ended are due. -/
structure Holds (c : Scene) (due : List RequestId) (payload : Payload) (s : Server) : Prop where
  /-- Works, jobs and requests agree. -/
  ledger : s.ledger.Agrees c.hands c.unseen
  /-- Nothing raises after a request is retained. -/
  calm : ∀ met ∈ s.circumstances .restoring, met.raises = false
  /-- Whose callback is waited for. -/
  asked : s.stage.asked = c.asked
  /-- A request that waits with a goal is retained. -/
  kept : ∀ goalId request, s.registry.Keeps goalId request →
    ∃ work, s.pendingResults.lookup request = some work
  /-- It waits with one goal, once. -/
  associated : Associated s.registry
  /-- Goals with waiting requests have not ended. -/
  waiting : Waiting due s.registry
  /-- What was retained still is, and waits with its goal, or the goal ended with it. -/
  retained : ∀ r ∈ s.retained,
    (s.pendingResults.lookup r.request = some r.work ∧ s.registry.Keeps r.goal r.request) ∨
      ∃ t ∈ s.transitions, t.goal = r.goal ∧ r.request ∈ t.waiting
  /-- What waited for a transition was answered with its payload. -/
  delivered : ∀ t ∈ s.transitions, ∀ request ∈ t.waiting, request ∉ due →
    s.Delivered request t.payload
  /-- What is due is retained or in hand. -/
  due_retained : ∀ request ∈ due, (∃ work, s.pendingResults.lookup request = some work) ∨
    request ∈ c.hands.map (·.request)
  /-- It is due the payload of its transition. -/
  due_payload : ∀ request ∈ due, ∀ t ∈ s.transitions, request ∈ t.waiting → t.payload = payload
  /-- What is retained or in hand has no answer. -/
  unanswered : ∀ request, (∃ work, s.pendingResults.lookup request = some work) ∨
    request ∈ c.hands.map (·.request) → ∀ a ∈ s.answers, a.1 ≠ request
  /-- Answers are about requests that were taken. -/
  answered : ∀ a ∈ s.answers, a.1 ∈ s.taken

/-- Nothing is due. -/
def Keeping (c : Scene) : Server → Prop := Holds c [] unknownResult

section

variable {c : Scene} {due : List RequestId} {payload : Payload} {s : Server}

/-- The registry changes; what waits stays with its goal. -/
theorem Holds.registry {registry : Registry} (h : Holds c due payload s)
    (hkeeps : ∀ goalId request, registry.Keeps goalId request → s.registry.Keeps goalId request)
    (hstays : ∀ r ∈ s.retained, s.pendingResults.lookup r.request = some r.work →
      s.registry.Keeps r.goal r.request → registry.Keeps r.goal r.request ∨
        ∃ t ∈ s.transitions, t.goal = r.goal ∧ r.request ∈ t.waiting)
    (hassociated : Associated registry) (hwaiting : Waiting due registry) :
    Holds c due payload {s with registry := registry} where
  ledger := h.ledger.registry fun goalId request hnew =>
    h.ledger.kept goalId request (hkeeps goalId request hnew)
  calm := h.calm
  asked := h.asked
  kept := fun goalId request hnew => h.kept goalId request (hkeeps goalId request hnew)
  associated := hassociated
  waiting := hwaiting
  retained := by
    intro r hr
    rcases h.retained r hr with ⟨hfound, hold⟩ | hended
    · rcases hstays r hr hfound hold with hnew | hended
      · exact Or.inl ⟨hfound, hnew⟩
      · exact Or.inr hended
    · exact Or.inr hended
  delivered := h.delivered
  due_retained := h.due_retained
  due_payload := h.due_payload
  unanswered := h.unanswered
  answered := h.answered

/-- An operation that neither ends a goal nor is about its requests. -/
theorem Holds.apply (h : Holds c [] payload s) (op : Op) (now : ℤ) (hlasting : lastingOp op = true)
    (hregister : ∀ goalId request, op ≠ .registerResultRequest goalId request)
    (htake : ∀ goalId, op ≠ .takePendingResultRequests goalId)
    (hremove : ∀ request, op ≠ .removeResultRequest request) :
    Holds c [] payload {s with registry := (s.registry.apply now op).2} := by
  refine h.registry (fun goalId request hkeeps => ?_) (fun r _ _ hkeeps => Or.inl ?_)
    h.associated.apply (h.waiting.apply hlasting)
  · rcases keeps_apply hkeeps with ⟨record, hfound, hmem, -⟩ | ⟨⟨heq, -⟩, -⟩
    · exact ⟨record, hfound, hmem⟩
    · exact absurd heq (hregister goalId request)
  · exact keeps_stays hkeeps (fun _ => h.waiting.unprunable hkeeps) (htake _) (hremove _)

/-- A quiet operation of the registry. -/
theorem Holds.quiet {op : Op} (h : Holds c [] payload s) (hquiet : quietOp op = true) :
    Holds c [] payload {s with registry := (s.registry.apply s.clock op).2} := by
  have hnot : ∀ other, quietOp other = false → op ≠ other := by
    rintro other hother rfl
    rw [hquiet] at hother
    cases hother
  refine h.apply op s.clock ?_ (fun _ _ => hnot _ rfl) (fun _ => hnot _ rfl) fun _ => hnot _ rfl
  cases op with
  | updateState goalId event => cases event <;> first | rfl | cases hquiet
  | _ => rfl

/-- Calls and publications leave the retained requests as they are. -/
theorem keeping_stable (c : Scene) : Stable (Keeping c) where
  meet _ _ _ _ h hqueue :=
    ⟨h.ledger,calm_rest h.calm hqueue,h.asked,h.kept,h.associated,h.waiting,h.retained,h.delivered,h.due_retained,h.due_payload,
      h.unanswered,h.answered⟩
  registered _ _ h :=
    ⟨h.ledger,h.calm,h.asked,h.kept,h.associated,h.waiting,h.retained,h.delivered,h.due_retained,h.due_payload,
      h.unanswered,h.answered⟩
  publication _ _ _ h :=
    ⟨h.ledger.publish,h.calm,h.asked,h.kept,h.associated,h.waiting,h.retained,h.delivered,h.due_retained,
      h.due_payload,h.unanswered,h.answered⟩
  status _ _ _ _ h :=
    ⟨h.ledger,h.calm,h.asked,h.kept,h.associated,h.waiting,h.retained,h.delivered,h.due_retained,h.due_payload,
      h.unanswered,h.answered⟩
  goals _ _ _ _ _ h :=
    ⟨h.ledger,h.calm,h.asked,h.kept,h.associated,h.waiting,h.retained,h.delivered,h.due_retained,h.due_payload,
      h.unanswered,h.answered⟩
  registry _ _ hquiet h := h.quiet hquiet

end

/-- The place between steps. -/
def resting : Scene := ⟨[],[],none⟩

/-- A request is in hand. -/
def carrying (hand : Hand) : Scene := ⟨[hand],[],none⟩

/-- A callback decides on the request in hand. -/
def asking (hand : Hand) : Scene := ⟨[hand],[],some hand.work⟩

/-- A request is looked for. -/
def looking (unseen : List RequestId) : Scene := ⟨[],unseen,none⟩

section

variable {c : Scene} {due : List RequestId} {payload : Payload} {s : Server} {hand : Hand}
  {hands : List Hand} {unseen : List RequestId} {asked : Option Ticket} {work : Ticket}

/-- A work that is neither retained nor in hand changes. -/
theorem holds_spares (c : Scene) (due : List RequestId) (payload : Payload) :
    Spares (Holds c due payload) c.hands := fun _ _ _ h hpending hhands =>
  ⟨h.ledger.other hpending hhands,h.calm,h.asked,h.kept,h.associated,h.waiting,h.retained,h.delivered,
    h.due_retained,h.due_payload,h.unanswered,h.answered⟩

/-- The request in hand gets its job. -/
theorem Holds.submit (h : Holds ⟨hand :: hands,unseen,asked⟩ due payload s) (new : Work)
    {j : Job} (hjob : j.request = some (hand.kind,hand.request)) (hdue : hand.request ∉ due) :
    Holds ⟨hands,unseen,asked⟩ due payload
      {s with
        works := Function.update s.works hand.work new
        jobs := s.jobs.insert hand.work j} :=
  ⟨h.ledger.submit hjob,h.calm,h.asked,h.kept,h.associated,h.waiting,h.retained,h.delivered,
    fun request hmem => (h.due_retained request hmem).imp id fun hhand =>
      (List.mem_cons.mp hhand).resolve_left (by rintro rfl; exact hdue hmem),h.due_payload,
    fun request hopen => h.unanswered request (hopen.imp id (List.mem_cons_of_mem _)),h.answered⟩

/-- An answer to a request that is neither retained nor in hand any more. -/
theorem Holds.note (h : Holds ⟨hands,unseen,asked⟩ due payload s) {request : RequestId}
    (htaken : request ∈ s.taken) (hnew : ∀ a ∈ s.answers, a.1 ≠ request)
    (hgone : s.pendingResults.lookup request = none) (hhands : request ∉ hands.map (·.request))
    (delivery : Delivery) : Holds ⟨hands,unseen,asked⟩ due payload (s.note request delivery) := by
  cases delivery with
  | result answer =>
    refine ⟨h.ledger,h.calm,h.asked,h.kept,h.associated,h.waiting,h.retained,
      fun t ht other hmem hdue => ?_,h.due_retained,h.due_payload,fun other hopen a ha => ?_,
      fun a ha => ?_⟩
    · obtain ⟨hanswers, hgone'⟩ := h.delivered t ht other hmem hdue
      have hne : request ≠ other := by
        rintro rfl
        have hfound : (request,t.payload) ∈ s.answers.filter (·.1 = request) := by
          rw [hanswers]
          exact List.mem_singleton_self _
        exact hnew _ (List.mem_filter.mp hfound).1 rfl
      refine ⟨?_, hgone'⟩
      change (s.answers ++ [(request,answer)]).filter (·.1 = other) = _
      rw [List.filter_append, hanswers]
      simp [hne]
    · rcases List.mem_append.mp ha with hold | hlast
      · exact h.unanswered other hopen a hold
      · rw [List.mem_singleton.mp hlast]
        rintro rfl
        rcases hopen with ⟨work, hfound⟩ | hmem
        · exact Option.some_ne_none _ (hfound.symm.trans hgone)
        · exact hhands hmem
    · rcases List.mem_append.mp ha with hold | hlast
      · exact h.answered a hold
      · rw [List.mem_singleton.mp hlast]
        exact htaken
  | _ => exact h

/-- The request in hand has no answer, and is taken and not retained. -/
theorem Holds.inHand (h : Holds ⟨hand :: hands,unseen,asked⟩ due payload s) :
    s.ledger.Open hand ∧ s.pendingResults.lookup hand.request = none ∧
      (∀ a ∈ s.answers, a.1 ≠ hand.request) ∧ hand.request ∉ hands.map (·.request) := by
  obtain ⟨hopen, hgone⟩ := h.ledger.inHand hand List.mem_cons_self
  exact ⟨hopen, hgone, h.unanswered hand.request (Or.inr List.mem_cons_self),
    (List.nodup_cons.mp h.ledger.distinct).1⟩

/-- The response to the request in hand is submitted, or the call raises. -/
theorem submit_holds (phase : Phase) {delivery : Delivery} (hdelivery : delivery.published = false) :
    Script.Ensures (Keeping (carrying hand)) (submit phase hand.work delivery)
      (fun _ s => Keeping resting s ∧ Submitted hand.work s) fun _ => Keeping (carrying hand) := by
  refine ((keeping_stable _).circumstance_keeps phase).bind fun _ =>
    Script.Ensures.inspect fun s h => ?_
  obtain ⟨hopen, hgone, hnew, hhands⟩ := h.inHand
  have hwaits : s.works hand.work = ⟨hand.kind,some hand.request,false,true⟩ := hopen.waits
  simp only [hwaits]
  refine Script.Ensures.modify ?_
  rintro s rfl
  refine ⟨?_, submitted_enqueue hdelivery _ _ s⟩
  rw [enqueue_waiting hwaits]
  have hafter := h.submit ⟨hand.kind,some hand.request,true,true⟩
    (j := ⟨some (hand.kind,hand.request),delivery,none⟩) rfl List.not_mem_nil
  exact hafter.note hopen.taken hnew hgone hhands delivery

/-- A request that was not answered is discarded. -/
theorem release_carried (hand : Hand) :
    Script.Ensures (Keeping (carrying hand)) (release hand.work) (fun _ => Keeping resting)
      fun _ _ => False := by
  refine Script.Ensures.modify fun s h => ?_
  have hwaits : s.works hand.work = ⟨hand.kind,some hand.request,false,true⟩ := h.inHand.1.waits
  have hsame : {(s.enqueue hand.work .discard) with
        works := Function.update (s.enqueue hand.work .discard).works hand.work
          {(s.enqueue hand.work .discard).works hand.work with held := false}} =
      {s with
        works := Function.update s.works hand.work ⟨hand.kind,some hand.request,true,false⟩
        jobs := s.jobs.insert hand.work ⟨some (hand.kind,hand.request),.discard,none⟩} := by
    simp only [Server.enqueue, hwaits, Option.map_some, Function.update_self, Function.update_idem]
  dsimp only
  rw [hwaits]
  simp only [Option.isSome_some, Bool.not_false, Bool.and_true, if_true]
  rw [hsame]
  exact h.submit _ rfl List.not_mem_nil

end

/-- How far a request came. -/
def Took (hand : Hand) : Progress → Server → Prop
  | .declined, _ => False
  | .asking, s => Keeping (asking hand) s
  | .retained, s => Keeping resting s
  | .answered, s => Keeping resting s ∧ Submitted hand.work s

section

variable {hand : Hand}

/-- A step on the request in hand. -/
abbrev Takes (hand : Hand) (x : Act Progress) : Prop :=
  Script.Ensures (Keeping (carrying hand)) x (Took hand) fun _ => Keeping (carrying hand)

/-- The response is submitted and its owner recorded. -/
theorem answer_takes (hand : Hand) {delivery : Delivery} (hdelivery : delivery.published = false)
    (operation : Operation) :
    Takes hand (do
      submit .answering hand.work delivery
      own hand.work operation
      pure .answered) := by
  refine (submit_holds .answering hdelivery).bind fun _ => ?_
  refine Script.Ensures.bind (m := fun _ s => Keeping resting s ∧ Submitted hand.work s)
    (Script.Ensures.modify fun s hs => ?_) fun _ => Script.Ensures.pure fun _ h => h
  obtain ⟨h, hsubmitted⟩ := hs
  exact ⟨⟨h.ledger,h.calm,h.asked,h.kept,h.associated,h.waiting,h.retained,h.delivered,
    h.due_retained,h.due_payload,h.unanswered,h.answered⟩, hsubmitted⟩

/-- A callback is asked. -/
theorem asking_takes (hand : Hand) {stage : Stage} (hstage : stage.asked = some hand.work) :
    Takes hand (do
      Script.modify fun s => {s with stage := stage}
      pure .asking) := by
  refine Script.Ensures.bind (m := fun _ => Keeping (asking hand))
    (Script.Ensures.modify fun s h => ?_) fun _ => Script.Ensures.pure fun _ h => h
  exact ⟨h.ledger,h.calm,hstage,h.kept,h.associated,h.waiting,h.retained,h.delivered,
    h.due_retained,h.due_payload,h.unanswered,h.answered⟩

theorem refuseGoal_takes (hand : Hand) : Takes hand (refuseGoal hand.work) :=
  answer_takes hand rfl .reject

theorem acceptGoal_takes (hand : Hand) (goalId : GoalId) (now : ℤ) :
    Takes hand (acceptGoal hand.work goalId now) := by
  refine ((keeping_stable _).circumstance_keeps _).bind fun _ => Script.Ensures.observe fun s => ?_
  exact Script.Ensures.bind (m := fun _ => Keeping (carrying hand))
    (Script.Ensures.modify fun s h => (keeping_stable _).goals s s.goals s.results _ _ h)
    fun _ => answer_takes hand rfl _

theorem takeGoal_takes (hand : Hand) (identifier : Option GoalId) :
    Takes hand (takeGoal hand.work identifier) := by
  refine Script.Ensures.observe fun s => ?_
  cases identifier with
  | none => exact refuseGoal_takes hand
  | some goalId =>
    dsimp only
    split_ifs
    · exact refuseGoal_takes hand
    · exact asking_takes hand rfl

/-- A candidate is committed, or not. -/
theorem commitCancel_keeps (c : Scene) (committed : List GoalInfo)
    (accepted : GoalInfo × HandleId) :
    Script.Keeps (Keeping c) (commitCancel committed accepted) := by
  refine (Script.Ensures.attempt (q := fun _ => Keeping c) ((keeping_stable c).native_keeps
    fun now r => ⟨.updateState accepted.1.goalId .cancelGoal, rfl, rfl⟩)).bind fun outcome => ?_
  cases outcome with
  | error e => exact Script.Ensures.pure fun _ h => h
  | ok transition =>
    refine Script.Ensures.bind (m := fun _ => Keeping c)
      (Script.Ensures.modify fun s h =>
        (keeping_stable c).goals s s.goals s.results _ s.nextHandle h) fun _ => ?_
    exact ((keeping_stable c).circumstance_keeps _).bind fun _ => Script.Ensures.pure fun _ h => h

theorem answerCancel_takes (hand : Hand) (returnCode : ℤ) (goals : List GoalInfo) :
    Takes hand (answerCancel hand.work returnCode goals) := answer_takes hand rfl .cancel

theorem commitCancels_takes (hand : Hand) (accepted : List (GoalInfo × HandleId)) :
    Takes hand (commitCancels hand.work accepted) := by
  refine (Script.Ensures.fold (p := fun _ => Keeping (carrying hand))
    (fun committed candidate => commitCancel_keeps _ committed candidate) [] accepted).bind
    fun committed => ?_
  refine Script.Ensures.bind (m := fun _ => Keeping (carrying hand)) ?_
    fun _ => answerCancel_takes hand _ _
  unfold announce
  split_ifs
  · exact Script.Ensures.pure fun _ h => h
  · exact (keeping_stable _).publishStatus_keeps _

theorem considerCandidates_takes (hand : Hand) (candidates : List GoalInfo)
    (accepted : List (GoalInfo × HandleId)) :
    Takes hand (considerCandidates hand.work candidates accepted) := by
  induction candidates with
  | nil => exact commitCancels_takes hand accepted
  | cons info rest ih =>
    refine Script.Ensures.observe fun s => ?_
    cases s.goals.lookup info.goalId with
    | none => exact ih
    | some handle => exact asking_takes hand rfl

theorem selectCandidates_takes (hand : Hand) (identifier : Option GoalId) (stamp : ℤ) :
    Takes hand (selectCandidates hand.work identifier stamp) := by
  refine ((keeping_stable _).native_keeps fun now r => ⟨.selectCancelGoals
    ⟨identifier.getD noGoalId,stamp⟩, rfl, rfl⟩).bind fun candidates => ?_
  exact considerCandidates_takes hand candidates []

theorem takeCancel_takes (hand : Hand) (identifier : Option GoalId) (stamp : ℤ) :
    Takes hand (takeCancel hand.work identifier stamp) := by
  refine ((keeping_stable _).circumstance_keeps _).bind fun _ => ?_
  cases identifier.filter fun goalId => !isZeroGoalId goalId && decide (stamp = 0) with
  | none => exact selectCandidates_takes hand identifier stamp
  | some goalId =>
    refine (Script.Ensures.attempt (q := fun _ => Keeping (carrying hand))
      ((keeping_stable _).native_keeps fun now r => ⟨.state goalId, rfl, rfl⟩)).bind
      fun outcome => ?_
    cases outcome with
    | error e => exact answerCancel_takes hand errorUnknownGoalId []
    | ok state =>
      dsimp only
      split_ifs
      · exact selectCandidates_takes hand identifier stamp
      · exact answerCancel_takes hand errorGoalTerminated []

end

/-- What a server that meets a call registers. -/
def Server.register (s : Server) (goalId : GoalId) (request : RequestId) :
    Result ResultRequestDisposition × Registry :=
  s.registry.registerResultRequest s.clock goalId request

section

variable {hand : Hand} {s : Server} {goalId : GoalId}

theorem register_apply (s : Server) (goalId : GoalId) (request : RequestId) :
    (s.register goalId request).2 =
      (s.registry.apply s.clock (.registerResultRequest goalId request)).2 := rfl

/-- What the goals keep after a registration. -/
theorem keeps_register {request : RequestId} {goalId' : GoalId} {request' : RequestId}
    (hkeeps : (s.register goalId request).2.Keeps goalId' request') :
    s.registry.Keeps goalId' request' ∨
      (s.register goalId request).1 = .ok .pending ∧ goalId' = goalId ∧ request' = request := by
  have happlied : (s.registry.apply s.clock (.registerResultRequest goalId request)).2.Keeps
      goalId' request' := hkeeps
  rcases keeps_apply happlied with ⟨record, hfound, hmem, -⟩ | ⟨⟨heq, houtcome⟩, -⟩
  · exact Or.inl ⟨record, hfound, hmem⟩
  · obtain ⟨rfl, rfl⟩ := Op.registerResultRequest.inj heq
    exact Or.inr ⟨Outcome.disposition.inj houtcome, rfl, rfl⟩

/-- What waits stays after a registration. -/
theorem stays_register (h : Keeping (carrying hand) s) {goalId' : GoalId} {request' : RequestId}
    (request : RequestId) (hkeeps : s.registry.Keeps goalId' request') :
    (s.register goalId request).2.Keeps goalId' request' := by
  rw [register_apply]
  exact keeps_stays hkeeps (fun _ => h.waiting.unprunable hkeeps) (by simp) (by simp)

/-- A pending request waits with its goal. -/
theorem waits_register (h : Waiting [] s.registry) {request : RequestId}
    (hpending : (s.register goalId request).1 = .ok .pending) :
    (s.register goalId request).2.Keeps goalId request := by
  have houtcome : (s.registry.apply s.clock (.registerResultRequest goalId request)).1 =
      .disposition (.ok .pending) := congrArg Outcome.disposition hpending
  have howed : (goalId,request) ∈
      ResultRequests.settle (.registerResultRequest goalId request)
      (s.registry.apply s.clock (.registerResultRequest goalId request)).1 [] := by
    rw [houtcome]
    exact List.mem_singleton_self _
  rw [register_apply]
  refine keeps_of_mem_settle (fun hno => absurd hno List.not_mem_nil)
    (fun _ record hfound hprunable => ?_) howed
  by_contra hne
  obtain ⟨request', hmem⟩ := List.exists_mem_of_ne_nil _ hne
  rw [h.unprunable ⟨record, hfound, hmem⟩ record hfound] at hprunable
  cases hprunable

/-- The registration keeps the lists as they should be. -/
theorem associated_register (h : Associated s.registry) (request : RequestId) :
    Associated (s.register goalId request).2 := by
  rw [register_apply]
  exact h.apply

theorem waiting_register {due : List RequestId} (h : Waiting due s.registry)
    (request : RequestId) : Waiting due (s.register goalId request).2 := by
  rw [register_apply]
  exact h.apply rfl

/-- A request that is not to wait changes nothing. -/
theorem keeping_unregistered (h : Keeping (carrying hand) s)
    (hnot : (s.register goalId hand.request).1 ≠ .ok .pending) :
    Keeping (carrying hand) {s with registry := (s.register goalId hand.request).2} := by
  refine Holds.registry h (fun goalId' request' hkeeps => ?_)
    (fun r _ _ hkeeps => Or.inl (stays_register h _ hkeeps))
    (associated_register h.associated _) (waiting_register h.waiting _)
  exact (keeps_register hkeeps).resolve_right fun hpending => hnot hpending.1

/-- A request that is to wait is retained. -/
theorem keeping_retain (h : Keeping (carrying hand) s) (hkind : hand.kind = .result)
    (hpending : (s.register goalId hand.request).1 = .ok .pending) :
    Keeping resting
      {s with
        registry := (s.register goalId hand.request).2
        pendingResults := s.pendingResults.insert hand.request hand.work
        retained := s.retained ++ [⟨hand.request,goalId,hand.work⟩]} := by
  obtain ⟨hopen, hgone, hnew, -⟩ := h.inHand
  have hlookup : ∀ request work, s.pendingResults.lookup request = some work →
      (s.pendingResults.insert hand.request hand.work).lookup request = some work := by
    intro request work hfound
    have hne : request ≠ hand.request := by
      rintro rfl
      exact Option.some_ne_none _ (hfound.symm.trans hgone)
    rw [AList.lookup_insert_ne hne]
    exact hfound
  have htaken : ∀ goalId' request', (s.register goalId hand.request).2.Keeps goalId' request' →
      request' ∈ s.taken := by
    intro goalId' request' hkeeps
    rcases keeps_register hkeeps with hold | ⟨-, -, rfl⟩
    · exact h.ledger.kept goalId' request' hold
    · exact hopen.taken
  refine ⟨Ledger.Agrees.retain (h.ledger.registry htaken) hkind,h.calm,h.asked,
    fun goalId' request' hkeeps => ?_,associated_register h.associated _,
    waiting_register h.waiting _,fun r hr => ?_,
    fun t ht request hmem hdue => ?_,fun request hno => absurd hno List.not_mem_nil,
    fun request hno => absurd hno List.not_mem_nil,fun request hretained a ha => ?_,h.answered⟩
  · rcases keeps_register hkeeps with hold | ⟨-, -, rfl⟩
    · obtain ⟨work, hfound⟩ := h.kept goalId' request' hold
      exact ⟨work, hlookup request' work hfound⟩
    · exact ⟨hand.work, AList.lookup_insert _⟩
  · rcases List.mem_append.mp hr with hold | hlast
    · rcases h.retained r hold with ⟨hfound, hkeeps⟩ | hended
      · exact Or.inl ⟨hlookup _ _ hfound, stays_register h _ hkeeps⟩
      · exact Or.inr hended
    · rw [List.mem_singleton.mp hlast]
      exact Or.inl ⟨AList.lookup_insert _, waits_register h.waiting hpending⟩
  · obtain ⟨hanswers, hgone'⟩ := h.delivered t ht request hmem hdue
    have hne : request ≠ hand.request := by
      rintro rfl
      have hfound : (hand.request,t.payload) ∈ s.answers.filter (·.1 = hand.request) := by
        rw [hanswers]
        exact List.mem_singleton_self _
      exact hnew _ (List.mem_filter.mp hfound).1 rfl
    refine ⟨hanswers, ?_⟩
    change (s.pendingResults.insert hand.request hand.work).lookup request = none
    rw [AList.lookup_insert_ne hne, hgone']
  · by_cases heq : request = hand.request
    · exact heq ▸ hnew a ha
    · rcases hretained with ⟨work, hfound⟩ | hmem
      · change (s.pendingResults.insert hand.request hand.work).lookup request = some work at hfound
        rw [AList.lookup_insert_ne heq] at hfound
        exact h.unanswered request (Or.inl ⟨work, hfound⟩) a ha
      · exact absurd hmem List.not_mem_nil

/-- After the registration of a request. -/
def Registered (hand : Hand) (goalId : GoalId) (disposition : ResultRequestDisposition)
    (s : Server) : Prop :=
  ∃ before, Keeping (carrying hand) before ∧
    (before.register goalId hand.request).1 = .ok disposition ∧
      s = {before with registry := (before.register goalId hand.request).2}

theorem register_holds (hand : Hand) (goalId : GoalId) :
    Script.Ensures (Keeping (carrying hand))
      (native .answering fun now r => r.registerResultRequest now goalId hand.request)
      (Registered hand goalId) fun _ => Keeping (carrying hand) := by
  refine native_ensures ((keeping_stable _).circumstance_keeps _)
    (fun s disposition h hok => ⟨s, h, hok, rfl⟩) fun s e h herror => ?_
  have hfailed : (s.register goalId hand.request).1 = .error e := herror
  refine keeping_unregistered h ?_
  rw [hfailed]
  simp

/-- Nothing raises once a request is retained. -/
theorem finishLane_keeping (c : Scene) :
    Script.Ensures (Keeping c) (finishLane .restoring) (fun _ => Keeping c) fun _ _ => False := by
  refine Script.Ensures.bind (m := fun _ => Keeping c) (Script.Ensures.modify fun s h => ?_)
    fun _ => Script.Ensures.observe fun s => ?_
  · exact ⟨h.ledger,h.calm,h.asked,h.kept,h.associated,h.waiting,h.retained,h.delivered,
      h.due_retained,h.due_payload,h.unanswered,h.answered⟩
  · split_ifs
    · exact Script.Ensures.pure fun _ h => h
    · refine (circumstance_calm (fun s met rest => (keeping_stable c).meet s _ met rest)
        fun s h => h.calm).bind fun _ => ?_
      exact Script.Ensures.modify fun s h => (keeping_stable c).registered s true h

theorem unknownResult_takes (hand : Hand) :
    Takes hand (do
      circumstance .answering
      answerResult hand.work unknownResult) :=
  ((keeping_stable _).circumstance_keeps _).bind fun _ => answer_takes hand rfl .result

theorem takeResult_takes (hand : Hand) (hkind : hand.kind = .result) (identifier : Option GoalId) :
    Takes hand (takeResult hand.work hand.request identifier) := by
  cases identifier with
  | none => exact unknownResult_takes hand
  | some goalId =>
    refine (register_holds hand goalId).bind fun disposition => Script.Ensures.inspect ?_
    rintro _ ⟨s, h, houtcome, rfl⟩
    have hunregistered : disposition ≠ .pending → Keeping (carrying hand)
        {s with registry := (s.register goalId hand.request).2} := by
      intro hne
      refine keeping_unregistered h ?_
      rw [houtcome]
      simpa using hne
    cases disposition with
    | pending =>
      refine Script.Ensures.bind (m := fun _ => Keeping resting) (Script.Ensures.modify ?_)
        fun _ => ?_
      · rintro _ rfl
        exact keeping_retain h hkind houtcome
      · exact (finishLane_keeping resting).quiet.bind fun _ => Script.Ensures.pure fun _ h => h
    | unknownGoal => exact (unknownResult_takes hand).exact (hunregistered (by simp))
    | terminal =>
      cases s.results.lookup goalId with
      | none => exact (unknownResult_takes hand).exact (hunregistered (by simp))
      | some payload => exact (answer_takes hand rfl .result).exact (hunregistered (by simp))

/-- A request is handled according to its kind. -/
theorem handle_takes (hand : Hand) (request : Request)
    (hkind : ∀ identifier, request = .result identifier → hand.kind = .result) :
    Takes hand (handle hand.work hand.request request) := by
  cases request with
  | goal identifier => exact takeGoal_takes hand identifier
  | cancel identifier stamp => exact takeCancel_takes hand identifier stamp
  | result identifier => exact takeResult_takes hand (hkind identifier rfl) identifier

end

/-- Where a server can be between steps. -/
inductive Rested (s : Server) : Prop
  | idle : Keeping resting s → Rested s
  | waits (hand : Hand) : Keeping (asking hand) s → Rested s

/-- A work without an answer: its request is in hand, or it has none. -/
inductive Unanswered (work : Ticket) (s : Server) : Prop
  | carried (hand : Hand) : hand.work = work → Keeping (carrying hand) s → Unanswered work s
  | reserved (unseen : List RequestId) (kind : Kind) : Keeping (looking unseen) s →
      s.ledger.Reserved work kind → Unanswered work s

/-- How far a work came, while requests are looked for. -/
def Came (work : Ticket) (unseen : List RequestId) : Progress → Server → Prop
  | .declined, s => Keeping (looking unseen) s ∧ ∃ kind, s.ledger.Reserved work kind
  | .asking, s => ∃ hand, Keeping (asking hand) s
  | .retained, s => Keeping resting s
  | .answered, s => Keeping resting s ∧ Submitted work s

section

variable {hand : Hand} {s : Server} {work : Ticket} {kind : Kind} {unseen : List RequestId}
  {incoming : Incoming}

/-- What was not taken is forgotten. -/
theorem keeping_forget (h : Keeping (looking unseen) s) : Keeping resting s :=
  ⟨h.ledger.forget,h.calm,h.asked,h.kept,h.associated,h.waiting,h.retained,h.delivered,
    h.due_retained,h.due_payload,h.unanswered,h.answered⟩

/-- What every place keeps, the places between steps keep. -/
theorem rested_keeps {α : Type} {x : Act α} (hx : ∀ c, Script.Keeps (Keeping c) x) :
    Script.Keeps Rested x := by
  intro s hs
  cases hs with
  | idle h =>
    exact ((hx _).weaken (fun _ h => h) (fun _ _ => Rested.idle) fun _ _ => Rested.idle) s h
  | waits hand h =>
    exact ((hx _).weaken (fun _ h => h) (fun _ _ => Rested.waits hand)
      fun _ _ => Rested.waits hand) s h

/-- The lane goes free. -/
theorem finishLane_keeps (c : Scene) (phase : Phase) :
    Script.Keeps (Keeping c) (finishLane phase) := by
  refine Script.Ensures.bind (m := fun _ => Keeping c) (Script.Ensures.modify fun s h => ?_)
    fun _ => (keeping_stable c).restoreRegistration_keeps phase
  exact ⟨h.ledger,h.calm,h.asked,h.kept,h.associated,h.waiting,h.retained,h.delivered,
    h.due_retained,h.due_payload,h.unanswered,h.answered⟩

/-- A work that has its job is let go. -/
theorem release_submitted_keeping (c : Scene) (work : Ticket) :
    Script.Ensures (fun s => Keeping c s ∧ Submitted work s) (release work) (fun _ => Keeping c)
      fun _ _ => False :=
  release_submitted (fun _ h => h.ledger) (holds_spares c [] unknownResult) work

/-- A work that has taken nothing is let go. -/
theorem release_reserved_keeping (c : Scene) (work : Ticket) (kind : Kind) :
    Script.Ensures (fun s => Keeping c s ∧ s.ledger.Reserved work kind) (release work)
      (fun _ => Keeping c) fun _ _ => False :=
  release_reserved (fun _ h => h.ledger) (holds_spares c [] unknownResult) work kind

/-- A work without an answer is let go. -/
theorem release_unanswered (work : Ticket) :
    Script.Ensures (Unanswered work) (release work) (fun _ => Rested) fun _ _ => False := by
  intro s hs
  cases hs with
  | carried hand hwork h =>
    subst hwork
    exact ((release_carried hand).weaken (fun _ h => h) (fun _ _ => Rested.idle)
      fun _ _ h => h) s h
  | reserved unseen kind h hreserved =>
    exact ((release_reserved_keeping (looking unseen) work kind).weaken
      (fun _ h => h) (fun _ _ h => Rested.idle (keeping_forget h)) fun _ _ h => h) s ⟨h, hreserved⟩

/-- The `finally` around a request. -/
theorem carry_came {x : Act Progress} {pre : Server → Prop}
    (hx : Script.Ensures pre x (Came work unseen) fun _ => Unanswered work) :
    Script.Ensures pre (carry work x)
      (fun found s => if found then Rested s else Keeping (looking unseen) s)
      fun _ => Rested := by
  refine (Script.Ensures.attempt (q := Script.either (Came work unseen)
    fun _ => Unanswered work) hx).bind fun outcome => ?_
  rcases outcome with e | progress
  · exact (release_unanswered work).quiet.bind fun _ => Script.Ensures.raise fun _ h => h
  · cases progress with
    | declined =>
      refine Script.Ensures.bind (m := fun _ => Keeping (looking unseen)) ?_ fun _ =>
        Script.Ensures.pure fun _ h => h
      intro s ⟨h, kind, hreserved⟩
      have hrelease : Script.Ensures
          (fun s => Keeping (looking unseen) s ∧ s.ledger.Reserved work kind) (release work)
          (fun _ => Keeping (looking unseen)) fun _ => Rested :=
        (release_reserved_keeping (looking unseen) work kind).quiet
      exact hrelease s ⟨h, hreserved⟩
    | asking => exact Script.Ensures.pure fun _ ⟨hand, h⟩ => .waits hand h
    | retained => exact Script.Ensures.pure fun _ h => .idle h
    | answered =>
      exact (release_submitted_keeping resting work).quiet.bind
        fun _ => Script.Ensures.pure fun _ h => .idle h

/-- What a request in hand comes to. -/
theorem Script.Ensures.came {x : Act Progress} (hx : Takes hand x) :
    Script.Ensures (Keeping (carrying hand)) x (Came hand.work unseen)
      fun _ => Unanswered hand.work := by
  refine hx.weaken (fun _ h => h) (fun progress s h => ?_) fun _ _ h => .carried hand rfl h
  cases progress with
  | declined => exact h.elim
  | asking => exact ⟨hand, h⟩
  | retained => exact h
  | answered => exact h

/-- A work is reserved. -/
theorem newWork_keeping (unseen : List RequestId) (kind : Kind) :
    Script.Ensures (Keeping (looking unseen)) (newWork kind)
      (fun work s => Keeping (looking unseen) s ∧ s.ledger.Reserved work kind)
      fun _ => Keeping (looking unseen) := by
  refine ((keeping_stable _).circumstance_keeps _).bind fun _ =>
    Script.Ensures.inspect fun s h => ?_
  refine Script.Ensures.bind
    (m := fun _ s' => Keeping (looking unseen) s' ∧ s'.ledger.Reserved s.nextTicket kind)
    (Script.Ensures.modify ?_) fun _ => Script.Ensures.pure fun _ h => h
  rintro s rfl
  exact ⟨⟨h.ledger.reserve kind,h.calm,h.asked,h.kept,h.associated,h.waiting,h.retained,
    h.delivered,h.due_retained,h.due_payload,h.unanswered,h.answered⟩, h.ledger.reserved kind⟩

/-- A new request is taken. -/
theorem keeping_receive (h : Keeping (looking unseen) s) (hreserved : s.ledger.Reserved work kind)
    {request : RequestId} (hnew : request ∉ s.taken) :
    Keeping (carrying ⟨work,kind,request⟩)
      {s with
        works := Function.update s.works work {s.works work with requestId := some request}
        taken := request :: s.taken} := by
  refine ⟨h.ledger.receive hreserved hnew,h.calm,h.asked,h.kept,h.associated,h.waiting,h.retained,
    h.delivered,fun _ hno => absurd hno List.not_mem_nil,h.due_payload,fun other hopen a ha => ?_,
    fun a ha => List.mem_cons_of_mem _ (h.answered a ha)⟩
  rcases hopen with hretained | hmem
  · exact h.unanswered other (Or.inl hretained) a ha
  · rw [List.mem_singleton.mp hmem]
    rintro rfl
    exact hnew (h.answered a ha)

/-- A request of one kind is taken and handled, if there is one. -/
theorem takeKind_keeping (incoming : Incoming) (kind : Kind) :
    Script.Ensures (Keeping (looking incoming.identities)) (takeKind incoming kind)
      (fun found s => if found then Rested s else Keeping (looking incoming.identities) s)
      fun _ => Rested := by
  refine Script.Ensures.bind (m := fun work s => Keeping (looking incoming.identities) s ∧
    s.ledger.Reserved work kind) ((newWork_keeping _ kind).weaken (fun _ h => h) (fun _ _ h => h)
    fun _ _ h => .idle (keeping_forget h)) fun work => carry_came ?_
  have hmeet : Script.Ensures
      (fun s => Keeping (looking incoming.identities) s ∧ s.ledger.Reserved work kind)
      (circumstance .taking)
      (fun _ s => Keeping (looking incoming.identities) s ∧ s.ledger.Reserved work kind)
      fun _ => Unanswered work :=
    (circumstance_keeps fun s met rest hs hqueue =>
      ⟨(keeping_stable _).meet s .taking met rest hs.1 hqueue, hs.2⟩).weaken (fun _ h => h)
      (fun _ _ h => h) fun _ _ h => .reserved _ kind h.1 h.2
  cases hrequest : incoming.request kind with
  | none =>
    refine Script.Ensures.bind (m := fun received s => received = none ∧
      Keeping (looking incoming.identities) s ∧ s.ledger.Reserved work kind)
      (hmeet.bind fun _ => Script.Ensures.pure fun _ h => ⟨rfl, h⟩) fun received => ?_
    rintro s ⟨rfl, h, hreserved⟩
    exact ⟨h, kind, hreserved⟩
  | some request =>
    obtain ⟨requestId, request⟩ := request
    have hhandle : Takes ⟨work,kind,requestId⟩ (handle work requestId request) := by
      refine handle_takes ⟨work,kind,requestId⟩ request ?_
      rintro identifier rfl
      exact kind_of_result hrequest
    refine Script.Ensures.bind (m := fun received s => received = some (requestId,request) ∧
      Keeping (carrying ⟨work,kind,requestId⟩) s) ?_ fun received => ?_
    · refine hmeet.bind fun _ => Script.Ensures.bind
        (m := fun _ => Keeping (carrying ⟨work,kind,requestId⟩))
        (Script.Ensures.modify fun s hs => ?_) fun _ => Script.Ensures.pure fun _ h => ⟨rfl, h⟩
      exact keeping_receive hs.1 hs.2 (hs.1.ledger.fresh _ (mem_identities hrequest))
    · rintro s ⟨rfl, h⟩
      exact Script.Ensures.came hhandle s h

/-- The first request is taken and handled; without one the lane goes free. -/
theorem takeFirst_keeping (incoming : Incoming) (kinds : List Kind) :
    Script.Ensures (Keeping (looking incoming.identities)) (takeFirst incoming kinds)
      (fun _ => Rested) fun _ => Rested := by
  induction kinds with
  | nil =>
    exact (finishLane_keeps _ .settling).weaken (fun _ h => h)
      (fun _ _ h => .idle (keeping_forget h)) fun _ _ h => .idle (keeping_forget h)
  | cons kind rest ih =>
    refine (takeKind_keeping incoming kind).bind fun found => ?_
    cases found with
    | true => exact Script.Ensures.pure fun _ h => h
    | false => exact ih

end

section

variable {hand : Hand} {s : Server} {incoming : Incoming} {ticket : Ticket}

/-- What is raised frees the lane. -/
theorem guardLane_rested {x : Act Unit} {pre : Server → Prop}
    (hx : Script.Ensures pre x (fun _ => Rested) fun _ => Rested) :
    Script.Ensures pre (guardLane x) (fun _ => Rested) fun _ => Rested := by
  refine (Script.Ensures.attempt (q := fun _ => Rested) hx).bind fun outcome => ?_
  rcases outcome with e | _
  · exact (rested_keeps fun c => finishLane_keeps c .settling).bind fun _ =>
      Script.Ensures.raise fun _ h => h
  · exact Script.Ensures.pure fun _ h => h

/-- The lane is taken. -/
theorem beginLane_keeps (c : Scene) : Script.Keeps (Keeping c) beginLane := by
  refine Script.Ensures.observe fun s => ?_
  split_ifs
  · exact Script.Ensures.raise fun _ h => h
  · refine Script.Ensures.bind (m := fun _ => Keeping c) (Script.Ensures.modify fun s h => ?_)
      fun _ => (keeping_stable c).suspendRegistration_keeps
    exact ⟨h.ledger,h.calm,h.asked,h.kept,h.associated,h.waiting,h.retained,h.delivered,
      h.due_retained,h.due_payload,h.unanswered,h.answered⟩

/-- The requests to come are kept apart from those taken. -/
theorem keeping_expects (h : Keeping resting s) (hfresh : s.fresh incoming = true) :
    Keeping (looking incoming.identities) s :=
  ⟨⟨h.ledger.pending,h.ledger.jobs,h.ledger.submitted,h.ledger.kept,h.ledger.inHand,
    h.ledger.distinct,fresh_identities hfresh⟩,h.calm,h.asked,h.kept,h.associated,h.waiting,
    h.retained,h.delivered,h.due_retained,h.due_payload,h.unanswered,h.answered⟩

/-- The dispatch of a ready server. -/
theorem takeReady_rested (incoming : Incoming) :
    Script.Ensures (Keeping (looking incoming.identities)) (takeReady incoming) (fun _ => Rested)
      fun _ => Rested := by
  refine Script.Ensures.observe fun s => ?_
  split_ifs
  · exact Script.Ensures.pure fun _ h => .idle (keeping_forget h)
  · refine Script.Ensures.bind (m := fun _ => Keeping (looking incoming.identities))
      ((beginLane_keeps _).weaken (fun _ h => h) (fun _ _ h => h)
        fun _ _ h => .idle (keeping_forget h)) fun _ => guardLane_rested ?_
    refine Script.Ensures.bind (m := fun _ => Keeping (looking incoming.identities))
      ((keeping_stable _).forgetExpired_keeps.weaken (fun _ h => h) (fun _ _ h => h)
        fun _ _ h => .idle (keeping_forget h)) fun _ => ?_
    exact takeFirst_keeping incoming _

/-- A dispatch that waits for a callback goes on. -/
theorem resume_rested {x : Act Progress} (hx : Takes hand x) :
    Script.Ensures (Keeping (asking hand)) (resume hand.work x) (fun _ => Rested)
      fun _ => Rested := by
  refine Script.Ensures.bind (m := fun _ => Keeping (carrying hand))
    (Script.Ensures.modify fun s h => ?_) fun _ => guardLane_rested ?_
  · exact ⟨h.ledger,h.calm,rfl,h.kept,h.associated,h.waiting,h.retained,h.delivered,
      h.due_retained,h.due_payload,h.unanswered,h.answered⟩
  · have hcame : Script.Ensures (Keeping (carrying hand)) x (Came hand.work [])
        fun _ => Unanswered hand.work := Script.Ensures.came hx
    refine (carry_came hcame).bind fun found => ?_
    cases found with
    | true => exact Script.Ensures.pure fun _ h => h
    | false => exact Script.Ensures.pure fun _ h => .idle h

/-- The request a callback is asked about is in hand. -/
theorem Rested.asked {work : Ticket} (h : Rested s) (hasked : s.stage.asked = some work) :
    ∃ hand, hand.work = work ∧ Keeping (asking hand) s := by
  cases h with
  | idle h =>
    rw [h.asked] at hasked
    cases hasked
  | waits hand h =>
    rw [h.asked] at hasked
    exact ⟨hand, Option.some.inj hasked, h⟩

/-- Otherwise none is in hand. -/
theorem Rested.idle_of (h : Rested s) (hasked : s.stage.asked = none) : Keeping resting s := by
  cases h with
  | idle h => exact h
  | waits hand h =>
    rw [h.asked] at hasked
    cases hasked

theorem goalDecided_rested (answer : Option Bool) (now : ℤ) :
    Script.Keeps Rested (goalDecided answer now) := by
  refine Script.Ensures.inspect fun s hs => ?_
  cases hstage : s.stage with
  | askingGoal work goalId =>
    obtain ⟨hand, rfl, h⟩ := hs.asked (by rw [hstage]; rfl)
    refine (resume_rested ?_).exact h
    split_ifs
    · exact acceptGoal_takes hand goalId now
    · exact refuseGoal_takes hand
  | _ => exact Script.Ensures.pure fun _ heq => heq ▸ hs

theorem cancelDecided_rested (answer : Option Bool) :
    Script.Keeps Rested (cancelDecided answer) := by
  refine Script.Ensures.inspect fun s hs => ?_
  cases hstage : s.stage with
  | askingCancel work info handle rest accepted =>
    obtain ⟨hand, rfl, h⟩ := hs.asked (by rw [hstage]; rfl)
    refine (resume_rested ?_).exact h
    cases answer with
    | none => exact commitCancels_takes hand []
    | some answer =>
      cases answer with
      | true => exact considerCandidates_takes hand rest (accepted ++ [(info,handle)])
      | false => exact considerCandidates_takes hand rest accepted
  | _ => exact Script.Ensures.pure fun _ heq => heq ▸ hs

/-- The execute callback is started, or not. -/
theorem runExecute_keeps (ticket : Ticket) (handle : HandleId) :
    Script.Keeps (Keeping resting) (runExecute ticket handle) := by
  refine assertOwnerThread_keeps.bind fun _ => Script.Ensures.observe fun s => ?_
  split_ifs
  · exact Script.Ensures.pure fun _ h => h
  · refine ((keeping_stable _).native_keeps fun now r =>
      ⟨.updateState (s.handles handle).goalId .execute, rfl, rfl⟩).bind fun _ => ?_
    refine Script.Ensures.bind (m := fun _ => Keeping resting)
      (Script.Ensures.modify fun s h => ?_) fun _ => Script.Ensures.pure fun _ h => h
    exact ⟨h.ledger,h.calm,rfl,h.kept,h.associated,h.waiting,h.retained,h.delivered,
      h.due_retained,h.due_payload,h.unanswered,h.answered⟩

theorem conclude_keeps (ticket : Ticket) (operation : Operation) (succeeded : Bool) :
    Script.Keeps (Keeping resting) (conclude ticket operation succeeded) := by
  unfold conclude
  split_ifs
  · cases operation with
    | accept handle =>
      refine Script.Ensures.bind (m := fun _ => Keeping resting)
        (Script.Ensures.modify fun s h =>
          (keeping_stable _).goals s _ s.results s.handles s.nextHandle h) fun _ => ?_
      exact ((keeping_stable _).publishStatus_keeps _).bind fun _ => runExecute_keeps ticket handle
    | _ => exact Script.Ensures.pure fun _ h => h
  · exact Script.Ensures.raise fun _ h => h

theorem settle_keeps (c : Scene) (operation : Operation) :
    Script.Keeps (Keeping c) (settle operation) := by
  unfold settle
  split_ifs
  · exact finishLane_keeps c .settling
  · exact Script.Ensures.pure fun _ h => h

theorem protocolCompletion_keeps (ticket : Ticket) (succeeded : Bool) :
    Script.Keeps (Keeping resting) (protocolCompletion ticket succeeded) := by
  refine Script.Ensures.observe fun s => ?_
  cases s.protocol.lookup ticket with
  | none => exact Script.Ensures.raise fun _ h => h
  | some operation =>
    refine Script.Ensures.bind (m := fun _ => Keeping resting)
      (Script.Ensures.modify fun s h => ?_) fun _ => ?_
    · exact ⟨h.ledger,h.calm,h.asked,h.kept,h.associated,h.waiting,h.retained,h.delivered,
        h.due_retained,h.due_payload,h.unanswered,h.answered⟩
    · refine (Script.Ensures.attempt (q := fun _ => Keeping resting)
        (conclude_keeps ticket operation succeeded)).bind fun outcome => ?_
      rcases outcome with e | asked
      · exact (settle_keeps _ operation).bind fun _ => Script.Ensures.raise fun _ h => h
      · cases asked with
        | true => exact Script.Ensures.pure fun _ h => h
        | false => exact (settle_keeps _ operation).bind fun _ => Script.Ensures.pure fun _ h => h

/-- An acknowledged job is gone. -/
theorem acknowledge_keeps (c : Scene) (ticket : Ticket) :
    Script.Keeps (Keeping c) (acknowledge ticket) := by
  refine Script.Ensures.modify fun s h => ?_
  refine ⟨h.ledger.job fun other job hjob => ?_,h.calm,h.asked,h.kept,h.associated,h.waiting,
    h.retained,h.delivered,h.due_retained,h.due_payload,h.unanswered,h.answered⟩
  by_cases heq : other = ticket
  · rw [heq, AList.lookup_erase] at hjob
    cases hjob
  · rw [AList.lookup_erase_ne heq] at hjob
    exact ⟨job, hjob, rfl⟩

theorem drain_keeps (ticket : Ticket) : Script.Keeps (Keeping resting) (drain ticket) := by
  refine Script.Ensures.observe fun s => ?_
  cases s.jobs.lookup ticket with
  | none => exact Script.Ensures.pure fun _ h => h
  | some job =>
    refine Script.Ensures.bind (m := fun _ => Keeping resting)
      (Script.Ensures.attempt (q := fun _ => Keeping resting) ?_) fun outcome => ?_
    · cases job.delivery with
      | status =>
        exact ((keeping_stable _).statusCompletion_keeps ticket _).bind fun _ =>
          Script.Ensures.pure fun _ h => h
      | feedback =>
        dsimp only
        split_ifs
        · exact Script.Ensures.pure fun _ h => h
        · exact Script.Ensures.raise fun _ h => h
      | _ => exact protocolCompletion_keeps ticket _
    · rcases outcome with e | asked
      · exact (acknowledge_keeps _ ticket).bind fun _ => Script.Ensures.raise fun _ h => h
      · cases asked with
        | true => exact Script.Ensures.pure fun _ h => h
        | false => exact acknowledge_keeps _ ticket

end

section

variable {c : Scene} {due : List RequestId} {payload : Payload} {s : Server} {hand : Hand}
  {hands : List Hand} {unseen : List RequestId} {asked : Option Ticket} {work : Ticket}
  {request : RequestId}

/-- Where nothing is due, no payload matters. -/
theorem holds_nil_iff : Holds c [] payload s ↔ Keeping c s :=
  ⟨fun h => ⟨h.ledger,h.calm,h.asked,h.kept,h.associated,h.waiting,h.retained,h.delivered,
    h.due_retained,fun _ hno => absurd hno List.not_mem_nil,h.unanswered,h.answered⟩,
    fun h => ⟨h.ledger,h.calm,h.asked,h.kept,h.associated,h.waiting,h.retained,h.delivered,
    h.due_retained,fun _ hno => absurd hno List.not_mem_nil,h.unanswered,h.answered⟩⟩

/-- The goals do not keep these requests any more. -/
def Freed (due : List RequestId) (r : Registry) : Prop :=
  ∀ request ∈ due, ∀ goalId, ¬ r.Keeps goalId request

/-- A request that is due is taken out. -/
theorem Holds.takeOut (h : Holds ⟨hands,unseen,asked⟩ due payload s) (hfreed : Freed due s.registry)
    (hdue : request ∈ due) (hfound : s.pendingResults.lookup request = some work) :
    Holds ⟨⟨work,.result,request⟩ :: hands,unseen,asked⟩ due payload
      {s with
        pendingResults := s.pendingResults.erase request
        protocol := s.protocol.insert work .resultDelivery} := by
  have hlookup : ∀ other work', request ≠ other → s.pendingResults.lookup other = some work' →
      (s.pendingResults.erase request).lookup other = some work' := by
    intro other work' hne hother
    rw [AList.lookup_erase_ne (Ne.symm hne)]
    exact hother
  have hkept : ∀ goalId other, s.registry.Keeps goalId other → request ≠ other := by
    rintro goalId other hkeeps rfl
    exact hfreed request hdue goalId hkeeps
  have hbefore : ∀ other work', (s.pendingResults.erase request).lookup other = some work' →
      s.pendingResults.lookup other = some work' := by
    intro other work' hother
    by_cases heq : other = request
    · rw [heq, AList.lookup_erase] at hother
      cases hother
    · rw [AList.lookup_erase_ne heq] at hother
      exact hother
  refine ⟨h.ledger.takeOut hfound,h.calm,h.asked,fun goalId other hkeeps => ?_,h.associated,
    h.waiting,fun r hr => ?_,fun t ht other hmem hnot => ?_,fun other hmem => ?_,h.due_payload,
    fun other hopen => ?_,h.answered⟩
  · obtain ⟨work', hother⟩ := h.kept goalId other hkeeps
    exact ⟨work', hlookup other work' (hkept goalId other hkeeps) hother⟩
  · rcases h.retained r hr with ⟨hother, hkeeps⟩ | hended
    · exact Or.inl ⟨hlookup _ _ (hkept _ _ hkeeps) hother, hkeeps⟩
    · exact Or.inr hended
  · obtain ⟨hanswers, hgone⟩ := h.delivered t ht other hmem hnot
    refine ⟨hanswers, ?_⟩
    cases hother : (s.pendingResults.erase request).lookup other with
    | none => rfl
    | some work' => exact absurd ((hbefore other work' hother).symm.trans hgone) (by simp)
  · by_cases heq : request = other
    · exact Or.inr (heq ▸ List.mem_cons_self)
    · rcases h.due_retained other hmem with ⟨work', hother⟩ | hhand
      · exact Or.inl ⟨work', hlookup other work' heq hother⟩
      · exact Or.inr (List.mem_cons_of_mem _ hhand)
  · rcases hopen with ⟨work', hother⟩ | hhand
    · exact h.unanswered other (Or.inl ⟨work', hbefore other work' hother⟩)
    · rcases List.mem_cons.mp hhand with rfl | hhand
      · exact h.unanswered _ (Or.inl ⟨work, hfound⟩)
      · exact h.unanswered other (Or.inr hhand)

/-- A request that is due and in hand is answered. -/
theorem Holds.answerDue {rest : List RequestId}
    (h : Holds ⟨hand :: hands,unseen,asked⟩ (hand.request :: rest) payload s)
    (hfreed : Freed (hand.request :: rest) s.registry) (hnodup : (hand.request :: rest).Nodup)
    (new : Work) {j : Job} (hjob : j.request = some (hand.kind,hand.request)) :
    Holds ⟨hands,unseen,asked⟩ rest payload
      {s with
        works := Function.update s.works hand.work new
        jobs := s.jobs.insert hand.work j
        answers := s.answers ++ [(hand.request,payload)]} := by
  obtain ⟨hopen, hgone, hnew, hhands⟩ := h.inHand
  have hrest : hand.request ∉ rest := (List.nodup_cons.mp hnodup).1
  refine ⟨h.ledger.submit hjob,h.calm,h.asked,h.kept,h.associated,
    fun goalId record hfound other hmem hnot => ?_,h.retained,fun t ht other hmem hnot => ?_,
    fun other hmem => ?_,fun other hmem => h.due_payload other (List.mem_cons_of_mem _ hmem),
    fun other hother a ha => ?_,fun a ha => ?_⟩
  · refine h.waiting goalId record hfound other hmem fun hcons => ?_
    rcases List.mem_cons.mp hcons with rfl | hcons
    · exact hfreed _ List.mem_cons_self goalId ⟨record, hfound, hmem⟩
    · exact hnot hcons
  · by_cases heq : other = hand.request
    · subst heq
      refine ⟨?_, hgone⟩
      have hnone : s.answers.filter (·.1 = hand.request) = [] :=
        List.filter_eq_nil_iff.mpr fun a ha => by simpa using hnew a ha
      have hpayload := h.due_payload _ List.mem_cons_self t ht hmem
      change (s.answers ++ [(hand.request,payload)]).filter (·.1 = hand.request) = _
      rw [List.filter_append, hnone, hpayload]
      simp
    · have hcons : other ∉ hand.request :: rest := fun hcons =>
        hnot ((List.mem_cons.mp hcons).resolve_left heq)
      obtain ⟨hanswers, hgone'⟩ := h.delivered t ht other hmem hcons
      refine ⟨?_, hgone'⟩
      change (s.answers ++ [(hand.request,payload)]).filter (·.1 = other) = _
      rw [List.filter_append, hanswers]
      simp [Ne.symm heq]
  · refine (h.due_retained other (List.mem_cons_of_mem _ hmem)).imp id fun hhand => ?_
    refine (List.mem_cons.mp hhand).resolve_left ?_
    rintro rfl
    exact hrest hmem
  · rcases List.mem_append.mp ha with hold | hlast
    · exact h.unanswered other (hother.imp id (List.mem_cons_of_mem _)) a hold
    · rw [List.mem_singleton.mp hlast]
      rintro rfl
      rcases hother with ⟨work, hfound⟩ | hmem
      · exact Option.some_ne_none _ (hfound.symm.trans hgone)
      · exact hhands hmem
  · rcases List.mem_append.mp ha with hold | hlast
    · exact h.answered a hold
    · rw [List.mem_singleton.mp hlast]
      exact hopen.taken

end

/-- Nothing raises any more in this phase. -/
def Server.Calms (s : Server) (phase : Phase) : Prop := ∀ c ∈ s.circumstances phase, c.raises = false

/-- The requests of a goal that ended are being answered. -/
structure Handing (c : Scene) (due : List RequestId) (payload : Payload) (s : Server) : Prop where
  /-- They are due. -/
  holds : Holds c due payload s
  /-- The goals do not keep them. -/
  freed : Freed due s.registry
  /-- Nothing raises. -/
  calm : s.Calms .handing

section

variable {c : Scene} {due : List RequestId} {payload : Payload} {s : Server} {hand : Hand}
  {hands : List Hand} {unseen : List RequestId} {asked : Option Ticket} {work : Ticket}
  {request : RequestId}

/-- What a call meets does not matter to what is due. -/
theorem Holds.meets (h : Holds c due payload s) {phase : Phase} {met : Circumstance}
    {rest : List Circumstance} (hqueue : s.circumstances phase = met :: rest) :
    Holds c due payload (s.meet phase met rest) :=
  ⟨h.ledger,calm_rest h.calm hqueue,h.asked,h.kept,h.associated,h.waiting,h.retained,h.delivered,
    h.due_retained,h.due_payload,h.unanswered,h.answered⟩

/-- A call while the requests are handed over. -/
theorem circumstance_handing :
    Script.Ensures (Handing c due payload) (circumstance .handing)
      (fun _ => Handing c due payload) fun _ _ => False :=
  circumstance_calm (fun _ _ _ h hqueue => ⟨h.holds.meets hqueue,h.freed,calm_rest h.calm hqueue⟩)
    fun _ h => h.calm

/-- A request that is due gets its payload. -/
theorem submit_due (hand : Hand) {rest : List RequestId} (hnodup : (hand.request :: rest).Nodup) :
    Script.Ensures (Handing ⟨hand :: hands,unseen,asked⟩ (hand.request :: rest) payload)
      (submit .handing hand.work (.result payload))
      (fun _ s => Handing ⟨hands,unseen,asked⟩ rest payload s ∧ Submitted hand.work s)
      fun _ _ => False := by
  refine circumstance_handing.bind fun _ => Script.Ensures.inspect fun s h => ?_
  have hwaits : s.works hand.work = ⟨hand.kind,some hand.request,false,true⟩ :=
    h.holds.inHand.1.waits
  simp only [hwaits]
  refine Script.Ensures.modify ?_
  rintro s rfl
  refine ⟨?_, submitted_enqueue rfl _ _ s⟩
  rw [enqueue_waiting hwaits]
  exact ⟨h.holds.answerDue h.freed hnodup _ rfl,
    fun other hmem => h.freed other (List.mem_cons_of_mem _ hmem),h.calm⟩

/-- A work that changes is neither due nor retained. -/
theorem handing_spares (c : Scene) (due : List RequestId) (payload : Payload) :
    Spares (Handing c due payload) c.hands := fun _ _ _ h hpending hhands =>
  ⟨holds_spares c due payload _ _ _ h.holds hpending hhands,h.freed,h.calm⟩

/-- One request that is due is taken out and answered. -/
theorem deliverResult_due {rest : List RequestId} (hnodup : (request :: rest).Nodup)
    (hhands : request ∉ hands.map (·.request)) :
    Script.Ensures (Handing ⟨hands,unseen,asked⟩ (request :: rest) payload)
      (deliverResult payload request) (fun _ => Handing ⟨hands,unseen,asked⟩ rest payload)
      fun _ _ => False := by
  refine Script.Ensures.inspect fun s h => ?_
  obtain ⟨work, hfound⟩ := (h.holds.due_retained request List.mem_cons_self).resolve_right hhands
  simp only [hfound]
  refine Script.Ensures.bind (m := fun _ s' => s' =
    {s with pendingResults := s.pendingResults.erase request})
    (Script.Ensures.modify fun _ heq => by rw [heq]) fun _ => ?_
  refine Script.Ensures.bind
    (m := fun _ => Handing ⟨⟨work,.result,request⟩ :: hands,unseen,asked⟩ (request :: rest) payload)
    (Script.Ensures.modify ?_) fun _ => ?_
  · rintro _ rfl
    exact ⟨h.holds.takeOut h.freed List.mem_cons_self hfound,h.freed,h.calm⟩
  · refine Script.Ensures.ensuring (m := Script.either
      (fun _ s => Handing ⟨hands,unseen,asked⟩ rest payload s ∧ Submitted work s)
      fun _ _ => False) ?_ (fun _ => ?_) fun _ => ?_
    · exact submit_due ⟨work,.result,request⟩ hnodup
    · exact release_submitted (fun _ h => h.holds.ledger) (handing_spares _ rest payload) work
    · exact fun _ hfalse => hfalse.elim

/-- Every request that is due is answered. -/
theorem deliverResults_due (hnodup : due.Nodup) (hhands : ∀ r ∈ due, r ∉ hands.map (·.request)) :
    Script.Ensures (Handing ⟨hands,unseen,asked⟩ due payload)
      (Script.each (deliverResult payload) due) (fun _ => Keeping ⟨hands,unseen,asked⟩)
      fun _ _ => False := by
  induction due with
  | nil => exact Script.Ensures.pure fun _ h => holds_nil_iff.mp h.holds
  | cons request rest ih =>
    refine (deliverResult_due hnodup (hhands request List.mem_cons_self)).bind fun _ => ?_
    exact ih (List.nodup_cons.mp hnodup).2 fun r hmem => hhands r (List.mem_cons_of_mem _ hmem)

end

/-- How long the next call of a phase takes. -/
def Server.firstElapsed (s : Server) (phase : Phase) : ℕ :=
  ((s.circumstances phase).head?.map (·.elapsed)).getD 0

/-- A goal ended, and its record still has the requests that are due. -/
structure Ended (c : Scene) (goalId : GoalId) (payload : Payload) (due : List RequestId)
    (s : Server) : Prop where
  /-- They are due. -/
  holds : Holds c due payload s
  /-- They waited for its transition. -/
  transition : ∃ t ∈ s.transitions, t.goal = goalId ∧ t.waiting = due
  /-- The record is there. -/
  found : ∃ record, s.registry.goals.lookup goalId = some record ∧ record.committed = true ∧
    record.pendingResultRequests = due
  /-- Nothing raises when they are handed over. -/
  calm : s.Calms .handing

/-- The goal does not expire within this time. -/
def Outlives (goalId : GoalId) (elapsed : ℕ) (s : Server) : Prop :=
  ∀ record, s.registry.goals.lookup goalId = some record →
    s.clock + elapsed - record.terminalTime < s.registry.resultTimeout

section

variable {c : Scene} {due : List RequestId} {payload : Payload} {s : Server} {goalId : GoalId}
  {phase : Phase}

/-- A call met in another phase. -/
theorem calms_meet {met : Circumstance} {rest : List Circumstance} {phase' : Phase}
    (h : s.Calms phase') (hqueue : s.circumstances phase = met :: rest) :
    (s.meet phase met rest).Calms phase' := calm_rest h hqueue

theorem Ended.meets (h : Ended c goalId payload due s) {met : Circumstance}
    {rest : List Circumstance} (hqueue : s.circumstances phase = met :: rest) :
    Ended c goalId payload due (s.meet phase met rest) :=
  ⟨h.holds.meets hqueue,h.transition,h.found,calms_meet h.calm hqueue⟩

/-- What is kept is kept by a goal that has not expired. -/
theorem Ended.unprunable (h : Ended c goalId payload due s) (hlives : Outlives goalId 0 s)
    {goalId' : GoalId} {request : RequestId} (hkeeps : s.registry.Keeps goalId' request) :
    ∀ record, s.registry.goals.lookup goalId' = some record →
      s.registry.prunable s.clock record = false := by
  intro record hfound
  obtain ⟨record', hfound', hmem⟩ := hkeeps
  obtain rfl := Option.some.inj (hfound.symm.trans hfound')
  obtain ⟨ended, hended, -, hlist⟩ := h.found
  by_cases hdue : request ∈ due
  · have hsame : goalId' = goalId := h.holds.associated.one_goal goalId' goalId request
      ⟨record, hfound, hmem⟩ ⟨ended, hended, hlist ▸ hdue⟩
    by_contra hprunable
    have hexpired := (Registry.terminal_of_prunable (by simpa using hprunable)).2.2
    have hlate := hlives record (hsame ▸ hfound)
    omega
  · exact Registry.not_prunable_of_active
      (h.holds.waiting goalId' record hfound request hmem hdue)

/-- The snapshot of the status forgets no goal with requests that are due. -/
theorem Ended.snapshot (h : Ended c goalId payload due s) (hlives : Outlives goalId 0 s)
    (hdue : due ≠ []) :
    Ended c goalId payload due {s with registry := (s.registry.statusSnapshot s.clock).2} := by
  have happlied : (s.registry.statusSnapshot s.clock).2 =
      (s.registry.apply s.clock .statusSnapshot).2 := rfl
  rw [happlied]
  refine ⟨h.holds.registry (fun goalId' request hkeeps => ?_) (fun r _ _ hkeeps => Or.inl ?_)
    h.holds.associated.apply (h.holds.waiting.apply rfl),h.transition,?_,h.calm⟩
  · rcases keeps_apply hkeeps with ⟨record, hfound, hmem, -⟩ | ⟨⟨heq, -⟩, -⟩
    · exact ⟨record, hfound, hmem⟩
    · cases heq
  · exact keeps_stays hkeeps (fun _ => h.unprunable hlives hkeeps) (by simp) (by simp)
  · obtain ⟨record, hfound, hcommitted, hlist⟩ := h.found
    obtain ⟨request, hmem⟩ := List.exists_mem_of_ne_nil due hdue
    have hkept := h.unprunable hlives ⟨record, hfound, hlist ▸ hmem⟩ record hfound
    refine ⟨record, ?_, hcommitted, hlist⟩
    change (s.registry.pruneExpiredLocked s.clock).goals.lookup goalId = some record
    rw [Registry.lookup_prune, hfound, Option.filter_some, hkept]
    rfl

/-- A call that is calm and takes its time. -/
theorem circumstance_outlives (phase : Phase) :
    Script.Ensures
      (fun s => Ended c goalId payload due s ∧ s.attached = true ∧ s.Calms phase ∧
        Outlives goalId (s.firstElapsed phase) s)
      (circumstance phase)
      (fun _ s => Ended c goalId payload due s ∧ s.attached = true ∧ s.Calms phase ∧
        Outlives goalId 0 s)
      fun _ _ => False := by
  rintro s ⟨h, hattached, hcalm, hlives⟩
  simp only [circumstance]
  cases hqueue : s.circumstances phase with
  | nil =>
    refine ⟨h, hattached, hcalm, fun record hfound => ?_⟩
    have hlate := hlives record hfound
    simp only [Server.firstElapsed, hqueue] at hlate
    exact hlate
  | cons met rest =>
    have hraises := hcalm met (hqueue ▸ List.mem_cons_self)
    simp only [hraises, Bool.false_eq_true, if_false]
    refine ⟨h.meets hqueue, hattached, calms_meet hcalm hqueue, fun record hfound => ?_⟩
    have hlate := hlives record hfound
    simp only [Server.firstElapsed, hqueue, List.head?_cons, Option.map_some,
      Option.getD_some] at hlate
    change s.clock + met.elapsed + (0 : ℕ) - record.terminalTime < s.registry.resultTimeout
    omega

end

/-- The status need not be published, or the goal outlives its publication. -/
def Server.Spared (goalId : GoalId) (s : Server) : Prop :=
  s.statusInflightTicket.isSome = true ∨ s.closing = true ∨
    s.Calms .publishing ∧ Outlives goalId (s.firstElapsed .publishing) s

section

variable {c : Scene} {due : List RequestId} {payload : Payload} {s : Server} {goalId : GoalId}

/-- The owner's thread is known. -/
theorem assertOwnerThread_attached {q : Server → Prop} (hattached : ∀ s, q s → s.attached = true) :
    Script.Ensures q assertOwnerThread (fun _ => q) fun _ _ => False := by
  refine Script.Ensures.inspect fun s hs => ?_
  rw [hattached s hs]
  refine Script.Ensures.pure ?_
  rintro _ rfl
  exact hs

/-- A calm call while the requests of the goal are due. -/
theorem circumstance_ended (phase : Phase) :
    Script.Ensures (fun s => Ended c goalId payload due s ∧ s.Calms phase) (circumstance phase)
      (fun _ s => Ended c goalId payload due s ∧ s.Calms phase) fun _ _ => False :=
  circumstance_calm (fun _ _ _ h hqueue => ⟨h.1.meets hqueue, calms_meet h.2 hqueue⟩)
    fun _ h => h.2

/-- The status is published while the requests of the goal are due. -/
theorem publish_ended (phase : Phase) {delivery : Delivery} :
    Script.Ensures
      (fun s => Ended c goalId payload due s ∧ s.attached = true ∧ s.Calms phase)
      (publish phase delivery) (fun _ => Ended c goalId payload due) fun _ _ => False := by
  refine (assertOwnerThread_attached fun _ hs => hs.2.1).bind fun _ => ?_
  refine Script.Ensures.bind (m := fun _ => Ended c goalId payload due)
    ((circumstance_ended phase).weaken (fun _ h => ⟨h.1, h.2.2⟩) (fun _ _ h => h.1)
      fun _ _ h => h) fun _ => Script.Ensures.inspect fun s h => ?_
  refine Script.Ensures.bind (m := fun _ => Ended c goalId payload due)
    (Script.Ensures.modify ?_) fun _ => Script.Ensures.pure fun _ h => h
  rintro _ rfl
  exact ⟨⟨h.holds.ledger.publish,h.holds.calm,h.holds.asked,h.holds.kept,h.holds.associated,
    h.holds.waiting,h.holds.retained,h.holds.delivered,h.holds.due_retained,h.holds.due_payload,
    h.holds.unanswered,h.holds.answered⟩,h.transition,h.found,h.calm⟩

/-- Its slot is filled. -/
theorem Ended.status (h : Ended c goalId payload due s) (revision inflight : ℕ)
    (ticket : Option Ticket) :
    Ended c goalId payload due
      {s with
        statusRevision := revision
        statusInflightTicket := ticket
        statusInflightRevision := inflight} :=
  ⟨⟨h.holds.ledger,h.holds.calm,h.holds.asked,h.holds.kept,h.holds.associated,h.holds.waiting,
    h.holds.retained,h.holds.delivered,h.holds.due_retained,h.holds.due_payload,
    h.holds.unanswered,h.holds.answered⟩,h.transition,h.found,h.calm⟩

/-- The status is read and published. -/
theorem startStatusPublication_ended (hdue : due ≠ []) :
    Script.Ensures
      (fun s => Ended c goalId payload due s ∧ s.attached = true ∧ s.Spared goalId)
      (startStatusPublication .publishing) (fun _ => Ended c goalId payload due)
      fun _ _ => False := by
  refine (assertOwnerThread_attached fun _ hs => hs.2.1).bind fun _ =>
    Script.Ensures.inspect fun s hs => ?_
  split_ifs with hshut
  · refine Script.Ensures.pure ?_
    rintro _ rfl
    exact hs.1
  · obtain ⟨hended, hattached, hspared⟩ := hs
    obtain ⟨hclosing, hinflight⟩ := Bool.or_eq_false_iff.mp (Bool.eq_false_iff.mpr hshut)
    have htimely : s.Calms .publishing ∧ Outlives goalId (s.firstElapsed .publishing) s := by
      rcases hspared with hfull | hclosed | htimely
      · rw [hinflight] at hfull
        cases hfull
      · rw [hclosing] at hclosed
        cases hclosed
      · exact htimely
    refine Script.Ensures.bind
      (m := fun _ s => Ended c goalId payload due s ∧ s.attached = true ∧ s.Calms .publishing)
      ?_ fun _ => ?_
    · refine Script.Ensures.bind (m := fun _ s => Ended c goalId payload due s ∧
        s.attached = true ∧ s.Calms .publishing ∧ Outlives goalId 0 s)
        ((circumstance_outlives .publishing).exact ⟨hended, hattached, htimely⟩) fun _ => ?_
      intro s hs
      exact ⟨hs.1.snapshot hs.2.2.2 hdue, hs.2.1, hs.2.2.1⟩
    · refine Script.Ensures.bind
        (m := fun _ s => Ended c goalId payload due s ∧ s.attached = true ∧ s.Calms .publishing)
        (Script.Ensures.modify fun s hs => ⟨hs.1.status _ _ _, hs.2⟩) fun _ => ?_
      exact (publish_ended .publishing).bind fun ticket =>
        Script.Ensures.modify fun s h => h.status _ _ _

/-- The publication of the status leaves what is due. -/
theorem publishStatus_ended (hdue : due ≠ []) :
    Script.Ensures
      (fun s => Ended c goalId payload due s ∧ s.attached = true ∧ s.Spared goalId)
      (publishStatus .publishing) (fun _ => Ended c goalId payload due) fun _ _ => False := by
  refine (assertOwnerThread_attached fun _ hs => hs.2.1).bind fun _ => ?_
  refine Script.Ensures.bind
    (m := fun _ s => Ended c goalId payload due s ∧ s.attached = true ∧ s.Spared goalId)
    (Script.Ensures.modify fun s hs => ⟨hs.1.status _ _ _, hs.2⟩) fun _ =>
      Script.Ensures.observe fun s => ?_
  split_ifs
  · exact Script.Ensures.pure fun _ h => h.1
  · exact startStatusPublication_ended hdue

/-- The requests that waited are handed over. -/
theorem take_ended :
    Script.Ensures (Ended c goalId payload due)
      (native .handing fun _ r => r.takePendingResultRequests goalId)
      (fun requests s => requests = due ∧ due.Nodup ∧ Handing c due payload s)
      fun _ _ => False := by
  refine Script.Ensures.bind (m := fun _ => Ended c goalId payload due)
    ((circumstance_ended .handing).weaken (fun _ h => ⟨h, h.calm⟩) (fun _ _ h => h.1)
      fun _ _ h => h) fun _ s h => ?_
  obtain ⟨record, hfound, hcommitted, hlist⟩ := h.found
  have hrecord : s.registry.findCommitted goalId = some record := by
    rw [Registry.findCommitted, hfound, Option.filter_some, hcommitted]
    rfl
  have htaken : s.registry.takePendingResultRequests goalId =
      (.ok due,(s.registry.apply s.clock (.takePendingResultRequests goalId)).2) := by
    simp only [Registry.apply, Registry.takePendingResultRequests, hrecord, hlist, Prod.map, id]
  have hafter : (s.registry.apply s.clock (.takePendingResultRequests goalId)).2.goals.lookup
      goalId = some (record.withRequests [] fun _ => rfl) := by
    simp only [Registry.apply, Registry.takePendingResultRequests, hrecord, Prod.map, id,
      AList.lookup_insert]
  have hbefore : ∀ goalId' request,
      (s.registry.apply s.clock (.takePendingResultRequests goalId)).2.Keeps goalId' request →
        s.registry.Keeps goalId' request := by
    intro goalId' request hkeeps
    rcases keeps_apply hkeeps with ⟨record, hfound, hmem, -⟩ | ⟨⟨heq, -⟩, -⟩
    · exact ⟨record, hfound, hmem⟩
    · cases heq
  obtain ⟨t, ht, hgoal, hwaiting⟩ := h.transition
  simp only [htaken, Except.mapError]
  refine ⟨trivial, hlist ▸ h.holds.associated.once goalId record hfound,
    h.holds.registry hbefore (fun r _ _ hkeeps => ?_) h.holds.associated.apply
      (h.holds.waiting.apply rfl),fun request hmem goalId' hkeeps => ?_,h.calm⟩
  · by_cases hsame : goalId = r.goal
    · obtain ⟨record', hfound', hmem⟩ := hkeeps
      rw [← hsame] at hfound'
      obtain rfl := Option.some.inj (hfound.symm.trans hfound')
      exact Or.inr ⟨t, ht, hgoal.trans hsame, by rw [hwaiting, ← hlist]; exact hmem⟩
    · exact Or.inl (keeps_stays hkeeps (fun hno => (by cases hno))
        (fun heq => hsame (Op.takePendingResultRequests.inj heq)) (by simp))
  · have hsame : goalId' = goalId := h.holds.associated.one_goal goalId' goalId request
      (hbefore goalId' request hkeeps) ⟨record, hfound, hlist ▸ hmem⟩
    obtain ⟨record', hfound', hmem'⟩ := hkeeps
    rw [hsame] at hfound'
    obtain rfl := Option.some.inj (hafter.symm.trans hfound')
    cases hmem'

end

/-- The goal has no waiting request, or its publication and the hand-over are
harmless: `k` calls are left until the server is known to be open. -/
def Server.HandsOver (goalId : GoalId) (k : ℕ) (s : Server) : Prop :=
  s.waiting goalId = [] ∨
    (s.statusInflightTicket.isSome = true ∨
      (s.closing || ((s.circumstances .transition).take k).any (·.closes)) = true ∨
      s.Calms .publishing ∧ s.firstElapsed .publishing < s.registry.resultTimeout) ∧
    s.Calms .handing

/-- Nothing waits with the goal. -/
def Idle (c : Scene) (goalId : GoalId) (s : Server) : Prop :=
  Keeping c s ∧ ∀ request, ¬ s.registry.Keeps goalId request

/-- What follows the transition of a goal. -/
def Transited (c : Scene) (goalId : GoalId) (payload : Payload) (s : Server) : Prop :=
  Idle c goalId s ∨ ∃ due, due ≠ [] ∧ Ended c goalId payload due s ∧ s.attached = true ∧ s.Spared goalId

section

variable {c : Scene} {payload : Payload} {s : Server} {goalId : GoalId} {ending : Ending}
  {handle : HandleId}

/-- A call before the transition. -/
theorem circumstance_transition (k : ℕ) :
    Script.Ensures
      (fun s => Keeping c s ∧ s.attached = true ∧ s.HandsOver goalId (k + 1))
      (circumstance .transition)
      (fun _ s => Keeping c s ∧ s.attached = true ∧ s.HandsOver goalId k) fun _ => Keeping c := by
  rintro s ⟨h, hattached, hhands⟩
  simp only [circumstance]
  cases hqueue : s.circumstances .transition with
  | nil =>
    refine ⟨h, hattached, hhands.imp id fun hharmless => ⟨?_, hharmless.2⟩⟩
    simpa [hqueue] using hharmless.1
  | cons met rest =>
    have hmet : Keeping c (s.meet .transition met rest) :=
      (keeping_stable c).meet s .transition met rest h hqueue
    have hother : ∀ phase, phase ≠ .transition →
        (s.meet .transition met rest).circumstances phase = s.circumstances phase :=
      fun phase hne => Function.update_of_ne hne _ _
    have hafter : (s.meet .transition met rest).HandsOver goalId k := by
      refine hhands.imp id fun hharmless => ⟨?_, calms_meet hharmless.2 hqueue⟩
      rcases hharmless.1 with hfull | hcloses | ⟨hpublishing, helapsed⟩
      · exact Or.inl hfull
      · refine Or.inr (Or.inl ?_)
        change (s.closing || met.closes || ((Function.update s.circumstances .transition rest
          .transition).take k).any (·.closes)) = true
        rw [hqueue, List.take_succ_cons, List.any_cons, ← Bool.or_assoc] at hcloses
        rw [Function.update_self]
        exact hcloses
      · refine Or.inr (Or.inr ⟨calms_meet hpublishing hqueue, ?_⟩)
        rw [Server.firstElapsed, hother .publishing (by simp)]
        exact helapsed
    cases hraises : met.raises
    · simp only [hraises, Bool.false_eq_true, if_false]
      exact ⟨hmet, hattached, hafter⟩
    · simp only [hraises, if_true]
      exact hmet

/-- A transition ends a goal that is there, now. -/
theorem updateState_ended {r : Registry} {now : ℤ} {t : GoalTransition}
    (hok : (r.updateState now goalId ending.event).1 = .ok t) :
    ∃ record record', r.goals.lookup goalId = some record ∧
      (r.updateState now goalId ending.event).2 =
        {r with goals := r.goals.insert goalId record'} ∧
      record'.committed = true ∧
      record'.pendingResultRequests = record.pendingResultRequests ∧
      record'.terminalTime = now := by
  unfold Registry.updateState at hok ⊢
  cases hfound : r.goals.lookup goalId with
  | none =>
    rw [hfound] at hok
    cases hok
  | some record =>
    simp only [hfound] at hok ⊢
    split_ifs at hok ⊢ with hcommitted hactive
    cases hnext : nextGoalState record.state ending.event with
    | none =>
      simp only [hnext] at hok
      cases hok
    | some next =>
      have hterminal : isTerminalGoalState next = true := by
        cases ending <;> cases hstate : record.state <;> rw [hstate] at hnext <;>
          cases hnext <;> rfl
      refine ⟨record, record.enter now next hcommitted hactive, rfl, rfl, hcommitted, rfl, ?_⟩
      simp only [GoalRecord.enter, hterminal, if_true]

/-- A failed transition changes nothing. -/
theorem updateState_failed {r : Registry} {now : ℤ} {event : GoalEvent} {e : Error}
    (herror : (r.updateState now goalId event).1 = .error e) :
    (r.updateState now goalId event).2 = r := by
  unfold Registry.updateState at herror ⊢
  cases hfound : r.goals.lookup goalId with
  | none => rfl
  | some record =>
    simp only [hfound] at herror ⊢
    split_ifs at herror ⊢ with hcommitted hactive
    · cases hnext : nextGoalState record.state event with
      | none => rfl
      | some next =>
        simp only [hnext] at herror
        cases herror
    · rfl
    · rfl

/-- The requests that waited become due. -/
theorem transited (h : Keeping c s) (hattached : s.attached = true) (hhands : s.HandsOver goalId 0)
    {t : GoalTransition} (hok : (s.registry.updateState s.clock goalId ending.event).1 = .ok t)
    (handles : HandleId → Handle) (results : Table GoalId Payload) (payload : Payload) :
    Transited c goalId payload
      {s with
        registry := (s.registry.updateState s.clock goalId ending.event).2
        handles := handles
        results := results
        transitions := s.transitions ++ [⟨goalId,payload,
          {s with registry := (s.registry.updateState s.clock goalId ending.event).2}.waiting
            goalId⟩]} := by
  obtain ⟨record, record', hfound, hregistry, hcommitted, hlist, htime⟩ := updateState_ended hok
  have hwaiting : s.waiting goalId = record.pendingResultRequests := by
    simp only [Server.waiting, hfound]
  have hafter : {s with registry := {s.registry with
      goals := s.registry.goals.insert goalId record'}}.waiting goalId =
        record.pendingResultRequests := by
    simp only [Server.waiting, AList.lookup_insert, hlist]
  have happly : (s.registry.apply s.clock (.updateState goalId ending.event)).2 =
      {s.registry with goals := s.registry.goals.insert goalId record'} := hregistry
  rw [hregistry, hafter]
  have hkeeps : ∀ goalId' request, Registry.Keeps goalId' request
      {s.registry with goals := s.registry.goals.insert goalId record'} →
        s.registry.Keeps goalId' request := by
    rintro goalId' request ⟨found, hlookup, hmem⟩
    by_cases heq : goalId' = goalId
    · subst heq
      rw [AList.lookup_insert] at hlookup
      rw [← Option.some.inj hlookup, hlist] at hmem
      exact ⟨record, hfound, hmem⟩
    · rw [AList.lookup_insert_ne heq] at hlookup
      exact ⟨found, hlookup, hmem⟩
  have hstays : ∀ goalId' request, s.registry.Keeps goalId' request → Registry.Keeps goalId' request
      {s.registry with goals := s.registry.goals.insert goalId record'} := by
    intro goalId' request hold
    rw [← happly]
    exact keeps_stays hold (fun hno => by cases hno) (by simp) (by simp)
  have hholds : Holds c record.pendingResultRequests payload
      {s with
        registry := {s.registry with goals := s.registry.goals.insert goalId record'}
        handles := handles
        results := results
        transitions := s.transitions ++ [⟨goalId,payload,record.pendingResultRequests⟩]} := by
    refine ⟨h.ledger.registry fun goalId' request hnew =>
      h.ledger.kept goalId' request (hkeeps goalId' request hnew),h.calm,h.asked,
      fun goalId' request hnew => h.kept goalId' request (hkeeps goalId' request hnew),
      happly ▸ h.associated.apply,fun goalId' found hlookup request hmem hdue => ?_,fun r hr => ?_,
      fun u hu request hmem hdue => ?_,fun request hmem => Or.inl (h.kept goalId request
        ⟨record, hfound, hmem⟩),fun request hmem u hu hwaits => ?_,h.unanswered,h.answered⟩
    · by_cases heq : goalId' = goalId
      · subst heq
        rw [AList.lookup_insert] at hlookup
        rw [← Option.some.inj hlookup, hlist] at hmem
        exact absurd hmem hdue
      · rw [AList.lookup_insert_ne heq] at hlookup
        exact h.waiting goalId' found hlookup request hmem List.not_mem_nil
    · rcases h.retained r hr with ⟨hretained, hold⟩ | ⟨u, hu, hended⟩
      · exact Or.inl ⟨hretained, hstays _ _ hold⟩
      · exact Or.inr ⟨u, List.mem_append_left _ hu, hended⟩
    · rcases List.mem_append.mp hu with hold | hlast
      · exact h.delivered u hold request hmem List.not_mem_nil
      · rw [List.mem_singleton.mp hlast] at hmem
        exact absurd hmem hdue
    · rcases List.mem_append.mp hu with hold | hlast
      · obtain ⟨work, hretained⟩ := h.kept goalId request ⟨record, hfound, hmem⟩
        have hgone := (h.delivered u hold request hwaits List.not_mem_nil).2
        exact absurd (hretained.symm.trans hgone) (by simp)
      · rw [List.mem_singleton.mp hlast]
  have hidle : record.pendingResultRequests = [] → ∀ request, ¬ Registry.Keeps goalId request
      {s.registry with goals := s.registry.goals.insert goalId record'} := by
    rintro hnone request ⟨found, hlookup, hmem⟩
    rw [AList.lookup_insert] at hlookup
    rw [← Option.some.inj hlookup, hlist, hnone] at hmem
    exact absurd hmem List.not_mem_nil
  rcases hhands with hnone | ⟨hspared, hcalm⟩
  · rw [hwaiting] at hnone
    have hfree := hidle hnone
    rw [hnone] at hholds ⊢
    exact Or.inl ⟨holds_nil_iff.mp hholds, hfree⟩
  · by_cases hdue : record.pendingResultRequests = []
    · have hfree := hidle hdue
      rw [hdue] at hholds ⊢
      exact Or.inl ⟨holds_nil_iff.mp hholds, hfree⟩
    · refine Or.inr ⟨_, hdue, ⟨hholds,⟨_, List.mem_append_right _ (List.mem_singleton_self _),
        rfl, rfl⟩,⟨record', AList.lookup_insert _, hcommitted, hlist⟩,hcalm⟩, hattached, ?_⟩
      rcases hspared with hfull | hcloses | ⟨hpublishing, helapsed⟩
      · exact Or.inl hfull
      · exact Or.inr (Or.inl (by simpa using hcloses))
      · refine Or.inr (Or.inr ⟨hpublishing, fun found hlookup => ?_⟩)
        change (s.registry.goals.insert goalId record').lookup goalId = some found at hlookup
        rw [AList.lookup_insert] at hlookup
        rw [← Option.some.inj hlookup, htime]
        change s.clock + (s.firstElapsed .publishing : ℕ) - s.clock < s.registry.resultTimeout
        omega

end

/-- The handle is that of an active goal. -/
def Server.holdsActive (s : Server) (handle : HandleId) : Bool :=
  decide (s.goals.lookup (s.handles handle).goalId = some handle) && (s.handles handle).isActive

/-- Before an event that may end the goal of a handle. -/
abbrev Ends (c : Scene) (handle : HandleId) (s : Server) : Prop :=
  Keeping c s ∧ (s.holdsActive handle = true → s.HandsOver (s.handles handle).goalId 2)

section

variable {c : Scene} {s : Server} {handle : HandleId}

/-- `_terminal` up to the transition. -/
theorem transit_transited (handle : HandleId) (ending : Ending) (result : ResultMessage) :
    Script.Ensures (Ends c handle) (transit handle ending result)
      (fun out => Transited c out.1 out.2) fun _ => Keeping c := by
  refine Script.Ensures.bind (m := fun _ s => Ends c handle s ∧ s.attached = true) ?_ fun _ =>
    Script.Ensures.inspect fun s hs => ?_
  · refine Script.Ensures.inspect fun s hs => ?_
    split_ifs with hattached
    · refine Script.Ensures.pure ?_
      rintro _ rfl
      exact ⟨hs, hattached⟩
    · refine Script.Ensures.raise ?_
      rintro _ rfl
      exact hs.1
  · split_ifs with hactive
    · refine Script.Ensures.raise ?_
      rintro _ rfl
      exact hs.1.1
    · have hhands := hs.1.2 (by simpa [Server.holdsActive] using hactive)
      refine Script.Ensures.bind (m := fun _ s' => Keeping c s' ∧ s'.attached = true ∧
        s'.HandsOver (s.handles handle).goalId 1)
        ((circumstance_transition 1).exact ⟨hs.1.1, hs.2, hhands⟩) fun _ => ?_
      refine Script.Ensures.bind (m := fun transition s' => ∃ before, Keeping c before ∧
        before.attached = true ∧ before.HandsOver (s.handles handle).goalId 0 ∧
        (before.registry.updateState before.clock (s.handles handle).goalId ending.event).1 =
          .ok transition ∧
        s' = {before with registry := (before.registry.updateState before.clock
          (s.handles handle).goalId ending.event).2}) ?_ fun transition => ?_
      · refine (circumstance_transition 0).bind fun _ => ?_
        rintro before ⟨h, hattached, hhands⟩
        cases houtcome : (before.registry.updateState before.clock (s.handles handle).goalId
          ending.event).1 with
        | error e =>
          simp only [houtcome, Except.mapError, updateState_failed houtcome]
          exact h
        | ok transition =>
          simp only [houtcome, Except.mapError]
          exact ⟨before, h, hattached, hhands, houtcome, rfl⟩
      · refine Script.Ensures.bind (m := fun _ => Transited c (s.handles handle).goalId
          ⟨ending.status,result⟩) (Script.Ensures.modify ?_) fun _ =>
            Script.Ensures.pure fun _ h => h
        rintro _ ⟨before, h, hattached, hhands, hok, rfl⟩
        exact transited h hattached hhands hok _ _ _

/-- The requests in hand are not due. -/
theorem Ended.apart {goalId : GoalId} {payload : Payload} {due : List RequestId}
    (h : Ended c goalId payload due s) : ∀ r ∈ due, r ∉ c.hands.map (·.request) := by
  intro r hdue hmem
  obtain ⟨hand, hhand, rfl⟩ := List.mem_map.mp hmem
  obtain ⟨record, hfound, -, hlist⟩ := h.found
  obtain ⟨work, hretained⟩ := h.holds.kept goalId hand.request ⟨record, hfound, hlist ▸ hdue⟩
  have hgone := (h.holds.ledger.inHand hand hhand).2
  exact absurd (hretained.symm.trans hgone) (by simp)

/-- Calls and publications leave it so that nothing waits. -/
theorem idle_stable (c : Scene) (goalId : GoalId) : Stable (Idle c goalId) where
  meet s phase met rest h hqueue := ⟨(keeping_stable c).meet s phase met rest h.1 hqueue, h.2⟩
  registered s registered h := ⟨(keeping_stable c).registered s registered h.1, h.2⟩
  publication s delivery hdelivery h :=
    ⟨(keeping_stable c).publication s delivery hdelivery h.1, h.2⟩
  status s revision ticket inflight h :=
    ⟨(keeping_stable c).status s revision ticket inflight h.1, h.2⟩
  goals s goals results handles nextHandle h :=
    ⟨(keeping_stable c).goals s goals results handles nextHandle h.1, h.2⟩
  registry s op hquiet h := by
    refine ⟨(keeping_stable c).registry s op hquiet h.1, fun request hkeeps => ?_⟩
    rcases keeps_apply hkeeps with ⟨record, hfound, hmem, -⟩ | ⟨⟨heq, -⟩, -⟩
    · exact h.2 request ⟨record, hfound, hmem⟩
    · rw [heq] at hquiet
      cases hquiet

/-- Nothing is handed over. -/
theorem take_idle (goalId : GoalId) :
    Script.Ensures (Idle c goalId)
      (native .handing fun _ r => r.takePendingResultRequests goalId)
      (fun requests s => requests = [] ∧ Keeping c s) fun _ => Keeping c := by
  have hafter : ∀ s, Idle c goalId s →
      Keeping c {s with registry := (s.registry.takePendingResultRequests goalId).2} := by
    rintro s ⟨h, hfree⟩
    have happlied : (s.registry.takePendingResultRequests goalId).2 =
        (s.registry.apply s.clock (.takePendingResultRequests goalId)).2 := rfl
    rw [happlied]
    refine Holds.registry h (fun goalId' request hkeeps => ?_) (fun r _ _ hkeeps => Or.inl ?_)
      h.associated.apply (h.waiting.apply rfl)
    · rcases keeps_apply hkeeps with ⟨record, hfound, hmem, -⟩ | ⟨⟨heq, -⟩, -⟩
      · exact ⟨record, hfound, hmem⟩
      · cases heq
    · refine keeps_stays hkeeps (fun hno => by cases hno) (fun heq => ?_) (by simp)
      rw [← Op.takePendingResultRequests.inj heq] at hkeeps
      exact hfree _ hkeeps
  refine native_ensures (((idle_stable c goalId).circumstance_keeps _).weaken (fun _ h => h)
    (fun _ _ h => h) fun _ _ h => h.1) (fun s requests hs hok => ⟨?_, hafter s hs⟩)
    fun s e hs _ => hafter s hs
  by_contra hne
  obtain ⟨request, hmem⟩ := List.exists_mem_of_ne_nil _ hne
  unfold Registry.takePendingResultRequests at hok
  cases hfound : s.registry.findCommitted goalId with
  | none =>
    rw [hfound] at hok
    cases hok
  | some record =>
    simp only [hfound] at hok
    rw [← Except.ok.inj hok] at hmem
    exact hs.2 request ⟨record, (Option.filter_eq_some_iff.mp hfound).1, hmem⟩

/-- `_terminal` after the transition. -/
theorem handOver_keeps (goalId : GoalId) (payload : Payload) :
    Script.Ensures (Transited c goalId payload) (handOver goalId payload) (fun _ => Keeping c)
      fun _ => Keeping c := by
  rintro s (hidle | ⟨due, hdue, hended⟩)
  · have hquiet : Script.Ensures (Idle c goalId) (handOver goalId payload) (fun _ => Keeping c)
        fun _ => Keeping c := by
      refine Script.Ensures.bind (m := fun _ => Idle c goalId)
        (((idle_stable c goalId).publishStatus_keeps _).weaken (fun _ h => h) (fun _ _ h => h)
          fun _ _ h => h.1) fun _ => (take_idle goalId).bind fun requests => ?_
      rintro s ⟨rfl, h⟩
      exact h
    exact hquiet s hidle
  · refine Script.Ensures.quiet (Script.Ensures.bind (m := fun _ => Ended c goalId payload due)
      (publishStatus_ended hdue) fun _ => ?_) s hended
    intro s hended
    have hapart := hended.apart
    refine Script.Ensures.bind (m := fun requests s => requests = due ∧ due.Nodup ∧
      Handing c due payload s) take_ended (fun requests => ?_) s hended
    rintro s ⟨rfl, hnodup, hhanding⟩
    exact deliverResults_due hnodup hapart s hhanding

theorem terminal_keeping (handle : HandleId) (ending : Ending) (result : ResultMessage) :
    Script.Ensures (Ends c handle) (terminal handle ending result) (fun _ => Keeping c)
      fun _ => Keeping c :=
  (transit_transited handle ending result).bind fun ⟨goalId, payload⟩ =>
    handOver_keeps goalId payload

theorem abortActive_keeping (handle : HandleId) (result : ResultMessage) :
    Script.Ensures (Ends c handle) (abortActive handle result) (fun _ => Keeping c)
      fun _ => Keeping c := by
  refine Script.Ensures.observe fun s => ?_
  split_ifs
  · exact terminal_keeping handle .abort result
  · exact Script.Ensures.pure fun _ h => h.1

end

section

variable {c : Scene} {s : Server} {ticket : Ticket} {request : RequestId}

/-- The outcome of a job is noted. -/
theorem keeping_complete (h : Keeping c s) {job : Job} (hjob : s.jobs.lookup ticket = some job)
    (completed : Option Bool) :
    Keeping c {s with jobs := s.jobs.insert ticket {job with completed := completed}} := by
  refine ⟨h.ledger.job fun other job' hfound => ?_,h.calm,h.asked,h.kept,h.associated,h.waiting,
    h.retained,h.delivered,h.due_retained,h.due_payload,h.unanswered,h.answered⟩
  by_cases heq : other = ticket
  · rw [heq, AList.lookup_insert] at hfound
    rw [← Option.some.inj hfound, heq]
    exact ⟨job, hjob, rfl⟩
  · rw [AList.lookup_insert_ne heq] at hfound
    exact ⟨job', hfound, rfl⟩

/-- A goal is accepted. -/
theorem keeping_accept (h : Keeping c s) (info : GoalInfo) :
    Keeping c {s with registry := (acceptGoalJob info s.registry).2} := by
  have hreserve : Keeping c {s with registry := (s.registry.reserve info.goalId).2} :=
    Holds.apply h (.reserve info.goalId) 0 rfl (by simp) (by simp) (by simp)
  unfold acceptGoalJob
  rcases hreserved : s.registry.reserve info.goalId with ⟨reserved, r⟩
  rw [hreserved] at hreserve
  cases reserved with
  | false => exact hreserve
  | true => exact Holds.apply hreserve (.commit info .defer) 0 rfl (by simp) (by simp) (by simp)

/-- The request of a job is not one that waits. -/
theorem keeping_remove (h : Keeping c s) {job : Job} (hjob : s.jobs.lookup ticket = some job)
    (hrequest : job.request.map (·.2) = some request) :
    Keeping c {s with registry := s.registry.removeResultRequest request} := by
  have happlied : s.registry.removeResultRequest request =
      (s.registry.apply s.clock (.removeResultRequest request)).2 := rfl
  rw [happlied]
  refine Holds.registry h (fun goalId other hkeeps => (keeps_remove.mp hkeeps).2)
    (fun r _ hfound hkeeps => Or.inl ?_) h.associated.apply (h.waiting.apply rfl)
  refine keeps_stays hkeeps (fun hno => by cases hno) (by simp) fun heq => ?_
  rw [Op.removeResultRequest.inj heq] at hrequest
  exact (h.ledger.pending r.request r.work hfound).alone ticket job hjob hrequest

/-- The worker is done with a job. -/
theorem deliver_keeping (h : Keeping c s) (succeeds drops : Bool) :
    Keeping c (s.deliver ticket succeeds drops) := by
  unfold Server.deliver
  split
  · exact h
  · rename_i job hjob
    split
    · rename_i info _
      have hcomplete := keeping_complete h hjob
      split_ifs
      · exact keeping_accept (hcomplete _) info
      · exact hcomplete _
    · rename_i requestId hrequest _
      have hcomplete := keeping_complete h hjob (some succeeds)
      split_ifs
      · refine keeping_remove hcomplete (AList.lookup_insert _) ?_
        rw [hrequest]
        rfl
      · exact hcomplete
    · exact keeping_complete h hjob _

/-- No request is retained by a server that can be let go of. -/
theorem unleased_retains (h : Keeping c s) (hunleased : s.unleased = true) (request : RequestId) :
    s.pendingResults.lookup request = none := by
  cases hfound : s.pendingResults.lookup request with
  | none => rfl
  | some work =>
    have hall := List.all_eq_true.mp (Bool.and_eq_true_iff.mp hunleased).2 _
      (Table.mem_entries_of_lookup hfound)
    have hwaits : s.works work = ⟨.result,some request,false,true⟩ :=
      (h.ledger.pending request work hfound).waits
    rw [hwaits] at hall
    cases hall

theorem retire_keeping (h : Keeping resting s) (hunleased : s.unleased = true) :
    Keeping resting s.retire := by
  have hnone := unleased_retains h hunleased
  have hempty : ∀ request work, (∅ : Table RequestId Ticket).lookup request ≠ some work := by
    intro request work hfound
    rw [AList.lookup_empty] at hfound
    cases hfound
  refine ⟨⟨fun request work hfound => absurd hfound (hempty request work),h.ledger.jobs,
    h.ledger.submitted,h.ledger.kept,fun hand hmem => absurd hmem List.not_mem_nil,
    h.ledger.distinct,h.ledger.fresh⟩,h.calm,h.asked,fun goalId request hkeeps => ?_,
    h.associated,h.waiting,fun r hr => ?_,fun t ht request hmem hdue =>
      ⟨(h.delivered t ht request hmem hdue).1, AList.lookup_empty _⟩,
    fun _ hno => absurd hno List.not_mem_nil,fun _ hno => absurd hno List.not_mem_nil,
    fun request hopen => ?_,h.answered⟩
  · obtain ⟨work, hfound⟩ := h.kept goalId request hkeeps
    exact absurd (hfound.symm.trans (hnone request)) (by simp)
  · rcases h.retained r hr with ⟨hfound, -⟩ | hended
    · exact absurd (hfound.symm.trans (hnone r.request)) (by simp)
    · exact Or.inr hended
  · rcases hopen with ⟨work, hfound⟩ | hmem
    · exact absurd hfound (hempty request work)
    · exact absurd hmem List.not_mem_nil

end

/-- The handle whose goal an event may end, with what its calls meet. -/
def Event.ends (s : Server) : Event → Option (HandleId × Circumstances)
  | .terminal handle _ _ met => some (handle,met)
  | .finishExecute handle _ met => some (handle,met)
  | .executeReturned .scheduled _ => none
  | .executeReturned _ met =>
    match s.stage with
    | .executing _ handle => some (handle,met)
    | _ => none
  | _ => none

/-- A step that raises nothing after it retained a request, and that ends a goal
with waiting requests only where the publication of its status and the
hand-over are harmless. -/
structure Attends (s : Server) (e : Event) : Prop where
  /-- Nothing raises after a request is retained. -/
  calm : ∀ x met, e.act = some (x,met) → ∀ c ∈ met .restoring, c.raises = false
  /-- The goal that ends outlives the publication, which does not raise. -/
  handsOver : ∀ handle met, e.ends s = some (handle,met) → s.holdsActive handle = true →
    {s with circumstances := met}.HandsOver (s.handles handle).goalId 2

/-- Retained results are delivered. -/
structure ResultsDelivered (s : Server) : Prop where
  /-- What waited for a goal that ended was answered once, with its payload, and
  is not retained any more. -/
  delivered : ∀ t ∈ s.transitions, ∀ request ∈ t.waiting, s.Delivered request t.payload
  /-- What was retained still is, and waits with a goal that has not ended, or
  its goal ended with it. -/
  retained : ∀ r ∈ s.retained,
    (s.pendingResults.lookup r.request = some r.work ∧
      ∃ record, s.registry.goals.lookup r.goal = some record ∧
        r.request ∈ record.pendingResultRequests ∧ isTerminalGoalState record.state = false) ∨
      ∃ t ∈ s.transitions, t.goal = r.goal ∧ r.request ∈ t.waiting

section

variable {c : Scene} {s : Server} {e : Event}

/-- What calls meet is part of the step. -/
theorem keeping_meets (h : Keeping c s) {met : Circumstances}
    (hmet : ∀ c ∈ met .restoring, c.raises = false) :
    Keeping c {s with circumstances := met} :=
  ⟨h.ledger,hmet,h.asked,h.kept,h.associated,h.waiting,h.retained,h.delivered,h.due_retained,
    h.due_payload,h.unanswered,h.answered⟩

theorem Rested.meets (h : Rested s) {met : Circumstances}
    (hmet : ∀ c ∈ met .restoring, c.raises = false) : Rested {s with circumstances := met} := by
  cases h with
  | idle h => exact .idle (keeping_meets h hmet)
  | waits hand h => exact .waits hand (keeping_meets h hmet)

/-- The flags do not matter. -/
theorem keeping_flags (h : Keeping c s) (closing running : Bool) :
    Keeping c {s with closing := closing, running := running} :=
  ⟨h.ledger,h.calm,h.asked,h.kept,h.associated,h.waiting,h.retained,h.delivered,h.due_retained,
    h.due_payload,h.unanswered,h.answered⟩

/-- What every place keeps, stays between steps. -/
theorem Rested.map {t : Server} (h : Rested s) (hkeeps : ∀ c, Keeping c s → Keeping c t) :
    Rested t := by
  cases h with
  | idle h => exact .idle (hkeeps _ h)
  | waits hand h => exact .waits hand (hkeeps _ h)

/-- A step that may end a goal. -/
theorem rested_ends {x : Act Unit} {handle : HandleId} (h : Rested s)
    (hends : s.holdsActive handle = true → s.HandsOver (s.handles handle).goalId 2)
    (hx : ∀ c, Script.Ensures (Ends c handle) x (fun _ => Keeping c) fun _ => Keeping c) :
    Rested (x s).2 :=
  h.map fun c h => (hx c).state ⟨h, hends⟩

/-- The execute callback returns. -/
theorem executeReturned_rested (h : Rested s) (returned : Returned)
    (hends : ∀ ticket handle, s.stage = .executing ticket handle → returned ≠ .scheduled →
      s.holdsActive handle = true → s.HandsOver (s.handles handle).goalId 2) :
    Rested (executeReturned returned s).2 := by
  have hall : Script.Ensures (· = s) (executeReturned returned) (fun _ => Rested)
      fun _ => Rested := by
    refine Script.Ensures.inspect fun t heq => ?_
    rw [heq]
    cases hstage : s.stage with
    | executing ticket handle =>
      have hidle : Keeping resting s := h.idle_of (by rw [hstage]; rfl)
      have hcleanup : Script.Keeps (Keeping resting) (acknowledge ticket) :=
        acknowledge_keeps resting ticket
      have hsettle : Script.Keeps (Keeping resting) (settle (.accept handle)) :=
        settle_keeps resting (.accept handle)
      refine Script.Ensures.bind (m := fun _ t => Keeping resting t ∧
        (returned ≠ .scheduled → Ends resting handle t)) (Script.Ensures.modify ?_) fun _ => ?_
      · intro u hu
        rw [hu]
        have hafter : Keeping resting {s with stage := .idle} :=
          ⟨hidle.ledger,hidle.calm,rfl,hidle.kept,hidle.associated,hidle.waiting,hidle.retained,
            hidle.delivered,hidle.due_retained,hidle.due_payload,hidle.unanswered,hidle.answered⟩
        exact ⟨hafter, fun hne => ⟨hafter, hends ticket handle hstage hne⟩⟩
      · have hconclude : Script.Ensures (fun t => Keeping resting t ∧
            (returned ≠ .scheduled → Ends resting handle t)) (concludeExecute handle returned)
            (fun _ => Keeping resting) fun _ => Keeping resting := by
          cases returned with
          | result result =>
            exact (abortActive_keeping handle result).weaken (fun _ h => h.2 (by simp))
              (fun _ _ h => h) fun _ _ h => h
          | raised =>
            exact (abortActive_keeping handle none).weaken (fun _ h => h.2 (by simp))
              (fun _ _ h => h) fun _ _ h => h
          | scheduled => exact Script.Ensures.pure fun _ h => h.1
        refine (Script.Ensures.ensuring (m := fun _ => Keeping resting)
          (Script.Ensures.ensuring (m := fun _ => Keeping resting) hconclude (fun _ => hsettle)
            fun _ => hsettle) (fun _ => hcleanup) fun _ => hcleanup).weaken (fun _ h => h)
          (fun _ _ => Rested.idle) fun _ _ => Rested.idle
    | _ => exact Script.Ensures.pure fun _ heq => heq ▸ h
  exact hall.state rfl

/-- Every step leaves the retained requests as they should be. -/
theorem Rested.next (h : Rested s) (henabled : machine.enabled s e) (hok : Attends s e) :
    Rested (machine.next s e) := by
  obtain ⟨hcalm, hends⟩ := hok
  cases e with
  | takeReady incoming met =>
    obtain ⟨hidle, -, -, -, -, hfresh⟩ := henabled
    have hasked : s.stage.asked = none := by rw [hidle]; rfl
    have hexpects := keeping_expects (h.idle_of hasked) hfresh
    exact (takeReady_rested incoming).state (keeping_meets hexpects (hcalm _ met rfl))
  | goalDecided answer now met =>
    exact (goalDecided_rested answer now).state (h.meets (hcalm _ met rfl))
  | cancelDecided answer met =>
    exact (cancelDecided_rested answer).state (h.meets (hcalm _ met rfl))
  | drain ticket met =>
    have hasked : s.stage.asked = none := by rw [henabled.1]; rfl
    exact .idle ((drain_keeps ticket).state
      (keeping_meets (h.idle_of hasked) (hcalm _ met rfl)))
  | executeReturned returned met =>
    refine executeReturned_rested (h.meets (hcalm _ met rfl)) returned
      fun ticket handle hstage hne => hends handle met ?_
    have hstage' : s.stage = .executing ticket handle := hstage
    cases returned with
    | scheduled => exact absurd rfl hne
    | _ => simp only [Event.ends, hstage']
  | finishExecute handle result met =>
    exact rested_ends (h.meets (hcalm _ met rfl)) (hends handle met rfl) fun c =>
      assertOwnerThread_keeps.weaken (fun _ h => h) (fun _ _ h => h) (fun _ _ h => h.1) |>.bind
        fun _ => abortActive_keeping handle result
  | terminal handle ending result met =>
    exact rested_ends (h.meets (hcalm _ met rfl)) (hends handle met rfl) fun c =>
      terminal_keeping handle ending result
  | publishFeedback handle met =>
    exact (rested_keeps fun c => (keeping_stable c).publishFeedback_keeps handle).state
      (h.meets (hcalm _ met rfl))
  | deliver ticket succeeds drops => exact h.map fun c hc => deliver_keeping hc succeeds drops
  | close => exact h.map fun c hc => keeping_flags hc true s.running
  | stop => exact h.map fun c hc => keeping_flags hc s.closing false
  | retire =>
    have hasked : s.stage.asked = none := by rw [henabled.1]; rfl
    exact .idle (retire_keeping (h.idle_of hasked) henabled.2.2.2)

/-- A new server retains nothing. -/
theorem rested_initial (resultTimeout : ℕ) (clock : ℤ) :
    Rested (Server.initial resultTimeout clock) := by
  have hnone : ∀ {α β : Type} [DecidableEq α] (a : α) (b : β),
      (∅ : Table α β).lookup a ≠ some b := by
    intro α β _ a b heq
    rw [AList.lookup_empty] at heq
    cases heq
  have hkeeps : ∀ goalId request,
      ¬ (Server.initial resultTimeout clock).registry.Keeps goalId request :=
    fun goalId request ⟨record, hfound, _⟩ => absurd hfound (hnone goalId record)
  refine .idle ⟨⟨fun request work hfound => absurd hfound (hnone request work),
    fun ticket job hjob => absurd hjob (hnone ticket job),
    fun ticket job request hjob => absurd hjob (hnone ticket job),
    fun goalId request hkeep => absurd hkeep (hkeeps goalId request),
    fun hand hmem => absurd hmem List.not_mem_nil,List.nodup_nil,
    fun request hmem => absurd hmem List.not_mem_nil⟩,
    fun c hc => absurd hc List.not_mem_nil,rfl,
    fun goalId request hkeep => absurd hkeep (hkeeps goalId request),
    ⟨fun goalId goalId' request hkeep => absurd hkeep (hkeeps goalId request),
      fun goalId record hfound => absurd hfound (hnone goalId record)⟩,
    fun goalId record hfound => absurd hfound (hnone goalId record),
    fun r hr => absurd hr List.not_mem_nil,fun t ht => absurd ht List.not_mem_nil,
    fun request hmem => absurd hmem List.not_mem_nil,
    fun request hmem => absurd hmem List.not_mem_nil,
    fun request _ a ha => absurd ha List.not_mem_nil,fun a ha => absurd ha List.not_mem_nil⟩

/-- The law of every place. -/
theorem keeping_delivered (h : Keeping c s) : ResultsDelivered s where
  delivered t ht request hmem := h.delivered t ht request hmem List.not_mem_nil
  retained := by
    intro r hr
    refine (h.retained r hr).imp (fun ⟨hfound, hkeeps⟩ => ⟨hfound, ?_⟩) id
    obtain ⟨record, hrecord, hmem⟩ := hkeeps
    exact ⟨record, hrecord, hmem, h.waiting r.goal record hrecord r.request hmem List.not_mem_nil⟩

end

/-- Where every step attends to what it retains, every retained result request is
answered once, with the payload of the transition that ends its goal. -/
theorem results_delivered (resultTimeout : ℕ) (clock : ℤ) (es : List Event) (s : Server)
    (hrun : machine.RunWhen Attends (Server.initial resultTimeout clock) es s) :
    ResultsDelivered s := by
  have hrested : Rested s := hrun.invariant Rested (rested_initial resultTimeout clock)
    fun _ _ h henabled hok => h.next henabled hok
  cases hrested with
  | idle h => exact keeping_delivered h
  | waits hand h => exact keeping_delivered h

/-- The second request of the sample runs. -/
def secondRequest : RequestId := ⟨⟨Vector.replicate 16 2⟩,2⟩

/-- A goal is accepted, a coroutine executes it, and a result request waits. -/
def awaited : List Event :=
  [.takeReady ⟨some (sampleRequest,some sampleGoal),none,none⟩ undisturbed,
    .goalDecided (some true) 5 undisturbed,.deliver 0 true false,.drain 0 undisturbed,
    .executeReturned .scheduled undisturbed,
    .takeReady ⟨none,none,some (secondRequest,some sampleGoal)⟩ undisturbed]

/-- The goal ends after its status was delivered. -/
def awaitedEnd : List Event :=
  awaited ++ [.deliver 1 true false,.drain 1 undisturbed,.finishExecute 0 (some 7) undisturbed]

/-- A test for steps that attend. -/
def Event.attends (s : Server) (e : Event) : Bool :=
  (e.act.all fun step => (step.2 .restoring).all (!·.raises)) &&
    (e.ends s).all fun (handle,met) => decide (s.waiting (s.handles handle).goalId = [] ∨
      (met .publishing).isEmpty ∧ (met .handing).isEmpty ∧ 0 < s.registry.resultTimeout)

theorem attends_of_test (s : Server) (e : Event) (h : e.attends s = true) : Attends s e := by
  obtain ⟨hcalm, hends⟩ := Bool.and_eq_true_iff.mp h
  refine ⟨fun x met hact c hc => ?_, fun handle met heq _ => ?_⟩
  · rw [hact] at hcalm
    simpa using List.all_eq_true.mp hcalm c hc
  · rw [heq] at hends
    rcases of_decide_eq_true hends with hnone | ⟨hpublishing, hhanding, htimeout⟩
    · exact Or.inl hnone
    · have hpublishing' : met .publishing = [] := List.isEmpty_iff.mp hpublishing
      have hhanding' : met .handing = [] := List.isEmpty_iff.mp hhanding
      refine Or.inr ⟨Or.inr (Or.inr ⟨fun c hc => ?_, ?_⟩), fun c hc => ?_⟩
      · change c ∈ met .publishing at hc
        rw [hpublishing'] at hc
        exact absurd hc List.not_mem_nil
      · simpa only [Server.firstElapsed, hpublishing', List.head?_nil, Option.map_none,
          Option.getD_none] using htimeout
      · change c ∈ met .handing at hc
        rw [hhanding'] at hc
        exact absurd hc List.not_mem_nil

/-- The law for a goal that ends with a request. -/
theorem results_delivered_awaited :
    ∃ s, machine.RunWhen Attends (Server.initial 10 0) awaitedEnd s ∧ ResultsDelivered s := by
  have hsome : (machine.exec (Server.initial 10 0) awaitedEnd).isSome := by decide +kernel
  obtain ⟨s, hexec⟩ := Option.isSome_iff_exists.mp hsome
  have hrun := Machine.runWhen_of_exec (fun s e => e.attends s) attends_of_test hexec
    (by decide +kernel)
  exact ⟨s, hrun, results_delivered 10 0 awaitedEnd s hrun⟩

/-- With a result timeout of zero the goal expires before its requests are taken. -/
theorem awaited_not_delivered :
    ¬ ∀ resultTimeout clock es s, machine.Run (Server.initial resultTimeout clock) es s →
      ResultsDelivered s := by
  intro hclaim
  have hfinal : ((machine.exec (Server.initial 0 0) awaitedEnd).map fun s =>
      s.transitions.any fun t => t.waiting.any fun request =>
        (s.pendingResults.lookup request).isSome) = some true := by decide +kernel
  obtain ⟨s, hexec, htest⟩ := Option.map_eq_some_iff.mp hfinal
  obtain ⟨t, ht, hwaiting⟩ := List.any_eq_true.mp htest
  obtain ⟨request, hmem, hretained⟩ := List.any_eq_true.mp hwaiting
  have hgone := ((hclaim 0 0 awaitedEnd s (Machine.run_of_exec hexec)).delivered t ht request
    hmem).2
  rw [hgone] at hretained
  cases hretained

end Dmw.ActionProtocol
