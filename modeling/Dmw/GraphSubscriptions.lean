import Dmw.Counting
import Dmw.DiscoveryGraph
import Dmw.GuardedRuns

/-!
# Subscriptions to the discovery graph

Any number of calls change the graph and notify its subscribers while others
subscribe, unsubscribe and drain. Each critical section of the graph mutex and
of a subscriber's mutex, each callback and each condition wait that is over is
one event. Calls are numbered, so a callback may itself come back to the graph.
What a change does to the tables is left out: only its outcome matters here.
-/

namespace Dmw.GraphSubscriptions

open Counting DiscoveryGraph GuardedRuns

/-- Calls are numbered. -/
abbrev CallId := ℕ

/-- Subscription ids; 0 is none. -/
abbrev SubscriptionId := ℕ

/-- One subscriber. -/
structure Subscriber where
  /-- Callbacks are admitted. -/
  accepting : Bool
  /-- Callbacks that were admitted and have not been accounted for. -/
  inFlight : ℕ
  deriving DecidableEq

/-- A Changed mutation as its notification must live up to it; history only. -/
structure Mutation where
  /-- Revision after the mutation. -/
  revision : ℕ
  /-- Who was registered at the mutation. -/
  registered : List SubscriptionId
  /-- How many callbacks had been invoked before it. -/
  since : ℕ
  deriving DecidableEq

/-- A mutation whose call has returned, with the subscribers that were not
unsubscribed meanwhile. -/
structure Finished where
  /-- The mutation. -/
  mutation : Mutation
  /-- The subscribers could be copied. -/
  told : Bool
  deriving DecidableEq

/-- Next step of one call. -/
inductive Pc
  | idle
  /-- `notify` is to copy the subscribers. -/
  | notifying (cause : Option Mutation)
  /-- At the loop of `notify` over the copied subscribers. -/
  | visiting (cause : Option Mutation) (revision : ℕ) (rest : List SubscriptionId)
  /-- The callback of a subscriber is running. -/
  | calling (cause : Option Mutation) (revision : ℕ) (id : SubscriptionId)
      (rest : List SubscriptionId)
  /-- The callback is over, `in_flight` is to be decremented. -/
  | leaving (cause : Option Mutation) (revision : ℕ) (id : SubscriptionId)
      (rest : List SubscriptionId)
  /-- The subscriber is erased, it is to stop accepting. -/
  | unsubscribing (id : SubscriptionId) (drain : Bool)
  /-- Waiting for the callbacks in flight. -/
  | draining (id : SubscriptionId)
  deriving DecidableEq

/-- The callback of a subscriber is running in the call. -/
def Pc.runs (id : SubscriptionId) : Pc → Bool
  | .calling _ _ id' _ => id' == id
  | _ => false

/-- The call is counted by a subscriber. -/
def Pc.counts (id : SubscriptionId) : Pc → Bool
  | .calling _ _ id' _ | .leaving _ _ id' _ => id' == id
  | _ => false

/-- The notification side of the graph. -/
structure Graph where
  /-- Whether input is accepted. -/
  health : DiscoveryHealth
  /-- Number of accepted changes. -/
  revision : ℕ
  /-- Last subscription id given out. -/
  nextSubscription : ℕ
  /-- Registered subscribers, oldest first. -/
  subscriptions : List SubscriptionId
  /-- All subscribers; they outlive their registration. -/
  subscribers : SubscriptionId → Subscriber
  /-- The `Subscription` object still holds its id. -/
  owned : SubscriptionId → Bool
  /-- Next step of every call. -/
  pc : CallId → Pc
  /-- Callbacks in the order of their invocation; history only. -/
  invocations : List (SubscriptionId × ℕ)
  /-- `close_and_drain` has returned; history only. -/
  drained : SubscriptionId → Bool
  /-- Mutations whose call has returned; history only. -/
  finished : List Finished

namespace Graph

/-- A new graph. -/
def initial : Graph where
  health := .healthy
  revision := 0
  nextSubscription := 0
  subscriptions := []
  subscribers := fun _ => ⟨true,0⟩
  owned := fun _ => false
  pc := fun _ => .idle
  invocations := []
  drained := fun _ => false
  finished := []

/-- Move one call. -/
def goto (t : CallId) (next : Pc) (g : Graph) : Graph :=
  {g with pc := Function.update g.pc t next}

/-- Replace one subscriber. -/
def setSubscriber (id : SubscriptionId) (subscriber : Subscriber) (g : Graph) : Graph :=
  {g with subscribers := Function.update g.subscribers id subscriber}

/-- A mutation at the current revision. -/
def mutation (g : Graph) : Mutation := ⟨g.revision,g.subscriptions,g.invocations.length⟩

/-- An accepted change moves the revision; a last one exhausts it. -/
def countChange (g : Graph) : Graph :=
  if g.revision = uint64Max then {g with health := .unavailable}
  else {g with revision := g.revision+1}

/-- The critical section of `mutate`, given what the change comes to. -/
def mutate (t : CallId) (outcome : GraphMutation) (g : Graph) : Graph :=
  if g.health ≠ .healthy then g
  else
    match outcome with
    | .invalid => {g.goto t (.notifying none) with health := .unavailable}
    | .changed => g.countChange.goto t (.notifying (some g.countChange.mutation))
    | .unchanged => g

/-- `unavailable`. -/
def unavailable (t : CallId) (g : Graph) : Graph :=
  {g.goto t (.notifying none) with health := .unavailable}

/-- `notify` copies the subscribers and the revision. -/
def copySubscribers (t : CallId) (cause : Option Mutation) (g : Graph) : Graph :=
  g.goto t (.visiting cause g.revision g.subscriptions)

/-- Admission of one callback; the callback starts with it. -/
def visit (t : CallId) (cause : Option Mutation) (revision : ℕ) (id : SubscriptionId)
    (rest : List SubscriptionId) (g : Graph) : Graph :=
  let subscriber := g.subscribers id
  if !subscriber.accepting then g.goto t (.visiting cause revision rest)
  else
    {(g.goto t (.calling cause revision id rest)).setSubscriber id
      {subscriber with inFlight := subscriber.inFlight+1} with
      invocations := g.invocations ++ [(id,revision)]}

/-- The callback returns or throws. -/
def callbackReturns (t : CallId) (cause : Option Mutation) (revision : ℕ) (id : SubscriptionId)
    (rest : List SubscriptionId) (threw : Bool) (g : Graph) : Graph :=
  let left := g.goto t (.leaving cause revision id rest)
  if threw then {left with health := .unavailable} else left

/-- The callback is accounted for. -/
def leave (t : CallId) (cause : Option Mutation) (revision : ℕ) (id : SubscriptionId)
    (rest : List SubscriptionId) (g : Graph) : Graph :=
  (g.goto t (.visiting cause revision rest)).setSubscriber id
    {g.subscribers id with inFlight := (g.subscribers id).inFlight-1}

/-- The call that changed the graph returns. -/
def finish (t : CallId) (cause : Option Mutation) (told : Bool) (g : Graph) : Graph :=
  {g.goto t .idle with
    finished := g.finished ++ (cause.map fun m =>
      ⟨{m with registered := m.registered.filter g.subscriptions.contains},told⟩).toList}

/-- The copy throws: `notify` tells nobody and returns. -/
def notifyFails (t : CallId) (cause : Option Mutation) (g : Graph) : Graph :=
  {g.finish t cause false with health := .unavailable}

/-- `subscribe`; the allocation of the subscriber may throw. -/
def subscribe (threw : Bool) (g : Graph) : Graph :=
  if g.nextSubscription = uint64Max then {g with health := .unavailable}
  else
    let id := g.nextSubscription+1
    let counted := {g with nextSubscription := id}
    if threw then counted
    else
      {counted.setSubscriber id ⟨true,0⟩ with
        subscriptions := g.subscriptions ++ [id]
        owned := Function.update g.owned id true}

/-- The first critical section of `unsubscribe`. A call that finds nothing
returns at once. -/
def unsubscribe (t : CallId) (id : SubscriptionId) (drain : Bool) (g : Graph) : Graph :=
  let released := {g with owned := Function.update g.owned id false}
  if !g.subscriptions.contains id then
    {released with drained := if drain then Function.update g.drained id true else g.drained}
  else {released.goto t (.unsubscribing id drain) with subscriptions := g.subscriptions.erase id}

/-- The second critical section of `unsubscribe`, up to its wait. -/
def stopAccepting (t : CallId) (id : SubscriptionId) (drain : Bool) (g : Graph) : Graph :=
  (g.goto t (if drain then .draining id else .idle)).setSubscriber id
    {g.subscribers id with accepting := false}

/-- `close_and_drain` returns. -/
def endDrain (t : CallId) (id : SubscriptionId) (g : Graph) : Graph :=
  {g.goto t .idle with drained := Function.update g.drained id true}

end Graph

/-- One atomic event. -/
inductive Event
  | mutate (t : CallId) (outcome : GraphMutation)
  | unavailable (t : CallId)
  | copySubscribers (t : CallId) (cause : Option Mutation)
  | notifyFails (t : CallId) (cause : Option Mutation)
  | visit (t : CallId) (cause : Option Mutation) (revision : ℕ) (id : SubscriptionId)
      (rest : List SubscriptionId)
  | callbackReturns (t : CallId) (cause : Option Mutation) (revision : ℕ) (id : SubscriptionId)
      (rest : List SubscriptionId) (threw : Bool)
  | leave (t : CallId) (cause : Option Mutation) (revision : ℕ) (id : SubscriptionId)
      (rest : List SubscriptionId)
  | finish (t : CallId) (cause : Option Mutation) (revision : ℕ)
  | subscribe (threw : Bool)
  | unsubscribe (t : CallId) (id : SubscriptionId) (drain : Bool)
  | stopAccepting (t : CallId) (id : SubscriptionId) (drain : Bool)
  | endDrain (t : CallId) (id : SubscriptionId)

/-- Calls follow their steps; an id is given back by the object that holds it,
and a wait ends when nothing is in flight. -/
def Enabled (g : Graph) : Event → Prop
  | .mutate t _ => g.pc t = .idle
  | .unavailable t => g.pc t = .idle
  | .copySubscribers t cause => g.pc t = .notifying cause
  | .notifyFails t cause => g.pc t = .notifying cause
  | .visit t cause revision id rest => g.pc t = .visiting cause revision (id :: rest)
  | .callbackReturns t cause revision id rest _ => g.pc t = .calling cause revision id rest
  | .leave t cause revision id rest => g.pc t = .leaving cause revision id rest
  | .finish t cause revision => g.pc t = .visiting cause revision []
  | .subscribe _ => True
  | .unsubscribe t id _ => g.pc t = .idle ∧ g.owned id = true
  | .stopAccepting t id drain => g.pc t = .unsubscribing id drain
  | .endDrain t id => g.pc t = .draining id ∧ (g.subscribers id).inFlight = 0

/-- Effect of an enabled event. -/
def next (g : Graph) : Event → Graph
  | .mutate t outcome => g.mutate t outcome
  | .unavailable t => g.unavailable t
  | .copySubscribers t cause => g.copySubscribers t cause
  | .notifyFails t cause => g.notifyFails t cause
  | .visit t cause revision id rest => g.visit t cause revision id rest
  | .callbackReturns t cause revision id rest threw => g.callbackReturns t cause revision id rest threw
  | .leave t cause revision id rest => g.leave t cause revision id rest
  | .finish t cause _ => g.finish t cause true
  | .subscribe threw => g.subscribe threw
  | .unsubscribe t id drain => g.unsubscribe t id drain
  | .stopAccepting t id drain => g.stopAccepting t id drain
  | .endDrain t id => g.endDrain t id

instance (g : Graph) (e : Event) : Decidable (Enabled g e) := by
  cases e <;> unfold Enabled <;> infer_instance

/-- The subscriptions of a graph as a guarded machine. -/
def machine : Machine Graph Event where
  enabled := Enabled
  next := next
  decidableEnabled := inferInstance

/-- The section of `mutate` accounts for a change as the graph does. -/
theorem mutate_agrees (t : CallId) (outcome : GraphMutation) (g : Graph)
    (tables : DiscoveryGraph.Graph) (hhealth : tables.health = g.health)
    (hrevision : tables.revision = g.revision) :
    let after := DiscoveryGraph.mutate (fun tables => (tables,outcome)) tables
    (g.mutate t outcome).health = after.health ∧ (g.mutate t outcome).revision = after.revision := by
  unfold Graph.mutate DiscoveryGraph.mutate
  rw [hhealth]
  by_cases hidle : g.health ≠ .healthy
  · simp [hidle, hhealth, hrevision]
  · rw [if_neg hidle]
    cases outcome with
    | invalid => simp [hidle, notify, Graph.goto, hrevision]
    | unchanged => simp [hidle, hrevision]
    | changed =>
      by_cases hlast : g.revision = uint64Max
      · simp [hidle, hlast, hrevision, notify, Graph.goto, Graph.countChange]
      · simp [hidle, hlast, hrevision, notify, Graph.goto, Graph.countChange]

namespace Graph

variable {g : Graph} {t u : CallId} {p : Pc}

@[simp] theorem pc_goto_self : (g.goto t p).pc t = p := by simp [goto]

@[simp] theorem pc_goto_ne (hne : u ≠ t) : (g.goto t p).pc u = g.pc u := by simp [goto, hne]

/-- A counted change differs in health and revision only, and the revision goes
up. -/
theorem countChange_eq (g : Graph) : ∃ health revision, g.revision ≤ revision ∧
    g.countChange = {g with health := health, revision := revision} := by
  unfold countChange
  split
  · exact ⟨_, _, le_rfl, rfl⟩
  · exact ⟨_, _, Nat.le_succ _, rfl⟩

end Graph

/-- Subscribers that the rest of a call may still touch. -/
def Pc.mentions : Pc → List SubscriptionId
  | .visiting _ _ rest => rest
  | .calling _ _ id rest | .leaving _ _ id rest => id :: rest
  | .unsubscribing id _ | .draining id => [id]
  | _ => []

/-- Who is registered, who is counted and who is drained. -/
structure Consistent (g : Graph) : Prop where
  /-- Registered ids were given out. -/
  dated : ∀ id ∈ g.subscriptions, id ≤ g.nextSubscription
  /-- So were the ids that calls know. -/
  known : ∀ t, ∀ id ∈ (g.pc t).mentions, id ≤ g.nextSubscription
  /-- Subscribers that were not made have no history. -/
  fresh : ∀ id, g.nextSubscription < id → g.subscribers id = ⟨true,0⟩
  /-- No id is registered twice. -/
  distinct : g.subscriptions.Nodup
  /-- An object holds its id only while the subscriber is registered. -/
  owned : ∀ id, g.owned id = true → id ∈ g.subscriptions
  /-- Who does not accept is not registered. -/
  rejecting : ∀ id, (g.subscribers id).accepting = false → id ∉ g.subscriptions
  /-- Nor is one that is about to stop. -/
  erased : ∀ t id drain, g.pc t = .unsubscribing id drain → id ∉ g.subscriptions
  /-- A subscriber that is being drained does not accept. -/
  draining : ∀ t id, g.pc t = .draining id → (g.subscribers id).accepting = false
  /-- The counter of a subscriber counts its calls. -/
  counted : ∀ id, Counts (fun t => (g.pc t).counts id = true) (g.subscribers id).inFlight
  /-- A drained subscriber neither accepts nor is in flight. -/
  drained : ∀ id, g.drained id = true →
    (g.subscribers id).accepting = false ∧ (g.subscribers id).inFlight = 0

namespace Consistent

variable {g : Graph}

/-- Whoever does not accept was made. -/
theorem made (h : Consistent g) {id : SubscriptionId} (hid : (g.subscribers id).accepting = false) :
    id ≤ g.nextSubscription := by
  rcases Nat.lt_or_ge g.nextSubscription id with hlt | hle
  · rw [h.fresh id hlt] at hid
    cases hid
  · exact hle

/-- A property of the steps of all calls survives the move of one of them. -/
theorem forall_goto {R : Pc → Prop} {t : CallId} {p : Pc} (hall : ∀ u, R (g.pc u)) (hp : R p) (u : CallId) :
    R ((g.goto t p).pc u) := by
  by_cases hut : u = t
  · subst hut
    rwa [Graph.pc_goto_self]
  · rw [Graph.pc_goto_ne hut]
    exact hall u

/-- A call moves and one subscriber changes. -/
theorem move (h : Consistent g) {t : CallId} {p : Pc} {id : SubscriptionId} {subscriber : Subscriber}
    (hknown : ∀ id ∈ p.mentions, id ≤ g.nextSubscription)
    (herased : ∀ id drain, p = .unsubscribing id drain → id ∉ g.subscriptions)
    (hdraining : ∀ id', p = .draining id' → id' = id ∧ subscriber.accepting = false)
    (hmade : id ≤ g.nextSubscription)
    (hrejecting : subscriber.accepting = false → id ∉ g.subscriptions)
    (hstays : (g.subscribers id).accepting = false → subscriber.accepting = false)
    (hdrained : g.drained id = true → subscriber.inFlight = 0)
    (hcounted : Counts (fun u => ((g.goto t p).pc u).counts id = true) subscriber.inFlight)
    (hothers : ∀ id', id' ≠ id → p.counts id' = (g.pc t).counts id') :
    Consistent ((g.goto t p).setSubscriber id subscriber) where
  dated := h.dated
  known := forall_goto (R := fun p => ∀ id ∈ p.mentions, id ≤ g.nextSubscription) h.known hknown
  fresh := by
    intro id' hid'
    have hid : id' ≤ g.nextSubscription → False := fun hc => by
      have hlt : g.nextSubscription < id' := hid'
      omega
    have hne : id' ≠ id := fun hc => hid (hc ▸ hmade)
    simp only [Graph.setSubscriber, Function.update_of_ne hne]
    exact h.fresh id' hid'
  distinct := h.distinct
  owned := h.owned
  rejecting := by
    intro id' hid'
    by_cases heq : id' = id
    · subst heq
      simp only [Graph.setSubscriber, Function.update_self] at hid'
      exact hrejecting hid'
    · simp only [Graph.setSubscriber, Function.update_of_ne heq] at hid'
      exact h.rejecting id' hid'
  erased := fun u => forall_goto (R := fun p => ∀ id drain, p = .unsubscribing id drain →
    id ∉ g.subscriptions) h.erased herased u
  draining := by
    have hstill : ∀ id', (g.subscribers id').accepting = false →
        (Function.update g.subscribers id subscriber id').accepting = false := by
      intro id' hid'
      by_cases heq : id' = id
      · subst heq
        rw [Function.update_self]
        exact hstays hid'
      · rw [Function.update_of_ne heq]
        exact hid'
    refine fun u => forall_goto (R := fun p => ∀ id', p = .draining id' →
      (Function.update g.subscribers id subscriber id').accepting = false)
        (fun u id' hu => hstill id' (h.draining u id' hu)) ?_ u
    intro id' hid'
    obtain ⟨rfl, hoff⟩ := hdraining id' hid'
    rwa [Function.update_self]
  counted := by
    intro id'
    by_cases heq : id' = id
    · subst heq
      simp only [Graph.setSubscriber, Function.update_self]
      exact hcounted
    · simp only [Graph.setSubscriber, Function.update_of_ne heq]
      exact Counts.move (R := fun p => Pc.counts id' p = true) (h.counted id')
        (by simp [hothers id' heq])
  drained := by
    intro id' hid'
    by_cases heq : id' = id
    · subst heq
      simp only [Graph.setSubscriber, Function.update_self]
      exact ⟨hstays (h.drained _ hid').1, hdrained hid'⟩
    · simp only [Graph.setSubscriber, Function.update_of_ne heq]
      exact h.drained id' hid'

/-- A call moves without touching a subscriber. -/
theorem goto (h : Consistent g) {t : CallId} {p : Pc}
    (hknown : ∀ id ∈ p.mentions, id ≤ g.nextSubscription)
    (herased : ∀ id drain, p = .unsubscribing id drain → id ∉ g.subscriptions)
    (hdraining : ∀ id, p = .draining id → (g.subscribers id).accepting = false)
    (hcounts : ∀ id, p.counts id = (g.pc t).counts id) : Consistent (g.goto t p) where
  dated := h.dated
  known := forall_goto (R := fun p => ∀ id ∈ p.mentions, id ≤ g.nextSubscription) h.known hknown
  fresh := h.fresh
  distinct := h.distinct
  owned := h.owned
  rejecting := h.rejecting
  erased := fun u => forall_goto (R := fun p => ∀ id drain, p = .unsubscribing id drain →
    id ∉ g.subscriptions) h.erased herased u
  draining := fun u => forall_goto (R := fun p => ∀ id, p = .draining id →
    (g.subscribers id).accepting = false) h.draining hdraining u
  counted := fun id =>
    Counts.move (R := fun p => Pc.counts id p = true) (h.counted id) (by simp [hcounts id])
  drained := h.drained

end Consistent

/-- Health, revision and the history of invocations and mutations are not part
of the accounting. -/
theorem Consistent.frame {g : Graph} (h : Consistent g) (health : DiscoveryHealth) (revision : ℕ)
    (invocations : List (SubscriptionId × ℕ)) (finished : List Finished) :
    Consistent {g with
      health := health
      revision := revision
      invocations := invocations
      finished := finished} :=
  ⟨h.dated, h.known, h.fresh, h.distinct, h.owned, h.rejecting, h.erased, h.draining, h.counted, h.drained⟩

/-- A new subscriber accepts and has nothing in flight. -/
theorem Consistent.subscribe {g : Graph} (h : Consistent g) (threw : Bool) :
    Consistent (g.subscribe threw) := by
  unfold Graph.subscribe
  split
  · exact h.frame _ _ _ _
  · have hlater : ∀ id, id ≤ g.nextSubscription → id ≠ g.nextSubscription+1 := fun id hid heq =>
      Nat.not_succ_le_self g.nextSubscription (heq ▸ hid : g.nextSubscription+1 ≤ g.nextSubscription)
    have hcounted : Consistent {g with nextSubscription := g.nextSubscription+1} :=
      ⟨fun id hid => Nat.le_succ_of_le (h.dated id hid),
        fun t id hid => Nat.le_succ_of_le (h.known t id hid),
        fun id hid => h.fresh id (Nat.lt_of_succ_lt hid), h.distinct, h.owned, h.rejecting, h.erased,
        h.draining, h.counted, h.drained⟩
    have hsame : Function.update g.subscribers (g.nextSubscription+1) ⟨true,0⟩ = g.subscribers := by
      rw [← h.fresh (g.nextSubscription+1) (Nat.lt_succ_self _)]
      exact Function.update_eq_self _ _
    have hmem : ∀ id, id ≤ g.nextSubscription → id ∉ g.subscriptions →
        id ∉ g.subscriptions ++ [g.nextSubscription+1] := by
      intro id hle hgone hc
      rcases List.mem_append.mp hc with hold | hlast
      · exact hgone hold
      · exact hlater id hle (List.mem_singleton.mp hlast)
    split
    · exact hcounted
    · simp only [Graph.setSubscriber, hsame]
      refine ⟨?_, hcounted.known, hcounted.fresh, ?_, ?_, ?_, ?_, h.draining, h.counted, h.drained⟩
      · intro id hid
        rcases List.mem_append.mp hid with hold | hlast
        · exact hcounted.dated id hold
        · exact Nat.le_of_eq (List.mem_singleton.mp hlast)
      · refine List.nodup_append.mpr ⟨h.distinct, List.nodup_singleton _, fun id hid id' hid' => ?_⟩
        rw [List.mem_singleton.mp hid']
        exact hlater id (h.dated id hid)
      · intro id hid
        by_cases hlast : id = g.nextSubscription+1
        · exact List.mem_append.mpr (.inr (List.mem_singleton.mpr hlast))
        · simp only [Function.update_of_ne hlast] at hid
          exact List.mem_append.mpr (.inl (h.owned id hid))
      · exact fun id hid => hmem id (h.made hid) (h.rejecting id hid)
      · intro t id drain hid
        refine hmem id (h.known t id ?_) (h.erased t id drain hid)
        rw [show g.pc t = .unsubscribing id drain from hid]
        exact List.mem_singleton.mpr rfl

/-- An unsubscribed id is registered no more. -/
theorem Consistent.unsubscribe {g : Graph} (h : Consistent g) {t : CallId} {id : SubscriptionId}
    {drain : Bool} (hpc : g.pc t = .idle) (howned : g.owned id = true) :
    Consistent (g.unsubscribe t id drain) := by
  have hmem : id ∈ g.subscriptions := h.owned id howned
  have hfewer : ∀ {id'}, id' ∈ g.subscriptions.erase id → id' ∈ g.subscriptions :=
    fun hid' => List.mem_of_mem_erase hid'
  have herased : Consistent {g with
      owned := Function.update g.owned id false
      subscriptions := g.subscriptions.erase id} := by
    refine ⟨fun id' hid' => h.dated id' (hfewer hid'), h.known, h.fresh, h.distinct.erase id, ?_,
      fun id' hid' hc => h.rejecting id' hid' (hfewer hc),
      fun u id' drain' hu hc => h.erased u id' drain' hu (hfewer hc), h.draining, h.counted, h.drained⟩
    intro id' hid'
    by_cases heq : id' = id
    · subst heq
      simp at hid'
    · simp only [Function.update_of_ne heq] at hid'
      exact (List.mem_erase_of_ne heq).mpr (h.owned id' hid')
  have hfound : ¬ (!g.subscriptions.contains id) = true := by simp [hmem]
  unfold Graph.unsubscribe
  rw [if_neg hfound]
  refine herased.goto ?_ ?_ (fun _ hc => nomatch hc) fun _ => ?_
  · intro id' hid'
    rw [List.mem_singleton.mp hid']
    exact h.dated id hmem
  · intro id' drain' hc hkept
    rw [← (Pc.unsubscribing.inj hc).1] at hkept
    exact ((List.Nodup.mem_erase_iff h.distinct).mp hkept).1 rfl
  · rw [show g.pc t = .idle from hpc]
    rfl

/-- A call that is not counted moves to a step that has to do with no subscriber. -/
theorem Consistent.moves {g : Graph} (h : Consistent g) {t : CallId} {p q : Pc} (hpc : g.pc t = q)
    (hp : p.mentions = []) (hcounts : ∀ id, p.counts id = q.counts id) :
    Consistent (g.goto t p) := by
  refine h.goto (fun id hid => ?_) (fun id drain hc => ?_) (fun id hc => ?_) fun id => ?_
  · rw [hp] at hid
    cases hid
  · rw [hc] at hp
    cases hp
  · rw [hc] at hp
    cases hp
  · rw [hpc]
    exact hcounts id

/-- Every step keeps the accounting consistent. -/
theorem Consistent.step {g : Graph} (h : Consistent g) {e : Event} (hen : Enabled g e) :
    Consistent (next g e) := by
  cases e with
  | mutate t outcome =>
    have hpc : g.pc t = .idle := hen
    have hmoved : ∀ cause, Consistent (g.goto t (.notifying cause)) := fun cause =>
      h.moves hpc rfl fun _ => rfl
    simp only [next, Graph.mutate]
    split
    · exact h
    · cases outcome with
      | invalid => exact (hmoved none).frame _ _ _ _
      | unchanged => exact h
      | changed =>
        obtain ⟨health, revision, _, hcounted⟩ := g.countChange_eq
        simp only [hcounted]
        exact (hmoved _).frame health revision g.invocations g.finished
  | unavailable t =>
    have hmoved : Consistent (g.goto t (.notifying none)) := h.moves hen rfl fun _ => rfl
    exact hmoved.frame _ _ _ _
  | copySubscribers t cause =>
    have hpc : g.pc t = .notifying cause := hen
    exact h.goto h.dated (fun _ _ hc => nomatch hc) (fun _ hc => nomatch hc) fun _ => by rw [hpc]; rfl
  | notifyFails t cause =>
    have hmoved : Consistent (g.goto t .idle) := h.moves hen rfl fun _ => rfl
    exact hmoved.frame _ _ _ _
  | visit t cause revision id rest =>
    have hpc : g.pc t = .visiting cause revision (id :: rest) := hen
    have hknown : ∀ id' ∈ id :: rest, id' ≤ g.nextSubscription := by
      have hmentioned := h.known t
      rw [hpc] at hmentioned
      exact hmentioned
    simp only [next, Graph.visit]
    split
    · exact h.goto (fun id' hid' => hknown id' (List.mem_cons_of_mem _ hid'))
        (fun _ _ hc => nomatch hc) (fun _ hc => nomatch hc) fun _ => by rw [hpc]; rfl
    · next haccepting =>
      simp only [Bool.not_eq_true', Bool.not_eq_false] at haccepting
      have hentered : Counts (fun u => ((g.goto t (.calling cause revision id rest)).pc u).counts id
          = true) ((g.subscribers id).inFlight+1) :=
        Counts.enter (R := fun p => Pc.counts id p = true) (h.counted id)
          (by rw [hpc]; exact fun hc => nomatch hc) (by simp [Pc.counts])
      have hmoved := @move g h t (.calling cause revision id rest) id {g.subscribers id with
        inFlight := (g.subscribers id).inFlight+1} hknown (fun _ _ hc => nomatch hc)
        (fun _ hc => nomatch hc) (hknown id List.mem_cons_self)
        (fun hc => absurd (haccepting.symm.trans hc) (by decide)) (fun hc => hc)
        (fun hc => absurd (haccepting.symm.trans (h.drained id hc).1) (by decide)) hentered ?_
      · exact hmoved.frame _ _ _ _
      · intro id' hne
        rw [hpc]
        simp [Pc.counts, hne.symm]
  | callbackReturns t cause revision id rest threw =>
    have hpc : g.pc t = .calling cause revision id rest := hen
    have hmentioned := h.known t
    rw [hpc] at hmentioned
    have hmoved : Consistent (g.goto t (.leaving cause revision id rest)) :=
      h.goto hmentioned (fun _ _ hc => nomatch hc) (fun _ hc => nomatch hc) fun _ => by rw [hpc]; rfl
    simp only [next, Graph.callbackReturns]
    split
    · exact hmoved.frame _ _ _ _
    · exact hmoved
  | leave t cause revision id rest =>
    have hpc : g.pc t = .leaving cause revision id rest := hen
    have hknown : ∀ id' ∈ id :: rest, id' ≤ g.nextSubscription := by
      have hmentioned := h.known t
      rw [hpc] at hmentioned
      exact hmentioned
    have hcounting : (g.pc t).counts id = true := by rw [hpc]; simp [Pc.counts]
    have hleft : Counts (fun u => ((g.goto t (.visiting cause revision rest)).pc u).counts id = true)
        ((g.subscribers id).inFlight-1) :=
      Counts.leave (R := fun p => Pc.counts id p = true) (h.counted id) hcounting
        (fun hc => nomatch hc)
    refine h.move (fun id' hid' => hknown id' (List.mem_cons_of_mem _ hid'))
      (fun _ _ hc => nomatch hc) (fun _ hc => nomatch hc) (hknown id List.mem_cons_self)
      (h.rejecting id) (fun hc => hc) ?_ hleft ?_
    · intro hc
      simp only [(h.drained id hc).2]
    · intro id' hne
      rw [hpc]
      simp [Pc.counts, hne.symm]
  | finish t cause revision =>
    have hmoved : Consistent (g.goto t .idle) := h.moves hen rfl fun _ => rfl
    exact hmoved.frame _ _ _ _
  | subscribe threw => exact h.subscribe threw
  | unsubscribe t id drain => exact h.unsubscribe hen.1 hen.2
  | stopAccepting t id drain =>
    have hpc : g.pc t = .unsubscribing id drain := hen
    have hmentioned := h.known t
    rw [hpc] at hmentioned
    have hto : ∀ id', (if drain then Pc.draining id else .idle).counts id' = (g.pc t).counts id' := by
      intro id'
      rw [hpc]
      cases drain <;> rfl
    refine h.move ?_ ?_ ?_ (hmentioned id (List.mem_singleton.mpr rfl)) ?_ (fun _ => rfl) ?_ ?_ ?_
    · intro id' hid'
      cases drain with
      | false => cases hid'
      | true => exact hmentioned id' hid'
    · intro id' drain' hc
      cases drain <;> cases hc
    · intro id' hc
      cases drain with
      | false => cases hc
      | true => exact ⟨(Pc.draining.inj hc).symm, rfl⟩
    · exact fun _ => h.erased t id drain hpc
    · exact fun hc => (h.drained id hc).2
    · exact Counts.move (R := fun p => Pc.counts id p = true) (h.counted id) (by simp [hto id])
    · exact fun id' _ => hto id'
  | endDrain t id =>
    have hpc : g.pc t = .draining id := hen.1
    have hmoved : Consistent (g.goto t .idle) := h.moves hpc rfl fun _ => rfl
    refine ⟨hmoved.dated, hmoved.known, hmoved.fresh, hmoved.distinct, hmoved.owned, hmoved.rejecting,
      hmoved.erased, hmoved.draining, hmoved.counted, ?_⟩
    intro id' hid'
    by_cases heq : id' = id
    · subst heq
      exact ⟨h.draining t _ hpc, hen.2⟩
    · simp only [next, Graph.endDrain, Function.update_of_ne heq] at hid'
      exact h.drained id' hid'

/-- A new graph is consistent. -/
theorem Consistent.initial : Consistent Graph.initial where
  dated := fun _ hid => nomatch hid
  known := fun _ _ hid => nomatch hid
  fresh := fun _ _ => rfl
  distinct := List.nodup_nil
  owned := fun _ hid => nomatch hid
  rejecting := fun _ _ hid => nomatch hid
  erased := fun _ _ _ hc => nomatch hc
  draining := fun _ _ hc => nomatch hc
  counted := fun _ => Counts.none fun _ hc => nomatch hc
  drained := fun _ hid => nomatch hid

/-- Every reachable graph is consistent. -/
theorem consistent_of_run {es : List Event} {g : Graph} (h : machine.Run Graph.initial es g) :
    Consistent g :=
  h.invariant Consistent Consistent.initial fun _ _ hconsistent hen _ => hconsistent.step hen

/-- A callback was invoked after the mutation with a revision that covers it. -/
def Delivered (invocations : List (SubscriptionId × ℕ)) (m : Mutation) (id : SubscriptionId) : Prop :=
  ∃ i revision, m.since ≤ i ∧ invocations[i]? = some (id,revision) ∧ m.revision ≤ revision

/-- A round of callbacks that still lives up to its mutation: whoever was
registered then is to be visited, was unsubscribed or was called. -/
structure Promised (g : Graph) (m : Mutation) (revision : ℕ) (rest : List SubscriptionId) : Prop where
  /-- The round announces the mutation. -/
  covers : m.revision ≤ revision
  /-- The mutation lies in the past. -/
  past : m.since ≤ g.invocations.length
  /-- Those registered then are accounted for. -/
  served : ∀ id ∈ m.registered, id ≤ g.nextSubscription ∧
    (id ∈ rest ∨ id ∉ g.subscriptions ∨ Delivered g.invocations m id)

/-- What each step of a call owes to the mutation that caused it. -/
def Delivers (g : Graph) : Pc → Prop
  | .notifying (some m) => Promised g m g.revision g.subscriptions
  | .visiting (some m) revision rest | .calling (some m) revision _ rest
  | .leaving (some m) revision _ rest => Promised g m revision rest
  | _ => True

/-- How a graph evolves: nothing said is taken back and nobody returns. -/
structure Later (g g' : Graph) : Prop where
  /-- Invocations are kept. -/
  invocations : g.invocations <+: g'.invocations
  /-- Ids go up. -/
  ids : g.nextSubscription ≤ g'.nextSubscription
  /-- Revisions go up. -/
  revision : g.revision ≤ g'.revision
  /-- An unavailable graph stays so. -/
  unavailable : g.health = .unavailable → g'.health = .unavailable
  /-- Whoever was unsubscribed is not registered again. -/
  gone : ∀ id, id ≤ g.nextSubscription → id ∉ g.subscriptions → id ∉ g'.subscriptions

/-- A delivery is not undone. -/
theorem Delivered.later {invocations invocations' : List (SubscriptionId × ℕ)} {m : Mutation}
    {id : SubscriptionId} (h : Delivered invocations m id) (hkept : invocations <+: invocations') :
    Delivered invocations' m id := by
  obtain ⟨i, revision, hsince, hat, hcovers⟩ := h
  obtain ⟨more, rfl⟩ := hkept
  have hlt : i < invocations.length := (List.getElem?_eq_some_iff.mp hat).1
  exact ⟨i, revision, hsince, (List.getElem?_append_left hlt).trans hat, hcovers⟩

theorem Promised.later {g g' : Graph} {m : Mutation} {revision : ℕ} {rest : List SubscriptionId}
    (h : Promised g m revision rest) (hlater : Later g g') : Promised g' m revision rest where
  covers := h.covers
  past := h.past.trans hlater.invocations.length_le
  served := by
    intro id hid
    obtain ⟨hle, hcase⟩ := h.served id hid
    refine ⟨hle.trans hlater.ids, ?_⟩
    rcases hcase with hrest | hgone | hdelivered
    · exact .inl hrest
    · exact .inr (.inl (hlater.gone id hle hgone))
    · exact .inr (.inr (hdelivered.later hlater.invocations))

/-- What a call owes, it still owes while others act. -/
theorem Delivers.later {g g' : Graph} {p : Pc} (h : Delivers g p) (hlater : Later g g') :
    Delivers g' p := by
  cases p with
  | notifying cause =>
    cases cause with
    | none => trivial
    | some m =>
      refine ⟨(Promised.covers h).trans hlater.revision, (Promised.later h hlater).past, ?_⟩
      intro id hid
      refine ⟨((Promised.later h hlater).served id hid).1, ?_⟩
      by_cases hmem : id ∈ g'.subscriptions
      · exact .inl hmem
      · exact .inr (.inl hmem)
  | visiting cause | calling cause | leaving cause =>
    cases cause with
    | none => trivial
    | some m => exact Promised.later h hlater
  | _ => trivial

/-- Nothing happens to the subscribers. -/
theorem Later.of_eq {g g' : Graph} (hinvocations : g'.invocations = g.invocations)
    (hids : g'.nextSubscription = g.nextSubscription) (hrevision : g.revision ≤ g'.revision)
    (hunavailable : g.health = .unavailable → g'.health = .unavailable)
    (hsubscriptions : g'.subscriptions = g.subscriptions) : Later g g' where
  invocations := by rw [hinvocations]
  ids := Nat.le_of_eq hids.symm
  revision := hrevision
  unavailable := hunavailable
  gone := fun _ _ hgone => hsubscriptions ▸ hgone

/-- Every step goes forward. -/
theorem later_next (g : Graph) (e : Event) : Later g (next g e) := by
  have hsame : Later g g := .of_eq rfl rfl le_rfl id rfl
  cases e with
  | mutate t outcome =>
    simp only [next, Graph.mutate]
    split
    · exact hsame
    · next hhealthy =>
      cases outcome with
      | invalid => exact .of_eq rfl rfl le_rfl (fun _ => rfl) rfl
      | unchanged => exact hsame
      | changed =>
        obtain ⟨health, revision, hle, hcounted⟩ := g.countChange_eq
        simp only [hcounted]
        refine .of_eq rfl rfl hle (fun hunavailable => absurd ?_ hhealthy) rfl
        rw [hunavailable]
        exact nofun
  | visit t cause revision id rest =>
    simp only [next, Graph.visit]
    split
    · exact .of_eq rfl rfl le_rfl (fun h => h) rfl
    · exact ⟨List.prefix_append _ _, le_rfl, le_rfl, fun h => h, fun _ _ hgone => hgone⟩
  | callbackReturns t cause revision id rest threw =>
    simp only [next, Graph.callbackReturns]
    split
    · exact .of_eq rfl rfl le_rfl (fun _ => rfl) rfl
    · exact .of_eq rfl rfl le_rfl (fun h => h) rfl
  | subscribe threw =>
    simp only [next, Graph.subscribe]
    split
    · exact .of_eq rfl rfl le_rfl (fun _ => rfl) rfl
    · split
      · exact ⟨List.prefix_rfl, Nat.le_succ _, le_rfl, fun h => h, fun _ _ hgone => hgone⟩
      · refine ⟨List.prefix_rfl, Nat.le_succ _, le_rfl, fun h => h, fun id hle hgone hc => ?_⟩
        rcases List.mem_append.mp hc with hold | hlast
        · exact hgone hold
        · exact Nat.not_succ_le_self g.nextSubscription
            (List.mem_singleton.mp hlast ▸ hle : g.nextSubscription+1 ≤ g.nextSubscription)
  | unsubscribe t id drain =>
    simp only [next, Graph.unsubscribe]
    split
    · exact .of_eq rfl rfl le_rfl (fun h => h) rfl
    · exact ⟨List.prefix_rfl, le_rfl, le_rfl, fun h => h,
        fun _ _ hgone hc => hgone (List.mem_of_mem_erase hc)⟩
  | unavailable t => exact .of_eq rfl rfl le_rfl (fun _ => rfl) rfl
  | copySubscribers t cause => exact .of_eq rfl rfl le_rfl (fun h => h) rfl
  | notifyFails t cause => exact .of_eq rfl rfl le_rfl (fun _ => rfl) rfl
  | leave t cause revision id rest => exact .of_eq rfl rfl le_rfl (fun h => h) rfl
  | finish t cause revision => exact .of_eq rfl rfl le_rfl (fun h => h) rfl
  | stopAccepting t id drain => exact .of_eq rfl rfl le_rfl (fun h => h) rfl
  | endDrain t id => exact .of_eq rfl rfl le_rfl (fun h => h) rfl

/-- Calls live up to their mutations, and those that returned have done so
unless the graph is unavailable. -/
structure Delivering (g : Graph) : Prop where
  /-- Calls under way. -/
  owed : ∀ t, Delivers g (g.pc t)
  /-- Calls that returned. -/
  settled : ∀ f ∈ g.finished, f.told = true → ∀ id ∈ f.mutation.registered,
    Delivered g.invocations f.mutation id
  /-- Calls that told nobody. -/
  untold : ∀ f ∈ g.finished, f.told = false → g.health = .unavailable

/-- A call moves to a step at which it still lives up to its mutation. -/
theorem Delivering.goto {g g' : Graph} (h : Delivering g) (hlater : Later g g') {t : CallId} {p : Pc}
    (hpc : g'.pc = (g.goto t p).pc) (hp : Delivers g' p) (hfinished : g'.finished = g.finished) :
    Delivering g' where
  owed := by
    rw [hpc]
    exact Consistent.forall_goto (R := Delivers g') (fun u => (h.owed u).later hlater) hp
  settled := by
    rw [hfinished]
    exact fun f hf htold id hid => (h.settled f hf htold id hid).later hlater.invocations
  untold := by
    rw [hfinished]
    exact fun f hf hnot => hlater.unavailable (h.untold f hf hnot)

/-- No call moves. -/
theorem Delivering.stay {g g' : Graph} (h : Delivering g) (hlater : Later g g') (hpc : g'.pc = g.pc)
    (hfinished : g'.finished = g.finished) : Delivering g' where
  owed := by
    rw [hpc]
    exact fun u => (h.owed u).later hlater
  settled := by
    rw [hfinished]
    exact fun f hf htold id hid => (h.settled f hf htold id hid).later hlater.invocations
  untold := by
    rw [hfinished]
    exact fun f hf hnot => hlater.unavailable (h.untold f hf hnot)

/-- A call that returns records the mutation that caused it. -/
theorem mem_finished {g : Graph} {t : CallId} {cause : Option Mutation} {told : Bool} {f : Finished}
    (hf : f ∈ (g.finish t cause told).finished) :
    f ∈ g.finished ∨ ∃ m, cause = some m ∧
      f = ⟨{m with registered := m.registered.filter g.subscriptions.contains},told⟩ := by
  rcases List.mem_append.mp hf with hold | hlast
  · exact Or.inl hold
  · cases cause with
    | none => cases hlast
    | some m => exact Or.inr ⟨m, rfl, List.mem_singleton.mp hlast⟩

/-- Every step keeps the calls true to their mutations. -/
theorem Delivering.step {g : Graph} (h : Delivering g) (hconsistent : Consistent g) {e : Event}
    (hen : Enabled g e) : Delivering (next g e) := by
  have hlater := later_next g e
  cases e with
  | mutate t outcome =>
    simp only [next, Graph.mutate] at hlater ⊢
    split
    · exact h
    · next hhealthy =>
      rw [if_neg hhealthy] at hlater
      cases outcome with
      | invalid => exact h.goto hlater rfl trivial rfl
      | unchanged => exact h
      | changed =>
        obtain ⟨health, revision, _, hcounted⟩ := g.countChange_eq
        simp only [hcounted] at hlater ⊢
        exact h.goto hlater rfl
          ⟨le_rfl, le_rfl, fun id hid => ⟨hconsistent.dated id hid, .inl hid⟩⟩ rfl
  | unavailable t => exact h.goto hlater rfl trivial rfl
  | copySubscribers t cause =>
    have howed := h.owed t
    rw [show g.pc t = .notifying cause from hen] at howed
    refine h.goto hlater rfl ?_ rfl
    cases cause with
    | none => trivial
    | some m => exact Promised.later howed hlater
  | visit t cause revision id rest =>
    have howed := h.owed t
    rw [show g.pc t = .visiting cause revision (id :: rest) from hen] at howed
    simp only [next, Graph.visit] at hlater ⊢
    split
    · next hrejected =>
      simp only [Bool.not_eq_true'] at hrejected
      rw [if_pos (by simp [hrejected])] at hlater
      refine h.goto hlater rfl ?_ rfl
      cases cause with
      | none => trivial
      | some m =>
        have hpromised : Promised g m revision (id :: rest) := howed
        refine ⟨hpromised.covers, hpromised.past, fun id' hid' => ?_⟩
        obtain ⟨hle, hcase⟩ := hpromised.served id' hid'
        refine ⟨hle, ?_⟩
        rcases hcase with hrest | hcase
        · rcases List.mem_cons.mp hrest with heq | hrest
          · exact .inr (.inl (heq ▸ hconsistent.rejecting id hrejected))
          · exact .inl hrest
        · exact .inr hcase
    · next haccepted =>
      rw [if_neg haccepted] at hlater
      refine h.goto hlater rfl ?_ rfl
      cases cause with
      | none => trivial
      | some m =>
        have hbefore : Promised g m revision (id :: rest) := howed
        have hpromised := hbefore.later hlater
        refine ⟨hpromised.covers, hpromised.past, fun id' hid' => ?_⟩
        obtain ⟨hle, hcase⟩ := hpromised.served id' hid'
        refine ⟨hle, ?_⟩
        rcases hcase with hrest | hcase
        · rcases List.mem_cons.mp hrest with heq | hrest
          · refine .inr (.inr ⟨g.invocations.length, revision, hbefore.past, ?_, hbefore.covers⟩)
            rw [heq]
            exact List.getElem?_concat_length
          · exact .inl hrest
        · exact .inr hcase
  | callbackReturns t cause revision id rest threw =>
    have howed := h.owed t
    rw [show g.pc t = .calling cause revision id rest from hen] at howed
    refine h.goto hlater (t := t) (p := .leaving cause revision id rest) ?_ ?_ ?_
    · simp only [next, Graph.callbackReturns]
      split <;> rfl
    · cases cause with
      | none => trivial
      | some m => exact Promised.later howed hlater
    · simp only [next, Graph.callbackReturns]
      split <;> rfl
  | leave t cause revision id rest =>
    have howed := h.owed t
    rw [show g.pc t = .leaving cause revision id rest from hen] at howed
    refine h.goto hlater rfl ?_ rfl
    cases cause with
    | none => trivial
    | some m => exact Promised.later howed hlater
  | finish t cause revision =>
    have howed := h.owed t
    rw [show g.pc t = .visiting cause revision [] from hen] at howed
    refine ⟨Consistent.forall_goto (fun u => (h.owed u).later hlater) trivial,
      fun f hf htold id hid => ?_, fun f hf hnot => ?_⟩
    · rcases mem_finished hf with hold | ⟨m, rfl, rfl⟩
      · exact h.settled f hold htold id hid
      · obtain ⟨hregistered, hstill⟩ := List.mem_filter.mp hid
        rcases (Promised.served howed id hregistered).2 with hrest | hgone | hdelivered
        · cases hrest
        · exact absurd (List.contains_iff_mem.mp hstill) hgone
        · exact hdelivered
    · rcases mem_finished hf with hold | ⟨m, rfl, rfl⟩
      · exact h.untold f hold hnot
      · cases hnot
  | notifyFails t cause =>
    refine ⟨Consistent.forall_goto (fun u => (h.owed u).later hlater) trivial,
      fun f hf htold id hid => ?_, fun _ _ _ => rfl⟩
    rcases mem_finished (t := t) hf with hold | ⟨m, rfl, rfl⟩
    · exact h.settled f hold htold id hid
    · cases htold
  | subscribe threw =>
    refine h.stay hlater ?_ ?_
    all_goals
      simp only [next, Graph.subscribe]
      split
      · rfl
      · split <;> rfl
  | unsubscribe t id drain =>
    simp only [next, Graph.unsubscribe] at hlater ⊢
    split
    · next hmissing =>
      rw [if_pos hmissing] at hlater
      exact h.stay hlater rfl rfl
    · next hfound =>
      rw [if_neg hfound] at hlater
      exact h.goto hlater rfl trivial rfl
  | stopAccepting t id drain =>
    refine h.goto hlater rfl ?_ rfl
    cases drain <;> trivial
  | endDrain t id => exact h.goto hlater rfl trivial rfl

/-- Every reachable graph delivers. -/
theorem delivering_of_run {es : List Event} {g : Graph} (h : machine.Run Graph.initial es g) :
    Delivering g :=
  h.invariant_using Delivering consistent_of_run
    ⟨fun _ => trivial, (fun _ hf => nomatch hf), (fun _ hf => nomatch hf)⟩
    fun _ _ hconsistent hdelivering hen _ => hdelivering.step hconsistent hen

/-- How often a callback was invoked. -/
def Graph.invoked (g : Graph) (id : SubscriptionId) : ℕ := g.invocations.countP fun e => e.1 == id

/-- A callback that is not accepted is not invoked, and stays unaccepted. -/
theorem rejecting_step {g : Graph} {id : SubscriptionId} (hconsistent : Consistent g)
    (hoff : (g.subscribers id).accepting = false) {e : Event} (hen : Enabled g e) :
    ((next g e).subscribers id).accepting = false ∧ (next g e).invoked id = g.invoked id := by
  cases e with
  | mutate t outcome =>
    simp only [next, Graph.mutate]
    split
    · exact ⟨hoff, rfl⟩
    · cases outcome with
      | changed =>
        obtain ⟨health, revision, _, hcounted⟩ := g.countChange_eq
        simp only [hcounted]
        exact ⟨hoff, rfl⟩
      | _ => exact ⟨hoff, rfl⟩
  | visit t cause revision id' rest =>
    simp only [next, Graph.visit]
    split
    · exact ⟨hoff, rfl⟩
    · next haccepted =>
      have hne : id ≠ id' := by
        rintro rfl
        simp [hoff] at haccepted
      refine ⟨?_, ?_⟩
      · simp only [Graph.setSubscriber, Function.update_of_ne hne]
        exact hoff
      · have hbeq : (id' == id) = false := by simp [hne.symm]
        simp [Graph.invoked, List.countP_append, hbeq]
  | callbackReturns t cause revision id' rest threw =>
    simp only [next, Graph.callbackReturns]
    split <;> exact ⟨hoff, rfl⟩
  | leave t cause revision id' rest =>
    refine ⟨?_, rfl⟩
    by_cases heq : id = id'
    · subst heq
      simp only [next, Graph.leave, Graph.setSubscriber, Function.update_self]
      exact hoff
    · simp only [next, Graph.leave, Graph.setSubscriber, Function.update_of_ne heq]
      exact hoff
  | subscribe threw =>
    simp only [next, Graph.subscribe]
    split
    · exact ⟨hoff, rfl⟩
    · split
      · exact ⟨hoff, rfl⟩
      · have hmade := hconsistent.made hoff
        have hne : id ≠ g.nextSubscription+1 := fun hc =>
          Nat.not_succ_le_self g.nextSubscription
            (hc ▸ hmade : g.nextSubscription+1 ≤ g.nextSubscription)
        refine ⟨?_, rfl⟩
        simp only [Graph.setSubscriber, Function.update_of_ne hne]
        exact hoff
  | unsubscribe t id' drain =>
    simp only [next, Graph.unsubscribe]
    split <;> exact ⟨hoff, rfl⟩
  | stopAccepting t id' drain =>
    refine ⟨?_, rfl⟩
    by_cases heq : id = id'
    · subst heq
      simp only [next, Graph.stopAccepting, Graph.setSubscriber, Function.update_self]
    · simp only [next, Graph.stopAccepting, Graph.setSubscriber, Function.update_of_ne heq]
      exact hoff
  | unavailable t => exact ⟨hoff, rfl⟩
  | copySubscribers t cause => exact ⟨hoff, rfl⟩
  | notifyFails t cause => exact ⟨hoff, rfl⟩
  | finish t cause revision => exact ⟨hoff, rfl⟩
  | endDrain t id' => exact ⟨hoff, rfl⟩

/-- A callback that runs is counted. -/
theorem Pc.counts_of_runs {p : Pc} {id : SubscriptionId} (h : p.runs id = true) :
    p.counts id = true := by
  cases p with
  | calling => exact h
  | _ => cases h

/-- What is promised to subscribers in a reachable state. -/
structure Served (g : Graph) : Prop where
  /-- After `close_and_drain` nothing is in flight and no callback runs. -/
  drained : ∀ id, g.drained id = true →
    (g.subscribers id).inFlight = 0 ∧ ∀ t, (g.pc t).runs id = false
  /-- When a mutation returns, whoever was registered before it and was not
  unsubscribed during it has been called with a revision that covers it, unless
  the subscribers could not be copied. -/
  delivered : ∀ f ∈ g.finished, f.told = true → ∀ id ∈ f.mutation.registered,
    Delivered g.invocations f.mutation id
  /-- In that case the graph is unavailable. -/
  untold : ∀ f ∈ g.finished, f.told = false → g.health = .unavailable

/-- Every step that is no failed copy tells what it records. -/
theorem told_next {g : Graph} {e : Event} (hcopied : ∀ t cause, e ≠ .notifyFails t cause)
    (h : ∀ f ∈ g.finished, f.told = true) : ∀ f ∈ (next g e).finished, f.told = true := by
  have hsame : (next g e).finished = g.finished → ∀ f ∈ (next g e).finished, f.told = true := by
    intro heq
    rw [heq]
    exact h
  cases e with
  | mutate t outcome =>
    refine hsame ?_
    simp only [next, Graph.mutate]
    split
    · rfl
    · cases outcome with
      | changed =>
        obtain ⟨health, revision, _, hcounted⟩ := g.countChange_eq
        simp only [hcounted]
        rfl
      | _ => rfl
  | visit t cause revision id rest =>
    refine hsame ?_
    simp only [next, Graph.visit]
    split <;> rfl
  | callbackReturns t cause revision id rest threw =>
    refine hsame ?_
    simp only [next, Graph.callbackReturns]
    split <;> rfl
  | subscribe threw =>
    refine hsame ?_
    simp only [next, Graph.subscribe]
    split
    · rfl
    · split <;> rfl
  | unsubscribe t id drain =>
    refine hsame ?_
    simp only [next, Graph.unsubscribe]
    split <;> rfl
  | finish t cause revision =>
    intro f hf
    rcases mem_finished hf with hold | ⟨m, -, rfl⟩
    · exact h f hold
    · rfl
  | notifyFails t cause => exact absurd rfl (hcopied t cause)
  | _ => exact hsame rfl

/-- In every run drained subscribers are left alone for ever and the others
hear of every mutation, unless the subscribers could not be copied, after which
the graph is unavailable. -/
theorem subscribers_served {es : List Event} {g : Graph} (h : machine.Run Graph.initial es g) :
    Served g ∧
      (∀ es' g' id, machine.Run g es' g' → g.drained id = true →
        g'.invoked id = g.invoked id) ∧
      ((∀ t cause, Event.notifyFails t cause ∉ es) → ∀ f ∈ g.finished, f.told = true) ∧
      ∀ es' g', machine.Run g es' g' → g.health = .unavailable → g'.health = .unavailable := by
  have hconsistent := consistent_of_run h
  have hdelivering := delivering_of_run h
  refine ⟨⟨?_, hdelivering.settled, hdelivering.untold⟩, ?_, ?_, ?_⟩
  · intro id hid
    have hzero := (hconsistent.drained id hid).2
    refine ⟨hzero, fun t => ?_⟩
    have hcounted := hconsistent.counted id
    rw [hzero] at hcounted
    have hnot := hcounted.not_of_zero t
    cases hruns : (g.pc t).runs id with
    | false => rfl
    | true => exact absurd (Pc.counts_of_runs hruns) hnot
  · intro es' g' id hrun hid
    have hkept := hrun.invariant_using
      (fun u => (u.subscribers id).accepting = false ∧ u.invoked id = g.invoked id)
      (fun hlater => consistent_of_run (h.append hlater))
      ⟨(hconsistent.drained id hid).1, rfl⟩
      fun u e hu hoff hen _ =>
        ⟨(rejecting_step hu hoff.1 hen).1, (rejecting_step hu hoff.1 hen).2.trans hoff.2⟩
    exact hkept.2
  · intro hcopied
    induction h with
    | nil => exact fun _ hf => nomatch hf
    | @snoc es g e hprev hen _ ih =>
      have hbefore := ih (consistent_of_run hprev) (delivering_of_run hprev)
        fun t cause hmem => hcopied t cause (List.mem_append_left _ hmem)
      refine told_next ?_ hbefore
      rintro t cause rfl
      exact hcopied t cause (List.mem_append_right _ List.mem_cons_self)
  · intro es' g' hrun hunavailable
    exact hrun.invariant (fun u => u.health = .unavailable) hunavailable
      fun u e hu _ _ => (later_next u e).unavailable hu

/-- The mutation of the sample run. -/
def sampleMutation : Mutation := ⟨1,[1,2],0⟩

/-- The first of two subscribers is drained while its callback runs. -/
def sampleRun : List Event :=
  [.subscribe false,.subscribe false,.mutate 0 .changed,.copySubscribers 0 (some sampleMutation),
    .visit 0 (some sampleMutation) 1 1 [2],.unsubscribe 1 1 true,.stopAccepting 1 1 true,
    .callbackReturns 0 (some sampleMutation) 1 1 [2] false,.leave 0 (some sampleMutation) 1 1 [2],
    .endDrain 1 1,.visit 0 (some sampleMutation) 1 2 [],
    .callbackReturns 0 (some sampleMutation) 1 2 [] false,.leave 0 (some sampleMutation) 1 2 [],
    .finish 0 (some sampleMutation) 1]

/-- The first subscriber is left alone, the second one was told. -/
theorem subscribers_served_sampleRun :
    ∃ g, machine.exec Graph.initial sampleRun = some g ∧ g.drained 1 = true ∧
      g.finished = [⟨⟨1,[2],0⟩,true⟩] ∧ Served g := by
  have hend : (machine.exec Graph.initial sampleRun).map (fun g => (g.drained 1,g.finished)) =
      some (true,[⟨⟨1,[2],0⟩,true⟩]) := by decide
  obtain ⟨g, hexec, hfinal⟩ := Option.map_eq_some_iff.mp hend
  obtain ⟨hdrained, hfinished⟩ := Prod.mk.inj hfinal
  exact ⟨g, hexec, hdrained, hfinished, (subscribers_served (Machine.run_of_exec hexec)).1⟩

/-- The copy of the subscribers throws. -/
def failedCopy : List Event :=
  [.subscribe false,.mutate 0 .changed,.notifyFails 0 (some ⟨1,[1],0⟩)]

/-- A mutation has returned, and a subscriber that was registered all the time
was not called. -/
theorem failedCopy_untold :
    ¬ ∀ es g, machine.Run Graph.initial es g → ∀ f ∈ g.finished, ∀ id ∈ f.mutation.registered,
      Delivered g.invocations f.mutation id := by
  intro hclaim
  have hend : (machine.exec Graph.initial failedCopy).map (fun g => (g.finished,g.invocations)) =
      some ([⟨⟨1,[1],0⟩,false⟩],[]) := by decide
  obtain ⟨g, hexec, hfinal⟩ := Option.map_eq_some_iff.mp hend
  obtain ⟨hfinished, hinvocations⟩ := Prod.mk.inj hfinal
  obtain ⟨i, revision, -, hat, -⟩ := hclaim failedCopy g (Machine.run_of_exec hexec) ⟨⟨1,[1],0⟩,false⟩
    (by rw [hfinished]; exact List.mem_cons_self) 1 List.mem_cons_self
  rw [hinvocations] at hat
  cases hat

end Dmw.GraphSubscriptions
