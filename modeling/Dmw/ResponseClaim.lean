import Dmw.ClaimProtocol
import Dmw.ServerCalls

/-!
# Exclusive response claims

The pending table and the threads of one Server follow the claim protocol as
long as `claim_response` takes no request whose previous claim is still
unwinding. `write_claimed_response` gives its entry up explicitly, or erases
it, and its `RestorePending` destructor then restores the phase once more; a
claim made in between is restored under its new owner.
-/

namespace Dmw.ResponseClaim

open Identity KeyedTable GuardedRuns ServerPending ServerCalls ClaimProtocol

/-- What the claim protocol sees of one entry. -/
def claimState (entry : PendingRequest) : Bool × ℕ := (entry.phase = .responding,entry.acceptance)

/-- The pending table as a claim table. -/
def entries (server : Server) : RequestId → Option (Bool × ℕ) :=
  fun id => (server.pending.lookup id).map claimState

/-- The part a thread plays for its request. Pending flag exchanges do not
matter to it. -/
def role : Pc → Role RequestId
  | .claimed id _ acceptance => .holding id acceptance
  | .restoring id acceptance _ => .holding id acceptance
  | .releasing id acceptance => .erasing id acceptance
  | .unwinding id acceptance _ => .closing id acceptance
  | .returning (some (.discarded id acceptance)) _ => .dropped id acceptance
  | .settingFlag _ next => role next
  | _ => .free

/-- Writes and successful discards are the observations the protocol orders. -/
def note : Observation → Option (Note RequestId)
  | .written id acceptance => some (.published id acceptance)
  | .returned (.discarded id acceptance) => some (.dropped id acceptance)
  | _ => none

/-- The claim protocol state of a Server and its threads. -/
def abstract (s : System) : State ThreadId RequestId :=
  ⟨entries s.server,s.server.accepted,fun t => role (s.pc t),s.log.filterMap note⟩

/-- A call between its claim and the end of `write_claimed_response`. -/
def responding (s : System) (t : ThreadId) (id : RequestId) (acceptance : ℕ) : Prop :=
  (role (s.pc t)).working = some (id,acceptance)

/-- A call that still has its destructor to run for a claim it no longer has:
its entry was restored, erased or, after a failed read, rolled back. -/
def stale (s : System) (t : ThreadId) (id : RequestId) : Prop :=
  ∃ acceptance, responding s t id acceptance ∧
    entries s.server id ≠ some (true,acceptance)

/-- No claim is granted over a stale one. -/
def Undisturbed (s : System) : Event → Prop
  | .respondBegin _ responseNull operation id =>
    responseAdmission responseNull operation = none →
      ∀ entry, s.server.findUnclaimed id = .ok entry → ∀ t, ¬ stale s t id
  | _ => True

section

variable {server : Server} {id : RequestId} {entry : PendingRequest}

/-- A phase change keeps the acceptance. -/
theorem entries_setPhase (phase : PendingPhase) :
    entries (server.setPhase phase id) = Function.update (entries server) id
      ((entries server id).map fun e => (decide (phase = .responding),e.2)) := by
  funext id'
  by_cases hid : id' = id
  · subst hid
    simp only [entries, Server.lookup_setPhase_self, Function.update_self, Option.map_map]
    rfl
  · simp only [entries, Server.lookup_setPhase_ne hid, Function.update_of_ne hid]

/-- Restoring is the protocol's hand-back. -/
theorem entries_restorePending :
    entries (server.restorePending id) = unclaim (entries server) id :=
  entries_setPhase .pending

/-- Erasing removes one claim table entry. -/
theorem entries_erase {server' : Server} (hpending : server'.pending = server.pending.erase id) :
    entries server' = Function.update (entries server) id none := by
  funext id'
  by_cases hid : id' = id
  · subst hid
    simp [entries, hpending]
  · simp [entries, hpending, AList.lookup_erase_ne hid, Function.update_of_ne hid]

/-- A registration adds an unclaimed entry. -/
theorem entries_insertRequest (identity : SampleIdentity) (hnew : id ∉ server.pending) :
    entries (server.insertRequest id identity).2 =
      Function.update (entries server) id (some (false,server.accepted)) := by
  funext id'
  simp only [Server.insertRequest, if_neg hnew]
  by_cases hid : id' = id
  · subst hid
    simp [entries, claimState]
  · simp [entries, AList.lookup_insert_ne hid, Function.update_of_ne hid]

/-- An entry that may be claimed is unclaimed in the protocol. -/
theorem entries_of_findUnclaimed (hfound : server.findUnclaimed id = .ok entry) :
    entries server id = some (false,entry.acceptance) := by
  obtain ⟨hlookup, hphase⟩ := Server.findUnclaimed_ok.mp hfound
  simp [entries, hlookup, claimState, hphase]

end

section

variable {s : System}

/-- Moving one thread changes one role. -/
theorem roles_update (t : ThreadId) (next : Pc) :
    (fun u => role (Function.update s.pc t next u)) =
      Function.update (abstract s).role t (role next) := by
  funext u
  by_cases hu : u = t
  · subst hu
    simp
  · simp [Function.update_of_ne hu, abstract]

/-- An event that moves one thread to a new part. -/
theorem step_of {s' : System} {t : ThreadId} {next : Pc} {r : Role RequestId}
    {entry : RequestId → Option (Bool × ℕ)} {issued : ℕ} {notes : List (Note RequestId)}
    (hstep : Step (abstract s) ⟨entry,issued,Function.update (abstract s).role t r,notes⟩)
    (hmoved : s'.pc = Function.update s.pc t next) (hrole : role next = r)
    (hentries : entries s'.server = entry) (haccepted : s'.server.accepted = issued)
    (hnotes : s'.log.filterMap note = notes) : Step (abstract s) (abstract s') := by
  have heq : abstract s' = ⟨entry,issued,Function.update (abstract s).role t r,notes⟩ := by
    rw [← hrole, ← roles_update, ← hmoved, ← hentries, ← haccepted, ← hnotes]
    rfl
  exact heq ▸ hstep

/-- An event that leaves its thread the part it plays. -/
theorem step_of_still {s' : System} {t : ThreadId} {next : Pc}
    {entry : RequestId → Option (Bool × ℕ)} {issued : ℕ} {notes : List (Note RequestId)}
    (hstep : Step (abstract s) ⟨entry,issued,(abstract s).role,notes⟩)
    (hmoved : s'.pc = Function.update s.pc t next) (hrole : role next = role (s.pc t))
    (hentries : entries s'.server = entry) (haccepted : s'.server.accepted = issued)
    (hnotes : s'.log.filterMap note = notes) : Step (abstract s) (abstract s') := by
  refine step_of ?_ hmoved hrole hentries haccepted hnotes
  rwa [show role (s.pc t) = (abstract s).role t from rfl, Function.update_eq_self]

/-- An event that changes neither an entry nor a part. -/
theorem stutter_of {s' : System} {t : ThreadId} {next : Pc}
    (hmoved : s'.pc = Function.update s.pc t next) (hrole : role next = role (s.pc t))
    (hentries : entries s'.server = entries s.server)
    (haccepted : s'.server.accepted = s.server.accepted)
    (hnotes : s'.log.filterMap note = s.log.filterMap note) : Step (abstract s) (abstract s') :=
  step_of_still .stutter hmoved hrole hentries haccepted hnotes

@[simp] theorem role_showWhen (wasFull : Bool) (next : Pc) :
    role (showWhen wasFull next) = role next := by
  cases wasFull <;> rfl

/-- A read turn reserves a slot at most. -/
theorem readTurn_simulates {t : ThreadId} {remaining : ℕ} (hpc : s.pc t = .reading remaining) :
    Step (abstract s) (abstract (readTurn t remaining s)) := by
  cases remaining with
  | zero => exact stutter_of rfl (by rw [hpc]; rfl) rfl rfl rfl
  | succ remaining =>
    cases hreserve : s.server.reserveRequestSlot with
    | none =>
      simp only [readTurn, hreserve]
      exact stutter_of rfl (by rw [hpc]; rfl) rfl rfl rfl
    | some reserved =>
      obtain ⟨becameFull, server⟩ := reserved
      obtain ⟨-, -, rfl⟩ := Server.reserveRequestSlot_some.mp hreserve
      simp only [readTurn, hreserve]
      exact stutter_of rfl (by rw [hpc]; cases becameFull <;> rfl) rfl rfl rfl

/-- A take touches no entry. -/
theorem take_simulates {t : ThreadId} {remaining : ℕ} {becameFull : Bool} {outcome : TakeOutcome}
    (hpc : s.pc t = .taking remaining becameFull) :
    Step (abstract s) (abstract (take t remaining becameFull outcome s)) := by
  unfold take
  cases decodeTake outcome with
  | throw => exact stutter_of rfl (by rw [hpc]; rfl) rfl rfl rfl
  | leave reply => exact stutter_of rfl (by rw [hpc]; rfl) rfl rfl rfl
  | skip => exact stutter_of rfl (by rw [hpc]; rfl) rfl rfl rfl
  | insert id identity => exact stutter_of rfl (by rw [hpc]; rfl) rfl rfl rfl

/-- A registration is an admission; a duplicate changes no entry. -/
theorem insert_simulates {t : ThreadId} {remaining : ℕ} {becameFull : Bool} {id : RequestId}
    {identity : SampleIdentity} {threw : Bool}
    (hpc : s.pc t = .inserting remaining becameFull id identity) :
    Step (abstract s)
      (abstract (ServerCalls.insert t remaining becameFull id identity threw s)) := by
  unfold ServerCalls.insert
  cases threw with
  | true => exact stutter_of rfl (by rw [role_showWhen, hpc]; rfl) rfl rfl rfl
  | false =>
    by_cases hmem : id ∈ s.server.pending
    · simp only [Server.insertRequest, if_pos hmem]
      exact stutter_of rfl (by rw [role_showWhen, hpc]; rfl) rfl rfl rfl
    · have hentries := entries_insertRequest identity hmem
      simp only [Server.insertRequest, if_neg hmem] at hentries ⊢
      have hnone : (abstract s).entry id = none := by
        simp [abstract, entries, AList.lookup_eq_none.mpr hmem]
      exact step_of_still (Step.enlist id hnone) rfl (by rw [hpc]; rfl) hentries rfl
        (List.filterMap_append.trans (List.append_nil _))

/-- Rolling a failed read back withdraws its entry, claimed or not. -/
theorem rollback_simulates {t : ThreadId} {id : RequestId} {reply : Reply}
    (hpc : s.pc t = .rollingBack id reply) :
    Step (abstract s) (abstract (rollback t id reply s)) := by
  exact step_of_still (Step.withdraw id) rfl (by rw [role_showWhen, hpc]; rfl)
    (entries_erase rfl) rfl rfl

/-- A successful discard drops an unclaimed entry. -/
theorem discardBegin_simulates {t : ThreadId} {operation : Bool} {id : RequestId}
    (hpc : s.pc t = .idle) : Step (abstract s) (abstract (discardBegin t operation id s)) := by
  unfold discardBegin
  cases operation with
  | false => exact stutter_of rfl (by rw [hpc]; rfl) rfl rfl rfl
  | true =>
    cases hdiscard : s.server.discardRequest id with
    | error e => exact stutter_of rfl (by rw [hpc]; rfl) rfl rfl rfl
    | ok outcome =>
      obtain ⟨entry, wasFull, server⟩ := outcome
      obtain ⟨hlookup, hphase, -, rfl⟩ := Server.discardRequest_ok.mp hdiscard
      have hentry : (abstract s).entry id = some (false,entry.acceptance) :=
        entries_of_findUnclaimed (Server.findUnclaimed_ok.mpr ⟨hlookup, hphase⟩)
      simp only [Bool.not_true, Bool.false_eq_true, if_false]
      exact step_of (Step.drop t id entry.acceptance (congrArg role hpc) hentry) rfl
        (role_showWhen ..) (entries_erase rfl) rfl rfl

/-- A claim is granted over an unclaimed entry nobody else works on. -/
theorem respondBegin_simulates {t : ThreadId} {responseNull operation : Bool} {id : RequestId}
    (hpc : s.pc t = .idle) (hok : Undisturbed s (.respondBegin t responseNull operation id)) :
    Step (abstract s)
      (abstract (respondBegin t (responseAdmission responseNull operation) id s)) := by
  unfold respondBegin
  cases hadmission : responseAdmission responseNull operation with
  | some e => exact stutter_of rfl (by rw [hpc]; rfl) rfl rfl rfl
  | none =>
    cases hclaim : s.server.claimResponse id with
    | error e => exact stutter_of rfl (by rw [hpc]; rfl) rfl rfl rfl
    | ok outcome =>
      obtain ⟨entry, server⟩ := outcome
      obtain ⟨hlookup, hphase, rfl⟩ := Server.claimResponse_ok.mp hclaim
      have hfound := Server.findUnclaimed_ok.mpr ⟨hlookup, hphase⟩
      have hentry : (abstract s).entry id = some (false,entry.acceptance) :=
        entries_of_findUnclaimed hfound
      have hnone : ∀ u m, ((abstract s).role u).working ≠ some (id,m) := by
        intro u m hwork
        refine hok hadmission entry hfound u ⟨m, hwork, ?_⟩
        rw [show entries s.server id = _ from hentry]
        simp
      have hclaimed : entries (s.server.setPhase .responding id) =
          Function.update (abstract s).entry id (some (true,entry.acceptance)) := by
        rw [entries_setPhase, show entries s.server id = _ from hentry]
        rfl
      exact step_of (Step.claim t id entry.acceptance (congrArg role hpc) hentry hnone) rfl rfl
        hclaimed rfl rfl

/-- A successful write publishes; every other decision keeps the notes. -/
theorem decideResponse_simulates {t : ThreadId} {id : RequestId} {identity : SampleIdentity}
    {acceptance : ℕ} {env : ResponseEnv} (hpc : s.pc t = .claimed id identity acceptance) :
    Step (abstract s) (abstract (decideResponse t id identity acceptance env s)) := by
  have hholding : (abstract s).role t = .holding id acceptance := congrArg role hpc
  unfold decideResponse
  cases respond identity env with
  | unwind reply => exact step_of (Step.abandon t id acceptance hholding) rfl rfl rfl rfl rfl
  | restore reply => exact stutter_of rfl (by rw [hpc]; rfl) rfl rfl rfl
  | release written =>
    cases written with
    | false => exact step_of (Step.concede t id acceptance hholding) rfl rfl rfl rfl rfl
    | true =>
      exact step_of (Step.publish t id acceptance hholding) rfl rfl rfl rfl (by simp [note]; rfl)

/-- Every event of an undisturbed run is a step of the claim protocol. -/
theorem next_simulates {e : Event} (hen : machine.enabled s e) (hok : Undisturbed s e) :
    Step (abstract s) (abstract (machine.next s e)) := by
  cases e with
  | readBegin t requestNull operation remaining =>
    have hpc : s.pc t = .idle := hen.1
    simp only [machine, next, readBegin]
    cases readAdmission requestNull operation with
    | none => exact stutter_of rfl (by rw [hpc]; rfl) rfl rfl rfl
    | some e => exact stutter_of rfl (by rw [hpc]; rfl) rfl rfl rfl
  | readTurn t remaining => exact readTurn_simulates hen
  | take t remaining becameFull outcome => exact take_simulates hen
  | retract t next =>
    have hpc : s.pc t = .retracting next := hen
    exact stutter_of rfl (by rw [role_showWhen, hpc]; cases next <;> rfl) rfl rfl rfl
  | insert t remaining becameFull id identity threw => exact insert_simulates hen
  | commit t id acceptance outcome =>
    have hpc : s.pc t = .committing id acceptance := hen
    simp only [machine, next, commit]
    cases outcome with
    | none => exact stutter_of rfl (by rw [hpc]; rfl) rfl rfl rfl
    | some result =>
      cases result with
      | error e => exact stutter_of rfl (by rw [hpc]; rfl) rfl rfl rfl
      | ok value => exact stutter_of rfl (by rw [hpc]; rfl) rfl rfl rfl
  | rollback t id reply => exact rollback_simulates hen
  | leave t reply =>
    have hpc : s.pc t = .leaving reply := hen
    exact stutter_of rfl (by rw [hpc]; rfl) rfl rfl rfl
  | discardBegin t operation id => exact discardBegin_simulates hen
  | respondBegin t responseNull operation id => exact respondBegin_simulates hen hok
  | decideResponse t id identity acceptance env => exact decideResponse_simulates hen
  | restore t id acceptance reply =>
    have hpc : s.pc t = .restoring id acceptance reply := hen
    exact step_of (Step.giveBack t id acceptance (congrArg role hpc)) rfl rfl
      entries_restorePending rfl rfl
  | release t id acceptance =>
    have hpc : s.pc t = .releasing id acceptance := hen
    exact step_of (Step.erase t id acceptance (congrArg role hpc)) rfl (role_showWhen ..)
      (entries_erase rfl) rfl rfl
  | unwind t id acceptance reply =>
    have hpc : s.pc t = .unwinding id acceptance reply := hen
    refine step_of (Step.close t id acceptance (congrArg role hpc)) rfl ?_
      entries_restorePending rfl rfl
    split <;> rfl
  | setFlag t value next =>
    have hpc : s.pc t = .settingFlag value next := hen
    exact stutter_of rfl (by rw [hpc]; rfl) rfl rfl rfl
  | finish t report reply =>
    have hpc : s.pc t = .returning report reply := hen
    rcases report with _ | ⟨id, acceptance⟩ | ⟨id, acceptance⟩
    · exact stutter_of rfl (by rw [hpc]; rfl) rfl rfl (by simp [machine, next, finish])
    · exact step_of (Step.report t id acceptance (congrArg role hpc)) rfl rfl rfl rfl
        (by simp [machine, next, finish, note]; rfl)
    · exact stutter_of rfl (by rw [hpc]; rfl) rfl rfl (by simp [machine, next, finish, note])

end

/-- Exclusive response claims of one Server state. -/
structure ExclusiveResponses (s : System) : Prop where
  /-- At most one call is between its claim of a request and its end. -/
  one_responder : ∀ t u id n m, responding s t id n → responding s u id m → t = u
  /-- The response write succeeds at most once for an accepted request. -/
  written_once : ∀ id n, s.log.count (.written id n) ≤ 1
  /-- After a successful discard the accepted request is not written. -/
  silent_after_discard : ∀ id n before after,
    s.log = before ++ .returned (.discarded id n) :: after → .written id n ∉ after

/-- Undisturbed runs stay inside the claim protocol. -/
theorem inv_of_undisturbed {max : ℕ} {es : List Event} {s : System}
    (hrun : machine.RunWhen Undisturbed (System.initial max) es s) : Inv (abstract s) := by
  refine hrun.invariant (fun s => Inv (abstract s)) ?_ ?_
  · exact Inv.initial 0
  · intro s e hinv hen hok
    exact hinv.step (next_simulates hen hok)

/-- An element that excludes itself occurs at most once. -/
theorem count_le_one_of_pairwise {α : Type} [DecidableEq α] {R : α → α → Prop} {a : α} {l : List α}
    (hl : l.Pairwise R) (ha : ¬ R a a) : l.count a ≤ 1 := by
  by_contra htwice
  have hsub : (List.replicate 2 a).Sublist l := List.replicate_sublist_iff.mpr (by omega)
  have hpair : List.Pairwise R [a,a] := hl.sublist hsub
  exact ha (by simpa using hpair)

/-- The protocol's invariant gives the exclusive claims. -/
theorem exclusive_of_inv {s : System} (hinv : Inv (abstract s)) : ExclusiveResponses s := by
  have horder := List.pairwise_filterMap.mp hinv.order
  refine ⟨fun t u id n m => hinv.exclusive t u id n m, fun id n => ?_, ?_⟩
  · refine count_le_one_of_pairwise horder fun hself => ?_
    exact hself _ rfl _ rfl rfl
  · intro id n before after hlog hwritten
    rw [hlog] at horder
    have hlater := (List.pairwise_cons.mp (List.pairwise_append.mp horder).2.1).1 _ hwritten
    exact hlater _ rfl _ rfl rfl

/-- A claim over a stale one makes two responders at once. -/
theorem not_exclusive_of_disturbed {s : System} {e : Event} (hen : machine.enabled s e)
    (hdisturbed : ¬ Undisturbed s e) : ¬ ExclusiveResponses (machine.next s e) := by
  intro hexclusive
  cases e with
  | respondBegin t responseNull operation id =>
    have hpc : s.pc t = .idle := hen
    simp only [Undisturbed, not_forall, not_not] at hdisturbed
    obtain ⟨hadmission, entry, hfound, u, acceptance, hwork, -⟩ := hdisturbed
    have htu : u ≠ t := by
      rintro rfl
      simp [responding, hpc, role, Role.working] at hwork
    obtain ⟨hlookup, hphase⟩ := Server.findUnclaimed_ok.mp hfound
    have hclaim := Server.claimResponse_ok.mpr ⟨hlookup, hphase, rfl⟩
    have hpc' : (machine.next s (.respondBegin t responseNull operation id)).pc =
        Function.update s.pc t (.claimed id entry.sampleIdentity entry.acceptance) := by
      simp [machine, next, respondBegin, hadmission, hclaim, System.goto]
    refine htu (hexclusive.one_responder u t id acceptance entry.acceptance ?_ ?_)
    · rw [responding, hpc', Function.update_of_ne htu]
      exact hwork
    · rw [responding, hpc', Function.update_self]
      rfl
  | _ => exact hdisturbed trivial

/-- A response attempt that reaches the DDS write. -/
def writing (written : Bool) : ResponseEnv where
  responseNull := false
  operation := true
  deadline := some (.ok ())
  target := none
  isShutdown := false
  finalTarget := .ready
  finalWait := none
  written := some written

/-- Thread 1 claims the request and answers it. -/
def answering : List Event :=
  acceptance ++
    [.respondBegin 1 false true sampleRequest,
      .decideResponse 1 sampleRequest sampleClient 0 (writing true),
      .release 1 sampleRequest 0,
      .unwind 1 sampleRequest 0 .success,
      .finish 1 (some (.answered sampleRequest 0)) .success]

/-- Response claims are exclusive in every state of a run exactly when no step
of the run claims a request over a stale claim. -/
theorem responses_exclusive_iff (max : ℕ) (es : List Event) (s : System)
    (hrun : machine.Run (System.initial max) es s) :
    machine.Always ExclusiveResponses (System.initial max) es ↔
      machine.RunWhen Undisturbed (System.initial max) es s := by
  constructor
  · exact Machine.RunWhen.of_always (fun _ => trivial) (fun _ _ _ => not_exclusive_of_disturbed) hrun
  · exact Machine.RunWhen.always fun h => exclusive_of_inv (inv_of_undisturbed h)

/-- The equivalence at a run that answers one request. -/
theorem responses_exclusive_iff_answering :
    ∃ s, machine.exec (System.initial 2) answering = some s ∧
      (machine.Always ExclusiveResponses (System.initial 2) answering ↔
        machine.RunWhen Undisturbed (System.initial 2) answering s) := by
  have hsome : (machine.exec (System.initial 2) answering).isSome := by decide
  obtain ⟨s, hexec⟩ := Option.isSome_iff_exists.mp hsome
  exact ⟨s, hexec, responses_exclusive_iff 2 answering s (Machine.run_of_exec hexec)⟩

/-- The write of thread 1 fails and thread 2 claims before thread 1 has
unwound; the late restore lets thread 3 claim as well, and both write. -/
def secondClaim : List Event :=
  let failed := Reply.failure ⟨.ddsError,"Fast DDS response write failed"⟩
  acceptance ++
    [.respondBegin 1 false true sampleRequest,
      .decideResponse 1 sampleRequest sampleClient 0 (writing false),
      .restore 1 sampleRequest 0 failed,
      .respondBegin 2 false true sampleRequest,
      .unwind 1 sampleRequest 0 failed,
      .respondBegin 3 false true sampleRequest,
      .decideResponse 2 sampleRequest sampleClient 0 (writing true),
      .decideResponse 3 sampleRequest sampleClient 0 (writing true)]

/-- One accepted request is answered twice. -/
theorem secondClaim_written_twice :
    ¬ ∀ max es, machine.Always ExclusiveResponses (System.initial max) es := by
  intro hclaim
  have htwice : (machine.exec (System.initial 2) secondClaim).map
      (fun s => s.log.count (.written sampleRequest 0)) = some 2 := by decide
  obtain ⟨s, hexec, hcount⟩ := Option.map_eq_some_iff.mp htwice
  have honce := (hclaim 2 secondClaim secondClaim s List.prefix_rfl hexec).written_once sampleRequest 0
  omega

end Dmw.ResponseClaim
