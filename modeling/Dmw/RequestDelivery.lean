import Dmw.ResponseClaim
import Dmw.ServerBackpressure

/-!
# Accepted requests until their completion

What a Server owes the caller of `read_request`: its slots are accounted for,
and a request that was handed out stays in the table until one discard or one
response takes it out. Handed out and completed requests are recorded next to
the Server; the record plays no part in its steps.
-/

namespace Dmw.RequestDelivery

open Identity KeyedTable GuardedRuns ServerPending ServerCalls ServerBackpressure ClaimProtocol
open ResponseClaim

/-- A request and the ordinal of its registration. -/
abbrev Acceptance := RequestId × ℕ

/-- A Server with the requests handed out and those completed; both are history
only. -/
structure Watch where
  /-- The Server and its threads. -/
  system : System
  /-- Requests that a read returned. -/
  delivered : List Acceptance
  /-- Requests that a discard or a response took out of the table. -/
  completed : List Acceptance

/-- A read that hands its request out. -/
def delivers : Event → List Acceptance
  | .commit _ id acceptance (some (.ok _)) => [(id,acceptance)]
  | _ => []

/-- A discard that succeeds, and the erase of a response that does. -/
def completes (s : System) : Event → List Acceptance
  | .discardBegin _ true id =>
    match s.server.findUnclaimed id with
    | .ok entry => [(id,entry.acceptance)]
    | .error _ => []
  | .release _ id acceptance => [(id,acceptance)]
  | _ => []

/-- The Server with its record. -/
def watching : Machine Watch Event where
  enabled w e := machine.enabled w.system e
  next w e := ⟨machine.next w.system e,w.delivered ++ delivers e,
    w.completed ++ completes w.system e⟩
  decidableEnabled w e := machine.decidableEnabled w.system e

/-- A new Server. -/
def Watch.initial (maxPendingRequests : ℕ) : Watch := ⟨System.initial maxPendingRequests,[],[]⟩

/-- No request is registered while a call still holds a claim on an earlier
registration of the same identity. -/
def Unheld (s : System) : Event → Prop
  | .insert _ _ _ id _ threw =>
    threw = false → id ∉ s.server.pending →
      ∀ t acceptance, (role (s.pc t)).owned ≠ some (id,acceptance)
  | _ => True

/-- Claims are exclusive, their owners are not overtaken and no read leaves its
slot behind. -/
def Orderly (w : Watch) (e : Event) : Prop :=
  Undisturbed w.system e ∧ Unheld w.system e ∧ lost e = 0

/-- The table is never fuller than promised, and samples are only taken into a
reserved slot. A Server that keeps its promise has leaked none. -/
structure SlotsAccounted (leaked : ℕ) (s : System) : Prop where
  /-- Entries and reservations fit. -/
  bounded : Table.size s.server.pending + s.server.reservations ≤ s.server.maxPendingRequests
  /-- A reservation is given back, or turned into an entry, only where there is one. -/
  held : ∀ t, (∃ next, s.pc t = .retracting next) ∨
      (∃ remaining becameFull id identity, s.pc t = .inserting remaining becameFull id identity) →
    0 < s.server.reservations
  /-- A sample is taken into a reserved slot. -/
  taking : ∀ t remaining becameFull, s.pc t = .taking remaining becameFull →
    s.server.reservations = leaked + 1
  /-- Without a read there are no reservations but those. -/
  none : (∀ t, inRead (s.pc t) = false) → s.server.reservations = leaked

/-- The requests handed out and not completed are answerable, each under its
own identity. -/
structure Answerable (w : Watch) : Prop where
  /-- A request handed out is completed once or can be claimed, discarded or is busy. -/
  open_or_done : ∀ id n, (id,n) ∈ w.delivered →
    w.completed.count (id,n) = 1 ∨
      w.completed.count (id,n) = 0 ∧ ∃ entry, entry.acceptance = n ∧
        (w.system.server.findUnclaimed id = .ok entry ∨
          w.system.server.findUnclaimed id = .error ⟨.busy,"Response is in progress"⟩)
  /-- No request is handed out twice. -/
  once : w.delivered.Nodup
  /-- Nor is a second one with the identity of a request that is not completed. -/
  alone : ∀ id n m, (id,n) ∈ w.delivered → (id,m) ∈ w.delivered →
    (id,n) ∉ w.completed → (id,m) ∉ w.completed → n = m

/-- The accounting of slots gives the promised one. -/
theorem slots_of_accounting {leaked : ℕ} {s : System} (h : Accounting leaked s) :
    SlotsAccounted leaked s where
  bounded := h.bounded
  held := by
    intro t hpc
    have hslot : s.server.reservations = leaked + 1 := by
      refine h.slot t ?_
      rcases hpc with ⟨next, hpc⟩ | ⟨remaining, becameFull, id, identity, hpc⟩ <;> rw [hpc] <;> rfl
    omega
  taking := by
    intro t remaining becameFull hpc
    exact h.slot t (by rw [hpc]; rfl)
  none := by
    intro hidle
    refine h.noSlot fun t => ?_
    by_contra hslot
    have hread := inRead_of_holdsSlot (by simpa using hslot)
    rw [hidle t] at hread
    cases hread

section

variable {A A' : State ThreadId RequestId} {completed : List Acceptance}

/-- An owner's identity has no other registration in the table. -/
def Solo (A : State ThreadId RequestId) : Prop :=
  ∀ t k n b m, (A.role t).owned = some (k,n) → A.entry k = some (b,m) → m = n

/-- Completed registrations are gone and owned by nobody. -/
def Done (A : State ThreadId RequestId) (completed : List Acceptance) : Prop :=
  ∀ k n, (k,n) ∈ completed → Gone A k n ∧ ∀ t, (A.role t).owned ≠ some (k,n)

/-- Ownership begins with a claim of an entry. -/
theorem owned_before (hstep : Step A A') {t : ThreadId} {k : RequestId} {n : ℕ}
    (hown : (A'.role t).owned = some (k,n)) :
    (A.role t).owned = some (k,n) ∨
      A.entry k = some (false,n) ∧ A'.entry k = some (true,n) ∧
        ∀ u m, (A.role u).working ≠ some (k,m) := by
  cases hstep with
  | _ => grind [Function.update_apply, Role.owned]

/-- Completed registrations stay so. -/
theorem Done.step (hdone : Done A completed) (hstep : Step A A') : Done A' completed := by
  intro k n hmem
  obtain ⟨hgone, hfree⟩ := hdone k n hmem
  refine ⟨hgone.step hstep, fun t hown => ?_⟩
  rcases owned_before hstep hown with hold | ⟨hentry, -, -⟩
  · exact hfree t hold
  · exact hgone.2 false hentry

/-- An entry after a step was there before, or is registered. -/
theorem entry_before (hstep : Step A A') {k : RequestId} {b : Bool} {n : ℕ}
    (hentry : A'.entry k = some (b,n)) :
    (∃ b', A.entry k = some (b',n)) ∨ A.entry k = none := by
  cases hbefore : A.entry k with
  | none => exact Or.inr rfl
  | some found =>
    obtain ⟨b', m⟩ := found
    rcases ticket_step hstep hbefore with hnone | ⟨b'', hsome⟩
    · rw [hnone] at hentry
      cases hentry
    · rw [hsome] at hentry
      obtain ⟨-, rfl⟩ := Prod.mk.inj (Option.some.inj hentry)
      exact Or.inl ⟨b', rfl⟩

/-- Owners keep the table to themselves while none of them is overtaken. -/
theorem Solo.step (hsolo : Solo A) (hstep : Step A A')
    (hnew : ∀ k, A.entry k = none → A'.entry k ≠ none → ∀ t n,
      (A.role t).owned ≠ some (k,n)) : Solo A' := by
  intro t k n b m hown hentry
  rcases owned_before hstep hown with hold | ⟨-, hclaimed, -⟩
  · rcases entry_before hstep hentry with ⟨b', hbefore⟩ | hnone
    · exact hsolo t k n b' m hold hbefore
    · exact absurd hold (hnew k hnone (by rw [hentry]; exact Option.some_ne_none _) t n)
  · rw [hclaimed] at hentry
    exact (Prod.mk.inj (Option.some.inj hentry)).2.symm

end

section

variable {s : System} {e : Event} {k : RequestId} {n : ℕ}

/-- The ordinal of the registration of an identity. -/
def registration (server : Server) (k : RequestId) : Option ℕ :=
  (server.pending.lookup k).map (·.acceptance)

/-- What an event can do to the registration of one identity. -/
inductive Registration (s : System) (k : RequestId) : Event → Option ℕ → Prop
  | same (e : Event) : Registration s k e (registration s.server k)
  | withdrawn (t : ThreadId) (reply : Reply) : Registration s k (.rollback t k reply) none
  | completed (e : Event) (n : ℕ) : registration s.server k = some n → (k,n) ∈ completes s e →
      Registration s k e none
  | released (t : ThreadId) (m : ℕ) : Registration s k (.release t k m) none
  | accepted (t : ThreadId) (remaining : ℕ) (becameFull : Bool) (identity : SampleIdentity) :
      k ∉ s.server.pending →
      Registration s k (.insert t remaining becameFull k identity false)
        (some s.server.accepted)

/-- A phase change keeps every registration. -/
theorem registration_setPhase (server : Server) (phase : PendingPhase) (id : RequestId) :
    registration (server.setPhase phase id) k = registration server k := by
  unfold registration
  by_cases hid : k = id
  · rw [hid, Server.lookup_setPhase_self, Option.map_map]
    rfl
  · rw [Server.lookup_setPhase_ne hid]

/-- An erase withdraws one registration. -/
theorem registration_erase {server server' : Server} {id : RequestId}
    (hpending : server'.pending = server.pending.erase id) :
    registration server' k = if k = id then none else registration server k := by
  unfold registration
  rw [hpending]
  split_ifs with hid
  · rw [hid, AList.lookup_erase]
    rfl
  · rw [AList.lookup_erase_ne hid]

/-- What an event does to the registration of one identity. -/
theorem registration_next (s : System) (e : Event) (k : RequestId) :
    Registration s k e (registration (machine.next s e).server k) := by
  have hstays : (machine.next s e).server.pending = s.server.pending →
      Registration s k e (registration (machine.next s e).server k) := by
    intro hsame
    rw [show registration (machine.next s e).server k = registration s.server k by
      unfold registration; rw [hsame]]
    exact .same e
  cases e with
  | readBegin t requestNull operation remaining =>
    refine hstays ?_
    simp only [machine, next, readBegin]
    split <;> rfl
  | readTurn t remaining =>
    refine hstays ?_
    simp only [machine, next]
    cases remaining with
    | zero => rfl
    | succ remaining =>
      simp only [readTurn]
      split
      · rfl
      · next hreserve =>
        obtain ⟨-, -, rfl⟩ := Server.reserveRequestSlot_some.mp hreserve
        rfl
  | take t remaining becameFull outcome =>
    refine hstays ?_
    simp only [machine, next, take]
    split <;> rfl
  | retract t next => exact hstays rfl
  | insert t remaining becameFull id identity threw =>
    cases threw with
    | true => exact hstays rfl
    | false =>
      by_cases hmem : id ∈ s.server.pending
      · refine hstays ?_
        simp only [machine, next, ServerCalls.insert, Server.insertRequest, if_pos hmem]
        rfl
      · have hserver : (machine.next s (.insert t remaining becameFull id identity false)).server =
            (s.server.insertRequest id identity).2 := by
          simp only [machine, next, ServerCalls.insert, Server.insertRequest, if_neg hmem]
          rfl
        rw [hserver]
        simp only [registration, Server.insertRequest, if_neg hmem]
        by_cases hid : k = id
        · subst hid
          rw [AList.lookup_insert]
          exact .accepted t remaining becameFull identity hmem
        · rw [AList.lookup_insert_ne hid]
          exact .same _
  | commit t id acceptance outcome =>
    refine hstays ?_
    simp only [machine, next, commit]
    split <;> rfl
  | rollback t id reply =>
    have herase := @registration_erase k s.server (machine.next s (.rollback t id reply)).server id rfl
    rw [herase]
    split_ifs with hid
    · subst hid
      exact .withdrawn t reply
    · exact .same _
  | leave t reply => exact hstays rfl
  | discardBegin t operation id =>
    cases operation with
    | false => exact hstays rfl
    | true =>
      cases hdiscard : s.server.discardRequest id with
      | error e =>
        refine hstays ?_
        simp only [machine, next, discardBegin, hdiscard]
        rfl
      | ok outcome =>
        obtain ⟨found, wasFull, server⟩ := outcome
        obtain ⟨hlookup, hphase, -, rfl⟩ := Server.discardRequest_ok.mp hdiscard
        have hserver : (machine.next s (.discardBegin t true id)).server =
            {s.server with pending := s.server.pending.erase id} := by
          simp only [machine, next, discardBegin, hdiscard]
          rfl
        rw [hserver, registration_erase rfl]
        split_ifs with hid
        · subst hid
          refine .completed _ found.acceptance (by simp only [registration, hlookup]; rfl) ?_
          simp only [completes, Server.findUnclaimed_ok.mpr ⟨hlookup, hphase⟩]
          exact List.mem_singleton_self _
        · exact .same _
  | respondBegin t responseNull operation id =>
    cases hadmission : responseAdmission responseNull operation with
    | some e =>
      refine hstays ?_
      simp only [machine, next, respondBegin, hadmission]
      rfl
    | none =>
      cases hclaim : s.server.claimResponse id with
      | error e =>
        refine hstays ?_
        simp only [machine, next, respondBegin, hadmission, hclaim]
        rfl
      | ok outcome =>
        obtain ⟨found, server⟩ := outcome
        obtain ⟨-, -, rfl⟩ := Server.claimResponse_ok.mp hclaim
        have hserver : (machine.next s (.respondBegin t responseNull operation id)).server =
            s.server.setPhase .responding id := by
          simp only [machine, next, respondBegin, hadmission, hclaim]
        rw [hserver, registration_setPhase]
        exact .same _
  | decideResponse t id identity acceptance env =>
    refine hstays ?_
    simp only [machine, next, decideResponse]
    split <;> rfl
  | restore t id acceptance reply =>
    have hsame : registration (machine.next s (.restore t id acceptance reply)).server k = _ :=
      registration_setPhase s.server .pending id
    rw [hsame]
    exact .same _
  | release t id acceptance =>
    have herase := @registration_erase k s.server (machine.next s (.release t id acceptance)).server id rfl
    rw [herase]
    split_ifs with hid
    · subst hid
      exact .released t acceptance
    · exact .same _
  | unwind t id acceptance reply =>
    have hsame : registration (machine.next s (.unwind t id acceptance reply)).server k = _ :=
      registration_setPhase s.server .pending id
    rw [hsame]
    exact .same _
  | setFlag t value next => exact hstays rfl
  | finish t report reply => exact hstays rfl

/-- An entry of the protocol is a registration. -/
theorem registration_eq (s : System) (k : RequestId) :
    registration s.server k = ((abstract s).entry k).map (·.2) := by
  simp only [registration, abstract, entries, Option.map_map]
  rfl

/-- A new entry comes from a registration that overtakes no owner. -/
theorem unheld_registered (hok : Unheld s e) (hbefore : (abstract s).entry k = none)
    (hafter : (abstract (machine.next s e)).entry k ≠ none) (t : ThreadId) (n : ℕ) :
    ((abstract s).role t).owned ≠ some (k,n) := by
  have hstep := registration_next s e k
  have hnone : registration s.server k = none := by rw [registration_eq, hbefore]; rfl
  have hsome : registration (machine.next s e).server k ≠ none := by
    rw [registration_eq]
    exact fun hno => hafter (Option.map_eq_none_iff.mp hno)
  generalize registration (machine.next s e).server k = after at hstep hsome
  cases hstep with
  | same => exact absurd hnone hsome
  | withdrawn => exact absurd rfl hsome
  | completed => exact absurd rfl hsome
  | released => exact absurd rfl hsome
  | accepted t' remaining becameFull identity hmem => exact hok rfl hmem t n

end

/-- The registration a read is about to hand out. -/
def pendingCommit : Pc → Option Acceptance
  | .committing id acceptance => some (id,acceptance)
  | .settingFlag _ next => pendingCommit next
  | _ => none

/-- The registration a read is about to take back. -/
def rolling : Pc → Option RequestId
  | .rollingBack id _ => some id
  | .settingFlag _ next => rolling next
  | _ => none

@[simp] theorem pendingCommit_showWhen (wasFull : Bool) (next : Pc) :
    pendingCommit (showWhen wasFull next) = pendingCommit next := by
  cases wasFull <;> rfl

@[simp] theorem rolling_showWhen (wasFull : Bool) (next : Pc) :
    rolling (showWhen wasFull next) = rolling next := by
  cases wasFull <;> rfl

/-- Both happen inside a read. -/
theorem inRead_of_pendingCommit {pc : Pc} {p : Acceptance} (h : pendingCommit pc = some p) :
    inRead pc = true := by
  induction pc with
  | settingFlag value next ih => exact ih h
  | committing => rfl
  | _ => cases h

theorem inRead_of_rolling {pc : Pc} {k : RequestId} (h : rolling pc = some k) :
    inRead pc = true := by
  induction pc with
  | settingFlag value next ih => exact ih h
  | rollingBack => rfl
  | _ => cases h

/-- Where an event leaves its thread, as far as the request it reads goes. -/
inductive Moved (s : System) : Event → Pc → Prop
  | plain (e : Event) (pc : Pc) : pendingCommit pc = none → rolling pc = none → Moved s e pc
  | flag (t : ThreadId) (value : Bool) (pc : Pc) : Moved s (.setFlag t value pc) pc
  | registers (t : ThreadId) (remaining : ℕ) (becameFull : Bool) (k : RequestId)
      (identity : SampleIdentity) : k ∉ s.server.pending →
      Moved s (.insert t remaining becameFull k identity false)
        (.committing k s.server.accepted)
  | fails (t : ThreadId) (k : RequestId) (n : ℕ) (outcome : Option (Result Unit))
      (reply : Reply) : delivers (.commit t k n outcome) = [] →
      Moved s (.commit t k n outcome) (.rollingBack k reply)

section

variable {s : System} {e : Event} {k : RequestId} {n : ℕ} {u : ThreadId}

/-- Every event moves its thread to such a place. -/
theorem moved_next (s : System) (e : Event) : Moved s e ((machine.next s e).pc e.thread) := by
  cases e with
  | readBegin t requestNull operation remaining =>
    simp only [machine, next, readBegin, Event.thread]
    split
    · exact .plain _ _ (by rw [System.goto_pc_self]; rfl) (by rw [System.goto_pc_self]; rfl)
    · exact .plain _ _ (by simp [System.goto, pendingCommit]) (by simp [System.goto, rolling])
  | readTurn t remaining =>
    simp only [machine, next, Event.thread]
    cases remaining with
    | zero => exact .plain _ _ (by simp [readTurn, pendingCommit]) (by simp [readTurn, rolling])
    | succ remaining =>
      simp only [readTurn]
      split
      · exact .plain _ _ (by simp [pendingCommit]) (by simp [rolling])
      · next becameFull _ _ =>
        cases becameFull
        · exact .plain _ _ (by simp [System.goto, pendingCommit]) (by simp [System.goto, rolling])
        · exact .plain _ _ (by simp [System.goto, pendingCommit]) (by simp [System.goto, rolling])
  | take t remaining becameFull outcome =>
    simp only [machine, next, take, Event.thread]
    split <;> exact .plain _ _ (by simp [pendingCommit]) (by simp [rolling])
  | retract t next =>
    have hpc : (machine.next s (.retract t next)).pc t = showWhen _ next.pc :=
      Function.update_self _ _ _
    simp only [Event.thread]
    rw [hpc]
    refine .plain _ _ ?_ ?_
    · rw [pendingCommit_showWhen]
      cases next <;> rfl
    · rw [rolling_showWhen]
      cases next <;> rfl
  | insert t remaining becameFull id identity threw =>
    cases threw with
    | true =>
      have hpc : (machine.next s (.insert t remaining becameFull id identity true)).pc t =
          showWhen becameFull (.leaving .exception) := Function.update_self _ _ _
      simp only [Event.thread]
      rw [hpc]
      exact .plain _ _ (by rw [pendingCommit_showWhen]; rfl) (by rw [rolling_showWhen]; rfl)
    | false =>
      simp only [Event.thread]
      by_cases hmem : id ∈ s.server.pending
      · have hpc : (machine.next s (.insert t remaining becameFull id identity false)).pc t =
            showWhen becameFull (.reading remaining) := by
          simp only [machine, next, ServerCalls.insert, Server.insertRequest, if_pos hmem]
          exact Function.update_self _ _ _
        rw [hpc]
        exact .plain _ _ (by rw [pendingCommit_showWhen]; rfl) (by rw [rolling_showWhen]; rfl)
      · have hpc : (machine.next s (.insert t remaining becameFull id identity false)).pc t =
            .committing id s.server.accepted := by
          simp only [machine, next, ServerCalls.insert, Server.insertRequest, if_neg hmem]
          exact Function.update_self _ _ _
        rw [hpc]
        exact .registers t remaining becameFull id identity hmem
  | commit t id acceptance outcome =>
    simp only [machine, next, commit, Event.thread]
    split
    · exact .plain _ _ (by simp [pendingCommit]) (by simp [rolling])
    · rw [System.goto_pc_self]
      exact .fails t id acceptance _ _ rfl
    · rw [System.goto_pc_self]
      exact .fails t id acceptance _ _ rfl
  | rollback t id reply =>
    have hpc : (machine.next s (.rollback t id reply)).pc t = showWhen _ (.leaving reply) :=
      Function.update_self _ _ _
    simp only [Event.thread]
    rw [hpc]
    exact .plain _ _ (by rw [pendingCommit_showWhen]; rfl) (by rw [rolling_showWhen]; rfl)
  | leave t reply =>
    exact .plain _ _ (by simp [machine, next, leave, System.goto, Event.thread, pendingCommit])
      (by simp [machine, next, leave, System.goto, Event.thread, rolling])
  | discardBegin t operation id =>
    simp only [machine, next, discardBegin, Event.thread]
    split
    · exact .plain _ _ (by simp [pendingCommit]) (by simp [rolling])
    · split
      · exact .plain _ _ (by simp [pendingCommit]) (by simp [rolling])
      · exact .plain _ _ (by simp [System.goto, pendingCommit]) (by simp [System.goto, rolling])
  | respondBegin t responseNull operation id =>
    simp only [machine, next, respondBegin, Event.thread]
    split
    · exact .plain _ _ (by simp [pendingCommit]) (by simp [rolling])
    · split
      · exact .plain _ _ (by simp [pendingCommit]) (by simp [rolling])
      · exact .plain _ _ (by simp [System.goto, pendingCommit]) (by simp [System.goto, rolling])
  | decideResponse t id identity acceptance env =>
    simp only [machine, next, decideResponse, Event.thread]
    split <;>
      exact .plain _ _ (by simp [System.goto, pendingCommit]) (by simp [System.goto, rolling])
  | restore t id acceptance reply =>
    exact .plain _ _ (by simp [machine, next, restore, System.goto, Event.thread, pendingCommit])
      (by simp [machine, next, restore, System.goto, Event.thread, rolling])
  | release t id acceptance =>
    have hpc : (machine.next s (.release t id acceptance)).pc t =
        showWhen _ (.unwinding id acceptance .success) := Function.update_self _ _ _
    simp only [Event.thread]
    rw [hpc]
    exact .plain _ _ (by rw [pendingCommit_showWhen]; rfl) (by rw [rolling_showWhen]; rfl)
  | unwind t id acceptance reply =>
    exact .plain _ _ (by simp [machine, next, unwind, System.goto, Event.thread, pendingCommit])
      (by simp [machine, next, unwind, System.goto, Event.thread, rolling])
  | setFlag t value next =>
    have hpc : (machine.next s (.setFlag t value next)).pc t = next := Function.update_self _ _ _
    simp only [Event.thread]
    rw [hpc]
    exact .flag t value next
  | finish t report reply =>
    exact .plain _ _ (by simp [machine, next, finish, System.goto, Event.thread, pendingCommit])
      (by simp [machine, next, finish, System.goto, Event.thread, rolling])

/-- A read hands out what it has registered. -/
theorem pendingCommit_next (hen : machine.enabled s e)
    (h : pendingCommit ((machine.next s e).pc u) = some (k,n)) :
    pendingCommit (s.pc u) = some (k,n) ∨
      ∃ remaining becameFull identity, e = .insert u remaining becameFull k identity false ∧
        k ∉ s.server.pending ∧ n = s.server.accepted := by
  by_cases hu : u = e.thread
  · have hmoved := moved_next s e
    rw [← hu] at hmoved
    generalize (machine.next s e).pc u = pc at h hmoved
    cases hmoved with
    | plain _ _ hnone _ =>
      rw [hnone] at h
      cases h
    | flag t value =>
      have hpc : s.pc t = .settingFlag value pc := hen
      obtain rfl : u = t := hu
      exact Or.inl (by rw [hpc]; exact h)
    | registers t remaining becameFull id identity hnew =>
      obtain rfl : u = t := hu
      obtain ⟨rfl, rfl⟩ := Prod.mk.inj (Option.some.inj h)
      exact Or.inr ⟨remaining, becameFull, identity, rfl, hnew, rfl⟩
    | fails => cases h
  · rw [show (machine.next s e).pc u = s.pc u from next_pc_ne hu] at h
    exact Or.inl h

/-- A read takes back what it could not hand out. -/
theorem rolling_next (hen : machine.enabled s e) (h : rolling ((machine.next s e).pc u) = some k) :
    rolling (s.pc u) = some k ∨
      ∃ n outcome, e = .commit u k n outcome ∧ delivers e = [] := by
  by_cases hu : u = e.thread
  · have hmoved := moved_next s e
    rw [← hu] at hmoved
    generalize (machine.next s e).pc u = pc at h hmoved
    cases hmoved with
    | plain _ _ _ hnone =>
      rw [hnone] at h
      cases h
    | flag t value =>
      have hpc : s.pc t = .settingFlag value pc := hen
      obtain rfl : u = t := hu
      exact Or.inl (by rw [hpc]; exact h)
    | registers => cases h
    | fails t id n outcome reply hnone =>
      obtain rfl : u = t := hu
      obtain rfl := Option.some.inj h
      exact Or.inr ⟨n, outcome, rfl, hnone⟩
  · rw [show (machine.next s e).pc u = s.pc u from next_pc_ne hu] at h
    exact Or.inl h

end

/-- What orderly runs keep about the requests of a Server. -/
structure Tracked (w : Watch) : Prop where
  /-- The slots are accounted for. -/
  accounting : Accounting 0 w.system
  /-- The claims are exclusive. -/
  claims : Inv (abstract w.system)
  /-- An owner's identity is not registered again. -/
  solo : Solo (abstract w.system)
  /-- Completed registrations are gone. -/
  done : Done (abstract w.system) w.completed
  /-- Each is completed once. -/
  completedOnce : w.completed.Nodup
  /-- A request handed out was registered, and is still or completed. -/
  delivered : ∀ k n, (k,n) ∈ w.delivered → n < w.system.server.accepted ∧
    (registration w.system.server k = some n ∨ (k,n) ∈ w.completed)
  /-- Each is handed out once. -/
  deliveredOnce : w.delivered.Nodup
  /-- So is the one about to be handed out, and it is the last one registered. -/
  committing : ∀ t k n, pendingCommit (w.system.pc t) = some (k,n) →
    n < w.system.server.accepted ∧ (k,n) ∉ w.delivered ∧
      (registration w.system.server k = some n ∨ (k,n) ∈ w.completed) ∧
      ∀ m, registration w.system.server k = some m → m = n
  /-- What is taken back was not handed out. -/
  rollingBack : ∀ t k, rolling (w.system.pc t) = some k →
    ∀ m, registration w.system.server k = some m → (k,m) ∉ w.delivered

section

variable {w : Watch} {e : Event} {k : RequestId} {n : ℕ}

/-- A registration is an entry of the protocol. -/
theorem registration_some (s : System) : registration s.server k = some n ↔
    ∃ b, (abstract s).entry k = some (b,n) := by
  rw [registration_eq, Option.map_eq_some_iff]
  constructor
  · rintro ⟨⟨b, m⟩, hentry, rfl⟩
    exact ⟨b, hentry⟩
  · rintro ⟨b, hentry⟩
    exact ⟨_, hentry, rfl⟩

/-- A completed registration was there, unclaimed or owned. -/
theorem completes_from (hen : machine.enabled w.system e) (hmem : (k,n) ∈ completes w.system e) :
    registration (machine.next w.system e).server k = none ∧
      ((abstract w.system).entry k = some (false,n) ∨
        ∃ t m, e = .release t k m ∧ m = n ∧ (abstract w.system).role t = .erasing k n) := by
  cases e with
  | discardBegin t operation id =>
    cases operation with
    | false => exact absurd hmem List.not_mem_nil
    | true =>
      cases hfound : w.system.server.findUnclaimed id with
      | error e =>
        simp only [completes, hfound] at hmem
        exact absurd hmem List.not_mem_nil
      | ok entry =>
        simp only [completes, hfound] at hmem
        obtain ⟨rfl, rfl⟩ := Prod.mk.inj (List.mem_singleton.mp hmem)
        have hdiscard := Server.discardRequest_ok.mpr
          ⟨(Server.findUnclaimed_ok.mp hfound).1, (Server.findUnclaimed_ok.mp hfound).2, rfl, rfl⟩
        refine ⟨?_, Or.inl (entries_of_findUnclaimed hfound)⟩
        simp only [machine, next, discardBegin, hdiscard]
        exact (registration_erase rfl).trans (if_pos rfl)
  | release t id acceptance =>
    obtain ⟨rfl, rfl⟩ := Prod.mk.inj (List.mem_singleton.mp hmem)
    have hpc : w.system.pc t = .releasing k n := hen
    exact ⟨(registration_erase rfl).trans (if_pos rfl),
      Or.inr ⟨t, n, rfl, rfl, congrArg role hpc⟩⟩
  | _ => exact absurd hmem List.not_mem_nil

/-- A registration stays, is taken back by its read or is completed. -/
theorem Tracked.persists (h : Tracked w) (hen : machine.enabled w.system e)
    (hreg : registration w.system.server k = some n) (hread : ∀ t reply, e ≠ .rollback t k reply) :
    registration (machine.next w.system e).server k = some n ∨ (k,n) ∈ completes w.system e := by
  have hstep := registration_next w.system e k
  generalize registration (machine.next w.system e).server k = after at hstep
  cases hstep with
  | same => exact Or.inl hreg
  | withdrawn t reply => exact absurd rfl (hread t reply)
  | completed _ m hfound hmem =>
    obtain rfl := Option.some.inj (hreg.symm.trans hfound)
    exact Or.inr hmem
  | released t m =>
    have hpc : w.system.pc t = .releasing k m := hen
    obtain ⟨b, hentry⟩ := (registration_some w.system).mp hreg
    have hown : ((abstract w.system).role t).owned = some (k,m) := by
      rw [show (abstract w.system).role t = role (w.system.pc t) from rfl, hpc]
      rfl
    obtain rfl := h.solo t k m b n hown hentry
    exact Or.inr List.mem_cons_self
  | accepted t remaining becameFull identity hnew =>
    unfold registration at hreg
    rw [AList.lookup_eq_none.mpr hnew] at hreg
    cases hreg

/-- The acting thread of a read's event is the only reader. -/
theorem Tracked.reader (h : Tracked w) {t u : ThreadId} (ht : inRead (w.system.pc t) = true)
    (hu : inRead (w.system.pc u) = true) : u = t := by
  by_contra hne
  rw [h.accounting.alone ht u hne] at hu
  cases hu

/-- Nothing is handed out but the registration of the read. -/
theorem mem_delivers (hen : machine.enabled w.system e) (hmem : (k,n) ∈ delivers e) :
    ∃ t outcome, e = .commit t k n outcome ∧ w.system.pc t = .committing k n := by
  cases e with
  | commit t id acceptance outcome =>
    cases outcome with
    | none => exact absurd hmem List.not_mem_nil
    | some result =>
      cases result with
      | error e => exact absurd hmem List.not_mem_nil
      | ok value =>
        obtain ⟨rfl, rfl⟩ := Prod.mk.inj (List.mem_singleton.mp hmem)
        exact ⟨t, _, rfl, hen⟩
  | _ => exact absurd hmem List.not_mem_nil

/-- What a read hands out it is about to hand out no more. -/
theorem pendingCommit_delivered (hmem : (k,n) ∈ delivers e) :
    pendingCommit ((machine.next w.system e).pc e.thread) = none := by
  have hmoved := moved_next w.system e
  generalize (machine.next w.system e).pc e.thread = pc at hmoved
  cases hmoved with
  | plain _ _ hnone _ => exact hnone
  | flag => exact absurd hmem List.not_mem_nil
  | registers => exact absurd hmem List.not_mem_nil
  | fails _ _ _ _ _ hnone =>
    rw [hnone] at hmem
    exact absurd hmem List.not_mem_nil

/-- Completion in one step of an orderly run. -/
theorem Tracked.done_next (h : Tracked w) (hen : machine.enabled w.system e)
    (hstep : Step (abstract w.system) (abstract (machine.next w.system e))) :
    Done (abstract (machine.next w.system e)) (w.completed ++ completes w.system e) ∧
      (w.completed ++ completes w.system e).Nodup := by
  constructor
  · intro k n hmem
    rcases List.mem_append.mp hmem with hold | hnew
    · exact h.done.step hstep k n hold
    · obtain ⟨hnone, hfrom⟩ := completes_from hen hnew
      have hentry : (abstract (machine.next w.system e)).entry k = none := by
        rw [registration_eq] at hnone
        exact Option.map_eq_none_iff.mp hnone
      have hissued := issued_step hstep
      refine ⟨⟨?_, fun b => by rw [hentry]; exact (Option.some_ne_none _).symm⟩, fun t hown => ?_⟩
      · rcases hfrom with hfree | ⟨t, m, rfl, rfl, hrole⟩
        · exact Nat.lt_of_lt_of_le (h.claims.fresh k false n hfree) hissued
        · exact Nat.lt_of_lt_of_le (h.claims.owned_issued (t := t) (by rw [hrole]; rfl)) hissued
      · rcases owned_before hstep hown with hold | ⟨-, hclaimed, -⟩
        · rcases hfrom with hfree | ⟨u, m, rfl, rfl, hrole⟩
          · exact h.claims.unclaimed_unowned hfree t hold
          · have hworking : ((abstract w.system).role u).working = some (k,m) := by
              rw [hrole]
              rfl
            have htu := h.claims.exclusive t u k m m (Role.working_of_owned hold) hworking
            subst htu
            have hpc : (machine.next w.system (.release t k m)).pc t =
                showWhen _ (.unwinding k m .success) := Function.update_self _ _ _
            change (role ((machine.next w.system (.release t k m)).pc t)).owned = _ at hown
            rw [hpc, role_showWhen] at hown
            cases hown
        · rw [hentry] at hclaimed
          cases hclaimed
  · refine List.nodup_append.mpr ⟨h.completedOnce, ?_, fun p hold p' hnew => ?_⟩
    · cases e with
      | discardBegin t operation id =>
        cases operation with
        | false => exact List.nodup_nil
        | true =>
          simp only [completes]
          split
          · exact List.nodup_singleton _
          · exact List.nodup_nil
      | release => exact List.nodup_singleton _
      | _ => exact List.nodup_nil
    · rintro rfl
      obtain ⟨k, n⟩ := p
      obtain ⟨hgone, hfree⟩ := h.done k n hold
      rcases (completes_from hen hnew).2 with hentry | ⟨t, m, rfl, rfl, hrole⟩
      · exact hgone.2 false hentry
      · exact hfree t (by rw [hrole]; rfl)

end

section

variable {w : Watch} {e : Event} {k : RequestId} {n : ℕ}

/-- A request handed out is not the one a read still has, and nobody takes it
back. -/
theorem Tracked.delivered_kept (h : Tracked w) (hen : machine.enabled w.system e)
    (hmem : (k,n) ∈ w.delivered)
    (hkept : registration w.system.server k = some n ∨ (k,n) ∈ w.completed) :
    registration (machine.next w.system e).server k = some n ∨
      (k,n) ∈ w.completed ++ completes w.system e := by
  rcases hkept with hreg | hdone
  · have hread : ∀ t reply, e ≠ .rollback t k reply := by
      rintro t reply rfl
      have hpc : w.system.pc t = .rollingBack k reply := hen
      exact h.rollingBack t k (by rw [hpc]; rfl) n hreg hmem
    exact (h.persists hen hreg hread).imp_right (List.mem_append_right _)
  · exact Or.inr (List.mem_append_left _ hdone)

/-- So are the requests handed out. -/
theorem Tracked.delivered_next (h : Tracked w) (hen : machine.enabled w.system e)
    (hstep : Step (abstract w.system) (abstract (machine.next w.system e)))
    (hmem : (k,n) ∈ w.delivered ++ delivers e) :
    n < (machine.next w.system e).server.accepted ∧
      (registration (machine.next w.system e).server k = some n ∨
        (k,n) ∈ w.completed ++ completes w.system e) := by
  have hissued := issued_step hstep
  rcases List.mem_append.mp hmem with hold | hnew
  · obtain ⟨hlt, hkept⟩ := h.delivered k n hold
    exact ⟨Nat.lt_of_lt_of_le hlt hissued, h.delivered_kept hen hold hkept⟩
  · obtain ⟨t, outcome, rfl, hpc⟩ := mem_delivers hen hnew
    obtain ⟨hlt, -, hkept, -⟩ := h.committing t k n (by rw [hpc]; rfl)
    refine ⟨Nat.lt_of_lt_of_le hlt hissued, ?_⟩
    rcases hkept with hreg | hdone
    · exact (h.persists hen hreg nofun).imp_right (List.mem_append_right _)
    · exact Or.inr (List.mem_append_left _ hdone)

/-- What a read hands out was not handed out before. -/
theorem Tracked.delivered_once_next (h : Tracked w) (hen : machine.enabled w.system e) :
    (w.delivered ++ delivers e).Nodup := by
  refine List.nodup_append.mpr ⟨h.deliveredOnce, ?_, ?_⟩
  · unfold delivers
    split
    · exact List.nodup_singleton _
    · exact List.nodup_nil
  · rintro ⟨k, n⟩ hold _ hnew rfl
    obtain ⟨t, outcome, rfl, hpc⟩ := mem_delivers hen hnew
    exact (h.committing t k n (by rw [hpc]; rfl)).2.1 hold

/-- A read in its commit, after a step. -/
theorem Tracked.committing_next (h : Tracked w) (hen : machine.enabled w.system e)
    (hstep : Step (abstract w.system) (abstract (machine.next w.system e))) {u : ThreadId}
    (hu : pendingCommit ((machine.next w.system e).pc u) = some (k,n)) :
    n < (machine.next w.system e).server.accepted ∧ (k,n) ∉ w.delivered ++ delivers e ∧
      (registration (machine.next w.system e).server k = some n ∨
        (k,n) ∈ w.completed ++ completes w.system e) ∧
      ∀ m, registration (machine.next w.system e).server k = some m → m = n := by
  have hissued := issued_step hstep
  have hreg := registration_next w.system e k
  rcases pendingCommit_next hen hu with hold | ⟨remaining, becameFull, identity, rfl, hnew, rfl⟩
  · obtain ⟨hlt, hfresh, hkept, honly⟩ := h.committing u k n hold
    have hread := inRead_of_pendingCommit hold
    refine ⟨Nat.lt_of_lt_of_le hlt hissued, fun hmem => ?_, ?_, ?_⟩
    · rcases List.mem_append.mp hmem with hmem | hmem
      · exact hfresh hmem
      · obtain ⟨t, outcome, rfl, hpc⟩ := mem_delivers hen hmem
        obtain rfl : u = t := h.reader (by rw [hpc]; rfl) hread
        have hnone := pendingCommit_delivered (w := w) hmem
        rw [show (Event.commit u k n outcome).thread = u from rfl, hu] at hnone
        cases hnone
    · rcases hkept with hsome | hdone
      · refine (h.persists hen hsome ?_).imp_right (List.mem_append_right _)
        rintro t reply rfl
        have hpc : w.system.pc t = .rollingBack k reply := hen
        obtain rfl : u = t := h.reader (by rw [hpc]; rfl) hread
        rw [hpc] at hold
        cases hold
      · exact Or.inr (List.mem_append_left _ hdone)
    · intro m hm
      rw [hm] at hreg
      generalize hafter : some m = after at hreg
      cases hreg with
      | same => exact honly m hafter.symm
      | withdrawn => cases hafter
      | completed => cases hafter
      | released => cases hafter
      | accepted t remaining becameFull identity hnew =>
        have hpc : w.system.pc t = .inserting remaining becameFull k identity := hen
        obtain rfl : u = t := h.reader (by rw [hpc]; rfl) hread
        rw [hpc] at hold
        cases hold
  · have hserver : (machine.next w.system (.insert u remaining becameFull k identity false)).server =
        (w.system.server.insertRequest k identity).2 := by
      simp only [machine, next, ServerCalls.insert, Server.insertRequest, if_neg hnew]
      rfl
    have hentry : registration
        (machine.next w.system (.insert u remaining becameFull k identity false)).server k =
          some w.system.server.accepted := by
      rw [hserver]
      simp only [registration, Server.insertRequest, if_neg hnew, AList.lookup_insert]
      rfl
    refine ⟨?_, fun hmem => ?_, Or.inl hentry, fun m hm => ?_⟩
    · rw [hserver]
      simp only [Server.insertRequest, if_neg hnew]
      exact Nat.lt_succ_self _
    · rcases List.mem_append.mp hmem with hmem | hmem
      · exact Nat.lt_irrefl _ (h.delivered _ _ hmem).1
      · exact absurd hmem List.not_mem_nil
    · exact (Option.some.inj (hentry.symm.trans hm)).symm

/-- A read that takes its request back, after a step. -/
theorem Tracked.rollingBack_next (h : Tracked w) (hen : machine.enabled w.system e) {u : ThreadId}
    (hu : rolling ((machine.next w.system e).pc u) = some k) {m : ℕ}
    (hm : registration (machine.next w.system e).server k = some m) :
    (k,m) ∉ w.delivered ++ delivers e := by
  have hreg := registration_next w.system e k
  rw [hm] at hreg
  generalize hafter : some m = after at hreg
  rcases rolling_next hen hu with hold | ⟨n, outcome, rfl, hnone⟩
  · have hread := inRead_of_rolling hold
    have hbefore : registration w.system.server k = some m := by
      cases hreg with
      | same => exact hafter.symm
      | withdrawn => cases hafter
      | completed => cases hafter
      | released => cases hafter
      | accepted t remaining becameFull identity hnew =>
        have hpc : w.system.pc t = .inserting remaining becameFull k identity := hen
        obtain rfl : u = t := h.reader (by rw [hpc]; rfl) hread
        rw [hpc] at hold
        cases hold
    intro hmem
    rcases List.mem_append.mp hmem with hmem | hmem
    · exact h.rollingBack u k hold m hbefore hmem
    · obtain ⟨t, outcome, rfl, hpc⟩ := mem_delivers hen hmem
      obtain rfl : u = t := h.reader (by rw [hpc]; rfl) hread
      rw [hpc] at hold
      cases hold
  · have hpc : w.system.pc u = .committing k n := hen
    obtain ⟨-, hfresh, -, honly⟩ := h.committing u k n (by rw [hpc]; rfl)
    rw [hnone, List.append_nil]
    cases hreg with
    | same =>
      rw [honly m hafter.symm]
      exact hfresh
    | completed => cases hafter

/-- Every step of an orderly run keeps track. -/
theorem Tracked.next (h : Tracked w) (hen : watching.enabled w e) (hok : Orderly w e) :
    Tracked (watching.next w e) := by
  have hstep := next_simulates (s := w.system) hen hok.1
  obtain ⟨hdone, honce⟩ := h.done_next hen hstep
  have haccounting := h.accounting.next hen
  rw [hok.2.2] at haccounting
  exact
    { accounting := haccounting
      claims := h.claims.step hstep
      solo := h.solo.step hstep fun k hbefore hafter t n =>
        unheld_registered hok.2.1 hbefore hafter t n
      done := hdone
      completedOnce := honce
      delivered := fun k n hmem => h.delivered_next hen hstep hmem
      deliveredOnce := h.delivered_once_next hen
      committing := fun t k n ht => h.committing_next hen hstep ht
      rollingBack := fun t k ht m hm => h.rollingBack_next hen ht hm }

/-- A new Server owes nothing. -/
theorem Tracked.initial (max : ℕ) : Tracked (Watch.initial max) where
  accounting := Accounting.initial max
  claims := Inv.initial 0
  solo := by
    intro t k n b m hown
    cases hown
  done := fun _ _ hmem => absurd hmem List.not_mem_nil
  completedOnce := List.nodup_nil
  delivered := fun _ _ hmem => absurd hmem List.not_mem_nil
  deliveredOnce := List.nodup_nil
  committing := by
    intro t k n ht
    cases ht
  rollingBack := by
    intro t k ht
    cases ht

/-- A registered request can be claimed or discarded, or is being answered. -/
theorem findUnclaimed_registered {server : Server} (h : registration server k = some n) :
    ∃ entry, entry.acceptance = n ∧ (server.findUnclaimed k = .ok entry ∨
      server.findUnclaimed k = .error ⟨.busy,"Response is in progress"⟩) := by
  obtain ⟨entry, hlookup, hn⟩ := Option.map_eq_some_iff.mp h
  refine ⟨entry, hn, ?_⟩
  cases hphase : entry.phase with
  | pending => exact Or.inl (Server.findUnclaimed_ok.mpr ⟨hlookup, hphase⟩)
  | responding =>
    refine Or.inr ?_
    simp only [Server.findUnclaimed, hlookup, hphase]

/-- Tracked requests are answerable. -/
theorem Tracked.answerable (h : Tracked w) : Answerable w where
  open_or_done := by
    intro id n hmem
    by_cases hdone : (id,n) ∈ w.completed
    · exact Or.inl (List.count_eq_one_of_mem h.completedOnce hdone)
    · have hreg := (h.delivered id n hmem).2.resolve_right hdone
      exact Or.inr ⟨List.count_eq_zero.mpr hdone, findUnclaimed_registered hreg⟩
  once := h.deliveredOnce
  alone := by
    intro id n m hn hm hn' hm'
    have hreg := (h.delivered id n hn).2.resolve_right hn'
    have hreg' := (h.delivered id m hm).2.resolve_right hm'
    exact Option.some.inj (hreg.symm.trans hreg')

/-- In every run in which no take throws, no claim is granted over a stale one
and no claim overtaken, the slots of a Server are accounted for and its requests
are answerable until they are completed once. -/
theorem requests_accounted (max : ℕ) (es : List Event) (w : Watch)
    (hrun : watching.RunWhen Orderly (Watch.initial max) es w) :
    SlotsAccounted 0 w.system ∧ Answerable w := by
  have htracked : Tracked w := hrun.invariant Tracked (Tracked.initial max)
    fun _ _ h hen hok => h.next hen hok
  exact ⟨slots_of_accounting htracked.accounting, htracked.answerable⟩

/-- In any run the slots are, but for one that every take that throws has
leaked. -/
theorem slots_accounted (max : ℕ) (es : List Event) (w : Watch)
    (hrun : watching.Run (Watch.initial max) es w) :
    SlotsAccounted (es.map lost).sum w.system := by
  refine slots_of_accounting ?_
  induction hrun with
  | nil => exact Accounting.initial max
  | snoc _ hen _ ih =>
    rw [List.map_append, List.sum_append]
    exact ih.next hen

end

/-- A thread without company that neither claims nor throws keeps the order. -/
theorem orderly_of_single {max : ℕ} {es : List Event} {w : Watch}
    (hrun : watching.RunWhen (fun _ e => e.thread = 0 ∧ lost e = 0 ∧
      ∀ responseNull operation id, e ≠ .respondBegin 0 responseNull operation id)
      (Watch.initial max) es w) :
    watching.RunWhen Orderly (Watch.initial max) es w := by
  have hidle : ∀ {es w}, watching.RunWhen (fun _ e => e.thread = 0 ∧ lost e = 0 ∧
      ∀ responseNull operation id, e ≠ .respondBegin 0 responseNull operation id)
      (Watch.initial max) es w → ∀ t, t ≠ 0 → w.system.pc t = .idle := by
    intro es w hrun
    refine hrun.invariant (fun w => ∀ t, t ≠ 0 → w.system.pc t = .idle) (fun _ _ => rfl) ?_
    intro w e hothers _ hok t hne
    exact (next_pc_ne (by rw [hok.1]; exact hne)).trans (hothers t hne)
  induction hrun with
  | nil => exact .nil
  | @snoc es w e hprev hen hok ih =>
    refine ih.snoc hen ⟨?_, ?_, hok.2.1⟩
    · cases e with
      | respondBegin t responseNull operation id =>
        obtain rfl : t = 0 := hok.1
        exact absurd rfl (hok.2.2 responseNull operation id)
      | _ => trivial
    · cases e with
      | insert t remaining becameFull id identity threw =>
        intro _ _ u n hown
        obtain rfl : t = 0 := hok.1
        have hpc : w.system.pc 0 = .inserting remaining becameFull id identity := hen
        by_cases hu : u = 0
        · subst hu
          rw [hpc] at hown
          cases hown
        · rw [hidle hprev u hu] at hown
          cases hown
      | _ => trivial

/-- A call of `begin_response`. -/
def responds : Event → Bool
  | .respondBegin .. => true
  | _ => false

/-- Thread 0 accepts a request and discards it. -/
def discarding : List Event :=
  acceptance ++ [.discardBegin 0 true sampleRequest,
    .finish 0 (some (.discarded sampleRequest 0)) .success]

theorem requests_accounted_discarding :
    ∃ w, watching.RunWhen Orderly (Watch.initial 2) discarding w ∧
      SlotsAccounted 0 w.system ∧ Answerable w := by
  have hsome : (watching.exec (Watch.initial 2) discarding).isSome := by decide +kernel
  obtain ⟨w, hexec⟩ := Option.isSome_iff_exists.mp hsome
  have hrun := orderly_of_single (Machine.runWhen_of_exec
    (fun _ e => e.thread == 0 && (lost e == 0 && !responds e)) (by
      intro w e htest
      obtain ⟨hthread, htest⟩ := Bool.and_eq_true_iff.mp htest
      obtain ⟨hlost, hkind⟩ := Bool.and_eq_true_iff.mp htest
      refine ⟨by simpa using hthread, by simpa using hlost, ?_⟩
      rintro responseNull operation id rfl
      cases hkind) hexec (by decide +kernel))
  exact ⟨w, hrun, requests_accounted 2 discarding w hrun⟩

/-- The write of thread 1 fails, thread 2 claims before thread 1 has unwound,
and the late restore lets thread 3 discard what thread 2 is answering. -/
def completedTwice : List Event :=
  let failed := Reply.failure ⟨.ddsError,"Fast DDS response write failed"⟩
  acceptance ++
    [.respondBegin 1 false true sampleRequest,
      .decideResponse 1 sampleRequest sampleClient 0 (writing false),
      .restore 1 sampleRequest 0 failed,
      .respondBegin 2 false true sampleRequest,
      .unwind 1 sampleRequest 0 failed,
      .discardBegin 3 true sampleRequest,
      .decideResponse 2 sampleRequest sampleClient 0 (writing true),
      .release 2 sampleRequest 0]

/-- A discard and a response complete the same request. -/
theorem completedTwice_not_answerable :
    ¬ ∀ max es w, 0 < max → watching.Run (Watch.initial max) es w →
      SlotsAccounted 0 w.system ∧ Answerable w := by
  intro hclaim
  have hcounts : (watching.exec (Watch.initial 2) completedTwice).map (fun w =>
      (decide ((sampleRequest,0) ∈ w.delivered),w.completed.count (sampleRequest,0))) =
        some (true,2) := by
    decide +kernel
  obtain ⟨w, hexec, heq⟩ := Option.map_eq_some_iff.mp hcounts
  obtain ⟨hmem, htwice⟩ := Prod.mk.inj heq
  obtain ⟨-, hanswerable⟩ := hclaim 2 completedTwice w (by decide) (Machine.run_of_exec hexec)
  rcases hanswerable.open_or_done sampleRequest 0 (of_decide_eq_true hmem) with hone | ⟨hzero, -⟩
  · omega
  · omega

/-- The sample to take into cannot be created, which throws. -/
def scratchThrew : List Event :=
  [.readBegin 0 false true 1,
    .readTurn 0 1,
    .take 0 0 false .threw,
    .leave 0 .exception,
    .finish 0 none .exception]

/-- The read has returned, its slot stays reserved. -/
theorem scratchThrew_leaks :
    ¬ ∀ max es w, 0 < max → watching.Run (Watch.initial max) es w → SlotsAccounted 0 w.system := by
  intro hclaim
  have hend : (watching.exec (Watch.initial 2) scratchThrew).map (fun w =>
      (w.system.pc 0,w.system.server.reservations)) = some (.idle,1) := by decide
  obtain ⟨w, hexec, heq⟩ := Option.map_eq_some_iff.mp hend
  obtain ⟨hzero, hreserved⟩ := Prod.mk.inj heq
  have hidle : ∀ t, w.system.pc t = .idle := by
    intro t
    by_cases ht : t = 0
    · rw [ht]
      exact hzero
    · refine Machine.exec_keeps (fun w : Watch => w.system.pc t) (fun w e he => ?_) hexec
      have hthreads : ∀ e ∈ scratchThrew, e.thread = 0 := by decide
      exact next_pc_ne (by rw [hthreads e he]; exact ht)
  have hnone := (hclaim 2 scratchThrew w (by decide) (Machine.run_of_exec hexec)).none fun t => by
    rw [hidle t]
    rfl
  omega

end Dmw.RequestDelivery
