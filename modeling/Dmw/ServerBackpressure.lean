import Dmw.ServerCalls
import Mathlib.Algebra.GroupWithZero.Nat

/-!
# Backpressure of the request reader

A full table hides the request reader from its WaitSet and a free slot shows
it again. The capacity is tested under `pending_mutex_`, the flag is exchanged
after that lock was released. At least one outstanding exchange always carries
the current capacity when the flag does not, until an exchange decided by an
older test overtakes the last one that was right.
-/

namespace Dmw.ServerBackpressure

open Identity KeyedTable GuardedRuns ServerPending ServerCalls

/-- Steps of a read that run under `request_read_mutex_`. -/
def inRead : Pc → Bool
  | .reading _ | .taking .. | .retracting _ | .inserting .. => true
  | .committing .. | .rollingBack .. | .leaving _ => true
  | .settingFlag _ next => inRead next
  | _ => false

/-- Steps at which the read holds a reserved slot. -/
def holdsSlot : Pc → Bool
  | .taking .. | .retracting _ | .inserting .. => true
  | .settingFlag _ next => holdsSlot next
  | _ => false

/-- Steps of a read whose reservation left a slot free. -/
def sawRoom : Pc → Bool
  | .taking _ becameFull => !becameFull
  | .inserting _ becameFull _ _ => !becameFull
  | .settingFlag _ next => sawRoom next
  | _ => false

/-- Value of an outstanding flag exchange. -/
def exchange : Pc → Option Bool
  | .settingFlag value _ => some value
  | _ => none

/-- Reservations that an event leaves to nobody: after the exception of a take
the slot is not given back. -/
def lost : Event → ℕ
  | .take _ _ _ .threw => 1
  | _ => 0

/-- Slot accounting between the table, the one running read and the reads that
left their slot behind. -/
structure Accounting (leaked : ℕ) (s : System) : Prop where
  /-- Only the owner of the read mutex reads. -/
  owner : ∀ t, inRead (s.pc t) = true → s.reader = some t
  /-- A reading thread holds at most one slot. -/
  slot : ∀ t, holdsSlot (s.pc t) = true → s.server.reservations = leaked + 1
  /-- A slot is held by a thread or was left behind. -/
  noSlot : (∀ t, holdsSlot (s.pc t) = false) → s.server.reservations = leaked
  /-- The table never exceeds its capacity. -/
  bounded : s.server.occupied ≤ s.server.maxPendingRequests
  /-- Only the read fills the table, so room it saw is still there. -/
  room : ∀ t, sawRoom (s.pc t) = true → s.server.occupied < s.server.maxPendingRequests

/-- The flag shows the capacity, or an exchange that makes it so is outstanding. -/
def Announced (s : System) : Prop :=
  s.server.blockingEnabled = s.server.hasCapacity ∨
    ∃ t, exchange (s.pc t) = some s.server.hasCapacity

/-- An exchange that disagrees with the capacity is not the last one. -/
def NotOvertaken (s : System) : Event → Prop
  | .setFlag t value _ =>
    value = s.server.hasCapacity ∨
      ∃ u, u ≠ t ∧ exchange (s.pc u) = some s.server.hasCapacity
  | _ => True

/-- With no call in progress the flag is the capacity test. -/
def FlagTracksCapacity (s : System) : Prop :=
  (∀ t, s.pc t = .idle) →
    (s.server.blockingEnabled = true ↔
      Table.size s.server.pending + s.server.reservations < s.server.maxPendingRequests)

@[simp] theorem inRead_showWhen (wasFull : Bool) (next : Pc) :
    inRead (showWhen wasFull next) = inRead next := by
  cases wasFull <;> rfl

@[simp] theorem holdsSlot_showWhen (wasFull : Bool) (next : Pc) :
    holdsSlot (showWhen wasFull next) = holdsSlot next := by
  cases wasFull <;> rfl

@[simp] theorem sawRoom_showWhen (wasFull : Bool) (next : Pc) :
    sawRoom (showWhen wasFull next) = sawRoom next := by
  cases wasFull <;> rfl

/-- A held slot belongs to a running read. -/
theorem inRead_of_holdsSlot {pc : Pc} (h : holdsSlot pc = true) : inRead pc = true := by
  induction pc with
  | settingFlag value next ih => exact ih h
  | taking => rfl
  | retracting => rfl
  | inserting => rfl
  | _ => cases h

/-- Room is remembered only together with a slot. -/
theorem holdsSlot_of_sawRoom {pc : Pc} (h : sawRoom pc = true) : holdsSlot pc = true := by
  induction pc with
  | settingFlag value next ih => exact ih h
  | taking => rfl
  | inserting => rfl
  | _ => cases h

section

variable {s s' : System} {t : ThreadId} {p : Pc} {leaked : ℕ}

/-- Two threads never read at once. -/
theorem Accounting.alone (h : Accounting leaked s) (ht : inRead (s.pc t) = true) :
    ∀ u, u ≠ t → inRead (s.pc u) = false := by
  intro u hne
  by_contra hu
  have hown := h.owner u (by simpa using hu)
  rw [h.owner t ht, Option.some.injEq] at hown
  exact hne hown.symm

/-- Nobody reads while the mutex is free. -/
theorem Accounting.unread (h : Accounting leaked s) (hfree : s.reader = none) (u : ThreadId) :
    inRead (s.pc u) = false := by
  by_contra hu
  have hown := h.owner u (by simpa using hu)
  rw [hfree] at hown
  cases hown

/-- Outside a read no slot is held and no room is remembered. -/
theorem idle_of_not_inRead {pc : Pc} (h : inRead pc = false) :
    holdsSlot pc = false ∧ sawRoom pc = false := by
  have hslot : holdsSlot pc = false := by
    by_contra hslot
    rw [inRead_of_holdsSlot (by simpa using hslot)] at h
    cases h
  refine ⟨hslot, ?_⟩
  by_contra hroom
  rw [holdsSlot_of_sawRoom (by simpa using hroom)] at hslot
  cases hslot

/-- The running read holds every reservation that was not left behind. -/
theorem Accounting.reservations_eq (h : Accounting leaked s) (ht : inRead (s.pc t) = true) :
    s.server.reservations = leaked + if holdsSlot (s.pc t) then 1 else 0 := by
  split
  · next hslot => exact h.slot t hslot
  · next hslot =>
    refine h.noSlot fun u => ?_
    by_cases hu : u = t
    · rw [hu]
      simpa using hslot
    · exact (idle_of_not_inRead (h.alone ht u hu)).1

/-- With every other thread outside the read, the accounting is the acting
thread's alone. -/
theorem Accounting.of_alone (hothers : ∀ u, u ≠ t → inRead (s.pc u) = false)
    (hmoved : s'.pc = Function.update s.pc t p) (hreader : inRead p = true → s'.reader = some t)
    (hslot : s'.server.reservations = leaked + if holdsSlot p then 1 else 0)
    (hbounded : s'.server.occupied ≤ s'.server.maxPendingRequests)
    (hroom : sawRoom p = true → s'.server.occupied < s'.server.maxPendingRequests) :
    Accounting leaked s' := by
  have hother : ∀ u, u ≠ t → inRead (s'.pc u) = false := by
    intro u hu
    rw [hmoved, Function.update_of_ne hu]
    exact hothers u hu
  have hself : s'.pc t = p := by rw [hmoved, Function.update_self]
  refine ⟨fun u hu => ?_, fun u hu => ?_, fun hnone => ?_, hbounded, fun u hu => ?_⟩
  · by_cases hut : u = t
    · subst hut
      exact hreader (hself ▸ hu)
    · simp [hother u hut] at hu
  · by_cases hut : u = t
    · subst hut
      rw [hself] at hu
      rw [hslot, if_pos hu]
    · simp [(idle_of_not_inRead (hother u hut)).1] at hu
  · rw [hslot, ← hself, hnone t]
    rfl
  · by_cases hut : u = t
    · subst hut
      exact hroom (hself ▸ hu)
    · simp [(idle_of_not_inRead (hother u hut)).2] at hu

/-- Outside a read, slots are freed at most. -/
theorem Accounting.of_outside (h : Accounting leaked s) (hmoved : s'.pc = Function.update s.pc t p)
    (hbefore : inRead (s.pc t) = false) (hafter : inRead p = false) (hreader : s'.reader = s.reader)
    (hreservations : s'.server.reservations = s.server.reservations)
    (hmax : s'.server.maxPendingRequests = s.server.maxPendingRequests)
    (hfrees : s'.server.occupied ≤ s.server.occupied) : Accounting leaked s' := by
  have hidle := idle_of_not_inRead hbefore
  have hidle' := idle_of_not_inRead hafter
  have hsame : ∀ u, u ≠ t → s'.pc u = s.pc u := fun u hu => by rw [hmoved, Function.update_of_ne hu]
  have hself : s'.pc t = p := by rw [hmoved, Function.update_self]
  refine ⟨fun u hu => ?_, fun u hu => ?_, fun hnone => ?_, ?_, fun u hu => ?_⟩
  · by_cases hut : u = t
    · simp [hut, hself, hafter] at hu
    · rw [hreader]
      exact h.owner u (hsame u hut ▸ hu)
  · by_cases hut : u = t
    · simp [hut, hself, hidle'.1] at hu
    · rw [hreservations]
      exact h.slot u (hsame u hut ▸ hu)
  · rw [hreservations]
    refine h.noSlot fun u => ?_
    by_cases hut : u = t
    · rw [hut, hidle.1]
    · rw [← hsame u hut, hnone]
  · have := h.bounded
    omega
  · by_cases hut : u = t
    · simp [hut, hself, hidle'.2] at hu
    · have := h.room u (hsame u hut ▸ hu)
      omega

/-- A turn of the read reserves the last slot or leaves room. -/
theorem readTurn_accounting (h : Accounting leaked s) {remaining : ℕ} (hpc : s.pc t = .reading remaining) :
    Accounting leaked (readTurn t remaining s) := by
  have hread : inRead (s.pc t) = true := by rw [hpc]; rfl
  have hnone : s.server.reservations = leaked := by rw [h.reservations_eq hread, hpc]; rfl
  have howner := h.owner t hread
  cases remaining with
  | zero => exact .of_alone (h.alone hread) rfl (fun _ => howner) hnone h.bounded nofun
  | succ remaining =>
    cases hreserve : s.server.reserveRequestSlot with
    | none =>
      simp only [readTurn, hreserve]
      exact .of_alone (h.alone hread) rfl (fun _ => howner) hnone h.bounded nofun
    | some reserved =>
      obtain ⟨becameFull, server⟩ := reserved
      obtain ⟨hroom, hfull, rfl⟩ := Server.reserveRequestSlot_some.mp hreserve
      simp only [readTurn, hreserve]
      refine .of_alone (h.alone hread) rfl (fun _ => howner) ?_ ?_ ?_
      · cases becameFull <;> simp [hnone, holdsSlot]
      · rw [Server.occupied_reserve]
        exact hroom
      · rw [Server.occupied_reserve]
        cases becameFull with
        | true => simp [sawRoom]
        | false =>
          have hne : s.server.occupied + 1 ≠ s.server.maxPendingRequests := by simpa using hfull.symm
          dsimp only
          omega

/-- A take keeps the slot and what the reservation saw, or leaves it behind. -/
theorem take_accounting (h : Accounting leaked s) {remaining : ℕ} {becameFull : Bool}
    {outcome : TakeOutcome} (hpc : s.pc t = .taking remaining becameFull) :
    Accounting (leaked + lost (.take t remaining becameFull outcome))
      (take t remaining becameFull outcome s) := by
  have hread : inRead (s.pc t) = true := by rw [hpc]; rfl
  have hslot : s.server.reservations = leaked + 1 := by rw [h.reservations_eq hread, hpc]; rfl
  have howner := h.owner t hread
  by_cases hthrew : outcome = .threw
  · subst hthrew
    exact .of_alone (h.alone hread) rfl (fun _ => howner) hslot h.bounded nofun
  · have hnone : lost (.take t remaining becameFull outcome) = 0 := by
      cases outcome with
      | threw => exact absurd rfl hthrew
      | _ => rfl
    rw [hnone, Nat.add_zero]
    unfold take
    cases hdecode : decodeTake outcome with
    | throw => exact absurd (decodeTake_throw.mp hdecode) hthrew
    | leave reply => exact .of_alone (h.alone hread) rfl (fun _ => howner) hslot h.bounded nofun
    | skip => exact .of_alone (h.alone hread) rfl (fun _ => howner) hslot h.bounded nofun
    | insert id identity =>
      refine .of_alone (h.alone hread) rfl (fun _ => howner) hslot h.bounded fun hroom => ?_
      exact h.room t (by rw [hpc]; exact hroom)

/-- A read that gives up its slot frees it. -/
theorem surrender_accounting (h : Accounting leaked s) (hbefore : holdsSlot (s.pc t) = true)
    (hmoved : s'.pc = Function.update s.pc t p) (hslot : holdsSlot p = false)
    (hreader : s'.reader = s.reader)
    (hreservations : s'.server.reservations = s.server.reservations - 1)
    (hmax : s'.server.maxPendingRequests = s.server.maxPendingRequests)
    (hfrees : s'.server.occupied ≤ s.server.occupied) : Accounting leaked s' := by
  have hreading := inRead_of_holdsSlot hbefore
  have hbounded := h.bounded
  refine .of_alone (h.alone hreading) hmoved (fun _ => ?_) ?_ (by omega) fun hroom => ?_
  · rw [hreader, h.owner t hreading]
  · rw [hreservations, h.slot t hbefore, hslot]
    rfl
  · rw [holdsSlot_of_sawRoom hroom] at hslot
    cases hslot

/-- A registration, a duplicate and an exception all give the slot up. -/
theorem insert_accounting (h : Accounting leaked s) {remaining : ℕ} {becameFull : Bool} {id : RequestId}
    {identity : SampleIdentity} {threw : Bool}
    (hpc : s.pc t = .inserting remaining becameFull id identity) :
    Accounting leaked (ServerCalls.insert t remaining becameFull id identity threw s) := by
  have hholds : holdsSlot (s.pc t) = true := by rw [hpc]; rfl
  have hheld : s.server.reservations ≠ 0 := by rw [h.slot t hholds]; exact Nat.succ_ne_zero _
  have hoccupied := Server.occupied_insertRequest id identity hheld
  unfold ServerCalls.insert
  cases threw with
  | true =>
    exact surrender_accounting h hholds rfl (holdsSlot_showWhen ..) rfl rfl rfl
      (Nat.le.intro (Server.occupied_abandonInsertion hheld))
  | false =>
    by_cases hmem : id ∈ s.server.pending
    · simp only [Server.insertRequest, if_pos hmem] at hoccupied ⊢
      exact surrender_accounting h hholds rfl (holdsSlot_showWhen ..) rfl rfl
        rfl (Nat.le.intro hoccupied)
    · simp only [Server.insertRequest, if_neg hmem] at hoccupied ⊢
      exact surrender_accounting h hholds rfl rfl rfl rfl rfl (Nat.le.intro hoccupied)

/-- Erasing an entry frees at most its slot. -/
theorem occupied_erase_le (server : Server) (id : RequestId) :
    Server.occupied {server with pending := server.pending.erase id} ≤ server.occupied := by
  have := Server.occupied_erase id server
  omega

/-- A phase change frees no slot. -/
theorem occupied_restorePending_le (server : Server) (id : RequestId) :
    (server.restorePending id).occupied ≤ server.occupied :=
  le_of_eq Server.occupied_setPhase

/-- A discard runs outside the read. -/
theorem discardBegin_accounting (h : Accounting leaked s) {operation : Bool} {id : RequestId}
    (hpc : s.pc t = .idle) : Accounting leaked (discardBegin t operation id s) := by
  have hbefore : inRead (s.pc t) = false := by rw [hpc]; rfl
  unfold discardBegin
  cases operation with
  | false => exact h.of_outside rfl hbefore rfl rfl rfl rfl le_rfl
  | true =>
    cases hdiscard : s.server.discardRequest id with
    | error e => exact h.of_outside rfl hbefore rfl rfl rfl rfl le_rfl
    | ok outcome =>
      obtain ⟨entry, wasFull, server⟩ := outcome
      obtain ⟨-, -, -, rfl⟩ := Server.discardRequest_ok.mp hdiscard
      exact h.of_outside rfl hbefore (inRead_showWhen ..) rfl rfl rfl
        (occupied_erase_le s.server id)

/-- A claim changes a phase only. -/
theorem respondBegin_accounting (h : Accounting leaked s) {admission : Option Error} {id : RequestId}
    (hpc : s.pc t = .idle) : Accounting leaked (respondBegin t admission id s) := by
  have hbefore : inRead (s.pc t) = false := by rw [hpc]; rfl
  unfold respondBegin
  cases admission with
  | some e => exact h.of_outside rfl hbefore rfl rfl rfl rfl le_rfl
  | none =>
    cases hclaim : s.server.claimResponse id with
    | error e => exact h.of_outside rfl hbefore rfl rfl rfl rfl le_rfl
    | ok outcome =>
      obtain ⟨entry, server⟩ := outcome
      obtain ⟨-, -, rfl⟩ := Server.claimResponse_ok.mp hclaim
      exact h.of_outside rfl hbefore rfl rfl rfl rfl (le_of_eq Server.occupied_setPhase)

/-- A decision about a claim leaves the Server as it is. -/
theorem decideResponse_accounting (h : Accounting leaked s) {id : RequestId} {identity : SampleIdentity}
    {acceptance : ℕ} {env : ResponseEnv} (hpc : s.pc t = .claimed id identity acceptance) :
    Accounting leaked (decideResponse t id identity acceptance env s) := by
  have hbefore : inRead (s.pc t) = false := by rw [hpc]; rfl
  unfold decideResponse
  cases respond identity env with
  | unwind reply => exact h.of_outside rfl hbefore rfl rfl rfl rfl le_rfl
  | restore reply => exact h.of_outside rfl hbefore rfl rfl rfl rfl le_rfl
  | release written => cases written <;> exact h.of_outside rfl hbefore rfl rfl rfl rfl le_rfl

/-- A flag exchange moves its thread on and changes no slot. -/
theorem setFlag_accounting (h : Accounting leaked s) {value : Bool} {next : Pc}
    (hpc : s.pc t = .settingFlag value next) :
    Accounting leaked (machine.next s (.setFlag t value next)) := by
  have hsame : inRead (s.pc t) = inRead next ∧ holdsSlot (s.pc t) = holdsSlot next ∧
      sawRoom (s.pc t) = sawRoom next := by
    rw [hpc]
    exact ⟨rfl, rfl, rfl⟩
  cases hread : inRead next with
  | false => exact h.of_outside rfl (hsame.1.trans hread) hread rfl rfl rfl le_rfl
  | true =>
    have hreading := hsame.1.trans hread
    refine .of_alone (h.alone hreading) rfl (fun _ => h.owner t hreading) ?_ h.bounded fun hroom => ?_
    · rw [← hsame.2.1]
      exact h.reservations_eq hreading
    · exact h.room t (hsame.2.2.trans hroom)

/-- Every event keeps the accounting, with what it leaves behind. -/
theorem Accounting.next (h : Accounting leaked s) {e : Event} (hen : machine.enabled s e) :
    Accounting (leaked + lost e) (machine.next s e) := by
  cases e with
  | readBegin t requestNull operation remaining =>
    have hpc : s.pc t = .idle := hen.1
    simp only [machine, ServerCalls.next, readBegin]
    cases hadmission : readAdmission requestNull operation with
    | none =>
      have hfree := hen.2 hadmission
      have hnone := h.noSlot fun u => (idle_of_not_inRead (h.unread hfree u)).1
      exact .of_alone (fun u _ => h.unread hfree u) rfl (fun _ => rfl) hnone h.bounded fun hsaw => by cases hsaw
    | some e => exact h.of_outside rfl (by rw [hpc]; rfl) rfl rfl rfl rfl le_rfl
  | readTurn t remaining => exact readTurn_accounting h hen
  | take t remaining becameFull outcome => exact take_accounting h hen
  | retract t next =>
    have hpc : s.pc t = .retracting next := hen
    refine surrender_accounting h (by rw [hpc]; rfl) rfl ?_ rfl rfl rfl ?_
    · cases next <;> simp [ReadNext.pc, holdsSlot]
    · simp [machine, ServerCalls.next, retract, Server.releaseRequestReservation, Server.occupied]
  | insert t remaining becameFull id identity threw => exact insert_accounting h hen
  | commit t id acceptance outcome =>
    have hpc : s.pc t = .committing id acceptance := hen
    have hread : inRead (s.pc t) = true := by rw [hpc]; rfl
    have hnone : s.server.reservations = leaked := by rw [h.reservations_eq hread, hpc]; rfl
    have howner := h.owner t hread
    rcases outcome with _ | e | _
    · exact .of_alone (h.alone hread) rfl (fun _ => howner) hnone h.bounded fun hsaw => by cases hsaw
    · exact .of_alone (h.alone hread) rfl (fun _ => howner) hnone h.bounded fun hsaw => by cases hsaw
    · exact .of_alone (h.alone hread) rfl (fun _ => howner) hnone h.bounded fun hsaw => by cases hsaw
  | rollback t id reply =>
    have hpc : s.pc t = .rollingBack id reply := hen
    have hread : inRead (s.pc t) = true := by rw [hpc]; rfl
    have hnone : s.server.reservations = leaked := by rw [h.reservations_eq hread, hpc]; rfl
    refine .of_alone (h.alone hread) rfl (fun _ => h.owner t hread) ?_ ?_ ?_
    · rw [holdsSlot_showWhen]
      exact hnone
    · exact le_trans (occupied_erase_le s.server id) h.bounded
    · rw [sawRoom_showWhen]
      exact fun hsaw => by cases hsaw
  | leave t reply =>
    have hpc : s.pc t = .leaving reply := hen
    have hread : inRead (s.pc t) = true := by rw [hpc]; rfl
    have hnone : s.server.reservations = leaked := by rw [h.reservations_eq hread, hpc]; rfl
    exact .of_alone (h.alone hread) rfl (fun hread => by cases hread) hnone h.bounded fun hsaw => by cases hsaw
  | discardBegin t operation id => exact discardBegin_accounting h hen
  | respondBegin t responseNull operation id => exact respondBegin_accounting h hen
  | decideResponse t id identity acceptance env => exact decideResponse_accounting h hen
  | restore t id acceptance reply =>
    have hpc : s.pc t = .restoring id acceptance reply := hen
    exact h.of_outside rfl (by rw [hpc]; rfl) rfl rfl rfl rfl (occupied_restorePending_le _ _)
  | release t id acceptance =>
    have hpc : s.pc t = .releasing id acceptance := hen
    exact h.of_outside rfl (by rw [hpc]; rfl) (inRead_showWhen ..) rfl rfl rfl
      (occupied_erase_le s.server id)
  | unwind t id acceptance reply =>
    have hpc : s.pc t = .unwinding id acceptance reply := hen
    exact h.of_outside rfl (by rw [hpc]; rfl) rfl rfl rfl rfl (occupied_restorePending_le _ _)
  | setFlag t value next => exact setFlag_accounting h hen
  | finish t report reply =>
    have hpc : s.pc t = .returning report reply := hen
    exact h.of_outside rfl (by rw [hpc]; rfl) rfl rfl rfl rfl le_rfl

/-- An event that announces the capacity it leaves behind. -/
theorem Announced.advance (h : Announced s) (hmoved : s'.pc = Function.update s.pc t p)
    (hquiet : exchange (s.pc t) = none)
    (hflag : s'.server.blockingEnabled = s.server.blockingEnabled)
    (hcross : s'.server.hasCapacity = s.server.hasCapacity ∨
      exchange p = some s'.server.hasCapacity) : Announced s' := by
  rcases hcross with hsame | hnew
  · rcases h with hshown | ⟨u, hu⟩
    · exact Or.inl (by rw [hflag, hsame, hshown])
    · have hut : u ≠ t := by
        rintro rfl
        rw [hquiet] at hu
        cases hu
      exact Or.inr ⟨u, by rw [hmoved, Function.update_of_ne hut, hsame, hu]⟩
  · exact Or.inr ⟨t, by rw [hmoved, Function.update_self, hnew]⟩

/-- A freed slot is announced when the table was full. -/
theorem announced_freed {server server' : Server} {wasFull : Bool} {next : Pc}
    (hbounded : server.occupied ≤ server.maxPendingRequests)
    (hmax : server'.maxPendingRequests = server.maxPendingRequests)
    (hfreed : server'.occupied + 1 = server.occupied)
    (hfull : wasFull = false → server.occupied < server.maxPendingRequests) :
    server'.hasCapacity = server.hasCapacity ∨
      exchange (showWhen wasFull next) = some server'.hasCapacity := by
  have hroom : server'.hasCapacity = true := by
    simp only [Server.hasCapacity, decide_eq_true_eq]
    omega
  cases wasFull with
  | true => exact Or.inr (by rw [hroom]; rfl)
  | false =>
    have hbefore : server.hasCapacity = true := by
      simpa only [Server.hasCapacity, decide_eq_true_eq] using hfull rfl
    exact Or.inl (by rw [hroom, hbefore])

/-- Erasing an entry announces the slot it frees. -/
theorem announced_erase {server : Server} {id : RequestId} {next : Pc}
    (hbounded : server.occupied ≤ server.maxPendingRequests) :
    Server.hasCapacity {server with pending := server.pending.erase id} = server.hasCapacity ∨
      exchange (showWhen (server.occupied == server.maxPendingRequests) next) =
        some (Server.hasCapacity {server with pending := server.pending.erase id}) := by
  have hoccupied := Server.occupied_erase id server
  by_cases hmem : id ∈ server.pending
  · rw [if_pos hmem] at hoccupied
    refine announced_freed hbounded rfl hoccupied fun hfull => ?_
    have hne : server.occupied ≠ server.maxPendingRequests := by simpa using hfull
    omega
  · rw [if_neg hmem] at hoccupied
    exact Or.inl (by simp only [Server.hasCapacity, ← hoccupied]; rfl)

/-- A taken slot is announced when it was the last one. -/
theorem announced_filled {server server' : Server} {becameFull : Bool} {next : Pc}
    (hroom : server.occupied < server.maxPendingRequests)
    (htaken : server'.occupied = server.occupied + 1)
    (hmax : server'.maxPendingRequests = server.maxPendingRequests)
    (hfull : becameFull = (server.occupied + 1 == server.maxPendingRequests)) :
    server'.hasCapacity = server.hasCapacity ∨
      exchange (if becameFull then .settingFlag false next else next) =
        some server'.hasCapacity := by
  cases becameFull with
  | true =>
    have heq : server.occupied + 1 = server.maxPendingRequests := by simpa using hfull.symm
    have hnone : server'.hasCapacity = false := by
      simp only [Server.hasCapacity, decide_eq_false_iff_not]
      omega
    exact Or.inr (by rw [hnone]; rfl)
  | false =>
    have hne : server.occupied + 1 ≠ server.maxPendingRequests := by simpa using hfull.symm
    refine Or.inl ?_
    simp only [Server.hasCapacity, decide_eq_decide]
    omega

/-- Filling the last slot is announced. -/
theorem readTurn_announced (h : Announced s) {remaining : ℕ} (hpc : s.pc t = .reading remaining) :
    Announced (readTurn t remaining s) := by
  have hquiet : exchange (s.pc t) = none := by rw [hpc]; rfl
  cases remaining with
  | zero => exact h.advance rfl hquiet rfl (Or.inl rfl)
  | succ remaining =>
    cases hreserve : s.server.reserveRequestSlot with
    | none =>
      simp only [readTurn, hreserve]
      exact h.advance rfl hquiet rfl (Or.inl rfl)
    | some reserved =>
      obtain ⟨becameFull, server⟩ := reserved
      obtain ⟨hroom, hfull, rfl⟩ := Server.reserveRequestSlot_some.mp hreserve
      simp only [readTurn, hreserve]
      refine h.advance rfl hquiet rfl ?_
      exact announced_filled hroom (Server.occupied_reserve s.server) rfl hfull

/-- Trading the slot for an entry changes no capacity; giving it up is announced. -/
theorem insert_announced (hacc : Accounting leaked s) (h : Announced s) {remaining : ℕ}
    {becameFull : Bool} {id : RequestId} {identity : SampleIdentity} {threw : Bool}
    (hpc : s.pc t = .inserting remaining becameFull id identity) :
    Announced (ServerCalls.insert t remaining becameFull id identity threw s) := by
  have hquiet : exchange (s.pc t) = none := by rw [hpc]; rfl
  have hholds : holdsSlot (s.pc t) = true := by rw [hpc]; rfl
  have hheld : s.server.reservations ≠ 0 := by rw [hacc.slot t hholds]; exact Nat.succ_ne_zero _
  have hroom : becameFull = false → s.server.occupied < s.server.maxPendingRequests := by
    rintro rfl
    exact hacc.room t (by rw [hpc]; rfl)
  have hoccupied := Server.occupied_insertRequest id identity hheld
  unfold ServerCalls.insert
  cases threw with
  | true =>
    exact h.advance rfl hquiet rfl
      (announced_freed hacc.bounded rfl (Server.occupied_abandonInsertion hheld) hroom)
  | false =>
    by_cases hmem : id ∈ s.server.pending
    · simp only [Server.insertRequest, if_pos hmem] at hoccupied ⊢
      exact h.advance rfl hquiet rfl (announced_freed hacc.bounded rfl hoccupied hroom)
    · simp only [Server.insertRequest, if_neg hmem] at hoccupied ⊢
      refine h.advance rfl hquiet rfl (Or.inl ?_)
      simp only [Server.hasCapacity, ← hoccupied]
      rfl

/-- A discard announces the slot it frees. -/
theorem discardBegin_announced (hacc : Accounting leaked s) (h : Announced s) {operation : Bool}
    {id : RequestId} (hpc : s.pc t = .idle) : Announced (discardBegin t operation id s) := by
  have hquiet : exchange (s.pc t) = none := by rw [hpc]; rfl
  unfold discardBegin
  cases operation with
  | false => exact h.advance rfl hquiet rfl (Or.inl rfl)
  | true =>
    cases hdiscard : s.server.discardRequest id with
    | error e => exact h.advance rfl hquiet rfl (Or.inl rfl)
    | ok outcome =>
      obtain ⟨entry, wasFull, server⟩ := outcome
      obtain ⟨-, -, rfl, rfl⟩ := Server.discardRequest_ok.mp hdiscard
      exact h.advance rfl hquiet rfl (announced_erase hacc.bounded)

/-- A phase change leaves the capacity as it is. -/
theorem hasCapacity_setPhase (server : Server) (phase : PendingPhase) (id : RequestId) :
    (server.setPhase phase id).hasCapacity = server.hasCapacity := by
  simp only [Server.hasCapacity, Server.occupied_setPhase]
  rfl

/-- Every event announces the capacity it leaves, unless a stale exchange
overtakes the last right one. -/
theorem Announced.next (hacc : Accounting leaked s) (h : Announced s) {e : Event}
    (hen : machine.enabled s e) (hok : NotOvertaken s e) : Announced (machine.next s e) := by
  cases e with
  | readBegin t requestNull operation remaining =>
    have hpc : s.pc t = .idle := hen.1
    simp only [machine, ServerCalls.next, readBegin]
    cases readAdmission requestNull operation with
    | none => exact h.advance rfl (by rw [hpc]; rfl) rfl (Or.inl rfl)
    | some e => exact h.advance rfl (by rw [hpc]; rfl) rfl (Or.inl rfl)
  | readTurn t remaining => exact readTurn_announced h hen
  | take t remaining becameFull outcome =>
    have hpc : s.pc t = .taking remaining becameFull := hen
    simp only [machine, ServerCalls.next, ServerCalls.take]
    cases decodeTake outcome with
    | throw => exact h.advance rfl (by rw [hpc]; rfl) rfl (Or.inl rfl)
    | leave reply => exact h.advance rfl (by rw [hpc]; rfl) rfl (Or.inl rfl)
    | skip => exact h.advance rfl (by rw [hpc]; rfl) rfl (Or.inl rfl)
    | insert id identity => exact h.advance rfl (by rw [hpc]; rfl) rfl (Or.inl rfl)
  | retract t next =>
    have hpc : s.pc t = .retracting next := hen
    have hholds : holdsSlot (s.pc t) = true := by rw [hpc]; rfl
    have hheld : s.server.reservations ≠ 0 := by rw [hacc.slot t hholds]; exact Nat.succ_ne_zero _
    obtain ⟨hfreed, hfull⟩ := Server.releaseRequestReservation_eq hheld
    refine h.advance rfl (by rw [hpc]; rfl) rfl (announced_freed hacc.bounded rfl hfreed ?_)
    intro hroom
    have hne : s.server.occupied ≠ s.server.maxPendingRequests := by
      simpa using hfull.symm.trans hroom
    have := hacc.bounded
    omega
  | insert t remaining becameFull id identity threw => exact insert_announced hacc h hen
  | commit t id acceptance outcome =>
    have hpc : s.pc t = .committing id acceptance := hen
    rcases outcome with _ | e | _
    · exact h.advance rfl (by rw [hpc]; rfl) rfl (Or.inl rfl)
    · exact h.advance rfl (by rw [hpc]; rfl) rfl (Or.inl rfl)
    · exact h.advance rfl (by rw [hpc]; rfl) rfl (Or.inl rfl)
  | rollback t id reply =>
    have hpc : s.pc t = .rollingBack id reply := hen
    exact h.advance rfl (by rw [hpc]; rfl) rfl (announced_erase hacc.bounded)
  | leave t reply =>
    have hpc : s.pc t = .leaving reply := hen
    exact h.advance rfl (by rw [hpc]; rfl) rfl (Or.inl rfl)
  | discardBegin t operation id => exact discardBegin_announced hacc h hen
  | respondBegin t responseNull operation id =>
    have hpc : s.pc t = .idle := hen
    simp only [machine, ServerCalls.next, respondBegin]
    cases responseAdmission responseNull operation with
    | some e => exact h.advance rfl (by rw [hpc]; rfl) rfl (Or.inl rfl)
    | none =>
      cases hclaim : s.server.claimResponse id with
      | error e => exact h.advance rfl (by rw [hpc]; rfl) rfl (Or.inl rfl)
      | ok outcome =>
        obtain ⟨entry, server⟩ := outcome
        obtain ⟨-, -, rfl⟩ := Server.claimResponse_ok.mp hclaim
        exact h.advance rfl (by rw [hpc]; rfl) rfl (Or.inl (hasCapacity_setPhase ..))
  | decideResponse t id identity acceptance env =>
    have hpc : s.pc t = .claimed id identity acceptance := hen
    simp only [machine, ServerCalls.next, decideResponse]
    rcases respond identity env with reply | reply | _ | _
    · exact h.advance rfl (by rw [hpc]; rfl) rfl (Or.inl rfl)
    · exact h.advance rfl (by rw [hpc]; rfl) rfl (Or.inl rfl)
    · exact h.advance rfl (by rw [hpc]; rfl) rfl (Or.inl rfl)
    · exact h.advance rfl (by rw [hpc]; rfl) rfl (Or.inl rfl)
  | restore t id acceptance reply =>
    have hpc : s.pc t = .restoring id acceptance reply := hen
    exact h.advance rfl (by rw [hpc]; rfl) rfl (Or.inl (hasCapacity_setPhase ..))
  | release t id acceptance =>
    have hpc : s.pc t = .releasing id acceptance := hen
    exact h.advance rfl (by rw [hpc]; rfl) rfl (announced_erase hacc.bounded)
  | unwind t id acceptance reply =>
    have hpc : s.pc t = .unwinding id acceptance reply := hen
    exact h.advance rfl (by rw [hpc]; rfl) rfl (Or.inl (hasCapacity_setPhase ..))
  | setFlag t value next =>
    rcases hok with heq | ⟨u, hne, hu⟩
    · exact Or.inl heq
    · exact Or.inr ⟨u, (congrArg exchange (Function.update_of_ne hne ..)).trans hu⟩
  | finish t report reply =>
    have hpc : s.pc t = .returning report reply := hen
    exact h.advance rfl (by rw [hpc]; rfl) rfl (Or.inl rfl)

end

/-- A fresh Server accounts for no slot. -/
theorem Accounting.initial (max : ℕ) : Accounting 0 (System.initial max) where
  owner := nofun
  slot := nofun
  noSlot := fun _ => rfl
  bounded := Nat.zero_le max
  room := nofun

/-- A fresh Server with a positive capacity shows its reader. -/
theorem Announced.initial {max : ℕ} (hmax : 0 < max) : Announced (System.initial max) := by
  refine Or.inl ?_
  have hroom : (System.initial max).server.hasCapacity = true :=
    decide_eq_true (show (System.initial max).server.occupied < max from hmax)
  rw [hroom]
  rfl

/-- Every reachable state accounts for its slots: as many are left behind as
takes have thrown. -/
theorem accounting_of_run {max : ℕ} {ok : System → Event → Prop} {es : List Event} {s : System}
    (hrun : machine.RunWhen ok (System.initial max) es s) : Accounting (es.map lost).sum s := by
  induction hrun with
  | nil => exact Accounting.initial max
  | snoc _ hen _ ih =>
    rw [List.map_append, List.sum_append]
    exact ih.next hen

/-- Without an overtaking exchange every state announces its capacity. -/
theorem announced_of_run {max : ℕ} (hmax : 0 < max) {es : List Event} {s : System}
    (hrun : machine.RunWhen NotOvertaken (System.initial max) es s) : Announced s :=
  hrun.invariant_using Announced
    (fun hrun => (⟨_, accounting_of_run hrun⟩ : ∃ leaked, Accounting leaked _))
    (Announced.initial hmax) fun _ _ ⟨_, hacc⟩ h hen hok => h.next hacc hen hok

/-- With no exchange outstanding an announced capacity is shown. -/
theorem Announced.tracks {s : System} (h : Announced s) : FlagTracksCapacity s := by
  intro hidle
  have hshown : s.server.blockingEnabled = s.server.hasCapacity := by
    rcases h with hshown | ⟨t, ht⟩
    · exact hshown
    · rw [hidle t] at ht
      cases ht
  rw [hshown]
  exact decide_eq_true_iff

/-- A Server without overtaking exchanges shows its reader, with no call in
progress, exactly when it has capacity. -/
theorem flag_tracks_capacity (max : ℕ) (hmax : 0 < max) (es : List Event) (s : System)
    (hrun : machine.RunWhen NotOvertaken (System.initial max) es s) :
    machine.Always FlagTracksCapacity (System.initial max) es :=
  hrun.always fun h => (announced_of_run hmax h).tracks

/-- A Server with one slot accepts a request and hides its reader. -/
def filled : List Event :=
  [.readBegin 0 false true 1,
    .readTurn 0 1,
    .setFlag 0 false (.taking 0 true),
    .take 0 0 true (.taken ⟨true,sampleClient,⟨Guid.unknown,⟨0,0⟩⟩⟩),
    .insert 0 0 true sampleRequest sampleClient false,
    .commit 0 sampleRequest 0 (some (.ok ())),
    .leave 0 (.value true),
    .finish 0 none (.value true)]

/-- The request is discarded and the reader is shown again. -/
def freed : List Event :=
  [.discardBegin 0 true sampleRequest,
    .setFlag 0 true (.returning (some (.discarded sampleRequest 0)) .success),
    .finish 0 (some (.discarded sampleRequest 0)) .success]

/-- The flag of a Server with one slot, with no call in progress: hidden after
the read, shown after the discard. -/
theorem flag_tracks_capacity_single :
    machine.Always FlagTracksCapacity (System.initial 1) (filled ++ freed) ∧
      (machine.exec (System.initial 1) filled).map
        (fun s => (s.pc 0,s.server.blockingEnabled)) = some (.idle,false) ∧
      (machine.exec (System.initial 1) (filled ++ freed)).map
        (fun s => (s.pc 0,s.server.blockingEnabled)) = some (.idle,true) := by
  have hend : (machine.exec (System.initial 1) (filled ++ freed)).map
      (fun s => (s.pc 0,s.server.blockingEnabled)) = some (.idle,true) := by decide
  obtain ⟨s, hexec, -⟩ := Option.map_eq_some_iff.mp hend
  refine ⟨?_, by decide, hend⟩
  refine flag_tracks_capacity 1 (by decide) _ s (Machine.runWhen_of_exec
    (fun s e => match e with
      | .setFlag _ value _ => value == s.server.hasCapacity
      | _ => true) ?_ hexec (by decide))
  intro s e htest
  cases e with
  | setFlag t value next => exact Or.inl (by simpa using htest)
  | _ => trivial

/-- A read of a second request reserves the last slot, a discard frees the
first one and shows the reader, and only then the read hides it. -/
def crossedExchanges : List Event :=
  acceptance ++
    [.readBegin 1 false true 1,
      .readTurn 1 1,
      .discardBegin 2 true sampleRequest,
      .setFlag 2 true (.returning (some (.discarded sampleRequest 0)) .success),
      .finish 2 (some (.discarded sampleRequest 0)) .success,
      .setFlag 1 false (.taking 0 true),
      .take 1 0 true .noData,
      .retract 1 (.leave (.value false)),
      .leave 1 (.value false),
      .finish 1 none (.value false)]

/-- An idle Server with two free slots stays hidden. -/
theorem crossedExchanges_hidden :
    ¬ ∀ max es, 0 < max → machine.Always FlagTracksCapacity (System.initial max) es := by
  intro hclaim
  have hend : (machine.exec (System.initial 2) crossedExchanges).map
      (fun s => (s.server.blockingEnabled,s.server.hasCapacity,[s.pc 0,s.pc 1,s.pc 2])) =
        some (false,true,[.idle,.idle,.idle]) := by decide
  obtain ⟨s, hexec, hfinal⟩ := Option.map_eq_some_iff.mp hend
  simp only [Prod.mk.injEq, List.cons.injEq, and_true] at hfinal
  obtain ⟨hhidden, hroom, hzero, hone, htwo⟩ := hfinal
  have hidle : ∀ t, s.pc t = .idle := by
    intro t
    by_cases ht : t ∈ [0,1,2]
    · simp only [List.mem_cons, List.not_mem_nil, or_false] at ht
      rcases ht with rfl | rfl | rfl
      · exact hzero
      · exact hone
      · exact htwo
    · refine exec_pc_ne hexec fun e he heq => ht (heq ▸ ?_)
      have hthreads : ∀ e ∈ crossedExchanges, e.thread ∈ [0,1,2] := by decide
      exact hthreads e he
  have htracks := hclaim 2 crossedExchanges (by decide) crossedExchanges s List.prefix_rfl hexec hidle
  rw [hhidden] at htracks
  exact Bool.false_ne_true (htracks.mpr (of_decide_eq_true hroom))

end Dmw.ServerBackpressure
