import Dmw.RequestWorks

/-!
# Publication of the status

Changes of the status, attempts to publish a snapshot and completions of the
job that carries it, in any order, between any other work of the ActionServer.
A history keeps the revision at which each snapshot was taken and how the last
attempt went; the scripts with it are the ones of the protocol without it.
-/

namespace Dmw.StatusPublication

open KeyedTable GuardedRuns Scripts ActionProtocol

/-- How an attempt to publish the status went. -/
inductive Attempt
  /-- The snapshot or its submission raised. -/
  | raised
  | underway
  | delivered
  /-- The completion carries an error. -/
  | failed
  deriving DecidableEq, Repr

/-- An ActionServer and the history of its publications. -/
structure Tracked where
  /-- The server. -/
  server : Server
  /-- Revision at which the snapshot of a job was taken; history only. -/
  snapshots : Ticket → ℕ
  /-- How the last attempt went; history only. -/
  last : Option Attempt
  /-- Revision of the snapshot that was delivered last; history only. -/
  delivered : Option ℕ

/-- Statements with a history. -/
abbrev TrackedAct (α : Type) := Script Tracked Exception α

/-- A statement of the server. -/
def onServer {α : Type} (x : Act α) : TrackedAct α :=
  Script.zoom (·.server) (fun server t => {t with server := server}) x

/-- What is noted of an attempt: the revision at its start, and its outcome. -/
def Tracked.note (revision : ℕ) (outcome : Except Exception Unit) (t : Tracked) : Tracked :=
  match outcome, t.server.statusInflightTicket with
  | .error _, _ => {t with last := some .raised}
  | .ok (), some ticket =>
    {t with snapshots := Function.update t.snapshots ticket revision, last := some .underway}
  | .ok (), none => t

/-- `_start_status_publication`; an attempt unless the server closes or one is in
flight. -/
def start (phase : Phase) : TrackedAct Unit := fun t =>
  let attempted := onServer (startStatusPublication phase) t
  (attempted.1,
    if t.server.closing || t.server.statusInflightTicket.isSome then attempted.2
    else attempted.2.note t.server.statusRevision attempted.1)

/-- `_publish_status`. -/
def announce (phase : Phase) : TrackedAct Unit := do
  onServer assertOwnerThread
  onServer (Script.modify fun s => {s with statusRevision := s.statusRevision + 1})
  let t ← Script.get
  if t.server.statusInflightTicket.isSome then pure () else start phase

/-- `_status_completion`. -/
def complete (ticket : Ticket) (succeeded : Bool) : TrackedAct Unit := do
  onServer assertOwnerThread
  let t ← Script.get
  if t.server.statusInflightTicket ≠ some ticket then
    Script.raise (.invalidState "ActionServer Status completion has no in-flight snapshot")
  else do
    onServer (Script.modify fun s => {s with statusInflightTicket := none})
    Script.modify fun t =>
      if succeeded then {t with last := some .delivered, delivered := some (t.snapshots ticket)}
      else {t with last := some .failed}
    if succeeded && decide (t.server.statusInflightRevision < t.server.statusRevision) then
      start .settling
    else pure ()

/-- One completion of `_drain_completions` that is about a status. -/
def drainStatus (ticket : Ticket) : TrackedAct Unit := do
  let t ← Script.get
  match t.server.jobs.lookup ticket with
  | none => pure ()
  | some job =>
    -- An exception of the completion goes on after the acknowledgement.
    Script.ensuring (complete ticket (job.completed.getD false)) (onServer (acknowledge ticket))

/-- Tickets of the status jobs that are not acknowledged. -/
def statusTickets (s : Server) : List Ticket :=
  (s.jobs.entries.filter fun e => e.2.delivery = .status).map (·.1)

/-- No call that is met closes the server. -/
def staysOpen (met : Circumstances) (phase : Phase) : Bool := (met phase).all fun c => !c.closes

/-- The rest of the server changed; status jobs may have been completed. -/
def sameStatus (s s' : Server) : Bool :=
  decide (s'.statusRevision = s.statusRevision) &&
    decide (s'.statusInflightTicket = s.statusInflightTicket) &&
    decide (s'.statusInflightRevision = s.statusInflightRevision) &&
    decide (statusTickets s' = statusTickets s) && !s'.closing &&
    s'.jobs.entries.all fun e => decide (e.1 < s'.nextTicket)

/-- What can happen on a server that is not closing. -/
inductive Event
  /-- The status changed: `_publish_status`. -/
  | change (phase : Phase) (met : Circumstances)
  /-- The completion of a status job is drained. -/
  | completion (ticket : Ticket) (met : Circumstances)
  /-- Anything else. -/
  | other (server : Server)

/-- When an event can happen. A completion is handed to the server it captured,
which is attached. -/
def Enabled (t : Tracked) : Event → Prop
  | .change phase met => staysOpen met phase = true
  | .completion ticket met =>
    staysOpen met .settling = true ∧ t.server.attached = true ∧
      ((t.server.jobs.lookup ticket).any fun job =>
        decide (job.delivery = .status) && job.completed.isSome) = true
  | .other server => sameStatus t.server server = true

instance (t : Tracked) (e : Event) : Decidable (Enabled t e) := by
  cases e <;> unfold Enabled <;> infer_instance

/-- The server meets what it meets. -/
def Tracked.meeting (met : Circumstances) (t : Tracked) : Tracked :=
  {t with server := {t.server with circumstances := met}}

/-- Effect of an event; what a script raises ends it. -/
def next (t : Tracked) : Event → Tracked
  | .change phase met => (announce phase (t.meeting met)).2
  | .completion ticket met => (drainStatus ticket (t.meeting met)).2
  | .other server => {t with server := server}

/-- Publication of the status of one ActionServer. -/
def machine : Machine Tracked Event := ⟨Enabled,next,fun _ _ => inferInstance⟩

/-- A new ActionServer. -/
def Tracked.initial (resultTimeout : ℕ) (clock : ℤ) : Tracked :=
  ⟨Server.initial resultTimeout clock,fun _ => 0,none,none⟩

/-! ## The history changes nothing -/

section

variable {t : Tracked} {phase : Phase} {ticket : Ticket}

/-- What the note leaves of the server. -/
theorem note_server (revision : ℕ) (outcome : Except Exception Unit) (t : Tracked) :
    (t.note revision outcome).server = t.server := by
  unfold Tracked.note
  split <;> rfl

/-- With and without history an attempt does the same. -/
theorem start_eq (phase : Phase) (t : Tracked) :
    ((start phase t).1,(start phase t).2.server) = startStatusPublication phase t.server := by
  unfold start
  dsimp only
  split
  · rfl
  · rw [note_server]
    rfl

end

/-! ## One attempt -/

/-- The server is attached and no call of the phase raises. -/
def Undisturbed (phase : Phase) (s : Server) : Prop :=
  s.attached = true ∧ ∀ met ∈ s.circumstances phase, met.raises = false

/-- An attempt that has not submitted anything yet; once it is marked, the
revision of its snapshot is recorded. -/
structure Prepared (phase : Phase) (marked : Bool) (s₀ s : Server) : Prop where
  /-- The revision is that of the start. -/
  revision : s.statusRevision = s₀.statusRevision
  /-- Nothing is in flight. -/
  slot : s.statusInflightTicket = none
  /-- The recorded revision. -/
  inflight : marked = true → s.statusInflightRevision = s₀.statusRevision
  /-- No job was added. -/
  jobs : s.jobs = s₀.jobs
  /-- No ticket was taken. -/
  ticket : s.nextTicket = s₀.nextTicket
  /-- Nobody closes the server. -/
  closing : s.closing = false
  /-- The attachment is that of the start. -/
  attached : s.attached = s₀.attached
  /-- No call to come closes the server. -/
  opened : ∀ met ∈ s.circumstances phase, met.closes = false
  /-- If no call was to raise at the start, none is. -/
  calm : Undisturbed phase s₀ → ∀ met ∈ s.circumstances phase, met.raises = false

/-- An attempt that submitted its job. -/
structure Placed (s₀ s : Server) : Prop where
  /-- The revision is that of the start. -/
  revision : s.statusRevision = s₀.statusRevision
  /-- The job is in flight. -/
  slot : s.statusInflightTicket = some s₀.nextTicket
  /-- It reports the revision of the start. -/
  inflight : s.statusInflightRevision = s₀.statusRevision
  /-- It is among the jobs. -/
  jobs : s.jobs = s₀.jobs.insert s₀.nextTicket ⟨none,.status,none⟩
  /-- Its ticket is taken. -/
  ticket : s.nextTicket = s₀.nextTicket + 1
  /-- Nobody closes the server. -/
  closing : s.closing = false

section

variable {phase : Phase} {marked : Bool} {s₀ s : Server}

/-- The recorded revision may be forgotten. -/
theorem Prepared.unmark (h : Prepared phase marked s₀ s) : Prepared phase false s₀ s :=
  ⟨h.revision,h.slot,nofun,h.jobs,h.ticket,h.closing,h.attached,h.opened,h.calm⟩

/-- A call of an attempt. -/
theorem circumstance_prepared :
    Script.Ensures (Prepared phase marked s₀) (circumstance phase)
      (fun _ => Prepared phase marked s₀)
      fun _ s => Prepared phase false s₀ s ∧ ¬ Undisturbed phase s₀ := by
  intro s hs
  simp only [circumstance]
  cases hqueue : s.circumstances phase with
  | nil => exact hs
  | cons met rest =>
    have hcloses : met.closes = false := hs.opened met (hqueue ▸ List.mem_cons_self)
    have hrest : ∀ c ∈ rest, c ∈ s.circumstances phase := by
      intro c hc
      rw [hqueue]
      exact List.mem_cons_of_mem _ hc
    have hnext : Prepared phase marked s₀ (s.meet phase met rest) := by
      refine ⟨hs.revision,hs.slot,hs.inflight,hs.jobs,hs.ticket,?_,hs.attached,?_,?_⟩
      · simp only [Server.meet,hs.closing,hcloses,Bool.or_self]
      · simp only [Server.meet,Function.update_self]
        exact fun c hc => hs.opened c (hrest c hc)
      · simp only [Server.meet,Function.update_self]
        exact fun hcalm c hc => hs.calm hcalm c (hrest c hc)
    cases hraises : met.raises with
    | false =>
      simp only [hraises,Bool.false_eq_true,if_false]
      exact hnext
    | true =>
      simp only [hraises,if_true]
      refine ⟨hnext.unmark,fun hcalm => ?_⟩
      have hquiet := hs.calm hcalm met (hqueue ▸ List.mem_cons_self)
      simp [hraises] at hquiet

/-- The owner is asserted before the snapshot and before the submission. -/
theorem assertOwnerThread_prepared :
    Script.Ensures (Prepared phase marked s₀) assertOwnerThread (fun _ => Prepared phase marked s₀)
      fun _ s => Prepared phase false s₀ s ∧ ¬ Undisturbed phase s₀ := by
  refine Script.Ensures.inspect fun s hs => ?_
  split
  · exact Script.Ensures.pure fun _ heq => heq ▸ hs
  · next hdetached =>
    refine Script.Ensures.raise fun _ heq => ⟨heq ▸ hs.unmark,fun hcalm => hdetached ?_⟩
    rw [hs.attached]
    exact hcalm.1

/-- An attempt submits a job or raises, and it raises only if a call does. -/
theorem startStatusPublication_ensures :
    Script.Ensures (Prepared phase false s₀) (startStatusPublication phase) (fun _ => Placed s₀)
      fun _ s => Prepared phase false s₀ s ∧ ¬ Undisturbed phase s₀ := by
  refine assertOwnerThread_prepared.bind fun _ => Script.Ensures.inspect fun s hs => ?_
  have hquiet : (s.closing || s.statusInflightTicket.isSome) = false := by
    rw [hs.closing,hs.slot]
    rfl
  rw [if_neg (by simp [hquiet])]
  refine Script.Ensures.bind (m := fun _ => Prepared phase false s₀) ?_ fun _ => ?_
  · -- The snapshot prunes the registry, which the attempt does not look at.
    refine (native_ensures circumstance_prepared ?_ ?_).exact hs
    · exact fun s _ hs _ => ⟨hs.1,hs.2,hs.3,hs.4,hs.5,hs.6,hs.7,hs.8,hs.9⟩
    · intro s e hs herror
      cases herror
  refine Script.Ensures.bind (m := fun _ => Prepared phase true s₀) ?_ fun _ => ?_
  · refine Script.Ensures.modify fun s hs => ?_
    exact ⟨hs.revision,hs.slot,fun _ => hs.revision,hs.jobs,hs.ticket,hs.closing,hs.attached,
      hs.opened,hs.calm⟩
  refine Script.Ensures.bind (m := fun ticket s => ticket = s₀.nextTicket ∧
    Placed s₀ {s with statusInflightTicket := some ticket}) ?_ fun ticket => ?_
  · refine assertOwnerThread_prepared.bind fun _ => circumstance_prepared.bind fun _ => ?_
    refine Script.Ensures.inspect fun s hs => ?_
    refine Script.Ensures.bind (m := fun _ s' => s' = {s with
        jobs := s.jobs.insert s.nextTicket ⟨none,.status,none⟩
        nextTicket := s.nextTicket + 1}) (Script.Ensures.modify fun s' heq => heq ▸ rfl)
      fun _ => Script.Ensures.pure ?_
    rintro _ rfl
    refine ⟨hs.ticket,hs.revision,?_,hs.inflight rfl,?_,?_,hs.closing⟩
    · exact congrArg some hs.ticket
    · rw [← hs.jobs,← hs.ticket]
    · rw [← hs.ticket]
  · exact Script.Ensures.modify fun s hs => hs.2

end

/-! ## What is true of every run -/

section

variable {t : Tracked} {phase : Phase} {ticket : Ticket} {e : Event}

/-- An attempt with its history. -/
theorem start_spec (hclosing : t.server.closing = false)
    (hslot : t.server.statusInflightTicket = none)
    (hopened : ∀ met ∈ t.server.circumstances phase, met.closes = false) :
    (start phase t).1 = .ok () ∧ Placed t.server (start phase t).2.server ∧
        (start phase t).2.last = some .underway ∧
        (start phase t).2.snapshots =
          Function.update t.snapshots t.server.nextTicket t.server.statusRevision ∧
        (start phase t).2.delivered = t.delivered ∨
      (∃ e, (start phase t).1 = .error e) ∧ Prepared phase false t.server (start phase t).2.server ∧
        (start phase t).2.last = some .raised ∧ (start phase t).2.snapshots = t.snapshots ∧
        (start phase t).2.delivered = t.delivered ∧ ¬ Undisturbed phase t.server := by
  have hprepared : Prepared phase false t.server t.server :=
    ⟨rfl,hslot,nofun,rfl,rfl,hclosing,rfl,hopened,fun hcalm => hcalm.2⟩
  have hafter := startStatusPublication_ensures t.server hprepared
  have hquiet : (t.server.closing || t.server.statusInflightTicket.isSome) = false := by
    rw [hclosing,hslot]
    rfl
  unfold start onServer Script.zoom
  dsimp only
  rw [hquiet]
  rcases hresult : startStatusPublication phase t.server with ⟨e | _,s⟩ <;> rw [hresult] at hafter
  · right
    exact ⟨⟨e,rfl⟩,hafter.1,rfl,rfl,rfl,hafter.2⟩
  · left
    simp only [Bool.false_eq_true,if_false,Tracked.note,hafter.slot]
    exact ⟨trivial,hafter,trivial,trivial,trivial⟩

/-- The owner is asserted. -/
theorem assertOwnerThread_eq (t : Tracked) :
    onServer assertOwnerThread t =
      if t.server.attached then (.ok (),t)
      else (.error (.invalidState "Action goal mutation must run on its owner Executor"),t) := by
  change (onServer (fun s => (if s.attached then pure ()
    else Script.raise (.invalidState "Action goal mutation must run on its owner Executor") :
      Act Unit) s) t) = _
  unfold onServer Script.zoom
  dsimp only
  split <;> rfl

/-- One more change. -/
def Tracked.changed (t : Tracked) : Tracked :=
  {t with server := {t.server with statusRevision := t.server.statusRevision + 1}}

/-- A change of the status, by what the server is like. -/
theorem announce_eq (phase : Phase) (t : Tracked) :
    announce phase t =
      if t.server.attached then
        if t.server.statusInflightTicket.isSome then (.ok (),t.changed) else start phase t.changed
      else (.error (.invalidState "Action goal mutation must run on its owner Executor"),t) := by
  have howner := assertOwnerThread_eq t
  unfold announce
  cases hattached : t.server.attached with
  | false =>
    rw [hattached] at howner
    rw [Script.bind_error (by rw [howner]; rfl),howner]
    rfl
  | true =>
    rw [hattached] at howner
    rw [Script.bind_ok (by rw [howner]; rfl),howner]
    change (if t.server.statusInflightTicket.isSome then pure () else start phase : TrackedAct Unit)
      t.changed = _
    rw [if_pos rfl]
    split <;> rfl

/-- The owner of an attached server may act. -/
theorem assertOwnerThread_ok (hattached : t.server.attached = true) :
    assertOwnerThread t.server = (.ok (),t.server) := by
  have howner := assertOwnerThread_eq t
  rw [hattached] at howner
  exact congrArg (fun r => (r.1,r.2.server)) howner

/-- With and without history a change does the same. -/
theorem announce_server (phase : Phase) (t : Tracked) :
    ((announce phase t).1,(announce phase t).2.server) = publishStatus phase t.server := by
  have howner := assertOwnerThread_eq t
  rw [announce_eq]
  unfold publishStatus
  cases hattached : t.server.attached with
  | false =>
    have hraises : assertOwnerThread t.server =
        (.error (.invalidState "Action goal mutation must run on its owner Executor"),t.server) := by
      rw [hattached] at howner
      exact congrArg (fun r => (r.1,r.2.server)) howner
    rw [Script.bind_error (by rw [hraises]),hraises]
    rfl
  | true =>
    have hreturns := assertOwnerThread_ok hattached
    rw [Script.bind_ok (by rw [hreturns]),hreturns,if_pos rfl]
    change _ = (if t.server.statusInflightTicket.isSome then pure ()
      else startStatusPublication phase : Act Unit) t.changed.server
    split
    · rfl
    · exact start_eq phase t.changed

/-- The status after a completion, before another attempt. -/
def Tracked.settle (ticket : Ticket) (succeeded : Bool) (t : Tracked) : Tracked :=
  if succeeded then
    {t with
      server := {t.server with statusInflightTicket := none}
      last := some .delivered
      delivered := some (t.snapshots ticket)}
  else {t with server := {t.server with statusInflightTicket := none}, last := some .failed}

/-- A completion of the job in flight. -/
theorem complete_eq {ticket : Ticket} (succeeded : Bool) (hattached : t.server.attached = true)
    (hslot : t.server.statusInflightTicket = some ticket) :
    complete ticket succeeded t =
      if succeeded && decide (t.server.statusInflightRevision < t.server.statusRevision) then
        start .settling (t.settle ticket succeeded)
      else (.ok (),t.settle ticket succeeded) := by
  have howner := assertOwnerThread_eq t
  rw [hattached] at howner
  unfold complete
  rw [Script.bind_ok (by rw [howner]; rfl),howner]
  change (if t.server.statusInflightTicket ≠ some ticket then _ else _ : TrackedAct Unit) t = _
  rw [if_neg (by simp [hslot])]
  change (if succeeded && decide (t.server.statusInflightRevision < t.server.statusRevision) then
    start .settling else pure () : TrackedAct Unit) (t.settle ticket succeeded) = _
  split <;> rfl

/-- With and without history a completion of the job in flight does the same. -/
theorem complete_server {ticket : Ticket} (succeeded : Bool) (hattached : t.server.attached = true)
    (hslot : t.server.statusInflightTicket = some ticket) :
    ((complete ticket succeeded t).1,(complete ticket succeeded t).2.server) =
      statusCompletion ticket succeeded t.server := by
  have hreturns := assertOwnerThread_ok hattached
  have hserver : (t.settle ticket succeeded).server =
      {t.server with statusInflightTicket := none} := by
    cases succeeded <;> rfl
  rw [complete_eq succeeded hattached hslot]
  unfold statusCompletion
  rw [Script.bind_ok (by rw [hreturns]),hreturns]
  change _ = (if t.server.statusInflightTicket ≠ some ticket then _ else _ : Act Unit) t.server
  rw [if_neg (show ¬ t.server.statusInflightTicket ≠ some ticket by simp [hslot])]
  change _ = (if succeeded && decide (t.server.statusInflightRevision < t.server.statusRevision) then
    startStatusPublication .settling else pure () : Act Unit)
      {t.server with statusInflightTicket := none}
  split
  · rw [start_eq,hserver]
  · rw [hserver]
    rfl

/-- A drained completion is acknowledged, also when it raises. -/
theorem drainStatus_eq {ticket : Ticket} {job : Job} (hjob : t.server.jobs.lookup ticket = some job) :
    (drainStatus ticket t).2 =
      (onServer (acknowledge ticket) (complete ticket (job.completed.getD false) t).2).2 := by
  change ((match t.server.jobs.lookup ticket with
    | none => pure ()
    | some job =>
      Script.ensuring (complete ticket (job.completed.getD false)) (onServer (acknowledge ticket)) :
        TrackedAct Unit) t).2 = _
  rw [hjob]
  rfl

/-- A status job with a fresh ticket is one more. -/
theorem statusTickets_insert {s s' : Server} {ticket : Ticket} {job : Job}
    (hfresh : ticket ∉ s.jobs) (hstatus : job.delivery = .status)
    (hjobs : s'.jobs = s.jobs.insert ticket job) :
    statusTickets s' = ticket :: statusTickets s := by
  rw [statusTickets,hjobs,AList.entries_insert_of_notMem hfresh,
    List.filter_cons_of_pos (by simpa using hstatus)]
  rfl

/-- An acknowledged job is no longer there. -/
theorem statusTickets_erase {s s' : Server} {ticket : Ticket}
    (hjobs : s'.jobs = s.jobs.erase ticket) :
    statusTickets s' = (statusTickets s).erase ticket := by
  rw [statusTickets,hjobs]
  unfold statusTickets
  have hnodup := s.jobs.nodupKeys
  change ((List.kerase ticket s.jobs.entries).filter _).map _ = _
  generalize s.jobs.entries = entries at hnodup
  induction entries with
  | nil => rfl
  | cons entry entries ih =>
    rw [List.nodupKeys_cons] at hnodup
    by_cases hticket : ticket = entry.1
    · rw [List.kerase_cons_eq hticket]
      have habsent : ticket ∉ ((entries.filter fun e => e.2.delivery = .status).map (·.1)) := by
        intro hmem
        obtain ⟨other,hother,heq⟩ := List.mem_map.mp hmem
        apply hnodup.1
        rw [← hticket,← heq]
        exact List.mem_keys_of_mem (List.mem_filter.mp hother).1
      by_cases hstatus : entry.2.delivery = .status
      · rw [List.filter_cons_of_pos (by simpa using hstatus),List.map_cons,hticket,
          List.erase_cons_head]
      · rw [List.filter_cons_of_neg (by simpa using hstatus),List.erase_of_not_mem habsent]
    · rw [List.kerase_cons_ne hticket]
      by_cases hstatus : entry.2.delivery = .status
      · rw [List.filter_cons_of_pos (by simpa using hstatus),
          List.filter_cons_of_pos (by simpa using hstatus),List.map_cons,List.map_cons,
          List.erase_cons_tail (by simpa using Ne.symm hticket),ih hnodup.2]
      · rw [List.filter_cons_of_neg (by simpa using hstatus),
          List.filter_cons_of_neg (by simpa using hstatus),ih hnodup.2]

/-- No ticket is there twice. -/
theorem statusTickets_nodup (s : Server) : (statusTickets s).Nodup :=
  List.Nodup.sublist (List.filter_sublist.map _) s.jobs.keys_nodup

/-- What holds of a server that does not close: beyond some jobs that are about to
be acknowledged only that of the slot is in flight, its snapshot has the recorded
revision, and with nothing in flight a delivery that was the last attempt
reported the current revision. -/
structure Inv (leaving : List Ticket) (t : Tracked) : Prop where
  /-- It does not close. -/
  closing : t.server.closing = false
  /-- At most the job of the slot is in flight. -/
  jobs : statusTickets t.server = t.server.statusInflightTicket.toList ++ leaving
  /-- New tickets are fresh. -/
  fresh : ∀ e ∈ t.server.jobs.entries, e.1 < t.server.nextTicket
  /-- What is in flight is the last attempt. -/
  underway : ∀ ticket, t.server.statusInflightTicket = some ticket →
    t.last = some .underway ∧ t.snapshots ticket = t.server.statusInflightRevision ∧
      t.server.statusInflightRevision ≤ t.server.statusRevision
  /-- How the last attempt went. -/
  settled : t.server.statusInflightTicket = none →
    t.last ≠ some .underway ∧ (t.last = some .delivered → t.delivered = some t.server.statusRevision) ∧
      (t.last = none → t.server.statusRevision = 0)

/-- A new ActionServer. -/
theorem Inv.initial (resultTimeout : ℕ) (clock : ℤ) : Inv [] (.initial resultTimeout clock) where
  closing := rfl
  jobs := rfl
  fresh := fun _ he => absurd he List.not_mem_nil
  underway := nofun
  settled := fun _ => ⟨nofun,nofun,fun _ => rfl⟩

/-- No job has the next ticket. -/
theorem nextTicket_notMem {s : Server} (hfresh : ∀ e ∈ s.jobs.entries, e.1 < s.nextTicket) :
    s.nextTicket ∉ s.jobs := by
  intro hmem
  obtain ⟨entry,hentry,hkey⟩ := List.mem_map.mp (AList.mem_keys.mp hmem)
  have hlt := hfresh entry hentry
  rw [hkey] at hlt
  exact Nat.lt_irrefl _ hlt

/-- An attempt, whatever comes of it. -/
theorem Inv.started {leaving : List Ticket} (hclosing : t.server.closing = false)
    (hslot : t.server.statusInflightTicket = none) (hjobs : statusTickets t.server = leaving)
    (hfresh : ∀ e ∈ t.server.jobs.entries, e.1 < t.server.nextTicket)
    (hopened : ∀ met ∈ t.server.circumstances phase, met.closes = false) :
    Inv leaving (start phase t).2 := by
  rcases start_spec hclosing hslot hopened with
    ⟨-,hplaced,hlast,hsnapshots,-⟩ | ⟨-,hprepared,hlast,-,-,-⟩
  · have hnew := nextTicket_notMem hfresh
    refine ⟨hplaced.closing,?_,?_,?_,?_⟩
    · rw [statusTickets_insert hnew rfl hplaced.jobs,hjobs,hplaced.slot]
      rfl
    · intro e he
      rw [hplaced.jobs,AList.entries_insert_of_notMem hnew] at he
      rw [hplaced.ticket]
      cases List.mem_cons.mp he with
      | inl heq =>
        rw [heq]
        exact Nat.lt_succ_self _
      | inr hold => exact Nat.lt_succ_of_lt (hfresh e hold)
    · intro ticket hticket
      rw [hplaced.slot,Option.some.injEq] at hticket
      rw [hsnapshots,hlast,hplaced.inflight,hplaced.revision,← hticket,Function.update_self]
      exact ⟨rfl,rfl,Nat.le_refl _⟩
    · intro hnone
      rw [hplaced.slot] at hnone
      cases hnone
  · refine ⟨hprepared.closing,?_,?_,?_,?_⟩
    · rw [statusTickets,hprepared.jobs,hprepared.slot]
      exact hjobs
    · rw [hprepared.jobs,hprepared.ticket]
      exact hfresh
    · intro ticket hticket
      rw [hprepared.slot] at hticket
      cases hticket
    · intro _
      rw [hlast]
      exact ⟨nofun,nofun,nofun⟩

/-- A change of the status. -/
theorem Inv.announced (h : Inv [] t)
    (hopened : ∀ met ∈ t.server.circumstances phase, met.closes = false) :
    Inv [] (announce phase t).2 := by
  rw [announce_eq]
  split
  · split
    · next hbusy =>
      refine ⟨h.closing,h.jobs,h.fresh,fun other hother => ?_,fun hnone => ?_⟩
      · obtain ⟨hlast,hsnapshot,hle⟩ := h.underway other hother
        exact ⟨hlast,hsnapshot,Nat.le_succ_of_le hle⟩
      · have hslot : t.server.statusInflightTicket = none := hnone
        simp [hslot] at hbusy
    · next hidle =>
      have hslot : t.server.statusInflightTicket = none := by simpa using hidle
      have hjobs : statusTickets t.server = [] := by
        rw [h.jobs,hslot]
        rfl
      exact .started h.closing hslot hjobs h.fresh hopened
  · exact h

/-- A completion of the job in flight; its acknowledgement is to come. -/
theorem Inv.completed {ticket : Ticket} {succeeded : Bool} (h : Inv [] t)
    (hattached : t.server.attached = true) (hslot : t.server.statusInflightTicket = some ticket)
    (hopened : ∀ met ∈ t.server.circumstances .settling, met.closes = false) :
    Inv [ticket] (complete ticket succeeded t).2 := by
  obtain ⟨-,hsnapshot,hle⟩ := h.underway ticket hslot
  have hjobs : statusTickets t.server = [ticket] := by
    rw [h.jobs,hslot]
    rfl
  rw [complete_eq succeeded hattached hslot]
  cases succeeded with
  | false =>
    refine ⟨h.closing,hjobs,h.fresh,nofun,fun _ => ⟨nofun,nofun,nofun⟩⟩
  | true =>
    by_cases hbehind : t.server.statusInflightRevision < t.server.statusRevision
    · rw [if_pos (by simp [hbehind])]
      exact .started h.closing rfl hjobs h.fresh hopened
    · rw [if_neg (by simp [hbehind])]
      refine ⟨h.closing,hjobs,h.fresh,nofun,fun _ => ⟨nofun,fun _ => ?_,nofun⟩⟩
      have hcurrent : t.server.statusInflightRevision = t.server.statusRevision := by omega
      exact congrArg some (hsnapshot.trans hcurrent)

/-- The acknowledgement. -/
theorem Inv.acknowledged {ticket : Ticket} (h : Inv [ticket] t) :
    Inv [] (onServer (acknowledge ticket) t).2 := by
  refine ⟨h.closing,?_,?_,h.underway,h.settled⟩
  · have hnodup := statusTickets_nodup t.server
    rw [h.jobs] at hnodup
    rw [statusTickets_erase (s := t.server) rfl,h.jobs,List.append_nil]
    have habsent : ticket ∉ t.server.statusInflightTicket.toList := by
      intro hmem
      exact (List.disjoint_of_nodup_append hnodup) hmem (List.mem_singleton.mpr rfl)
    rw [List.erase_append_right _ habsent,List.erase_cons_head,List.append_nil]
    rfl
  · intro e he
    exact h.fresh e ((List.kerase_sublist _ _).subset he)

/-- No call that is met closes the server. -/
theorem staysOpen_iff {met : Circumstances} :
    staysOpen met phase = true ↔ ∀ c ∈ met phase, c.closes = false := by
  simp [staysOpen]

/-- Every event keeps it. -/
theorem Inv.step {e : Event} (h : Inv [] t) (hen : Enabled t e) : Inv [] (next t e) := by
  cases e with
  | change phase met =>
    have hmeeting : Inv [] (t.meeting met) := ⟨h.1,h.2,h.3,h.4,h.5⟩
    exact hmeeting.announced (staysOpen_iff.mp hen)
  | completion ticket met =>
    obtain ⟨hopened,hattached,hcompleted⟩ := hen
    have hmeeting : Inv [] (t.meeting met) := ⟨h.1,h.2,h.3,h.4,h.5⟩
    cases hjob : t.server.jobs.lookup ticket with
    | none => simp [hjob] at hcompleted
    | some job =>
      simp only [hjob,Option.any_some,Bool.and_eq_true,decide_eq_true_eq] at hcompleted
      have hmem : ticket ∈ statusTickets t.server :=
        List.mem_map.mpr ⟨_,List.mem_filter.mpr ⟨Table.mem_entries_of_lookup hjob,
          by simpa using hcompleted.1⟩,rfl⟩
      have hslot : t.server.statusInflightTicket = some ticket := by
        rw [h.jobs,List.append_nil,Option.mem_toList] at hmem
        exact hmem
      have hafter : (drainStatus ticket (t.meeting met)).2 = _ := drainStatus_eq hjob
      change Inv [] (drainStatus ticket (t.meeting met)).2
      rw [hafter]
      exact (hmeeting.completed hattached hslot (staysOpen_iff.mp hopened)).acknowledged
  | other server =>
    simp only [Enabled,sameStatus,Bool.and_eq_true,decide_eq_true_eq,Bool.not_eq_true',
      List.all_eq_true] at hen
    obtain ⟨⟨⟨⟨⟨hrevision,hticket⟩,hinflight⟩,hjobs⟩,hclosing⟩,hfresh⟩ := hen
    refine ⟨hclosing,?_,hfresh,?_,?_⟩
    · simp only [next]
      rw [hjobs,hticket,h.jobs]
    · simp only [next]
      rw [hticket,hinflight,hrevision]
      exact h.underway
    · simp only [next]
      rw [hticket,hrevision]
      exact h.settled

/-- Every run keeps it. -/
theorem Inv.run {resultTimeout : ℕ} {clock : ℤ} {es : List Event}
    (hrun : machine.Run (.initial resultTimeout clock) es t) : Inv [] t :=
  hrun.invariant (Inv []) (.initial resultTimeout clock) fun _ _ h hen _ => h.step hen

/-- A change that is submitted at once: its job is in flight, with a snapshot of the
revision that is current then. -/
structure Submits (t t' : Tracked) : Prop where
  /-- One more change. -/
  revision : t'.server.statusRevision = t.server.statusRevision + 1
  /-- Its job. -/
  inflight : ∃ ticket, statusTickets t'.server = [ticket] ∧
    t'.server.statusInflightTicket = some ticket ∧
    t'.snapshots ticket = t'.server.statusRevision

/-- With nothing in flight a change is submitted, or a call of it raises. -/
theorem Inv.submits (h : Inv [] t) (hslot : t.server.statusInflightTicket = none)
    (hopened : ∀ met ∈ t.server.circumstances phase, met.closes = false) :
    (announce phase t).1 = .ok () ∧ Submits t (announce phase t).2 ∨
      (∃ e, (announce phase t).1 = .error e) ∧ ¬ Undisturbed phase t.server := by
  have hjobs : statusTickets t.server = [] := by
    rw [h.jobs,hslot]
    rfl
  rw [announce_eq]
  split
  · rw [if_neg (by simp [hslot])]
    rcases start_spec (t := t.changed) h.closing hslot hopened with
      ⟨hok,hplaced,-,hsnapshots,-⟩ | ⟨herror,-,-,-,-,hdisturbed⟩
    · left
      refine ⟨hok,hplaced.revision,t.server.nextTicket,?_,hplaced.slot,?_⟩
      · rw [statusTickets_insert (nextTicket_notMem h.fresh) rfl hplaced.jobs,hjobs]
      · rw [hsnapshots,hplaced.revision]
        exact Function.update_self _ _ _
    · exact .inr ⟨herror,hdisturbed⟩
  · next hdetached => exact .inr ⟨⟨_,rfl⟩,fun hcalm => hdetached hcalm.1⟩

end

/-- In every state that a server reaches that does not close: at most one status
job is in flight; with none in flight, the last attempt raised or failed, or the
last delivered snapshot is of the current revision, or the status never changed;
and after an attempt that raised or failed the next change submits a snapshot of
its own revision, unless its own attempt raises. -/
theorem status_exact {resultTimeout : ℕ} {clock : ℤ} {es : List Event} {t : Tracked}
    (hrun : machine.Run (.initial resultTimeout clock) es t) :
    (statusTickets t.server).length ≤ 1 ∧
    (statusTickets t.server = [] → t.last ≠ some .raised → t.last ≠ some .failed →
      t.last = some .delivered ∧ t.delivered = some t.server.statusRevision ∨
        t.last = none ∧ t.server.statusRevision = 0) ∧
    (t.last = some .raised ∨ t.last = some .failed →
      ∀ phase met, Enabled t (.change phase met) →
        (announce phase (t.meeting met)).1 = .ok () ∧ Submits t (next t (.change phase met)) ∨
          (∃ e, (announce phase (t.meeting met)).1 = .error e) ∧
            ¬ Undisturbed phase (t.meeting met).server) := by
  have h := Inv.run hrun
  have hjobs : statusTickets t.server = t.server.statusInflightTicket.toList := by
    rw [h.jobs,List.append_nil]
  refine ⟨?_,?_,?_⟩
  · rw [hjobs]
    cases t.server.statusInflightTicket <;> simp
  · intro hnone hraised hfailed
    have hslot : t.server.statusInflightTicket = none := by
      rw [hjobs] at hnone
      simpa using hnone
    obtain ⟨hunderway,hdelivered,hnever⟩ := h.settled hslot
    cases hlast : t.last with
    | none => exact .inr ⟨rfl,hnever hlast⟩
    | some attempt =>
      cases attempt with
      | raised => exact absurd hlast hraised
      | underway => exact absurd hlast hunderway
      | delivered => exact .inl ⟨rfl,hdelivered hlast⟩
      | failed => exact absurd hlast hfailed
  · intro hended phase met hen
    have hslot : t.server.statusInflightTicket = none := by
      cases hslot : t.server.statusInflightTicket with
      | none => rfl
      | some ticket => rcases hended with hlast | hlast <;> cases (h.underway ticket hslot).1 ▸ hlast
    have hmeeting : Inv [] (t.meeting met) := ⟨h.1,h.2,h.3,h.4,h.5⟩
    refine (hmeeting.submits hslot (staysOpen_iff.mp hen)).imp_left fun hsubmits => ?_
    exact ⟨hsubmits.1,hsubmits.2.revision,hsubmits.2.inflight⟩

/-- A first attempt that raises, and a second one that is submitted. -/
def retry : List Event :=
  [.change .publishing fun _ => [⟨0,false,true⟩],.change .publishing fun _ => []]

/-- The server after both. -/
def retried : Tracked := (machine.exec (.initial 0 0) retry).getD (.initial 0 0)

/-- The worker delivers the second snapshot, and its completion is drained. -/
def redelivery : List Event :=
  [.other (retried.server.deliver 0 true false),.completion 0 fun _ => []]

/-- The server after the delivery. -/
def redelivered : Tracked := (machine.exec retried redelivery).getD retried

/-- What was delivered is of the current revision. -/
theorem status_exact_redelivered :
    (statusTickets redelivered.server).length ≤ 1 ∧
      redelivered.delivered = some redelivered.server.statusRevision := by
  have hretried : machine.exec (.initial 0 0) retry = some retried := by
    have hsome : (machine.exec (.initial 0 0) retry).isSome = true := by decide +kernel
    obtain ⟨t,ht⟩ := Option.isSome_iff_exists.mp hsome
    rw [retried,ht]
    rfl
  have hredelivered : machine.exec retried redelivery = some redelivered := by
    have hsome : (machine.exec retried redelivery).isSome = true := by decide +kernel
    obtain ⟨t,ht⟩ := Option.isSome_iff_exists.mp hsome
    rw [redelivered,ht]
    rfl
  have hexact := status_exact
    ((Machine.run_of_exec hretried).append (Machine.run_of_exec hredelivered))
  have hlast : redelivered.last = some .delivered := by decide +kernel
  refine ⟨hexact.1,?_⟩
  rcases hexact.2.1 (by decide +kernel) (by rw [hlast]; decide) (by rw [hlast]; decide) with h | h
  · exact h.2
  · rw [hlast] at h
    cases h.1

end Dmw.StatusPublication
