import Dmw.GoalLife

/-!
# Accepting goals

`accept_goal` reserves the identity, writes the accepted response and commits,
in three separate steps under a rollback guard. Calls interleave freely with
each other and with every other registry operation. An uncommitted entry
belongs to the one call that reserved it, so the commit after a successful
write cannot fail and a failing call removes nothing but its own entry.
-/

namespace Dmw.GoalAccept

open Identity KeyedTable GuardedRuns KeyedHistory GoalRegistry GoalLife

/-- Calls are numbered by their invocation. -/
abbrev CallId := ℕ

/-- Arguments of one call. -/
structure Call where
  /-- The goal request to answer. -/
  requestId : RequestId
  /-- The goal to accept. -/
  info : GoalInfo
  /-- Whether it starts at once. -/
  mode : GoalAcceptMode
  deriving DecidableEq

/-- How a call ends for its caller. -/
inductive Reply
  | success (transition : GoalTransition)
  | failure (e : Error)
  | exception
  deriving DecidableEq

/-- Next step of a call. -/
inductive Pc
  | unborn
  /-- Invoked, reservation outstanding. -/
  | entered (call : Call)
  /-- Reserved, response write outstanding. -/
  | writing (call : Call)
  /-- Response written, commit outstanding. -/
  | committing (call : Call)
  /-- Failed, the rollback guard is outstanding. -/
  | rollingBack (call : Call) (reply : Reply)
  | returned (reply : Reply)
  deriving DecidableEq

/-- The goal whose reservation a call still holds. -/
@[grind =] def Pc.holds : Pc → Option GoalId
  | .writing call | .committing call => some call.info.goalId
  | .rollingBack call _ => some call.info.goalId
  | _ => none

/-- The response was written and the goal is not committed yet. -/
def Pc.isCommitting : Pc → Bool
  | .committing _ => true
  | _ => false

/-- Recorded facts about calls and goals. -/
inductive Note
  | entered (c : CallId) (goalId : GoalId)
  | reserved (c : CallId) (goalId : GoalId)
  | written (c : CallId) (goalId : GoalId)
  | committed (c : CallId) (goalId : GoalId)
  | rolledBack (c : CallId) (goalId : GoalId)
  | returned (c : CallId)
  | erased (goalId : GoalId)
  deriving DecidableEq

/-- One registry and the calls on it. -/
structure System where
  /-- The registry. -/
  registry : Registry
  /-- Next step of every call. -/
  pc : CallId → Pc
  /-- The call that reserved the entry of a goal; history only. -/
  reservedBy : GoalId → Option CallId
  /-- Notes in order; history only. -/
  log : List Note

namespace System

/-- A new registry and no call. -/
def initial (resultTimeout : ℤ) : System :=
  ⟨Registry.new resultTimeout,fun _ => .unborn,fun _ => none,[]⟩

/-- Move one call and note what it did. -/
def goto (c : CallId) (next : Pc) (notes : List Note) (s : System) : System :=
  {s with pc := Function.update s.pc c next, log := s.log ++ notes}

end System

/-- The reservation. -/
def reserve (c : CallId) (call : Call) (operation : Bool) (s : System) : System :=
  if !operation then
    s.goto c (.returned (.failure ⟨.contextShutdown,"Context is shut down"⟩)) [.returned c]
  else
    match s.registry.reserve call.info.goalId with
    | (false,_) =>
      s.goto c (.returned (.failure ⟨.alreadyExists,"Goal is already accepted"⟩)) [.returned c]
    | (true,registry) =>
      {s.goto c (.writing call) [.reserved c call.info.goalId] with
        registry := registry
        reservedBy := Function.update s.reservedBy call.info.goalId (some c)}

/-- The response write; `none` is an exception. -/
def write (c : CallId) (call : Call) (outcome : Option (Result Unit)) (s : System) : System :=
  match outcome with
  | some (.ok _) => s.goto c (.committing call) [.written c call.info.goalId]
  | some (.error e) => s.goto c (.rollingBack call (.failure e)) []
  | none => s.goto c (.rollingBack call .exception) []

/-- The commit after a successful write. -/
def commit (c : CallId) (call : Call) (s : System) : System :=
  match s.registry.commit call.info call.mode with
  | (false,_) =>
    s.goto c (.rollingBack call (.failure
      ⟨.protocolFault,"Goal reservation was lost after response commit"⟩)) []
  | (true,registry) =>
    {s.goto c (.returned (.success ⟨.unknown,call.mode.state,false⟩))
        [.committed c call.info.goalId,.returned c] with registry := registry}

/-- The rollback guard of a failing call. -/
def rollback (c : CallId) (call : Call) (reply : Reply) (s : System) : System :=
  {s.goto c (.returned reply) [.rolledBack c call.info.goalId,.returned c] with
    registry := s.registry.rollbackReservation call.info.goalId}

/-- Any other registry operation. -/
def other (now : ℤ) (op : Op) (s : System) : System :=
  let registry := (s.registry.apply now op).2
  {s with
    registry := registry
    log := s.log ++ (erasures s.registry registry).map .erased}

/-- One atomic event. -/
inductive Event
  | enter (c : CallId) (call : Call)
  | reserve (c : CallId) (call : Call) (operation : Bool)
  | write (c : CallId) (call : Call) (outcome : Option (Result Unit))
  | commit (c : CallId) (call : Call)
  | rollback (c : CallId) (call : Call) (reply : Reply)
  | other (now : ℤ) (op : Op)

/-- The acting call stands at the event's step; other operations are always
possible, except those that only `accept_goal` uses. -/
def enabled (s : System) : Event → Prop
  | .enter c _ => s.pc c = .unborn
  | .reserve c call _ => s.pc c = .entered call
  | .write c call _ => s.pc c = .writing call
  | .commit c call => s.pc c = .committing call
  | .rollback c call reply => s.pc c = .rollingBack call reply
  | .other _ op => op.transactional = false

/-- Effect of an enabled event. -/
def next (s : System) : Event → System
  | .enter c call => s.goto c (.entered call) [.entered c call.info.goalId]
  | .reserve c call operation => reserve c call operation s
  | .write c call outcome => write c call outcome s
  | .commit c call => commit c call s
  | .rollback c call reply => rollback c call reply s
  | .other now op => other now op s

instance (s : System) : (e : Event) → Decidable (enabled s e)
  | .enter ..
  | .reserve ..
  | .write ..
  | .commit ..
  | .rollback ..
  | .other .. => inferInstanceAs (Decidable (_ = _))

/-- Calls of `accept_goal` among the other registry operations. -/
def machine : Machine System Event where
  enabled := enabled
  next := next
  decidableEnabled := inferInstance

/-- The call an event belongs to. -/
def Event.call : Event → Option CallId
  | .enter c _ | .reserve c .. | .write c .. | .commit c _ | .rollback c .. => some c
  | .other .. => none

/-- The entry of one goal, with the call it belongs to. -/
inductive Slot
  | free
  | reserved (c : CallId)
  | written (c : CallId)
  | live (c : CallId)
  deriving DecidableEq

/-- The goal whose entry a note is about. -/
def Note.goal : Note → Option GoalId
  | .reserved _ goalId | .written _ goalId | .committed _ goalId => some goalId
  | .rolledBack _ goalId | .erased goalId => some goalId
  | .entered .. | .returned _ => none

/-- One step of an entry; `none` is a note out of order. -/
@[grind =] def Slot.next : Slot → Note → Option Slot
  | .free, .reserved c _ => some (.reserved c)
  | .reserved c, .rolledBack c' _ => if c' = c then some .free else none
  | .reserved c, .written c' _ => if c' = c then some (.written c) else none
  | .written c, .committed c' _ => if c' = c then some (.live c) else none
  | .live _, .erased _ => some .free
  | _, _ => none

/-- The automaton of one goal's entry. -/
def slots : Automaton GoalId Note Slot := ⟨Note.goal,Slot.next⟩

/-- The slot an entry stands for. -/
def slotOf (s : System) (goalId : GoalId) : Slot :=
  match s.registry.goals.lookup goalId, s.reservedBy goalId with
  | some record, some c =>
    if record.committed then .live c
    else if (s.pc c).isCommitting then .written c
    else .reserved c
  | _, _ => .free

/-- Every uncommitted entry belongs to the one call that reserved it. -/
structure Owned (s : System) : Prop where
  /-- The call of an uncommitted entry is still at work. -/
  owner : ∀ goalId record, s.registry.goals.lookup goalId = some record →
    ∃ c, s.reservedBy goalId = some c ∧
      (record.committed = false → (s.pc c).holds = some goalId)
  /-- A call at work finds its entry uncommitted. -/
  holder : ∀ c goalId, (s.pc c).holds = some goalId →
    ∃ record, s.registry.goals.lookup goalId = some record ∧ record.committed = false ∧
      s.reservedBy goalId = some c
  /-- The log is orderly for every goal. -/
  orderly : ∀ goalId, slots.after goalId .free s.log = some (slotOf s goalId)
  /-- After its write a call commits. -/
  writer : ∀ c goalId, .written c goalId ∈ s.log →
    .committed c goalId ∈ s.log ∨ ∃ call, s.pc c = .committing call ∧ call.info.goalId = goalId
  /-- A call that committed returned success. -/
  winner : ∀ c goalId, .committed c goalId ∈ s.log →
    ∃ transition, s.pc c = .returned (.success transition)
  /-- The entry of a call that is no longer at work was committed by it. -/
  settled : ∀ goalId record c, s.registry.goals.lookup goalId = some record →
    s.reservedBy goalId = some c → record.committed = true → .committed c goalId ∈ s.log

section

variable {s s' : System} {c : CallId} {goalId : GoalId} {p : Pc}

/-- Once its call lets go of a goal, no call is at work on it. -/
theorem Owned.nobody (h : Owned s) (hres : s.reservedBy goalId = some c) (hp : p.holds = none)
    (c' : CallId) : (Function.update s.pc c p c').holds ≠ some goalId := by
  rw [Function.update_apply]
  split
  · rw [hp]
    exact nofun
  · next hne =>
    intro hholds
    obtain ⟨_, _, _, hres'⟩ := h.holder c' _ hholds
    exact hne (Option.some.inj (hres'.symm.trans hres))

/-- The slot of a goal that neither the registry nor its call touched. -/
theorem Owned.slotOf_eq (h : Owned s) (hpc : s'.pc = Function.update s.pc c p)
    (hlookup : s'.registry.goals.lookup goalId = s.registry.goals.lookup goalId)
    (hreserved : s'.reservedBy goalId = s.reservedBy goalId)
    (hother : (s.pc c).holds ≠ some goalId) : slotOf s' goalId = slotOf s goalId := by
  unfold slotOf
  rw [hlookup, hreserved]
  cases hfound : s.registry.goals.lookup goalId with
  | none => rfl
  | some record =>
    obtain ⟨owner, howner, hholds⟩ := h.owner goalId record hfound
    rw [howner]
    dsimp only
    split
    · rfl
    · next huncommitted =>
      have hne : owner ≠ c := by
        rintro rfl
        exact hother (hholds (by simpa using huncommitted))
      rw [hpc, Function.update_of_ne hne]

/-- An event of one call that touches its own goal only. -/
theorem Owned.act (h : Owned s) (goalId : GoalId) {notes : List Note} (hpc : s'.pc = Function.update s.pc c p)
    (hlog : s'.log = s.log ++ notes)
    (hlookup : ∀ other, other ≠ goalId →
      s'.registry.goals.lookup other = s.registry.goals.lookup other)
    (hreserved : ∀ other, other ≠ goalId → s'.reservedBy other = s.reservedBy other)
    (hbefore : ∀ other, (s.pc c).holds = some other → other = goalId)
    (hafter : ∀ other, p.holds = some other → other = goalId)
    (habout : ∀ note ∈ notes, ∀ other, other ≠ goalId → note.goal ≠ some other)
    (howner : ∀ record, s'.registry.goals.lookup goalId = some record →
      ∃ c', s'.reservedBy goalId = some c' ∧
        (record.committed = false → (s'.pc c').holds = some goalId))
    (hholder : ∀ c', (s'.pc c').holds = some goalId →
      ∃ record, s'.registry.goals.lookup goalId = some record ∧ record.committed = false ∧
        s'.reservedBy goalId = some c')
    (horder : slots.after goalId (slotOf s goalId) notes = some (slotOf s' goalId))
    (hwritten : ∀ c' goalId, .written c' goalId ∈ notes →
      c' = c ∧ ∃ call, p = .committing call ∧ call.info.goalId = goalId)
    (hcommits : ∀ call, s.pc c = .committing call → .committed c call.info.goalId ∈ notes)
    (hcommitted : ∀ c' goalId, .committed c' goalId ∈ notes →
      c' = c ∧ ∃ transition, p = .returned (.success transition))
    (hrunning : ∀ reply, s.pc c ≠ .returned reply)
    (hsettled : ∀ record c', s'.registry.goals.lookup goalId = some record →
      s'.reservedBy goalId = some c' → record.committed = true →
        .committed c' goalId ∈ s'.log) : Owned s' := by
  have hself : s'.pc c = p := by rw [hpc, Function.update_self]
  have hothers : ∀ c', c' ≠ c → s'.pc c' = s.pc c' := fun c' hne => by
    rw [hpc, Function.update_of_ne hne]
  refine ⟨fun other record hfound => ?_, fun c' other hc' => ?_, fun other => ?_, ?_, ?_, ?_⟩
  · by_cases hother : other = goalId
    · subst hother
      exact howner record hfound
    · rw [hlookup other hother] at hfound
      obtain ⟨owner, howns, hown⟩ := h.owner other record hfound
      refine ⟨owner, (hreserved other hother).trans howns, fun huncommitted => ?_⟩
      have hne : owner ≠ c := by
        rintro rfl
        exact hother (hbefore other (hown huncommitted))
      rw [hothers owner hne]
      exact hown huncommitted
  · by_cases hother : other = goalId
    · subst hother
      exact hholder c' hc'
    · have hne : c' ≠ c := by
        rintro rfl
        exact hother (hafter other (hself ▸ hc'))
      rw [hlookup other hother, hreserved other hother]
      exact h.holder c' other (hothers c' hne ▸ hc')
  · rw [hlog, Automaton.after_append, h.orderly other]
    by_cases hother : other = goalId
    · subst hother
      exact horder
    · rw [h.slotOf_eq hpc (hlookup other hother) (hreserved other hother)
        fun hholds => hother (hbefore other hholds)]
      exact Automaton.after_others fun note hnote => habout note hnote other hother
  · intro c' other hmem
    rw [hlog] at hmem ⊢
    rcases List.mem_append.mp hmem with hold | hnew
    · rcases h.writer c' other hold with hdone | ⟨call, hcall, hgoal⟩
      · exact Or.inl (List.mem_append_left _ hdone)
      · by_cases hne : c' = c
        · subst hne
          exact Or.inl (List.mem_append_right _ (hgoal ▸ hcommits call hcall))
        · exact Or.inr ⟨call, (hothers c' hne).trans hcall, hgoal⟩
    · obtain ⟨rfl, call, hp, hgoal⟩ := hwritten c' other hnew
      exact Or.inr ⟨call, hself.trans hp, hgoal⟩
  · intro c' other hmem
    rw [hlog] at hmem
    rcases List.mem_append.mp hmem with hold | hnew
    · obtain ⟨transition, hreturned⟩ := h.winner c' other hold
      have hne : c' ≠ c := by
        rintro rfl
        exact hrunning _ hreturned
      exact ⟨transition, (hothers c' hne).trans hreturned⟩
    · obtain ⟨rfl, transition, hp⟩ := hcommitted c' other hnew
      exact ⟨transition, hself.trans hp⟩
  · intro other record c' hfound hres hdone
    by_cases hother : other = goalId
    · subst hother
      exact hsettled record c' hfound hres hdone
    · rw [hlog]
      rw [hlookup other hother] at hfound
      rw [hreserved other hother] at hres
      exact List.mem_append_left _ (h.settled other record c' hfound hres hdone)

/-- An event that leaves the registry and the hold of its call as they are. -/
theorem Owned.stay (h : Owned s) {notes : List Note} (hholds : p.holds = (s.pc c).holds)
    (horder : ∀ goalId, slots.after goalId (slotOf s goalId) notes =
      some (slotOf (s.goto c p notes) goalId))
    (hwritten : ∀ c' goalId, .written c' goalId ∈ notes →
      c' = c ∧ ∃ call, p = .committing call ∧ call.info.goalId = goalId)
    (hcommits : ∀ call, s.pc c ≠ .committing call)
    (hcommitted : ∀ c' goalId, .committed c' goalId ∉ notes)
    (hrunning : ∀ reply, s.pc c ≠ .returned reply) : Owned (s.goto c p notes) := by
  have hall : ∀ c', ((s.goto c p notes).pc c').holds = (s.pc c').holds := by
    intro c'
    simp only [System.goto, Function.update_apply]
    split
    · next heq => rw [heq, hholds]
    · rfl
  refine ⟨fun goalId record hfound => ?_, fun c' goalId hc' => ?_, fun goalId => ?_, ?_, ?_, ?_⟩
  · obtain ⟨owner, howns, hown⟩ := h.owner goalId record hfound
    exact ⟨owner, howns, fun huncommitted => (hall owner).trans (hown huncommitted)⟩
  · exact h.holder c' goalId ((hall c').symm.trans hc')
  · rw [System.goto, Automaton.after_append, h.orderly goalId]
    exact horder goalId
  · intro c' goalId hmem
    rcases List.mem_append.mp hmem with hold | hnew
    · rcases h.writer c' goalId hold with hdone | ⟨call, hcall, hgoal⟩
      · exact Or.inl (List.mem_append_left _ hdone)
      · have hne : c' ≠ c := by
          rintro rfl
          exact hcommits call hcall
        exact Or.inr ⟨call, by simpa [System.goto, Function.update_of_ne hne] using hcall, hgoal⟩
    · obtain ⟨rfl, call, rfl, hgoal⟩ := hwritten c' goalId hnew
      exact Or.inr ⟨call, by simp [System.goto], hgoal⟩
  · intro c' goalId hmem
    rcases List.mem_append.mp hmem with hold | hnew
    · obtain ⟨transition, hreturned⟩ := h.winner c' goalId hold
      have hne : c' ≠ c := by
        rintro rfl
        exact hrunning _ hreturned
      exact ⟨transition, by simpa [System.goto, Function.update_of_ne hne] using hreturned⟩
    · exact absurd hnew (hcommitted c' goalId)
  · intro goalId record c' hfound hres hdone
    exact List.mem_append_left _ (h.settled goalId record c' hfound hres hdone)

/-- An event that is about no entry. -/
theorem Owned.quiet (h : Owned s) {notes : List Note} (hholds : p.holds = (s.pc c).holds)
    (hbefore : (s.pc c).isCommitting = false) (hafter : p.isCommitting = false)
    (hnotes : ∀ note ∈ notes, note.goal = none) (hrunning : ∀ reply, s.pc c ≠ .returned reply) :
    Owned (s.goto c p notes) := by
  refine h.stay hholds (fun goalId => ?_) (fun c' goalId hmem => ?_) (fun call hcall => ?_)
    (fun c' goalId hmem => ?_) hrunning
  · have hsame : ∀ c', ((s.goto c p notes).pc c').isCommitting = (s.pc c').isCommitting := by
      intro c'
      simp only [System.goto, Function.update_apply]
      split
      · next heq => rw [heq, hbefore, hafter]
      · rfl
    have hslot : slotOf (s.goto c p notes) goalId = slotOf s goalId := by
      simp only [slotOf, hsame]
      rfl
    rw [hslot]
    refine Automaton.after_others fun note hnote => ?_
    rw [show slots.about note = none from hnotes note hnote]
    exact nofun
  · cases hnotes _ hmem
  · rw [hcall] at hbefore
    cases hbefore
  · cases hnotes _ hmem

/-- A failing or successful reservation touches only its own entry. -/
theorem reserve_owned (h : Owned s) {call : Call} {operation : Bool} (hpc : s.pc c = .entered call) :
    Owned (reserve c call operation s) := by
  have hidle : (s.pc c).holds = none ∧ (s.pc c).isCommitting = false := by
    rw [hpc]
    exact ⟨rfl, rfl⟩
  have hrunning : ∀ reply, s.pc c ≠ .returned reply := by simp [hpc]
  unfold reserve
  cases operation with
  | false => exact h.quiet hidle.1.symm hidle.2 rfl (by simp [Note.goal]) hrunning
  | true =>
    cases hreserve : s.registry.reserve call.info.goalId with
    | mk done registry =>
      cases done with
      | false => exact h.quiet hidle.1.symm hidle.2 rfl (by simp [Note.goal]) hrunning
      | true =>
        obtain ⟨hfree, rfl⟩ := Registry.reserve_true.mp hreserve
        have hnone := AList.lookup_eq_none.mpr hfree
        have hlookup : (s.registry.goals.insert call.info.goalId GoalRecord.reservation).lookup
            call.info.goalId = some GoalRecord.reservation := AList.lookup_insert _
        simp only [Bool.not_true, Bool.false_eq_true, if_false]
        refine h.act call.info.goalId rfl rfl (fun _ hne => AList.lookup_insert_ne hne)
          (fun _ hne => Function.update_of_ne hne _ _) (by simp [hidle.1])
          (by simp [Pc.holds, eq_comm]) (by simp [Note.goal, eq_comm]) ?_ ?_ ?_ (by simp)
          (by simp [hpc]) (by simp) hrunning ?_
        · intro record hfound
          exact ⟨c, Function.update_self .., fun _ => by simp [System.goto, Pc.holds]⟩
        · intro c' hc'
          refine ⟨_, hlookup, rfl, ?_⟩
          by_cases hne : c' = c
          · rw [hne]
            exact Function.update_self ..
          · have hholds : (s.pc c').holds = some call.info.goalId := by
              simpa [System.goto, Function.update_of_ne hne] using hc'
            obtain ⟨record, hfound, -⟩ := h.holder c' _ hholds
            rw [hnone] at hfound
            cases hfound
        · rw [Automaton.after_single rfl]
          simp [slotOf, hnone, slots, Slot.next, System.goto, Pc.isCommitting,
            GoalRecord.reservation]
        · intro record c' hfound hres hdone
          obtain rfl := Option.some.inj (hlookup.symm.trans hfound)
          cases hdone

/-- A response write touches no entry. -/
theorem write_owned (h : Owned s) {call : Call} {outcome : Option (Result Unit)}
    (hpc : s.pc c = .writing call) : Owned (write c call outcome s) := by
  have hrunning : ∀ reply, s.pc c ≠ .returned reply := by simp [hpc]
  have hquiet : (s.pc c).isCommitting = false := by rw [hpc]; rfl
  match outcome with
  | none => exact h.quiet (by rw [hpc]; rfl) hquiet rfl nofun hrunning
  | some (.error e) => exact h.quiet (by rw [hpc]; rfl) hquiet rfl nofun hrunning
  | some (.ok _) =>
    obtain ⟨record, hfound, huncommitted, hres⟩ := h.holder c call.info.goalId (by rw [hpc]; rfl)
    refine h.stay (by rw [hpc]; rfl) (fun goalId => ?_) (fun c' goalId hmem => ?_) (by simp [hpc])
      (by simp) hrunning
    · by_cases hid : goalId = call.info.goalId
      · subst hid
        have hbefore : slotOf s call.info.goalId = .reserved c := by
          simp [slotOf, hfound, hres, huncommitted, hquiet]
        have hafter : slotOf (s.goto c (.committing call) [.written c call.info.goalId])
            call.info.goalId = .written c := by
          simp [slotOf, System.goto, hfound, hres, huncommitted, Pc.isCommitting]
        rw [hbefore, hafter, Automaton.after_single rfl]
        simp [slots, Slot.next]
      · have hslot : slotOf (s.goto c (.committing call) [.written c call.info.goalId]) goalId =
            slotOf s goalId :=
          h.slotOf_eq rfl rfl rfl (by simp [hpc, Pc.holds, Ne.symm hid])
        rw [hslot]
        exact Automaton.after_others (by simp [slots, Note.goal, Ne.symm hid])
    · obtain ⟨rfl, rfl⟩ : c' = c ∧ goalId = call.info.goalId := by simpa using hmem
      exact ⟨rfl, call, rfl, rfl⟩

/-- After a successful write the entry is there and the commit succeeds. -/
theorem commit_owned (h : Owned s) {call : Call} (hpc : s.pc c = .committing call) :
    Owned (commit c call s) := by
  obtain ⟨record, hfound, huncommitted, hres⟩ := h.holder c call.info.goalId (by rw [hpc]; rfl)
  have hlookup : (s.registry.goals.insert call.info.goalId
      (record.commit call.info call.mode)).lookup call.info.goalId =
        some (record.commit call.info call.mode) := AList.lookup_insert _
  have hcommitting : (s.pc c).isCommitting = true := by rw [hpc]; rfl
  simp only [commit, Registry.commit_eq hfound huncommitted]
  refine h.act call.info.goalId rfl rfl (fun _ hne => AList.lookup_insert_ne hne)
    (fun _ _ => rfl) (by simp [hpc, Pc.holds, eq_comm]) (by simp [Pc.holds])
    (by simp [Note.goal, eq_comm]) ?_ ?_ ?_ (by simp) (by simp [hpc]) (by simp) (by simp [hpc]) ?_
  · intro record' hfound'
    refine ⟨c, hres, fun hun => ?_⟩
    obtain rfl := Option.some.inj (hlookup.symm.trans hfound')
    cases hun
  · exact fun c' hc' => absurd hc' (h.nobody hres rfl c')
  · have hbefore : slotOf s call.info.goalId = .written c := by
      simp [slotOf, hfound, hres, huncommitted, hcommitting]
    rw [hbefore]
    simp [slotOf, hres, slots, Slot.next, Automaton.after, Note.goal, System.goto,
      GoalRecord.commit]
  · intro record' c' hfound' hres' hdone
    have hc : c' = c := by
      have hboth : some c' = some c := hres'.symm.trans hres
      exact Option.some.inj hboth
    simp [hc, System.goto]

/-- A rollback removes the call's own entry. -/
theorem rollback_owned (h : Owned s) {call : Call} {reply : Reply}
    (hpc : s.pc c = .rollingBack call reply) : Owned (rollback c call reply s) := by
  obtain ⟨record, hfound, huncommitted, hres⟩ := h.holder c call.info.goalId (by rw [hpc]; rfl)
  have hgone : (s.registry.goals.erase call.info.goalId).lookup call.info.goalId = none :=
    AList.lookup_erase ..
  have hquiet : (s.pc c).isCommitting = false := by rw [hpc]; rfl
  simp only [rollback, Registry.rollbackReservation_eq hfound huncommitted]
  refine h.act call.info.goalId rfl rfl (fun _ hne => AList.lookup_erase_ne hne)
    (fun _ _ => rfl) (by simp [hpc, Pc.holds, eq_comm]) (by simp [Pc.holds])
    (by simp [Note.goal, eq_comm]) ?_ ?_ ?_ (by simp) (by simp [hpc]) (by simp) (by simp [hpc]) ?_
  · intro record' hfound'
    rw [show _ = none from hgone] at hfound'
    cases hfound'
  · exact fun c' hc' => absurd hc' (h.nobody hres rfl c')
  · have hbefore : slotOf s call.info.goalId = .reserved c := by
      simp [slotOf, hfound, hres, huncommitted, hquiet]
    rw [hbefore]
    simp [slotOf, hgone, slots, Slot.next, Automaton.after, Note.goal, System.goto]
  · intro record' c' hfound'
    rw [show _ = none from hgone] at hfound'
    cases hfound'

/-- The other operations never touch an uncommitted entry. -/
theorem other_owned (h : Owned s) {now : ℤ} {op : Op} (hop : op.transactional = false) :
    Owned (other now op s) := by
  have heffect := fun goalId => Registry.apply_nontransactional s.registry now goalId hop
  generalize hregistry : (s.registry.apply now op).2 = registry at heffect
  have hkept : ∀ goalId record', registry.goals.lookup goalId = some record' →
      ∃ record, s.registry.goals.lookup goalId = some record ∧
        record'.committed = record.committed := by
    intro goalId record' hafter
    have hboth := heffect goalId
    rw [hafter] at hboth
    cases hbefore : s.registry.goals.lookup goalId with
    | none =>
      rw [hbefore] at hboth
      cases hboth
    | some record =>
      rw [hbefore] at hboth
      exact ⟨record, rfl, hboth⟩
  simp only [other, hregistry]
  refine ⟨fun goalId record' hafter => ?_, fun c goalId hholds => ?_, fun goalId => ?_, ?_, ?_, ?_⟩
  · obtain ⟨record, hbefore, hsame⟩ := hkept goalId record' hafter
    obtain ⟨c, hres, hholds⟩ := h.owner goalId record hbefore
    exact ⟨c, hres, fun huncommitted => hholds (hsame ▸ huncommitted)⟩
  · obtain ⟨record, hbefore, huncommitted, hres⟩ := h.holder c goalId hholds
    have hboth := heffect goalId
    rw [hbefore] at hboth
    cases hafter : registry.goals.lookup goalId with
    | none =>
      rw [hafter] at hboth
      rw [show record.committed = true from hboth] at huncommitted
      cases huncommitted
    | some record' =>
      rw [hafter] at hboth
      exact ⟨record', rfl, Eq.trans hboth huncommitted, hres⟩
  · rw [Automaton.after_append, h.orderly goalId, Option.bind_some,
      Automaton.after_map (fun _ => rfl) erasures_nodup]
    have hboth := heffect goalId
    cases hbefore : s.registry.goals.lookup goalId with
    | none =>
      rw [hbefore] at hboth
      have hafter : registry.goals.lookup goalId = none := hboth
      have hno : goalId ∉ erasures s.registry registry := by
        intro hmem
        obtain ⟨record, hfound, -⟩ := mem_erasures.mp hmem
        rw [hbefore] at hfound
        cases hfound
      rw [if_neg hno]
      simp [slotOf, hbefore, hafter]
    | some record =>
      rw [hbefore] at hboth
      obtain ⟨c, hres, -⟩ := h.owner goalId record hbefore
      cases hafter : registry.goals.lookup goalId with
      | some record' =>
        rw [hafter] at hboth
        have hsame : record'.committed = record.committed := hboth
        rw [if_neg (not_erased_of_kept hafter)]
        simp [slotOf, hbefore, hafter, hres, hsame]
      | none =>
        rw [hafter] at hboth
        have hcommitted : record.committed = true := hboth
        rw [if_pos (mem_erasures.mpr ⟨record, hbefore, hcommitted, AList.lookup_eq_none.mp hafter⟩)]
        simp [slotOf, hbefore, hafter, hres, hcommitted, slots, Slot.next]
  · intro c goalId hmem
    have hold : .written c goalId ∈ s.log := by simpa using hmem
    exact (h.writer c goalId hold).imp_left (List.mem_append_left _)
  · intro c goalId hmem
    exact h.winner c goalId (by simpa using hmem)
  · intro goalId record' c hafter hres hcommitted
    obtain ⟨record, hbefore, hsame⟩ := hkept goalId record' hafter
    exact List.mem_append_left _ (h.settled goalId record c hbefore hres (hsame ▸ hcommitted))

end

/-- Nothing is owned at the start. -/
theorem Owned.initial (resultTimeout : ℤ) : Owned (System.initial resultTimeout) where
  owner := nofun
  holder := nofun
  orderly := fun _ => rfl
  writer := nofun
  winner := nofun
  settled := nofun

/-- Every event keeps the ownership. -/
theorem Owned.next {s : System} (h : Owned s) {e : Event} (hen : machine.enabled s e) :
    Owned (machine.next s e) := by
  cases e with
  | enter c call =>
    have hpc : s.pc c = .unborn := hen
    exact h.quiet (by rw [hpc]; rfl) (by rw [hpc]; rfl) rfl (by simp [Note.goal]) (by simp [hpc])
  | reserve c call operation => exact reserve_owned h hen
  | write c call outcome => exact write_owned h hen
  | commit c call => exact commit_owned h hen
  | rollback c call reply => exact rollback_owned h hen
  | other now op => exact other_owned h hen

/-- Reservation, write and commit act as one transaction. -/
structure ExactlyOnce (s : System) : Prop where
  /-- Between two successful writes for one goal the first call committed, the
  goal it accepted was erased, and only then the second call reserved. -/
  one_winner : ∀ first second third c c' goalId,
    s.log = first ++ .written c goalId :: (second ++ .written c' goalId :: third) →
      ∃ fourth fifth sixth seventh,
        second = fourth ++ .committed c goalId ::
          (fifth ++ .erased goalId :: (sixth ++ .reserved c' goalId :: seventh))
  /-- A written call has committed or stands right before its commit. -/
  written_commits : ∀ c goalId, .written c goalId ∈ s.log →
    .committed c goalId ∈ s.log ∨ ∃ call, s.pc c = .committing call ∧ call.info.goalId = goalId
  /-- The commit of a written response succeeds. -/
  no_fault : ∀ c call, s.pc c = .committing call →
    (s.registry.commit call.info call.mode).1 = true
  /-- A failed call left no entry of its own. -/
  failed_clean : ∀ c reply, s.pc c = .returned reply →
    (∀ transition, reply ≠ .success transition) →
      ∀ goalId ∈ s.registry.goals, s.reservedBy goalId ≠ some c
  /-- No call touches an entry that another one reserved. -/
  others_untouched : ∀ e c, machine.enabled s e → e.call = some c →
    ∀ goalId record, s.registry.goals.lookup goalId = some record → s.reservedBy goalId ≠ some c →
      (machine.next s e).registry.goals.lookup goalId = some record ∧
        (machine.next s e).reservedBy goalId = s.reservedBy goalId

section

variable {slot slot' : Slot} {note : Note} {c : CallId} {goalId : GoalId}

/-- Only its reservation brings an entry to a call. -/
theorem next_eq_reserved (h : slot.next note = some (.reserved c)) :
    slot = .free ∧ ∃ goalId, note = .reserved c goalId := by
  unfold Slot.next at h
  split at h <;> simp_all

/-- Only a reserved entry is written for. -/
theorem next_of_written (h : slot.next (.written c goalId) = some slot') :
    slot = .reserved c ∧ slot' = .written c := by
  unfold Slot.next at h
  split at h <;> simp_all

/-- A written entry is left by its commit. -/
theorem written_next (h : (Slot.written c).next note = some slot') :
    slot' = .live c ∧ ∃ goalId, note = .committed c goalId := by
  unfold Slot.next at h
  split at h <;> simp_all

/-- A live entry is left by its erasure. -/
theorem live_next (h : (Slot.live c).next note = some slot') :
    slot' = .free ∧ ∃ goalId, note = .erased goalId := by
  unfold Slot.next at h
  split at h <;> simp_all

/-- From one call's write to the next call's reservation. -/
theorem after_written {c' : CallId} {history : List Note}
    (h : slots.after goalId (.written c) history = some (.reserved c')) :
    ∃ first second third fourth,
      history = first ++ .committed c goalId ::
        (second ++ .erased goalId :: (third ++ .reserved c' goalId :: fourth)) := by
  rcases Automaton.after_last h with
    ⟨hsame, -⟩ | ⟨before, last, fourth, middle, rfl, hlast, -, hbefore, hnext⟩
  · cases hsame
  obtain ⟨rfl, id, rfl⟩ := next_eq_reserved hnext
  obtain rfl : id = goalId := Option.some.inj hlast
  obtain ⟨first, note, rest, middle, rfl, habout, hcommit, hrest⟩ :=
    Automaton.after_first hbefore (by simp)
  obtain ⟨rfl, id', rfl⟩ := written_next hcommit
  obtain rfl : id' = id := Option.some.inj habout
  obtain ⟨second, note, third, middle, rfl, habout, herase, -⟩ :=
    Automaton.after_first hrest (by simp)
  obtain ⟨rfl, id'', rfl⟩ := live_next herase
  obtain rfl : id'' = id' := Option.some.inj habout
  exact ⟨first, second, third, fourth, by simp⟩

end

/-- The transaction law follows from the ownership. -/
theorem Owned.law {s : System} (h : Owned s) : ExactlyOnce s where
  one_winner := by
    intro first second third c c' goalId hlog
    have horder := h.orderly goalId
    rw [hlog] at horder
    obtain ⟨before, next, -, hwrite, hrest⟩ := Automaton.after_cut rfl horder
    obtain ⟨-, rfl⟩ := next_of_written hwrite
    obtain ⟨before', next', hsecond, hwrite', -⟩ := Automaton.after_cut rfl hrest
    obtain ⟨rfl, -⟩ := next_of_written hwrite'
    exact after_written hsecond
  written_commits := h.writer
  no_fault := by
    intro c call hpc
    obtain ⟨record, hfound, huncommitted, -⟩ := h.holder c call.info.goalId (by rw [hpc]; rfl)
    rw [Registry.commit_eq hfound huncommitted]
  failed_clean := by
    intro c reply hpc hfailed goalId hmem hres
    obtain ⟨record, hfound⟩ := Option.isSome_iff_exists.mp (AList.lookup_isSome.mpr hmem)
    obtain ⟨owner, howner, hholds⟩ := h.owner goalId record hfound
    obtain rfl : owner = c := Option.some.inj (howner.symm.trans hres)
    cases hcommitted : record.committed with
    | false =>
      have hidle := hholds hcommitted
      rw [hpc] at hidle
      cases hidle
    | true =>
      obtain ⟨transition, hreturned⟩ :=
        h.winner owner goalId (h.settled goalId record owner hfound hres hcommitted)
      rw [hpc] at hreturned
      exact hfailed transition (Pc.returned.inj hreturned)
  others_untouched := by
    intro e c hen hcall goalId record hfound hres
    have hforeign : ∀ call : Call, (s.pc c).holds = some call.info.goalId →
        goalId ≠ call.info.goalId := by
      rintro call hholds rfl
      obtain ⟨_, _, _, howned⟩ := h.holder c _ hholds
      exact hres howned
    cases e with
    | enter c' call => exact ⟨hfound, rfl⟩
    | reserve c' call operation =>
      simp only [machine, GoalAccept.next, reserve]
      cases operation with
      | false => exact ⟨hfound, rfl⟩
      | true =>
        cases hreserve : s.registry.reserve call.info.goalId with
        | mk done registry =>
          cases done with
          | false => exact ⟨hfound, rfl⟩
          | true =>
            obtain ⟨hfree, rfl⟩ := Registry.reserve_true.mp hreserve
            have hne : goalId ≠ call.info.goalId := by
              rintro rfl
              rw [AList.lookup_eq_none.mpr hfree] at hfound
              cases hfound
            exact ⟨(AList.lookup_insert_ne hne).trans hfound, Function.update_of_ne hne _ _⟩
    | write c' call outcome =>
      simp only [machine, GoalAccept.next, write]
      split <;> exact ⟨hfound, rfl⟩
    | commit c' call =>
      obtain rfl : c' = c := Option.some.inj hcall
      have hpc : s.pc c' = .committing call := hen
      obtain ⟨_, hown, huncommitted, -⟩ := h.holder c' call.info.goalId (by rw [hpc]; rfl)
      simp only [machine, GoalAccept.next, commit, Registry.commit_eq hown huncommitted]
      exact ⟨(AList.lookup_insert_ne (hforeign call (by rw [hpc]; rfl))).trans hfound, rfl⟩
    | rollback c' call reply =>
      obtain rfl : c' = c := Option.some.inj hcall
      have hpc : s.pc c' = .rollingBack call reply := hen
      obtain ⟨_, hown, huncommitted, -⟩ := h.holder c' call.info.goalId (by rw [hpc]; rfl)
      simp only [machine, GoalAccept.next, rollback,
        Registry.rollbackReservation_eq hown huncommitted]
      exact ⟨(AList.lookup_erase_ne (hforeign call (by rw [hpc]; rfl))).trans hfound, rfl⟩
    | other now op => cases hcall

/-- In every run, accepting a goal is a transaction. -/
theorem accept_exactly_once (resultTimeout : ℤ) (es : List Event) (s : System)
    (hrun : machine.Run (System.initial resultTimeout) es s) : ExactlyOnce s := by
  refine (hrun.invariant Owned (.initial resultTimeout) ?_).law
  intro s e h hen _
  exact h.next hen

/-- The goal of the sample runs. -/
def sampleGoal : GoalId := ⟨Vector.replicate 16 1⟩

/-- A call that accepts and starts the sample goal. -/
def sampleCall : Call := ⟨⟨⟨Vector.replicate 16 2⟩,7⟩,⟨sampleGoal,0⟩,.execute⟩

/-- Two concurrent calls; the second one finds the goal reserved. -/
def contended : List Event :=
  [.enter 0 sampleCall,.enter 1 sampleCall,.reserve 0 sampleCall true,.reserve 1 sampleCall true,
    .write 0 sampleCall (some (.ok ())),.commit 0 sampleCall]

/-- The law for two concurrent calls. -/
theorem accept_exactly_once_contended :
    ∃ s, machine.exec (System.initial 0) contended = some s ∧ ExactlyOnce s := by
  have hsome : (machine.exec (System.initial 0) contended).isSome := by decide
  obtain ⟨s, hexec⟩ := Option.isSome_iff_exists.mp hsome
  exact ⟨s, hexec, accept_exactly_once 0 contended s (Machine.run_of_exec hexec)⟩

/-- Each of two calls was invoked before the other one returned. -/
def Overlap (c c' : CallId) (goalId : GoalId) (log : List Note) : Prop :=
  [.entered c goalId,.returned c'].Sublist log ∧ [.entered c' goalId,.returned c].Sublist log

instance (c c' : CallId) (goalId : GoalId) (log : List Note) : Decidable (Overlap c c' goalId log) :=
  inferInstanceAs (Decidable (_ ∧ _))

/-- Call 1 is invoked first and reserves last: in between call 0 accepts the
goal, which ends and expires. -/
def outlived : List Event :=
  [.enter 1 sampleCall,.enter 0 sampleCall,
    .reserve 0 sampleCall true,.write 0 sampleCall (some (.ok ())),.commit 0 sampleCall,
    .other 5 (.updateState sampleGoal .succeed),.other 5 .takeExpiredGoals,
    .reserve 1 sampleCall true,.write 1 sampleCall (some (.ok ())),.commit 1 sampleCall]

/-- Of two calls that overlap by invocation and return, both may accept. -/
theorem outlived_accepts_twice :
    ¬ ∀ resultTimeout es s c c' goalId, machine.Run (System.initial resultTimeout) es s →
      c ≠ c' → Overlap c c' goalId s.log → .committed c goalId ∈ s.log →
        .committed c' goalId ∉ s.log := by
  intro hclaim
  have hboth : (machine.exec (System.initial 0) outlived).map (fun s =>
      decide (Overlap 0 1 sampleGoal s.log ∧ .committed 0 sampleGoal ∈ s.log ∧
        .committed 1 sampleGoal ∈ s.log)) = some true := by decide
  obtain ⟨s, hexec, hfinal⟩ := Option.map_eq_some_iff.mp hboth
  obtain ⟨hoverlap, hfirst, hsecond⟩ := of_decide_eq_true hfinal
  exact hclaim 0 outlived s 0 1 sampleGoal (Machine.run_of_exec hexec) (by decide) hoverlap hfirst
    hsecond

end Dmw.GoalAccept
