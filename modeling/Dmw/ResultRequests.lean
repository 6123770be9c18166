import Dmw.GoalRegistry
import Dmw.GuardedRuns

/-!
# Waiting result requests

A request waits with one goal, once, until it is handed over or removed. Four
operations change the lists on purpose; pruning erases a record together with
whatever still waits in it, and is the only way a waiting request gets lost.
-/

namespace Dmw.ResultRequests

open Identity KeyedTable GuardedRuns GoalRegistry

/-- A request waits with at most one goal, and there once. -/
structure Associated (r : Registry) : Prop where
  /-- At most one goal keeps a request. -/
  one_goal : ∀ goalId goalId' requestId,
    r.Keeps goalId requestId → r.Keeps goalId' requestId → goalId = goalId'
  /-- No list repeats a request. -/
  once : ∀ goalId record, r.goals.lookup goalId = some record →
    record.pendingResultRequests.Nodup

/-- The operation newly associates the request with the goal. -/
def Registers (op : Op) (outcome : Outcome) (goalId : GoalId) (requestId : RequestId) : Prop :=
  op = .registerResultRequest goalId requestId ∧ outcome = .disposition (.ok .pending)

section

variable {r : Registry} {now : ℤ} {op : Op} {goalId : GoalId} {requestId : RequestId}

/-- What survives pruning was kept by a goal that has not expired. -/
theorem keeps_prune : (r.pruneExpiredLocked now).Keeps goalId requestId ↔
    ∃ record, r.goals.lookup goalId = some record ∧ r.prunable now record = false ∧
      requestId ∈ record.pendingResultRequests := by
  simp only [Registry.Keeps, Registry.lookup_prune, Option.filter_eq_some_iff, Bool.not_eq_true',
    and_assoc]

/-- A removed request is kept nowhere; the others stay. -/
theorem keeps_remove {requestId' : RequestId} :
    (r.removeResultRequest requestId).Keeps goalId requestId' ↔
      requestId' ≠ requestId ∧ r.Keeps goalId requestId' := by
  simp only [Registry.Keeps, Registry.removeResultRequest, Table.lookup_mapValues,
    Option.map_eq_some_iff]
  constructor
  · rintro ⟨_, ⟨record, hfound, rfl⟩, hmem⟩
    obtain ⟨hold, hne⟩ := List.mem_filter.mp hmem
    exact ⟨by simpa using hne, record, hfound, hold⟩
  · rintro ⟨hne, record, hfound, hmem⟩
    exact ⟨_, ⟨record, hfound, rfl⟩, List.mem_filter.mpr ⟨hmem, by simpa using hne⟩⟩

/-- A request kept after an operation was kept before, by a goal that was not
pruned, or was newly registered. -/
theorem keeps_apply (hkeeps : (r.apply now op).2.Keeps goalId requestId) :
    (∃ record, r.goals.lookup goalId = some record ∧ requestId ∈ record.pendingResultRequests ∧
      (op.prunes = true → r.prunable now record = false)) ∨
    Registers op (r.apply now op).1 goalId requestId ∧
      ∀ other, ¬ (r.pruneExpiredLocked now).Keeps other requestId := by
  obtain ⟨record', hafter, hmem⟩ := hkeeps
  have hstep := Registry.apply_recordStep now op r goalId
  rw [hafter] at hstep
  generalize hbefore : r.goals.lookup goalId = before at hstep
  generalize houtcome : (r.apply now op).1 = outcome at hstep ⊢
  cases hstep with
  | keep _ _ _ hquiet hspares =>
    exact Or.inl ⟨record', rfl, hmem, (hspares record' rfl).unexpired⟩
  | reserve => cases hmem
  | commit => cases hmem
  | enter event next record hcommitted hactive hnext =>
    exact Or.inl ⟨record, rfl, hmem, nofun⟩
  | append requestId' record hcommitted hactive hfresh =>
    rcases List.mem_append.mp hmem with hold | hnew
    · exact Or.inl ⟨record, rfl, hold, fun _ => Registry.not_prunable_of_active hactive⟩
    · obtain rfl := List.mem_singleton.mp hnew
      exact Or.inr ⟨⟨rfl, rfl⟩, hfresh⟩
  | take => cases hmem
  | forget requestId' record =>
    exact Or.inl ⟨record, rfl, (List.mem_filter.mp hmem).1, nofun⟩

/-- Every operation keeps the association. -/
theorem Associated.apply (h : Associated r) : Associated (r.apply now op).2 where
  one_goal := by
    intro goalId goalId' requestId hkeeps hkeeps'
    rcases keeps_apply hkeeps with ⟨record, hfound, hmem, hkept⟩ | ⟨⟨rfl, -⟩, hfresh⟩
    · rcases keeps_apply hkeeps' with ⟨record', hfound', hmem', -⟩ | ⟨⟨rfl, -⟩, hfresh⟩
      · exact h.one_goal goalId goalId' requestId ⟨record, hfound, hmem⟩ ⟨record', hfound', hmem'⟩
      · exact absurd (keeps_prune.mpr ⟨record, hfound, hkept rfl, hmem⟩) (hfresh goalId)
    · rcases keeps_apply hkeeps' with ⟨record', hfound', hmem', hkept'⟩ | ⟨⟨heq, -⟩, -⟩
      · exact absurd (keeps_prune.mpr ⟨record', hfound', hkept' rfl, hmem'⟩) (hfresh goalId')
      · exact (Op.registerResultRequest.inj heq).1
  once := by
    intro goalId record' hafter
    have honce := h.once goalId
    have hstep := Registry.apply_recordStep now op r goalId
    rw [hafter] at hstep
    generalize hbefore : r.goals.lookup goalId = before at hstep honce
    generalize houtcome : (r.apply now op).1 = outcome at hstep
    cases hstep with
    | keep => exact honce record' rfl
    | reserve => exact List.nodup_nil
    | commit => exact List.nodup_nil
    | enter event next record hcommitted hactive hnext => exact honce record rfl
    | append requestId record hcommitted hactive hfresh =>
      have hkept : r.prunable now record = false := Registry.not_prunable_of_active hactive
      have hnew : requestId ∉ record.pendingResultRequests := fun hmem =>
        hfresh goalId (keeps_prune.mpr ⟨record, hbefore, hkept, hmem⟩)
      exact List.nodup_append.mpr ⟨honce record rfl, List.nodup_singleton _, fun a ha b hb => by
        rintro rfl
        exact hnew (List.mem_singleton.mp hb ▸ ha)⟩
    | take => exact List.nodup_nil
    | forget requestId record => exact (honce record rfl).filter _

end

/-- A registry, its clock and the requests that are owed to their goals. -/
structure Owing where
  /-- The registry. -/
  registry : Registry
  /-- Latest clock reading. -/
  clock : ℤ
  /-- Requests registered as pending and neither handed over nor removed;
  history only. -/
  awaiting : List (GoalId × RequestId)

/-- A new registry owes nothing. -/
def Owing.initial (resultTimeout clock : ℤ) : Owing := ⟨Registry.new resultTimeout,clock,[]⟩

/-- How an operation and its outcome change what is owed. -/
def settle (op : Op) (outcome : Outcome) (awaiting : List (GoalId × RequestId)) :
    List (GoalId × RequestId) :=
  match op, outcome with
  | .registerResultRequest goalId requestId, .disposition (.ok .pending) =>
    awaiting ++ [(goalId,requestId)]
  | .takePendingResultRequests goalId, .requests (.ok requestIds) =>
    awaiting.filter fun a => !(a.1 = goalId && requestIds.contains a.2)
  | .removeResultRequest requestId, _ => awaiting.filter fun a => a.2 ≠ requestId
  | _, _ => awaiting

/-- Registry operations at non-decreasing clock readings. -/
def machine : Machine Owing (ℤ × Op) where
  enabled := fun s e => s.clock ≤ e.1
  next := fun s e =>
    ⟨(s.registry.apply e.1 e.2).2,e.1,settle e.2 (s.registry.apply e.1 e.2).1 s.awaiting⟩
  decidableEnabled := fun s e => inferInstanceAs (Decidable (s.clock ≤ e.1))

/-- Every owed request waits with exactly its goal. -/
def NothingLost (s : Owing) : Prop :=
  ∀ goalId requestId, (goalId,requestId) ∈ s.awaiting →
    s.registry.Keeps goalId requestId ∧
      ∀ other, other ≠ goalId → ¬ s.registry.Keeps other requestId

/-- No pruning operation meets an expired goal with waiting requests. -/
def HandedOver (s : Owing) (e : ℤ × Op) : Prop :=
  e.2.prunes = true → ∀ goalId record, s.registry.goals.lookup goalId = some record →
    s.registry.prunable e.1 record = true → record.pendingResultRequests = []

/-- The lists hold nothing but owed requests. -/
structure Accounted (s : Owing) : Prop where
  /-- Lists do not overlap. -/
  associated : Associated s.registry
  /-- Whatever waits is owed. -/
  owed : ∀ goalId requestId, s.registry.Keeps goalId requestId →
    (goalId,requestId) ∈ s.awaiting

section

variable {r : Registry} {now : ℤ} {op : Op} {outcome : Outcome} {goalId : GoalId}
  {requestId : RequestId} {awaiting : List (GoalId × RequestId)}

/-- A request stops being owed by a hand-over of its goal or by its removal. -/
theorem mem_settle_of_mem (hmem : (goalId,requestId) ∈ awaiting)
    (htake : ∀ requestIds, op = .takePendingResultRequests goalId →
      outcome = .requests (.ok requestIds) → requestId ∉ requestIds)
    (hremove : op ≠ .removeResultRequest requestId) :
    (goalId,requestId) ∈ settle op outcome awaiting := by
  unfold settle
  split
  · exact List.mem_append_left _ hmem
  · next goalId' requestIds =>
    refine List.mem_filter.mpr ⟨hmem, ?_⟩
    by_cases hid : goalId = goalId'
    · subst hid
      simpa using htake requestIds rfl rfl
    · simp [hid]
  · next requestId' =>
    refine List.mem_filter.mpr ⟨hmem, ?_⟩
    have hne : requestId ≠ requestId' := by
      rintro rfl
      exact hremove rfl
    simpa using hne
  · exact hmem

/-- A request starts being owed by its registration. -/
theorem mem_of_mem_settle (hmem : (goalId,requestId) ∈ settle op outcome awaiting) :
    (goalId,requestId) ∈ awaiting ∧
        (∀ requestIds, op = .takePendingResultRequests goalId →
          outcome = .requests (.ok requestIds) → requestId ∉ requestIds) ∧
        op ≠ .removeResultRequest requestId ∨
      Registers op outcome goalId requestId := by
  unfold settle at hmem
  split at hmem
  · rcases List.mem_append.mp hmem with hold | hnew
    · exact Or.inl ⟨hold, nofun, nofun⟩
    · obtain ⟨rfl, rfl⟩ : goalId = _ ∧ requestId = _ := by simpa using hnew
      exact Or.inr ⟨rfl, rfl⟩
  · next goalId' requestIds =>
    obtain ⟨hold, hkept⟩ := List.mem_filter.mp hmem
    refine Or.inl ⟨hold, ?_, nofun⟩
    rintro requestIds' ⟨⟩ ⟨⟩
    simpa using hkept
  · next requestId' =>
    obtain ⟨hold, hkept⟩ := List.mem_filter.mp hmem
    refine Or.inl ⟨hold, nofun, ?_⟩
    rintro ⟨⟩
    simp at hkept
  · next hremove hregister htake =>
    refine Or.inl ⟨hmem, ?_, ?_⟩
    · rintro requestIds rfl rfl
      exact absurd rfl (htake goalId requestIds rfl)
    · rintro rfl
      exact hremove requestId rfl

/-- A request that is owed after an operation waits with its goal, unless
pruning erased the record. -/
theorem keeps_of_mem_settle
    (hold : (goalId,requestId) ∈ awaiting → r.Keeps goalId requestId)
    (hpruned : op.prunes = true → ∀ record, r.goals.lookup goalId = some record →
      r.prunable now record = true → record.pendingResultRequests = [])
    (hmem : (goalId,requestId) ∈ settle op (r.apply now op).1 awaiting) :
    (r.apply now op).2.Keeps goalId requestId := by
  have hstep := Registry.apply_recordStep now op r goalId
  generalize hafter : (r.apply now op).2.goals.lookup goalId = after at hstep
  generalize houtcome : (r.apply now op).1 = outcome at hstep hmem
  rcases mem_of_mem_settle hmem with ⟨howed, htake, hremove⟩ | ⟨rfl, rfl⟩
  · obtain ⟨record, hfound, hwaits⟩ := hold howed
    have hcommitted : record.committed = true := by
      by_contra huncommitted
      rw [(record.reservation_blank (by simpa using huncommitted)).2] at hwaits
      cases hwaits
    rw [hfound] at hstep
    cases hstep with
    | keep => exact ⟨record, hafter, hwaits⟩
    | prune _ _ _ hquiet hop hprunable =>
      rw [hpruned hop record hfound hprunable] at hwaits
      cases hwaits
    | rollback _ huncommitted =>
      rw [hcommitted] at huncommitted
      cases huncommitted
    | commit _ _ _ hid huncommitted =>
      rw [hcommitted] at huncommitted
      cases huncommitted
    | enter => exact ⟨_, hafter, hwaits⟩
    | append => exact ⟨_, hafter, List.mem_append_left _ hwaits⟩
    | take => exact absurd hwaits (htake _ rfl rfl)
    | forget requestId' =>
      refine ⟨_, hafter, List.mem_filter.mpr ⟨hwaits, ?_⟩⟩
      have hne : requestId ≠ requestId' := by
        rintro rfl
        exact hremove rfl
      simpa using hne
  · generalize r.goals.lookup goalId = before at hstep
    cases hstep with
    | keep _ _ _ hquiet => simp [Op.affects] at hquiet
    | prune _ _ _ hquiet => simp [Op.affects] at hquiet
    | append _ record hcommitted => exact ⟨_, hafter, List.mem_append_right _ (by simp)⟩

/-- A request that waits after an operation is owed. -/
theorem mem_settle_of_keeps
    (hold : r.Keeps goalId requestId → (goalId,requestId) ∈ awaiting)
    (hkeeps : (r.apply now op).2.Keeps goalId requestId) :
    (goalId,requestId) ∈ settle op (r.apply now op).1 awaiting := by
  rcases keeps_apply hkeeps with ⟨record, hfound, hwaits, -⟩ | ⟨⟨rfl, houtcome⟩, -⟩
  · obtain ⟨record', hafter, hmem⟩ := hkeeps
    have hstep := Registry.apply_recordStep now op r goalId
    rw [hafter] at hstep
    refine mem_settle_of_mem (hold ⟨record, hfound, hwaits⟩) ?_ ?_
    · rintro requestIds rfl houtcome
      rw [houtcome] at hstep
      generalize r.goals.lookup goalId = before at hstep
      cases hstep with
      | keep _ _ _ hquiet => simp [Op.affects] at hquiet
      | take => cases hmem
    · rintro rfl
      generalize r.goals.lookup goalId = before at hstep
      generalize (r.apply now (.removeResultRequest requestId)).1 = outcome at hstep
      cases hstep with
      | keep _ _ _ hquiet hspares => exact absurd rfl ((hspares _ rfl).noRemoval requestId)
      | forget => simp [GoalRecord.withoutRequest, GoalRecord.withRequests] at hmem
  · rw [houtcome]
    exact List.mem_append_right _ (by simp)

end

/-- Every operation keeps the lists accounted for. -/
theorem Accounted.next {s : Owing} (h : Accounted s) (e : ℤ × Op) :
    Accounted (machine.next s e) where
  associated := h.associated.apply
  owed := fun goalId requestId => mem_settle_of_keeps (h.owed goalId requestId)

/-- Every reachable state accounts for its lists. -/
theorem accounted_of_run {resultTimeout start : ℤ} {ok : Owing → ℤ × Op → Prop}
    {es : List (ℤ × Op)} {s : Owing}
    (hrun : machine.RunWhen ok (Owing.initial resultTimeout start) es s) : Accounted s := by
  refine hrun.invariant Accounted ⟨⟨?_, ?_⟩, ?_⟩ fun s e h _ _ => h.next e
  · rintro _ _ _ ⟨_, hfound, _⟩
    cases hfound
  · intro _ _ hfound
    cases hfound
  · rintro _ _ ⟨_, hfound, _⟩
    cases hfound

/-- An orderly step loses nothing. -/
theorem NothingLost.next {s : Owing} (hacc : Accounted s) (h : NothingLost s) {e : ℤ × Op}
    (hok : HandedOver s e) : NothingLost (machine.next s e) := by
  intro goalId requestId hmem
  have hkeeps : (machine.next s e).registry.Keeps goalId requestId :=
    keeps_of_mem_settle (fun hold => (h goalId requestId hold).1)
      (fun hop => hok hop goalId) hmem
  refine ⟨hkeeps, fun other hother hkeeps' => ?_⟩
  exact hother ((hacc.next e).associated.one_goal other goalId requestId hkeeps' hkeeps)

/-- Pruning a goal with waiting requests loses them at once. -/
theorem lost_of_pruned {s : Owing} (hacc : Accounted s) {e : ℤ × Op} (hbad : ¬ HandedOver s e) :
    ¬ NothingLost (machine.next s e) := by
  intro hnothing
  simp only [HandedOver, not_forall] at hbad
  obtain ⟨hop, goalId, record, hfound, hprunable, hwaits⟩ := hbad
  obtain ⟨requestId, hmem⟩ := List.exists_mem_of_ne_nil _ hwaits
  have howed : (goalId,requestId) ∈ (machine.next s e).awaiting := by
    refine mem_settle_of_mem (hacc.owed goalId requestId ⟨record, hfound, hmem⟩) ?_ ?_
    · rintro _ heq
      rw [heq] at hop
      cases hop
    · rintro heq
      rw [heq] at hop
      cases hop
  have hkeeps := (hnothing goalId requestId howed).1
  rcases keeps_apply hkeeps with ⟨record', hfound', -, hkept⟩ | ⟨hregisters, hfresh⟩
  · rw [hfound, Option.some.injEq] at hfound'
    rw [← hfound', hprunable] at hkept
    cases hkept hop
  · obtain ⟨heq, houtcome⟩ := hregisters
    have hstep := Registry.apply_recordStep e.1 e.2 s.registry goalId
    rw [houtcome, heq, hfound] at hstep
    generalize (s.registry.apply e.1 (.registerResultRequest goalId requestId)).2.goals.lookup
      goalId = after at hstep
    cases hstep with
    | keep _ _ _ hquiet => simp [Op.affects] at hquiet
    | prune _ _ _ hquiet => simp [Op.affects] at hquiet
    | append _ _ hcommitted hactive =>
      rw [Registry.not_prunable_of_active hactive] at hprunable
      cases hprunable

/-- Every owed request waits with its goal throughout a run exactly when no
operation of the run prunes a goal whose requests were not handed over. -/
theorem nothing_lost_iff (resultTimeout start : ℤ) (es : List (ℤ × Op)) (s : Owing)
    (hrun : machine.Run (Owing.initial resultTimeout start) es s) :
    machine.Always NothingLost (Owing.initial resultTimeout start) es ↔
      machine.RunWhen HandedOver (Owing.initial resultTimeout start) es s := by
  constructor
  · exact Machine.RunWhen.of_always accounted_of_run (fun _ _ hacc _ => lost_of_pruned hacc) hrun
  · refine Machine.RunWhen.always fun h => ?_
    exact h.invariant_using NothingLost accounted_of_run nofun
      fun _ _ hacc hnothing _ hok => hnothing.next hacc hok

/-- A goal that ends with a waiting request, taken in time. -/
def handOver : List (ℤ × Op) :=
  [(0,.reserve ⟨Vector.replicate 16 1⟩),
    (0,.commit ⟨⟨Vector.replicate 16 1⟩,0⟩ .execute),
    (1,.registerResultRequest ⟨Vector.replicate 16 1⟩ ⟨⟨Vector.replicate 16 2⟩,7⟩),
    (5,.updateState ⟨Vector.replicate 16 1⟩ .succeed),
    (5,.takePendingResultRequests ⟨Vector.replicate 16 1⟩),
    (6,.statusSnapshot)]

/-- The equivalence where the request is handed over before the goal expires. -/
theorem nothing_lost_iff_handOver :
    ∃ s, machine.exec (Owing.initial 0 0) handOver = some s ∧
      (machine.Always NothingLost (Owing.initial 0 0) handOver ↔
        machine.RunWhen HandedOver (Owing.initial 0 0) handOver s) := by
  have hsome : (machine.exec (Owing.initial 0 0) handOver).isSome := by decide
  obtain ⟨s, hexec⟩ := Option.isSome_iff_exists.mp hsome
  exact ⟨s, hexec, nothing_lost_iff 0 0 handOver s (Machine.run_of_exec hexec)⟩

/-- The status is published before the waiting requests are taken, as a result
timeout of zero allows. -/
def publishFirst : List (ℤ × Op) :=
  [(0,.reserve ⟨Vector.replicate 16 1⟩),
    (0,.commit ⟨⟨Vector.replicate 16 1⟩,0⟩ .execute),
    (1,.registerResultRequest ⟨Vector.replicate 16 1⟩ ⟨⟨Vector.replicate 16 2⟩,7⟩),
    (5,.updateState ⟨Vector.replicate 16 1⟩ .succeed),
    (5,.statusSnapshot)]

/-- A waiting request disappears without being taken or removed. -/
theorem publishFirst_loses :
    ¬ ∀ resultTimeout start es, 0 ≤ resultTimeout →
      machine.Always NothingLost (Owing.initial resultTimeout start) es := by
  intro hclaim
  have hend : (machine.exec (Owing.initial 0 0) publishFirst).map
      (fun s => (decide ((⟨Vector.replicate 16 1⟩,⟨⟨Vector.replicate 16 2⟩,7⟩) ∈ s.awaiting),
        (s.registry.goals.lookup ⟨Vector.replicate 16 1⟩).isNone)) = some (true,true) := by decide
  obtain ⟨s, hexec, hfinal⟩ := Option.map_eq_some_iff.mp hend
  simp only [Prod.mk.injEq, decide_eq_true_eq, Option.isNone_iff_eq_none] at hfinal
  obtain ⟨howed, hgone⟩ := hfinal
  obtain ⟨⟨record, hfound, -⟩, -⟩ := hclaim 0 0 publishFirst (Int.le_refl 0) publishFirst s
    List.prefix_rfl hexec _ _ howed
  rw [hgone] at hfound
  cases hfound

end Dmw.ResultRequests
