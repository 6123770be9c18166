import Dmw.WaitSetAdd

/-!
# When an add is atomic

An add blocks on a mutex of its own exactly where the first loop of the claim
meets a reader it cannot claim, which it tells to the helper while it holds
that reader's lock, or where it rolls a published registration back while it
holds the lock of the WaitSet. Elsewhere it returns, and a failure leaves the
readers as they were if every published reader was released again.
-/

namespace Dmw.AddAtomicity

open LockScopes LockScopes.Call WaitSetAdd

/-- The registration fields of every reader are what they were. -/
def Restored (before after : World) : Prop := ∀ r, after.readers r = before.readers r

/-- An add returns, and where it fails it leaves the readers alone. -/
def Atomic (env : Surroundings) (readers : List ReaderId) (w : World) : Prop :=
  ∃ outcome w', add env readers [] w = .ok (outcome,w') ∧
    ∀ code message, outcome = .failure code message → Restored w w'

/-- Every reader can be claimed when its visit of the first loop comes. -/
def Claimable (env : Surroundings) (t : ℕ) (readers : List ReaderId) (w : World) : Prop :=
  readers.Nodup ∧ ∀ i r, readers[i]? = some r →
    env.closing (t+i) r = false ∧ (w.readers r).waitSetId = 0 ∧ (w.readers r).claimInProgress = false

/-- Every native condition that is needed can be attached. -/
def Attachable (env : Surroundings) (t index : ℕ) (readers : List ReaderId) : Prop :=
  ∀ i r, readers[i]? = some r → env.blockingEnabled r = true →
    env.closing (t+index+i) r = false ∧ env.present r = true ∧ env.attaches (index+i) = true

/-- A reader is closing when it is published. -/
def Closes (env : Surroundings) (t : ℕ) (readers : List ReaderId) : Prop :=
  ∃ i r, readers[i]? = some r ∧ env.closing (t+i) r = true

/-- The `close` of a reader has taken the registration over and has released
every reader. -/
def HandedOver (env : Surroundings) (readers : List ReaderId) : Prop :=
  ∃ released, env.takeover = some released ∧ ∀ r ∈ readers, released r = true

/-- A registration that was taken over after its publication can be cleared
from the readers that are left. -/
def Clearable (env : Surroundings) (readers : List ReaderId) : Prop :=
  ∀ released, env.takeover = some released → ∀ i r, readers[i]? = some r → released r = false →
    env.blockingEnabled r = true → env.detaches i = true

section

variable {env : Surroundings} {readers rest : List ReaderId} {held : List Mutex} {w : World}
  {t index id : ℕ} {r : ReaderId}

/-- A property of all indices of a list, head first. -/
theorem forall_getElem?_cons {p : ℕ → ReaderId → Prop} :
    (∀ i r', (r :: rest)[i]? = some r' → p i r') ↔
      p 0 r ∧ ∀ i r', rest[i]? = some r' → p (i+1) r' := by
  constructor
  · intro h
    exact ⟨h 0 r rfl, fun i r' hi => h (i+1) r' hi⟩
  · rintro ⟨hhead, htail⟩ i r' hi
    cases i with
    | zero =>
      obtain rfl : r = r' := by simpa using hi
      exact hhead
    | succ i => exact htail i r' hi

/-- Claims of some readers dropped. -/
def unclaimed (readers : List ReaderId) (w : World) : World :=
  {w with readers := fun r =>
    if r ∈ readers then {w.readers r with claimInProgress := false} else w.readers r}

/-- Claims of some readers set. -/
def claimed (readers : List ReaderId) (w : World) : World :=
  {w with readers := fun r =>
    if r ∈ readers then {w.readers r with claimInProgress := true} else w.readers r}

/-- Claims are dropped one by one. -/
theorem foldl_unclaim (readers : List ReaderId) (w : World) :
    readers.foldl (fun w r => w.setReader r {w.readers r with claimInProgress := false}) w =
      unclaimed readers w := by
  induction readers generalizing w with
  | nil => rfl
  | cons r rest ih =>
    rw [List.foldl_cons, ih]
    simp only [unclaimed, World.setReader, World.mk.injEq, true_and]
    funext r'
    by_cases hr : r' = r
    · subst hr
      simp
    · simp [hr]

/-- Claim markers are dropped where no reader is locked. -/
theorem clearReaderClaims_ok (hfree : ∀ r, .callbackMutex r ∉ held) :
    clearReaderClaims readers held w = .ok ((),unclaimed readers w) := by
  rw [← foldl_unclaim]
  exact forEach_ok fun r _ w => locked_free (hfree r)

/-- Claim markers are not dropped where one of the readers is locked. -/
theorem clearReaderClaims_blocks (hmem : r ∈ readers) (hheld : .callbackMutex r ∈ held) :
    Blocks (clearReaderClaims readers) held w :=
  forEach_blocks hmem fun _ => locked_held hheld

/-- A reader that neither is closing nor belongs to anybody is claimed. -/
theorem claimReader_ok (hfree : ∀ r, .callbackMutex r ∉ held) (hopen : ¬ env.closing t r = true)
    (hclean : ¬ ((w.readers r).waitSetId ≠ 0 || (w.readers r).claimInProgress) = true) :
    claimReader env readers t r held w = .ok (.attached,claimed [r] w) := by
  rw [claimReader, locked_free (hfree r), bind_ok (read_apply _), if_neg hopen, if_neg hclean,
    bind_ok (update_apply _), pure_apply]
  congr 2
  simp only [claimed, World.setReader, World.mk.injEq, true_and]
  funext r'
  by_cases hr : r' = r
  · subst hr
    simp
  · simp [hr]

/-- Any other reader blocks: the helper that drops the claims wants the lock of
that very reader. -/
theorem claimReader_blocks (hmem : r ∈ readers)
    (h : env.closing t r = true ∨
      ((w.readers r).waitSetId ≠ 0 || (w.readers r).claimInProgress) = true) :
    Blocks (claimReader env readers t r) held w := by
  have hstuck : ∀ result, Blocks (clearReaderClaims readers >>= fun _ => pure result : AddCall AttachResult)
      (.callbackMutex r :: held) w :=
    fun _ => (clearReaderClaims_blocks hmem List.mem_cons_self).bind
  refine Blocks.locked ?_
  rw [Blocks, bind_ok (read_apply _)]
  by_cases hopen : env.closing t r = true
  · rw [if_pos hopen]
    exact hstuck .closing
  · rw [if_neg hopen, if_pos (h.resolve_left hopen)]
    exact hstuck .alreadyRegistered

/-- Claiming the head leaves the rest claimable exactly if it was so and does
not hold the head again. -/
theorem claimable_cons (hopen : ¬ env.closing t r = true)
    (hclean : ¬ ((w.readers r).waitSetId ≠ 0 || (w.readers r).claimInProgress) = true) :
    Claimable env t (r :: rest) w ↔ Claimable env (t+1) rest (claimed [r] w) := by
  have hlater : ∀ i, t+1+i = t+(i+1) := fun i => by omega
  constructor
  · rintro ⟨hnodup, hall⟩
    obtain ⟨hnotin, hnodup'⟩ := List.nodup_cons.mp hnodup
    refine ⟨hnodup', fun i r' hi => ?_⟩
    have hne : r' ≠ r := by
      rintro rfl
      exact hnotin (List.mem_of_getElem? hi)
    rw [hlater]
    simpa [claimed, hne] using (forall_getElem?_cons.mp hall).2 i r' hi
  · rintro ⟨hnodup, hall⟩
    have hnotin : r ∉ rest := by
      intro hin
      obtain ⟨i, hi⟩ := List.mem_iff_getElem?.mp hin
      simpa [claimed] using (hall i r hi).2.2
    refine ⟨List.nodup_cons.mpr ⟨hnotin, hnodup⟩, forall_getElem?_cons.mpr ⟨?_, fun i r' hi => ?_⟩⟩
    · simpa [hopen] using hclean
    · have hne : r' ≠ r := by
        rintro rfl
        exact hnotin (List.mem_of_getElem? hi)
      rw [← hlater]
      simpa [claimed, hne] using hall i r' hi

/-- Claims are set one by one. -/
theorem claimed_cons : claimed rest (claimed [r] w) = claimed (r :: rest) w := by
  simp only [claimed, World.mk.injEq, true_and]
  funext r'
  by_cases hr : r' = r
  · subst hr
    simp
  · simp [hr]

/-- The first loop claims what can be claimed. -/
theorem claimReaders_ok (hfree : ∀ r, .callbackMutex r ∉ held) (h : Claimable env t rest w) :
    claimReaders env readers t rest held w = .ok (.attached,claimed rest w) := by
  induction rest generalizing t w with
  | nil => simp [claimReaders, claimed]
  | cons r rest ih =>
    obtain ⟨hopen, hunregistered, hunclaimed⟩ := (forall_getElem?_cons.mp h.2).1
    have hopen' : ¬ env.closing t r = true := by simpa using hopen
    have hclean : ¬ ((w.readers r).waitSetId ≠ 0 || (w.readers r).claimInProgress) = true := by
      simp [hunregistered, hunclaimed]
    rw [claimReaders, bind_ok (claimReader_ok hfree hopen' hclean), if_pos rfl,
      ih ((claimable_cons hopen' hclean).mp h), claimed_cons]

/-- The first loop blocks at the first reader that cannot be claimed. -/
theorem claimReaders_blocks (hfree : ∀ r, .callbackMutex r ∉ held) (hsub : ∀ r ∈ rest, r ∈ readers)
    (h : ¬ Claimable env t rest w) : Blocks (claimReaders env readers t rest) held w := by
  induction rest generalizing t w with
  | nil => exact absurd ⟨List.nodup_nil, nofun⟩ h
  | cons r rest ih =>
    by_cases hstuck : env.closing t r = true ∨
        ((w.readers r).waitSetId ≠ 0 || (w.readers r).claimInProgress) = true
    · exact (claimReader_blocks (hsub r List.mem_cons_self) hstuck).bind
    · obtain ⟨hopen, hclean⟩ := not_or.mp hstuck
      rw [Blocks, claimReaders, bind_ok (claimReader_ok hfree hopen hclean), if_pos rfl]
      exact ih (fun r' hr' => hsub r' (List.mem_cons_of_mem r hr'))
        fun hrest => h ((claimable_cons hopen hclean).mpr hrest)

/-- The native attachment, where its mutexes are free. -/
theorem attachNative_ok (hreader : .readerMutex r ∉ held) (hnative : .nativeMutex ∉ held) :
    attachNativeCondition env t index r held w =
      .ok (if env.closing t r || !env.present r then .closing
        else if env.attaches index then .attached else .ddsError,w) := by
  have hinner : .nativeMutex ∉ Mutex.readerMutex r :: held := by simp [hnative]
  rw [attachNativeCondition, locked_free hreader]
  split
  · rfl
  · rw [locked_free hinner]
    rfl

/-- The condition of one reader is attached if it is needed and can be. -/
theorem attachSingle_ok (env : Surroundings) (t index : ℕ) (w : World)
    (hreader : .readerMutex r ∉ held) (hnative : .nativeMutex ∉ held) :
    ∃ result conditions, attachSingleReaderCondition env t index r held w =
        .ok (result,{w with readerConditions := conditions}) ∧
      (result = .attached ↔ (env.blockingEnabled r = true →
        env.closing t r = false ∧ env.present r = true ∧ env.attaches index = true)) ∧
      (result = .attached → ∀ j, conditions j =
        (w.readerConditions j || (j == index && env.blockingEnabled r))) := by
  rw [attachSingleReaderCondition]
  cases hblocking : env.blockingEnabled r with
  | false => exact ⟨.attached, w.readerConditions, rfl, by simp, by simp⟩
  | true =>
    simp only [Bool.not_true, Bool.false_eq_true, if_false, true_imp_iff, Bool.and_true]
    rw [bind_ok (attachNative_ok hreader hnative)]
    cases hopen : env.closing t r with
    | true => exact ⟨.closing, w.readerConditions, rfl, by simp, nofun⟩
    | false =>
      cases hpresent : env.present r with
      | false => exact ⟨.closing, w.readerConditions, rfl, by simp, nofun⟩
      | true =>
        cases hattaches : env.attaches index with
        | false => exact ⟨.ddsError, w.readerConditions, rfl, by simp, nofun⟩
        | true =>
          refine ⟨.attached, Function.update w.readerConditions index true, rfl, by simp, fun _ j => ?_⟩
          by_cases hj : j = index
          · subst hj
            simp
          · simp [hj]

/-- Attachments go on from reader to reader. -/
theorem attachable_cons : Attachable env t index (r :: rest) ↔
    (env.blockingEnabled r = true → env.closing (t+index) r = false ∧ env.present r = true ∧
      env.attaches index = true) ∧ Attachable env t (index+1) rest := by
  simp only [Attachable, forall_getElem?_cons, Nat.add_zero, Nat.add_assoc, Nat.add_comm 1]

/-- The attachments succeed together; they change nothing but the conditions. -/
theorem attachEach_ok (env : Surroundings) (t index : ℕ) (rest : List ReaderId) (w : World)
    (hreader : ∀ r, .readerMutex r ∉ held) (hnative : .nativeMutex ∉ held) :
    ∃ result conditions, attachEach env t index rest held w =
        .ok (result,{w with readerConditions := conditions}) ∧
      (result = .attached ↔ Attachable env t index rest) ∧
      (result = .attached → ∀ j, conditions j = (w.readerConditions j ||
        (index ≤ j && (rest[j-index]?).any env.blockingEnabled))) := by
  induction rest generalizing index w with
  | nil => exact ⟨.attached, w.readerConditions, rfl, by simp [Attachable], by simp⟩
  | cons r rest ih =>
    obtain ⟨first, conditions, hfirst, hattached, hset⟩ :=
      attachSingle_ok env (t+index) index w (hreader r) hnative
    rw [attachEach, bind_ok hfirst, attachable_cons]
    by_cases hgo : first = .attached
    · obtain ⟨result, conditions', hrest, hattached', hset'⟩ :=
        ih (index+1) {w with readerConditions := conditions}
      refine ⟨result, conditions', by rw [if_pos hgo, hrest], ?_, fun hresult j => ?_⟩
      · rw [hattached', ← hattached]
        exact ⟨fun h => ⟨hgo, h⟩, And.right⟩
      · refine (hset' hresult j).trans ?_
        change (conditions j || _) = _
        rw [hset hgo j, Bool.or_assoc]
        congr 1
        rcases Nat.lt_trichotomy j index with hlt | rfl | hgt
        · simp [Nat.ne_of_lt hlt, Nat.not_le_of_lt hlt, Nat.not_le_of_lt (Nat.lt_succ_of_lt hlt)]
        · have hpassed : decide (j+1 ≤ j) = false := decide_eq_false (Nat.not_succ_le_self j)
          rw [hpassed]
          simp
        · have hnext : j-index = j-(index+1)+1 := by omega
          simp [Nat.ne_of_gt hgt, Nat.le_of_lt hgt, Nat.succ_le_of_lt hgt, hnext]
    · refine ⟨first, conditions, by rw [if_neg hgo]; rfl, ?_, fun h => absurd h hgo⟩
      rw [← hattached]
      exact ⟨fun h => absurd h hgo, fun h => absurd h.1 hgo⟩

/-- Rolling one condition back changes nothing but the conditions. -/
theorem detachAttachedOne_ok (env : Surroundings) (index : ℕ) (w : World)
    (hnative : .nativeMutex ∉ held) :
    ∃ conditions, detachAttachedReaderCondition env index held w =
      .ok ((),{w with readerConditions := conditions}) := by
  rw [detachAttachedReaderCondition, bind_ok (read_apply _)]
  split
  · rw [detachNativeCondition, bind_ok ((locked_free hnative).trans pure_apply)]
    exact ⟨Function.update w.readerConditions index false, rfl⟩
  · exact ⟨w.readerConditions, rfl⟩

/-- Rolling the conditions back changes nothing but the conditions. -/
theorem detachAttached_ok (env : Surroundings) (readers : List ReaderId) (w : World)
    (hnative : .nativeMutex ∉ held) :
    ∃ conditions, detachAttachedReaderConditions env readers held w =
      .ok ((),{w with readerConditions := conditions}) := by
  rw [detachAttachedReaderConditions]
  induction List.range readers.length generalizing w with
  | nil => exact ⟨w.readerConditions, rfl⟩
  | cons index indices ih =>
    obtain ⟨conditions, hhead⟩ := detachAttachedOne_ok env index w hnative
    obtain ⟨conditions', hrest⟩ := ih {w with readerConditions := conditions}
    exact ⟨conditions', (bind_ok hhead).trans hrest⟩

/-- The attachment as a whole. -/
theorem attachReaders_ok (env : Surroundings) (t : ℕ) (readers : List ReaderId) (w : World)
    (hreader : ∀ r, .readerMutex r ∉ held) (hnative : .nativeMutex ∉ held) :
    ∃ result conditions, attachReaderConditions env t readers held w =
        .ok (result,{w with readerConditions := conditions}) ∧
      (result = .attached ↔ Attachable env t 0 readers) ∧
      (result = .attached → ∀ j, conditions j =
        (w.readerConditions j || (readers[j]?).any env.blockingEnabled)) := by
  obtain ⟨result, conditions, heach, hattached, hset⟩ := attachEach_ok env t 0 readers w hreader hnative
  rw [attachReaderConditions, bind_ok heach]
  by_cases hgo : result = .attached
  · refine ⟨result, conditions, ?_, hattached, by simpa using hset⟩
    simp only [hgo, ne_eq, not_true_eq_false, if_false]
    rfl
  · obtain ⟨conditions', hrollback⟩ :=
      detachAttached_ok env readers {w with readerConditions := conditions} hnative
    refine ⟨result, conditions', ?_, hattached, fun h => absurd h hgo⟩
    rw [if_pos hgo, bind_ok hrollback]
    rfl

/-- The registration stored in some readers. -/
def published (id : ℕ) (readers : List ReaderId) (w : World) : World :=
  {w with readers := fun r =>
    if r ∈ readers then ⟨false,w.waitSetId,id,w.paired⟩
    else w.readers r}

/-- Closing readers are met one after the other. -/
theorem closes_cons :
    Closes env t (r :: rest) ↔ env.closing t r = true ∨ Closes env (t+1) rest := by
  have hlater : ∀ i, t+1+i = t+(i+1) := fun i => by omega
  constructor
  · rintro ⟨i, r', hi, hclosing⟩
    cases i with
    | zero =>
      obtain rfl : r = r' := by simpa using hi
      exact Or.inl hclosing
    | succ i =>
      refine Or.inr ⟨i, r', hi, ?_⟩
      rw [hlater]
      exact hclosing
  · rintro (hclosing | ⟨i, r', hi, hclosing⟩)
    · exact ⟨0, r, rfl, hclosing⟩
    · refine ⟨i+1, r', hi, ?_⟩
      rw [← hlater]
      exact hclosing

/-- The second loop stores the registration in every reader. -/
theorem publishReaders_ok (env : Surroundings) (id t : ℕ) (rest : List ReaderId) (w : World)
    (hfree : ∀ r, .callbackMutex r ∉ held) :
    ∃ closes, publishReaders env id t rest held w = .ok (closes,published id rest w) ∧
      (closes = true ↔ Closes env t rest) := by
  induction rest generalizing t w with
  | nil => exact ⟨false, by simp [publishReaders, published], by simp [Closes]⟩
  | cons r rest ih =>
    have hhead : publishReader env id t r held w = .ok (env.closing t r,World.publish id r w) := by
      rw [publishReader, locked_free (hfree r), bind_ok (update_apply _)]
      rfl
    obtain ⟨closes, hrest, hcloses⟩ := ih (t+1) (World.publish id r w)
    refine ⟨env.closing t r || closes, ?_, ?_⟩
    · rw [publishReaders, bind_ok hhead, bind_ok hrest, pure_apply]
      congr 2
      simp only [published, World.publish, World.setReader, World.mk.injEq, true_and]
      funext r'
      by_cases hr : r' = r
      · subst hr
        simp
      · simp [hr]
    · rw [closes_cons, ← hcloses, Bool.or_eq_true]

/-- Rolling back a registration that is still attached blocks where the lock
of the WaitSet is held: both ends of `detach` take it. -/
theorem detach_blocks (env : Surroundings) (readers : List ReaderId) (id : ℕ)
    (hphase : w.phase = .attached) (hheld : .mutex ∈ held) :
    Blocks (detach env readers id) held w := by
  have hinner : .mutex ∈ Mutex.conditionsMutex :: held := List.mem_cons_of_mem _ hheld
  rw [Blocks, detach, bind_ok (read_apply _), if_neg (not_not.mpr hphase), bind_ok (update_apply _)]
  refine Blocks.locked ?_
  refine blocks_bind fun _ w' => blocks_bind fun _ w' => Blocks.bind (blocks_bind fun released w' => ?_)
  cases released with
  | true => exact (locked_held hinner).bind
  | false => exact blocks_bind fun _ w' => blocks_bind fun _ w' => (locked_held hinner).bind

/-- A registration that was taken over is left alone. -/
theorem detach_taken (env : Surroundings) (readers : List ReaderId) (id : ℕ)
    (hphase : w.phase ≠ .attached) : detach env readers id held w = .ok (false,w) := by
  rw [detach, bind_ok (read_apply _), if_pos hphase]
  rfl

/-- The registration cleared from those of some readers that hold it. -/
def released (id : ℕ) (readers : List ReaderId) (w : World) : World :=
  {w with readers := fun r =>
    if r ∈ readers ∧ w.registered id r = true then ⟨(w.readers r).claimInProgress,0,0,paired_cleared⟩
    else w.readers r}

/-- A reader can be released if its condition can be detached where there is one. -/
def Detachable (env : Surroundings) (id index : ℕ) (r : ReaderId) (w : World) : Prop :=
  w.registered id r = true → w.readerConditions index = true → env.detaches index = true

/-- A cleared reader is registered no more, the others as before. -/
theorem registered_released {r' : ReaderId} :
    (released id [r] w).registered id r' = (w.registered id r' && !(r' == r)) := by
  have hzero : 0 ≠ w.waitSetId := Nat.ne_of_lt w.positive
  by_cases hr : r' = r
  · subst hr
    cases hregistered : w.registered id r' with
    | false =>
      have hsame : (released id [r'] w).readers r' = w.readers r' := if_neg (by simp [hregistered])
      rw [World.registered, hsame]
      exact hregistered
    | true =>
      have hcleared : ((released id [r'] w).readers r').waitSetId = 0 := by
        simp [released, hregistered]
      rw [World.registered, hcleared]
      simp [released, hzero]
  · simp [released, World.registered, hr]

/-- A present condition is detached as DDS has it. -/
theorem detachPresent_ok (env : Surroundings) (index : ℕ) (present : Bool)
    (hnative : .nativeMutex ∉ held) :
    detachPresent env index present held w = .ok (!present || env.detaches index,w) := by
  cases present with
  | false => rfl
  | true => exact locked_free hnative

/-- A reader that is registered is cleared. -/
theorem clearReader_ok (hfree : .callbackMutex r ∉ held) (hregistered : w.registered id r = true) :
    clearReader id index r held w = .ok (true,{released id [r] w with
      readerConditions := Function.update w.readerConditions index false}) := by
  rw [clearReader, locked_free hfree, bind_ok (read_apply _), if_pos hregistered,
    bind_ok (update_apply _), pure_apply]
  congr 2
  simp only [released, World.unpublish, World.setReader, World.mk.injEq, true_and]
  funext r'
  by_cases hr : r' = r
  · subst hr
    simp [hregistered]
  · simp [hr]

/-- A deferred deletion changes nothing here. -/
theorem completeDeferredDelete_ok (env : Surroundings) (hreader : .readerMutex r ∉ held) :
    completeDeferredDelete env r held w = .ok ((),w) := by
  rw [completeDeferredDelete]
  split
  · exact locked_free hreader
  · rfl

/-- A release of one reader clears it. -/
theorem releaseReader_ok (hfree : ∀ r, .callbackMutex r ∉ held) (hreader : ∀ r, .readerMutex r ∉ held)
    (hnative : .nativeMutex ∉ held) (h : Detachable env id index r w) :
    ∃ conditions, releaseReader env id index r held w =
        .ok (true,{released id [r] w with readerConditions := conditions}) ∧
      ∀ j, j ≠ index → conditions j = w.readerConditions j := by
  rw [releaseReader, bind_ok ((locked_free (hfree r)).trans (read_apply _))]
  by_cases hregistered : w.registered id r = true
  · refine ⟨Function.update w.readerConditions index false, ?_, fun j hj => Function.update_of_ne hj ..⟩
    have hdetaches : (!w.readerConditions index || env.detaches index) = true := by
      cases hcondition : w.readerConditions index with
      | false => rfl
      | true => exact h hregistered hcondition
    rw [if_pos hregistered]
    dsimp only
    rw [bind_ok (detachPresent_ok env index _ hnative), if_pos hdetaches,
      bind_ok (clearReader_ok (hfree r) hregistered), if_pos rfl,
      bind_ok (completeDeferredDelete_ok env (hreader r)), pure_apply]
  · refine ⟨w.readerConditions, ?_, fun _ _ => rfl⟩
    have hsame : released id [r] w = w := by
      simp only [released, List.mem_singleton]
      congr 1
      funext r'
      rw [if_neg]
      rintro ⟨rfl, htrue⟩
      exact hregistered htrue
    rw [if_neg hregistered, hsame]
    rfl

/-- A release stops at a registered reader whose condition cannot be detached. -/
theorem releaseReader_stuck (hfree : ∀ r, .callbackMutex r ∉ held) (hnative : .nativeMutex ∉ held)
    (h : ¬ Detachable env id index r w) : releaseReader env id index r held w = .ok (false,w) := by
  obtain ⟨hregistered, hcondition, hfails⟩ : w.registered id r = true ∧
      w.readerConditions index = true ∧ ¬ env.detaches index = true := by
    simpa [Detachable] using h
  have hdetaches : ¬ (!w.readerConditions index || env.detaches index) = true := by
    simpa [hcondition] using hfails
  rw [releaseReader, bind_ok ((locked_free (hfree r)).trans (read_apply _)), if_pos hregistered]
  dsimp only
  rw [bind_ok (detachPresent_ok env index _ hnative), if_neg hdetaches, pure_apply]

/-- Readers are released one by one. -/
theorem released_cons : released id rest (released id [r] w) = released id (r :: rest) w := by
  change {w with readers := _} = {w with readers := _}
  congr 1
  funext r'
  rw [registered_released]
  by_cases hr : r' = r
  · subst hr
    simp [released]
  · simp [released, hr]

/-- A release that meets no obstacle clears every reader. -/
theorem releaseReaders_ok (hfree : ∀ r, .callbackMutex r ∉ held)
    (hreader : ∀ r, .readerMutex r ∉ held) (hnative : .nativeMutex ∉ held)
    (h : ∀ i r, rest[i]? = some r → Detachable env id (index+i) r w) :
    ∃ conditions, releaseReaders env id index rest held w =
      .ok (true,{released id rest w with readerConditions := conditions}) := by
  induction rest generalizing index w with
  | nil => exact ⟨w.readerConditions, by simp [releaseReaders, released]⟩
  | cons r rest ih =>
    have hhead : Detachable env id index r w := (forall_getElem?_cons.mp h).1
    have htail := (forall_getElem?_cons.mp h).2
    obtain ⟨conditions, hfirst, hkept⟩ := releaseReader_ok hfree hreader hnative hhead
    have hnext : ∀ i r', rest[i]? = some r' → Detachable env id (index+1+i) r'
        {released id [r] w with readerConditions := conditions} := by
      intro i r' hi hregistered hcondition
      have hregistered' : (released id [r] w).registered id r' = true := hregistered
      have hlater : index+1+i = index+(i+1) := by omega
      rw [registered_released] at hregistered'
      rw [hlater] at hcondition ⊢
      exact htail i r' hi (by simpa using (Bool.and_eq_true_iff.mp hregistered').1)
        ((hkept _ (by omega)).symm.trans hcondition)
    obtain ⟨conditions', hrest⟩ := ih hnext
    refine ⟨conditions', ?_⟩
    rw [releaseReaders, bind_ok hfirst, if_pos rfl]
    have hsame : {released id rest (released id [r] w) with readerConditions := conditions'} =
        {released id (r :: rest) w with readerConditions := conditions'} := by
      rw [released_cons]
    exact hrest.trans (congrArg (fun w : World => Except.ok (true,w)) hsame)

/-- A release that fails leaves a reader registered. -/
theorem releaseReaders_stuck (hfree : ∀ r, .callbackMutex r ∉ held)
    (hreader : ∀ r, .readerMutex r ∉ held) (hnative : .nativeMutex ∉ held) (hnodup : rest.Nodup)
    (h : ∃ i r, rest[i]? = some r ∧ ¬ Detachable env id (index+i) r w) :
    ∃ w', releaseReaders env id index rest held w = .ok (false,w') ∧
      ∃ r ∈ rest, w.registered id r = true ∧ w'.readers r = w.readers r := by
  induction rest generalizing index w with
  | nil =>
    obtain ⟨i, r, hi, -⟩ := h
    cases hi
  | cons r rest ih =>
    rw [releaseReaders]
    by_cases hhead : Detachable env id index r w
    · obtain ⟨conditions, hfirst, hkept⟩ := releaseReader_ok hfree hreader hnative hhead
      obtain ⟨i, r', hi, hstuck⟩ := h
      obtain ⟨hnotin, hnodup'⟩ := List.nodup_cons.mp hnodup
      cases i with
      | zero =>
        obtain rfl : r = r' := by simpa using hi
        exact absurd hhead hstuck
      | succ i =>
        have hi' : rest[i]? = some r' := hi
        have hne : ∀ r' ∈ rest, r' ≠ r := by
          rintro r' hmem rfl
          exact hnotin hmem
        have hlater : index+1+i = index+(i+1) := by omega
        have hnext : ¬ Detachable env id (index+1+i) r'
            {released id [r] w with readerConditions := conditions} := by
          intro hdetachable
          refine hstuck fun hregistered hcondition => ?_
          rw [hlater] at hdetachable
          refine hdetachable ?_ ((hkept _ (by omega)).trans hcondition)
          have hstill : (released id [r] w).registered id r' = true := by
            rw [registered_released, hregistered]
            simp [hne r' (List.mem_of_getElem? hi')]
          exact hstill
        obtain ⟨w', hrest, r'', hmem, hregistered, hsame⟩ := ih hnodup' ⟨i, r', hi', hnext⟩
        refine ⟨w', by rw [bind_ok hfirst, if_pos rfl, hrest], r'', List.mem_cons_of_mem r hmem, ?_, ?_⟩
        · have hregistered' : (released id [r] w).registered id r'' = true := hregistered
          rw [registered_released] at hregistered'
          exact (Bool.and_eq_true_iff.mp hregistered').1
        · rw [hsame]
          simp [released, hne r'' hmem]
    · refine ⟨w, ?_, r, List.mem_cons_self, ?_, rfl⟩
      · rw [bind_ok (releaseReader_stuck hfree hnative hhead)]
        rfl
      · by_contra hnot
        exact hhead fun hregistered => absurd hregistered hnot

/-- A topology mutation returns or blocks as its body does and leaves the readers to it. -/
theorem topologyMutation_iff {α : Type} {body : AddCall α} {p : α → (ReaderId → ReaderWaitState) → Prop}
    (hhandoff : .topologyHandoffMutex ∉ held) (hwake : .wakeMutex ∉ held) :
    (∃ a w', topologyMutation body held w = .ok (a,w') ∧ p a w'.readers) ↔
      ∃ a w', body held {w with activeTopologyMutations := w.activeTopologyMutations+1} = .ok (a,w') ∧
        p a w'.readers := by
  have hnotify : ∀ w, notify held w = .ok ((),w) := fun w => (locked_free hwake).trans pure_apply
  rw [topologyMutation, bind_ok ((locked_free hhandoff).trans (update_apply _)), bind_ok (hnotify _)]
  rcases returns_or_blocks body held {w with activeTopologyMutations := w.activeTopologyMutations+1}
    with ⟨a, w', hbody⟩ | hblocks
  · have hreaders : w'.noteTopologyMutation.readers = w'.readers := by
      rw [World.noteTopologyMutation]
      split <;> rfl
    rw [bind_ok hbody, bind_ok (update_apply _), bind_ok ((locked_free hhandoff).trans (update_apply _)),
      bind_ok (hnotify _), pure_apply, hbody]
    simp [hreaders]
  · obtain ⟨m, hm⟩ := hblocks
    rw [bind_error hm, hm]

/-- A release returns. -/
theorem releaseReaders_returns (env : Surroundings) (id : ℕ) (readers : List ReaderId) (w : World)
    (hfree : ∀ r, .callbackMutex r ∉ held) (hreader : ∀ r, .readerMutex r ∉ held)
    (hnative : .nativeMutex ∉ held) (hnodup : readers.Nodup) :
    ∃ b w', releaseReaders env id 0 readers held w = .ok (b,w') := by
  by_cases h : ∀ i r, readers[i]? = some r → Detachable env id (0+i) r w
  · obtain ⟨conditions, hall⟩ := releaseReaders_ok hfree hreader hnative h
    exact ⟨true, _, hall⟩
  · simp only [not_forall] at h
    obtain ⟨i, r, hi, hstuck⟩ := h
    obtain ⟨w', hstop, -⟩ := releaseReaders_stuck hfree hreader hnative hnodup ⟨i, r, hi, hstuck⟩
    exact ⟨false, w', hstop⟩

/-- A reader that can be claimed holds no registration. -/
theorem eq_cleared (hclaimable : Claimable env t readers w) (hmem : r ∈ readers) :
    w.readers r = ⟨false,0,0,fun _ => rfl⟩ := by
  obtain ⟨i, hi⟩ := List.mem_iff_getElem?.mp hmem
  obtain ⟨-, hunregistered, hunclaimed⟩ := hclaimable.2 i r hi
  cases hreader : w.readers r with
  | mk claimInProgress waitSetId registrationId paired =>
    rw [hreader] at hunregistered hunclaimed
    obtain rfl : claimInProgress = false := hunclaimed
    obtain rfl : waitSetId = 0 := hunregistered
    obtain rfl : registrationId = 0 := paired rfl
    rfl

/-- The lock of the WaitSet is no lock of a reader. -/
theorem free_callback : ∀ r, Mutex.callbackMutex r ∉ [Mutex.mutex] := by simp

/-- The lock of the WaitSet is no lock of a DDS reader. -/
theorem free_reader : ∀ r, Mutex.readerMutex r ∉ [Mutex.mutex] := by simp

/-- The lock of the WaitSet is not the lock of the native one. -/
theorem free_native : Mutex.nativeMutex ∉ [Mutex.mutex] := by simp

/-- A claim blocks at a reader that cannot be claimed. -/
theorem claim_blocks (h : ¬ Claimable env 0 readers w) :
    Blocks (claim env readers id) [.mutex] w := by
  rw [claim]
  exact (claimReaders_blocks free_callback (fun _ hr => hr) h).bind

/-- A claim whose attachment fails gives its claims up. -/
theorem claim_unattached (id : ℕ) (hclaimable : Claimable env 0 readers w)
    (h : ¬ Attachable env readers.length 0 readers) :
    ∃ result w', claim env readers id [.mutex] w = .ok (result,w') ∧ result ≠ .attached ∧
      Restored w w' := by
  obtain ⟨result, conditions, hattach, hattached, -⟩ :=
    attachReaders_ok env readers.length readers (claimed readers w) free_reader free_native
  have hne : result ≠ .attached := fun heq => h (hattached.mp heq)
  refine ⟨result, unclaimed readers {claimed readers w with readerConditions := conditions}, ?_, hne,
    fun r => ?_⟩
  · rw [claim, bind_ok (claimReaders_ok free_callback hclaimable), if_neg (by simp), bind_ok hattach,
      if_pos hne, bind_ok (clearReaderClaims_ok free_callback), pure_apply]
  · by_cases hmem : r ∈ readers
    · simp [unclaimed, claimed, hmem, eq_cleared hclaimable hmem]
    · simp [unclaimed, claimed, hmem]

/-- The state in which a claim decides about its rollback. -/
def decided (env : Surroundings) (id : ℕ) (readers : List ReaderId) (conditions : ℕ → Bool) (w : World) :
    World :=
  World.takeOver readers env.takeover {published id readers w with readerConditions := conditions}

/-- A claim whose attachment succeeds publishes the registration. -/
theorem claim_published (hclaimable : Claimable env 0 readers w)
    (hattachable : Attachable env readers.length 0 readers)
    (hnone : w.readerConditions = fun _ => false) :
    ∃ conditions closes, (∀ j, conditions j = (readers[j]?).any env.blockingEnabled) ∧
      (closes = true ↔ Closes env (2*readers.length) readers) ∧
      claim env readers id [.mutex] w =
        (if closes then do
          let _ ← detach env readers id
          return .closing
        else return .attached : AddCall AttachResult) [.mutex]
          (decided env id readers conditions w) := by
  obtain ⟨result, conditions, hattach, hattached, hset⟩ :=
    attachReaders_ok env readers.length readers (claimed readers w) free_reader free_native
  obtain rfl := hattached.mpr hattachable
  obtain ⟨closes, hpublish, hcloses⟩ := publishReaders_ok env id (2*readers.length)
    readers {claimed readers w with readerConditions := conditions} free_callback
  have hsame : published id readers {claimed readers w with readerConditions := conditions} =
      {published id readers w with readerConditions := conditions} := by
    simp only [published, claimed, World.mk.injEq, true_and]
    funext r
    by_cases hmem : r ∈ readers
    · simp [hmem]
    · simp [hmem]
  refine ⟨conditions, closes, fun j => ?_, hcloses, ?_⟩
  · rw [hset rfl j]
    simp [claimed, hnone]
  · rw [claim, bind_ok (claimReaders_ok free_callback hclaimable), if_neg (by simp), bind_ok hattach,
      if_neg (by simp), bind_ok hpublish, bind_ok (update_apply _), hsame]
    rfl

/-- A claim that meets a closing reader and was not taken over blocks in its rollback. -/
theorem claim_rollback (hclaimable : Claimable env 0 readers w)
    (hattachable : Attachable env readers.length 0 readers)
    (hnone : w.readerConditions = fun _ => false) (hphase : w.phase = .attached)
    (hcloses : Closes env (2*readers.length) readers) (htakeover : env.takeover = none) :
    Blocks (claim env readers id) [.mutex] w := by
  obtain ⟨conditions, closes, -, hiff, hclaim⟩ := claim_published hclaimable hattachable hnone
  obtain rfl := hiff.mpr hcloses
  have hstill : (decided env id readers conditions w).phase = .attached := by
    rw [decided, htakeover]
    exact hphase
  rw [Blocks, hclaim, if_pos rfl]
  exact (detach_blocks env readers id hstill List.mem_cons_self).bind

/-- A reader after the publication, where the registration was taken over. -/
theorem decided_readers (id : ℕ) (conditions : ℕ → Bool) (w : World) {freed : ReaderId → Bool}
    (htakeover : env.takeover = some freed) (hmem : r ∈ readers) :
    ((decided env id readers conditions w).readers r).waitSetId =
        (if freed r then 0 else w.waitSetId) ∧
      (freed r = true → (decided env id readers conditions w).readers r = ⟨false,0,0,fun _ => rfl⟩) ∧
      (decided env id readers conditions w).registered id r = !freed r := by
  have hzero : 0 ≠ w.waitSetId := Nat.ne_of_lt w.positive
  cases hfreed : freed r <;>
    simp [decided, World.takeOver, htakeover, published, World.registered, hmem, hfreed, hzero]

/-- Readers that were not to be added stay as they were. -/
theorem decided_others {conditions : ℕ → Bool} (hnot : r ∉ readers) :
    (decided env id readers conditions w).readers r = w.readers r := by
  cases htakeover : env.takeover <;> simp [decided, World.takeOver, htakeover, published, hnot]

/-- A claim that meets a closing reader and was taken over leaves the readers
alone exactly if all of them were released. -/
theorem claim_takenOver (id : ℕ) {freed : ReaderId → Bool} (hclaimable : Claimable env 0 readers w)
    (hattachable : Attachable env readers.length 0 readers)
    (hnone : w.readerConditions = fun _ => false)
    (hcloses : Closes env (2*readers.length) readers) (htakeover : env.takeover = some freed) :
    ∃ w', claim env readers id [.mutex] w = .ok (.closing,w') ∧
      (Restored w w' ↔ ∀ r ∈ readers, freed r = true) := by
  obtain ⟨conditions, closes, -, hiff, hclaim⟩ := claim_published hclaimable hattachable hnone
  obtain rfl := hiff.mpr hcloses
  have hphase : (decided env id readers conditions w).phase ≠ .attached := by
    simp [decided, htakeover, World.takeOver]
  refine ⟨decided env id readers conditions w, ?_, ?_, fun hall r => ?_⟩
  · rw [hclaim, if_pos rfl, bind_ok (detach_taken env readers id hphase), pure_apply]
  · intro hrestored r hmem
    have hread := (decided_readers id conditions w htakeover hmem).1
    rw [hrestored r, eq_cleared hclaimable hmem] at hread
    by_contra hkept
    rw [if_neg hkept] at hread
    exact Nat.ne_of_lt w.positive hread
  · by_cases hmem : r ∈ readers
    · rw [(decided_readers id conditions w htakeover hmem).2.1 (hall r hmem), eq_cleared hclaimable hmem]
    · exact decided_others hmem

/-- After a claim without a closing reader the add ends by the phase. -/
theorem claim_attached (id : ℕ) (hclaimable : Claimable env 0 readers w)
    (hattachable : Attachable env readers.length 0 readers)
    (hnone : w.readerConditions = fun _ => false)
    (hcloses : ¬ Closes env (2*readers.length) readers) :
    ∃ conditions, (∀ j, conditions j = (readers[j]?).any env.blockingEnabled) ∧
      claim env readers id [.mutex] w = .ok (.attached,decided env id readers conditions w) := by
  obtain ⟨conditions, closes, hset, hiff, hclaim⟩ := claim_published hclaimable hattachable hnone
  obtain rfl : closes = false := by
    cases closes with
    | false => rfl
    | true => exact absurd (hiff.mp rfl) hcloses
  exact ⟨conditions, hset, hclaim⟩

/-- A registration that is still attached is stored, or its storage throws. -/
theorem finishAdd_attached (env : Surroundings) (readers : List ReaderId) (id : ℕ) (w : World)
    (hnodup : readers.Nodup) (hphase : w.phase = .attached) :
    ∃ outcome w', finishAdd env readers id [.mutex] w = .ok (outcome,w') ∧
      ∀ code message, outcome ≠ .failure code message := by
  have hlocks : (forEach (fun r => locked (.callbackMutex r) (pure ())) readers : AddCall Unit)
      [.mutex] w = .ok ((),readers.foldl (fun w _ => w) w) :=
    forEach_ok fun r _ _ => locked_free (free_callback r)
  rw [finishAdd, bind_ok (read_apply _), if_neg (not_not.mpr hphase), bind_ok hlocks]
  split
  · rw [bind_ok (update_apply _), pure_apply]
    exact ⟨_, _, rfl, nofun⟩
  · obtain ⟨b, w', hrelease⟩ := releaseReaders_returns env id readers (readers.foldl (fun w _ => w) w)
      free_callback free_reader free_native hnodup
    rw [bind_ok hrelease, pure_apply]
    exact ⟨_, _, rfl, nofun⟩

/-- A registration that was taken over is released, as far as it goes. -/
theorem finishAdd_takenOver (id : ℕ) {conditions : ℕ → Bool} {freed : ReaderId → Bool}
    (hclaimable : Claimable env 0 readers w) (htakeover : env.takeover = some freed)
    (hset : ∀ j, conditions j = (readers[j]?).any env.blockingEnabled) :
    ∃ w', finishAdd env readers id [.mutex] (decided env id readers conditions w) =
        .ok (.failure .parentDestroyed "Waitable is closing",w') ∧
      (Restored w w' ↔ Clearable env readers) := by
  have hphase : (decided env id readers conditions w).phase ≠ .attached := by
    simp [decided, htakeover, World.takeOver]
  have hcondition : ∀ i r, readers[i]? = some r →
      (decided env id readers conditions w).readerConditions i = (env.blockingEnabled r && !freed r) := by
    intro i r hi
    simp [decided, World.takeOver, htakeover, hset, hi]
  have hdetachable : ∀ i r, readers[i]? = some r →
      (Detachable env id (0+i) r (decided env id readers conditions w) ↔
        (freed r = false → env.blockingEnabled r = true → env.detaches i = true)) := by
    intro i r hi
    rw [Detachable, Nat.zero_add, hcondition i r hi,
      (decided_readers id conditions w htakeover (List.mem_of_getElem? hi)).2.2]
    cases freed r <;> simp
  rw [finishAdd, bind_ok (read_apply _), if_pos hphase]
  by_cases h : ∀ i r, readers[i]? = some r →
      Detachable env id (0+i) r (decided env id readers conditions w)
  · obtain ⟨conditions', hrelease⟩ := releaseReaders_ok free_callback free_reader free_native h
    rw [bind_ok hrelease, pure_apply]
    refine ⟨_, rfl, iff_of_true (fun r => ?_) ?_⟩
    · by_cases hmem : r ∈ readers
      · rw [eq_cleared hclaimable hmem]
        obtain ⟨-, hcleared, hregistered⟩ := decided_readers id conditions w htakeover hmem
        cases hfreed : freed r with
        | true => simp [released, hregistered, hfreed, hcleared hfreed]
        | false =>
          have hclaim : ((decided env id readers conditions w).readers r).claimInProgress = false := by
            simp [decided, World.takeOver, htakeover, published, hmem, hfreed]
          simp [released, hmem, hregistered, hfreed, hclaim]
      · simp [released, hmem, decided_others hmem]
    · intro freed' htakeover' i r hi
      obtain rfl := Option.some.inj (htakeover.symm.trans htakeover')
      exact (hdetachable i r hi).mp (h i r hi)
  · simp only [not_forall] at h
    obtain ⟨i, r, hi, hstuck⟩ := h
    obtain ⟨w', hrelease, r', hmem, hregistered, hsame⟩ := releaseReaders_stuck free_callback free_reader
      free_native hclaimable.1 ⟨i, r, hi, hstuck⟩
    rw [bind_ok hrelease, pure_apply]
    refine ⟨w', rfl, iff_of_false (fun hrestored => ?_) fun hclearable => ?_⟩
    · obtain ⟨hread, -, hfreed⟩ := decided_readers id conditions w htakeover hmem
      rw [← hsame, hrestored r', eq_cleared hclaimable hmem] at hread
      rw [hregistered] at hfreed
      have hkept : freed r' = false := by simpa using hfreed.symm
      rw [hkept] at hread
      exact Nat.ne_of_lt w.positive hread
    · exact hstuck ((hdetachable i r hi).mpr (hclearable freed htakeover i r hi))

/-- The claim of an add and what follows it are atomic under the condition. -/
theorem claimAndFinish_iff (env : Surroundings) (readers : List ReaderId) (id : ℕ) (w : World)
    (hphase : w.phase = .attached) (hnone : w.readerConditions = fun _ => false) :
    (∃ outcome w', claimAndFinish env readers id [.mutex] w = .ok (outcome,w') ∧
      ∀ code message, outcome = .failure code message → Restored w w') ↔
      Claimable env 0 readers w ∧ (Attachable env readers.length 0 readers →
        (Closes env (2*readers.length) readers → HandedOver env readers) ∧
        (¬ Closes env (2*readers.length) readers → Clearable env readers)) := by
  by_cases hclaimable : Claimable env 0 readers w
  · simp only [hclaimable, true_and]
    by_cases hattachable : Attachable env readers.length 0 readers
    · simp only [hattachable, true_imp_iff]
      by_cases hcloses : Closes env (2*readers.length) readers
      · simp only [hcloses, true_imp_iff, not_true_eq_false, false_imp_iff, and_true]
        cases htakeover : env.takeover with
        | none =>
          obtain ⟨m, hm⟩ : Blocks (claimAndFinish env readers id) [.mutex] w :=
            (claim_rollback hclaimable hattachable hnone hphase hcloses htakeover).bind
          simp [hm, HandedOver, htakeover]
        | some freed =>
          obtain ⟨w', hclaim, hrestored⟩ :=
            claim_takenOver id hclaimable hattachable hnone hcloses htakeover
          have hreturns : claimAndFinish env readers id [.mutex] w =
              .ok (.failure .parentDestroyed "Waitable is closing",w') := by
            rw [claimAndFinish, bind_ok hclaim]
            rfl
          simp [hreturns, HandedOver, htakeover, hrestored]
      · simp only [hcloses, false_imp_iff, not_false_eq_true, true_imp_iff, true_and]
        obtain ⟨conditions, hset, hclaim⟩ :=
          claim_attached id hclaimable hattachable hnone hcloses
        have hrest : claimAndFinish env readers id [.mutex] w =
            finishAdd env readers id [.mutex] (decided env id readers conditions w) := by
          rw [claimAndFinish, bind_ok hclaim]
          rfl
        rw [hrest]
        cases htakeover : env.takeover with
        | none =>
          have hstill : (decided env id readers conditions w).phase = .attached := by
            rw [decided, htakeover]
            exact hphase
          obtain ⟨outcome, w', hfinish, hnot⟩ := finishAdd_attached env readers id _ hclaimable.1 hstill
          refine iff_of_true ⟨outcome, w', hfinish, fun code message h => absurd h (hnot code message)⟩ ?_
          intro freed hfreed
          rw [htakeover] at hfreed
          cases hfreed
        | some freed =>
          obtain ⟨w', hfinish, hrestored⟩ := finishAdd_takenOver id hclaimable htakeover hset
          simp [hfinish, hrestored]
    · obtain ⟨result, w', hclaim, hne, hrestored⟩ := claim_unattached id hclaimable hattachable
      refine iff_of_true ?_ fun h => absurd h hattachable
      cases result with
      | attached => exact absurd rfl hne
      | _ => exact ⟨_, w', (bind_ok hclaim).trans rfl, fun _ _ _ => hrestored⟩
  · obtain ⟨m, hm⟩ : Blocks (claimAndFinish env readers id) [.mutex] w := (claim_blocks hclaimable).bind
    simp [hm, hclaimable]

end

/-- An add is atomic exactly if it is refused at once, or every reader can be
claimed and, where the native conditions are attached, a published reader that
is closing was released with all others, and a registration that was taken
over later can be cleared. -/
theorem add_atomic_iff (env : Surroundings) (readers : List ReaderId) (w : World) :
    Atomic env readers w ↔ (refusal w).isSome = true ∨
      (Claimable env 0 readers w ∧ (Attachable env readers.length 0 readers →
        (Closes env (2*readers.length) readers → HandedOver env readers) ∧
        (¬ Closes env (2*readers.length) readers → Clearable env readers))) := by
  rw [Atomic, add, locked_free List.not_mem_nil, bind_ok (read_apply _)]
  cases hrefused : refusal w with
  | some outcome =>
    exact iff_of_true ⟨outcome, w, rfl, fun _ _ _ _ => rfl⟩ (Or.inl rfl)
  | none =>
    simp only [Option.isSome_none, Bool.false_eq_true, false_or]
    rw [bind_ok (read_apply _), bind_ok (update_apply _)]
    refine (topologyMutation_iff (p := fun outcome readers =>
      ∀ code message, outcome = Added.failure code message → ∀ r, readers r = w.readers r)
      (by simp) (by simp)).trans ?_
    exact claimAndFinish_iff env readers w.nextRegistrationId
      {w with
        phase := .attached
        readerConditions := fun _ => false
        activeTopologyMutations := w.activeTopologyMutations+1} rfl rfl

/-- Nobody closes, and DDS does as it is told. -/
def undisturbed : Surroundings where
  closing := fun _ _ => false
  stays := fun _ _ h => h
  blockingEnabled := fun _ => true
  present := fun _ => true
  attaches := fun _ => true
  detaches := fun _ => true
  deferred := fun _ => false
  takeover := none
  allocates := true

/-- WaitSet 1, in which every reader is registered by registration 1. -/
def registeredOnce : World where
  waitSetId := 1
  positive := Nat.one_pos
  closing := false
  poisoned := false
  nextRegistrationId := 2
  registrations := [1]
  topologyGeneration := 1
  activeTopologyMutations := 0
  phase := .attached
  readerConditions := fun _ => false
  readers := fun _ => ⟨false,1,1,nofun⟩

/-- A second add of a reader waits for the reader's lock, which it holds. -/
theorem registeredOnce_blocks : ¬ ∀ env readers w, Atomic env readers w := by
  intro hclaim
  obtain ⟨outcome, w', hadd, -⟩ := hclaim undisturbed [5] registeredOnce
  have hblocks : add undisturbed [5] [] registeredOnce = .error (.callbackMutex 5) := rfl
  rw [hblocks] at hadd
  cases hadd

end Dmw.AddAtomicity
