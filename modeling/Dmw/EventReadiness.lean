import Dmw.EndpointEvents

/-!
# Level-triggered readiness of Events

An Event that lags behind its slot should have its pending flag set. `update`
sets the flags with the slot, but `take` clears a flag after the snapshot it
answers for, and `create_event` registers after the snapshot it starts from.
Where no update comes in between, every Event that lags is pending, or some
take that is about to clear its flag was overtaken and will break the rule.
-/

namespace Dmw.EventReadiness

open GuardedRuns EndpointEvents

/-- Current generation of a slot. -/
def generation (s : System) (type : EventType) : ℕ := (s.parent.slots type).generation

/-- No update comes between the snapshot of a take or of a creation and the
clearing or the registration that relies on it. -/
def Timely (s : System) : Event → Prop
  | .register _ type cursor =>
    (s.parent.registerEvent type).1 ≠ 0 → generation s type = cursor.generation
  | .clearPending _ id current =>
    ∀ event, s.objects id = some event → generation s event.type = current
  | _ => True

/-- The Event a take works on. -/
def takes : Pc → Option ℕ
  | .taking id | .comparing id _ | .clearing id _ => some id
  | _ => none

/-- The Event a take works on and the generation of its snapshot. -/
def saw : Pc → Option (ℕ × ℕ)
  | .comparing id current => some (id,current.generation)
  | .clearing id current => some (id,current)
  | _ => none

/-- A take is about to clear the flag of an Event for an outdated snapshot. -/
def Overtaken (s : System) (id : ℕ) (type : EventType) : Prop :=
  ∃ t current, s.pc t = .clearing id current ∧ current ≠ generation s type

/-- How Events follow their slots. -/
structure Tracked (s : System) : Prop where
  /-- An Event that lags is pending, or a take of it was overtaken. -/
  level : ∀ id event, s.objects id = some event →
    event.cursor.generation = generation s event.type ∨ s.pending id = true ∨
      Overtaken s id event.type
  /-- A take that was not overtaken clears the flag of an Event that does not lag. -/
  settled : ∀ t id current event, s.pc t = .clearing id current → s.objects id = some event →
    event.cursor.generation = generation s event.type ∨ Overtaken s id event.type ∨
      current ≠ generation s event.type
  /-- Snapshots are not ahead of their slots. -/
  seen : ∀ t id current event, saw (s.pc t) = some (id,current) → s.objects id = some event →
    current ≤ generation s event.type
  /-- Events in use exist. -/
  known : ∀ t id, takes (s.pc t) = some id → (s.objects id).isSome = true
  /-- Events are registered. -/
  listed : ∀ id event, s.objects id = some event → ⟨id,event.type⟩ ∈ s.parent.events
  /-- An Event under construction is registered and does not lag unnoticed. -/
  created : ∀ t type cursor id, s.pc t = .constructing type cursor id →
    s.objects id = none ∧ ⟨id,type⟩ ∈ s.parent.events ∧
      (cursor.generation = generation s type ∨ s.pending id = true)
  /-- One thread constructs an Event. -/
  alone : ∀ t u type type' cursor cursor' id, s.pc t = .constructing type cursor id →
    s.pc u = .constructing type' cursor' id → t = u
  /-- Registration ids in use were given out. -/
  given : ∀ id, (s.objects id).isSome = true ∨
    (∃ t type cursor, s.pc t = .constructing type cursor id) →
      s.parent.nextEventRegistrationId ≠ 0 → id < s.parent.nextEventRegistrationId
  /-- Registration ids are 64-bit numbers. -/
  bounded : s.parent.nextEventRegistrationId < UInt64.size

section

variable {s s' : System} {t : ThreadId} {p : Pc}

/-- A snapshot carries the generation of its slot. -/
theorem snapshot_generation (s : System) (type : EventType) :
    (s.parent.snapshot type).generation = generation s type := by
  unfold EventParentState.snapshot generation
  dsimp only
  split
  · next hzero => exact hzero.symm
  · rfl

/-- After a move a thread reads as before, unless it is the one that moved. -/
theorem moved {α : Type*} (read : Pc → α) {pc : ThreadId → Pc} {u : ThreadId} {value : α}
    (hu : read (Function.update pc t p u) = value) :
    u = t ∧ read p = value ∨ u ≠ t ∧ read (pc u) = value := by
  by_cases hut : u = t
  · subst hut
    rw [Function.update_self] at hu
    exact Or.inl ⟨rfl, hu⟩
  · rw [Function.update_of_ne hut] at hu
    exact Or.inr ⟨hut, hu⟩

/-- Where the moved thread cannot be, nobody came by the move. -/
theorem unmoved {α : Type*} (read : Pc → α) {pc : ThreadId → Pc} {u : ThreadId} {value : α}
    (hu : read (Function.update pc t p u) = value) (hp : read p ≠ value) :
    read (pc u) = value := by
  rcases moved read hu with ⟨-, heq⟩ | ⟨-, hold⟩
  · exact absurd heq hp
  · exact hold

/-- A move of a take that was not overtaken leaves the overtaken ones. -/
theorem Overtaken.move {id : ℕ} {type : EventType} (h : Overtaken s id type)
    (hcurrent : ∀ current, s.pc t = .clearing id current → current = generation s type) :
    ∃ u current, Function.update s.pc t p u = .clearing id current ∧
      current ≠ generation s type := by
  obtain ⟨u, current, hu, hne⟩ := h
  have hut : u ≠ t := by
    rintro rfl
    exact hne (hcurrent current hu)
  exact ⟨u, current, (Function.update_of_ne hut ..).trans hu, hne⟩

/-- A take that was overtaken stays overtaken while it does not move. -/
theorem Overtaken.stay {id : ℕ} {type : EventType} (h : Overtaken s id type)
    (hpc : ∀ u current, s.pc u = .clearing id current → current ≠ generation s type →
      s'.pc u = .clearing id current)
    (hslot : generation s' type = generation s type) : Overtaken s' id type := by
  obtain ⟨u, current, hu, hne⟩ := h
  exact ⟨u, current, hpc u current hu hne, by rwa [hslot]⟩

/-- Moving one thread to a place where it constructs nothing and clears
nothing; flags may be set on the way. -/
theorem Tracked.move (h : Tracked s) (hpc : s'.pc = Function.update s.pc t p)
    (hslots : s'.parent.slots = s.parent.slots) (hevents : s'.parent.events = s.parent.events)
    (hnext : s'.parent.nextEventRegistrationId = s.parent.nextEventRegistrationId)
    (hpending : ∀ id, s.pending id = true → s'.pending id = true) (hobjects : s'.objects = s.objects)
    (hclearing : ∀ id current, s.pc t ≠ .clearing id current ∧ p ≠ .clearing id current)
    (hconstructing : ∀ type cursor id, p ≠ .constructing type cursor id)
    (htakes : ∀ id, takes p = some id → (s.objects id).isSome = true)
    (hsaw : ∀ id current event, saw p = some (id,current) → s.objects id = some event →
      current ≤ generation s event.type) : Tracked s' := by
  have hgeneration : ∀ type, generation s' type = generation s type := by
    intro type
    rw [generation, generation, hslots]
  have hself : s'.pc t = p := by rw [hpc, Function.update_self]
  have hothers : ∀ u, u ≠ t → s'.pc u = s.pc u := fun u hu => by rw [hpc, Function.update_of_ne hu]
  have hclears : ∀ u id current, s'.pc u = .clearing id current ↔ s.pc u = .clearing id current := by
    intro u id current
    by_cases hu : u = t
    · subst hu
      rw [hself]
      exact iff_of_false (hclearing id current).2 (hclearing id current).1
    · rw [hothers u hu]
  have hconstructs : ∀ u type cursor id, s'.pc u = .constructing type cursor id →
      s.pc u = .constructing type cursor id := by
    intro u type cursor id hu
    by_cases hut : u = t
    · subst hut
      exact absurd (hself ▸ hu) (hconstructing type cursor id)
    · rwa [hothers u hut] at hu
  have hovertaken : ∀ id type, Overtaken s id type → Overtaken s' id type := by
    rintro id type ⟨u, current, hu, hne⟩
    exact ⟨u, current, (hclears u id current).mpr hu, by rwa [hgeneration]⟩
  refine ⟨fun id event hfound => ?_, fun u id current event hu hfound => ?_,
    fun u id current event hu hfound => ?_, fun u id hu => ?_, fun id event hfound => ?_,
    fun u type cursor id hu => ?_, fun u v type type' cursor cursor' id hu hv => ?_,
    fun id hused => ?_, ?_⟩
  · rw [hgeneration]
    rw [hobjects] at hfound
    exact (h.level id event hfound).imp_right (Or.imp (hpending id) (hovertaken id event.type))
  · rw [hgeneration]
    rw [hobjects] at hfound
    exact (h.settled u id current event ((hclears u id current).mp hu) hfound).imp_right
      (Or.imp_left (hovertaken id event.type))
  · rw [hgeneration]
    rw [hobjects] at hfound
    by_cases hut : u = t
    · subst hut
      exact hsaw id current event (hself ▸ hu) hfound
    · exact h.seen u id current event (hothers u hut ▸ hu) hfound
  · rw [hobjects]
    by_cases hut : u = t
    · subst hut
      exact htakes id (hself ▸ hu)
    · exact h.known u id (hothers u hut ▸ hu)
  · rw [hevents]
    rw [hobjects] at hfound
    exact h.listed id event hfound
  · obtain ⟨hnone, hlisted, hfollows⟩ := h.created u type cursor id (hconstructs u type cursor id hu)
    rw [hobjects, hevents, hgeneration]
    exact ⟨hnone, hlisted, hfollows.imp_right (hpending id)⟩
  · exact h.alone u v type type' cursor cursor' id (hconstructs u type cursor id hu)
      (hconstructs v type' cursor' id hv)
  · rw [hnext]
    rw [hobjects] at hused
    refine h.given id (hused.imp_right ?_)
    rintro ⟨u, type, cursor, hu⟩
    exact ⟨u, type, cursor, hconstructs u type cursor id hu⟩
  · rw [hnext]
    exact h.bounded

/-- Moving one thread to a place where it takes and constructs nothing. -/
theorem Tracked.pass (h : Tracked s) (hpc : s'.pc = Function.update s.pc t p)
    (hslots : s'.parent.slots = s.parent.slots) (hevents : s'.parent.events = s.parent.events)
    (hnext : s'.parent.nextEventRegistrationId = s.parent.nextEventRegistrationId)
    (hpending : ∀ id, s.pending id = true → s'.pending id = true) (hobjects : s'.objects = s.objects)
    (hbefore : ∀ id current, s.pc t ≠ .clearing id current) (htakes : takes p = none)
    (hconstructing : ∀ type cursor id, p ≠ .constructing type cursor id) : Tracked s' := by
  have hclearing : ∀ id current, p ≠ .clearing id current := by
    rintro id current rfl
    cases htakes
  have hsaw : saw p = none := by
    revert htakes
    cases p <;> simp [takes, saw]
  refine h.move hpc hslots hevents hnext hpending hobjects
    (fun id current => ⟨hbefore id current, hclearing id current⟩) hconstructing ?_ ?_
  · intro id hid
    rw [htakes] at hid
    cases hid
  · intro id current event hid
    rw [hsaw] at hid
    cases hid

/-- A registration of the slot is flagged by an update of it. -/
theorem pending_of_listed {chosen : EventRecord → Bool} {record : EventRecord}
    (hlisted : record ∈ s.parent.events) (hchosen : chosen record = true) :
    (s.setPending chosen).pending record.registrationId = true := by
  simp only [System.setPending, Bool.or_eq_true, List.any_eq_true]
  exact Or.inr ⟨record, hlisted, by simp [hchosen]⟩

/-- Flags are never cleared by an update. -/
theorem pending_setPending {chosen : EventRecord → Bool} {id : ℕ} (h : s.pending id = true) :
    (s.setPending chosen).pending id = true := by
  simp [System.setPending, h]

/-- An advanced slot with its flags set. -/
theorem advance_tracked (h : Tracked s) (type : EventType) (info : EventInfo) :
    Tracked {s.setPending (fun record => record.type = type) with
      parent := s.parent.advance type info} := by
  have hslot : ∀ type', ((s.parent.advance type info).slots type').generation =
      generation s type' + if type' = type then 1 else 0 := by
    intro type'
    by_cases htype : type' = type
    · subst htype
      simp [EventParentState.advance, generation]
    · simp [EventParentState.advance, generation, htype]
  have hflag : ∀ id, ⟨id,type⟩ ∈ s.parent.events →
      (s.setPending fun record => record.type = type).pending id = true :=
    fun id hlisted => pending_of_listed hlisted (by simp)
  have hovertaken : ∀ id type', type' ≠ type → Overtaken s id type' →
      ∃ u current, s.pc u = .clearing id current ∧
        current ≠ ((s.parent.advance type info).slots type').generation := by
    rintro id type' htype ⟨u, current, hu, hne⟩
    exact ⟨u, current, hu, by rw [hslot, if_neg htype]; exact hne⟩
  refine ⟨fun id event hfound => ?_, fun u id current event hu hfound => ?_,
    fun u id current event hu hfound => ?_, h.known, h.listed, fun u type' cursor id hu => ?_,
    h.alone, h.given, h.bounded⟩
  · by_cases htype : event.type = type
    · exact Or.inr (Or.inl (hflag id (htype ▸ h.listed id event hfound)))
    · have hlevel := h.level id event hfound
      have hsame := hslot event.type
      rw [if_neg htype, Nat.add_zero] at hsame
      exact hlevel.imp (fun heq => heq.trans hsame.symm)
        (Or.imp pending_setPending (hovertaken id event.type htype))
  · by_cases htype : event.type = type
    · have hseen := h.seen u id current event (by rw [show s.pc u = _ from hu]; rfl) hfound
      have hnew := hslot event.type
      rw [if_pos htype] at hnew
      refine Or.inr (Or.inr fun heq => ?_)
      have hcurrent : current = generation s event.type + 1 := heq.trans hnew
      omega
    · have hsettled := h.settled u id current event hu hfound
      have hsame := hslot event.type
      rw [if_neg htype, Nat.add_zero] at hsame
      exact hsettled.imp (fun heq => heq.trans hsame.symm)
        (Or.imp (hovertaken id event.type htype) fun hne heq => hne (heq.trans hsame))
  · have hgrows : generation s event.type ≤
        ((s.parent.advance type info).slots event.type).generation := by
      rw [hslot]
      exact Nat.le_add_right ..
    exact Nat.le_trans (h.seen u id current event hu hfound) hgrows
  · obtain ⟨hnone, hlisted, hfollows⟩ := h.created u type' cursor id hu
    refine ⟨hnone, hlisted, ?_⟩
    by_cases htype : type' = type
    · exact Or.inr (hflag id (htype ▸ hlisted))
    · have hsame := hslot type'
      rw [if_neg htype, Nat.add_zero] at hsame
      exact hfollows.imp (fun heq => heq.trans hsame.symm) pending_setPending

/-- An update flags every Event of its slot. -/
theorem update_tracked (h : Tracked s) {type : EventType} {info : EventInfo}
    (hpc : s.pc t = .idle) : Tracked (update t type info s) := by
  unfold update
  split
  · exact h
  · split
    · exact h.pass rfl rfl rfl rfl (fun id hid => pending_setPending hid) rfl (by simp [hpc]) rfl
        (by simp)
    · exact (advance_tracked h type info).pass rfl rfl rfl rfl (fun _ hid => hid) rfl
        (by simp [System.setPending, hpc]) rfl (by simp)

/-- A registration that follows its slot starts an Event that does. -/
theorem register_tracked (h : Tracked s) {type : EventType} {cursor : Snapshot}
    (hpc : s.pc t = .registering type cursor) (hok : Timely s (.register t type cursor)) :
    Tracked (register t type cursor s) := by
  by_cases hopen : (s.parent.exhausted || s.parent.nextEventRegistrationId == 0) = true
  · simp only [register, EventParentState.registerEvent, if_pos hopen, if_true]
    exact h.pass rfl rfl rfl rfl (fun _ hid => hid) rfl (by simp [hpc]) rfl (by simp)
  · simp only [register, EventParentState.registerEvent, if_neg hopen]
    obtain ⟨-, hleft⟩ : s.parent.exhausted = false ∧ s.parent.nextEventRegistrationId ≠ 0 := by
      simpa using hopen
    rw [if_neg hleft]
    have hfollows : generation s type = cursor.generation :=
      hok (by simpa [EventParentState.registerEvent, hopen] using hleft)
    generalize hid : s.parent.nextEventRegistrationId = id at hleft ⊢
    have hnone : s.objects id = none := by
      cases hfound : s.objects id with
      | none => rfl
      | some event =>
        have hlt := h.given id (Or.inl (by simp [hfound])) (hid ▸ hleft)
        omega
    have hunused : ∀ u type' cursor', s.pc u ≠ .constructing type' cursor' id := by
      intro u type' cursor' hu
      have hlt := h.given id (Or.inr ⟨u, type', cursor', hu⟩) (hid ▸ hleft)
      omega
    have hovertaken : ∀ id' type', Overtaken s id' type' → ∃ u current,
        Function.update s.pc t (Pc.constructing type cursor id) u = .clearing id' current ∧
          current ≠ generation s type' := fun _ _ ho => ho.move (by simp [hpc])
    have hconstructs : ∀ u type' cursor' id',
        Function.update s.pc t (Pc.constructing type cursor id) u = .constructing type' cursor' id' →
          u = t ∧ type = type' ∧ cursor = cursor' ∧ id = id' ∨
            s.pc u = .constructing type' cursor' id' ∧ id' ≠ id := by
      intro u type' cursor' id' hu
      rcases moved (fun q => q) hu with ⟨hut, heq⟩ | ⟨-, hold⟩
      · exact Or.inl ⟨hut, by simpa using heq⟩
      · refine Or.inr ⟨hold, ?_⟩
        rintro rfl
        exact hunused u type' cursor' hold
    refine ⟨fun id' event hfound => ?_, fun u id' current event hu hfound => ?_,
      fun u id' current event hu hfound => ?_, fun u id' hu => ?_, fun id' event hfound => ?_,
      fun u type' cursor' id' hu => ?_, fun u v type' type'' cursor' cursor'' id' hu hv => ?_,
      fun id' hused hnext => ?_, Nat.mod_lt _ (by decide)⟩
    · have hid' : id' ≠ id := by
        rintro rfl
        rw [show s.objects id' = _ from hfound] at hnone
        cases hnone
      refine (h.level id' event hfound).imp_right (Or.imp (fun hset => ?_) (hovertaken id' event.type))
      exact (Function.update_of_ne hid' ..).trans hset
    · have hold : s.pc u = .clearing id' current := unmoved (fun q => q) hu (by simp)
      exact (h.settled u id' current event hold hfound).imp_right
        (Or.imp_left (hovertaken id' event.type))
    · have hold : saw (s.pc u) = some (id',current) := unmoved saw hu (by simp [saw])
      exact h.seen u id' current event hold hfound
    · exact h.known u id' (unmoved takes hu (by simp [takes]))
    · exact List.mem_append_left _ (h.listed id' event hfound)
    · rcases hconstructs u type' cursor' id' hu with ⟨-, rfl, rfl, rfl⟩ | ⟨hold, hid'⟩
      · exact ⟨hnone, List.mem_append_right _ (List.mem_singleton.mpr rfl), Or.inl hfollows.symm⟩
      · obtain ⟨hnone', hlisted, hfollows'⟩ := h.created u type' cursor' id' hold
        exact ⟨hnone', List.mem_append_left _ hlisted,
          hfollows'.imp_right fun hset => (Function.update_of_ne hid' ..).trans hset⟩
    · rcases hconstructs u type' cursor' id' hu with ⟨hut, -, -, hid⟩ | ⟨hold, hne⟩ <;>
        rcases hconstructs v type'' cursor'' id' hv with ⟨hvt, -, -, hid'⟩ | ⟨hold', hne'⟩
      · exact hut.trans hvt.symm
      · exact absurd hid.symm hne'
      · exact absurd hid'.symm hne
      · exact h.alone u v type' type'' cursor' cursor'' id' hold hold'
    · have hlt : id < UInt64.size := hid ▸ h.bounded
      have hgiven : id' ≤ id := by
        rcases hused with hfound | ⟨u, type', cursor', hu⟩
        · exact Nat.le_of_lt (hid ▸ h.given id' (Or.inl hfound) (hid ▸ hleft))
        · rcases hconstructs u type' cursor' id' hu with ⟨-, -, -, rfl⟩ | ⟨hold, -⟩
          · exact Nat.le_refl _
          · exact Nat.le_of_lt (hid ▸ h.given id' (Or.inr ⟨u, type', cursor', hold⟩) (hid ▸ hleft))
      simp only [UInt64.size] at hlt hnext ⊢
      omega

/-- Forgetting a registration that has no Event. -/
theorem unregister_tracked (h : Tracked s) {id : ℕ} (hnone : s.objects id = none)
    (hunused : ∀ u type cursor, s.pc u ≠ .constructing type cursor id) :
    Tracked {s with parent := s.parent.unregisterEvent id} := by
  have hkept : ∀ id' type, id' ≠ id → ⟨id',type⟩ ∈ s.parent.events →
      ⟨id',type⟩ ∈ (s.parent.unregisterEvent id).events := by
    intro id' type hne hmem
    unfold EventParentState.unregisterEvent
    split
    · exact hmem
    · exact (List.mem_eraseP_of_neg (by simpa using hne)).mpr hmem
  have hslots : (s.parent.unregisterEvent id).slots = s.parent.slots := by
    unfold EventParentState.unregisterEvent
    split <;> rfl
  have hnext : (s.parent.unregisterEvent id).nextEventRegistrationId =
      s.parent.nextEventRegistrationId := by
    unfold EventParentState.unregisterEvent
    split <;> rfl
  have hgeneration : ∀ type,
      generation {s with parent := s.parent.unregisterEvent id} type = generation s type := by
    intro type
    simp [generation, hslots]
  refine ⟨fun id' event hfound => ?_, fun u id' current event hu hfound => ?_,
    fun u id' current event hu hfound => ?_, h.known, fun id' event hfound => ?_,
    fun u type cursor id' hu => ?_, h.alone, ?_, ?_⟩
  · rw [hgeneration]
    exact (h.level id' event hfound).imp_right
      (Or.imp_right fun ho => ho.stay (fun _ _ hu _ => hu) (hgeneration _))
  · rw [hgeneration]
    exact (h.settled u id' current event hu hfound).imp_right
      (Or.imp_left fun ho => ho.stay (fun _ _ hu _ => hu) (hgeneration _))
  · rw [hgeneration]
    exact h.seen u id' current event hu hfound
  · refine hkept id' event.type ?_ (h.listed id' event hfound)
    rintro rfl
    rw [show s.objects id' = _ from hfound] at hnone
    cases hnone
  · obtain ⟨hnone', hlisted, hfollows⟩ := h.created u type cursor id' hu
    rw [hgeneration]
    refine ⟨hnone', hkept id' type ?_ hlisted, hfollows⟩
    rintro rfl
    exact hunused u type cursor hu
  · simp only [hnext]
    exact h.given
  · simp only [hnext]
    exact h.bounded

/-- A new Event whose registration follows its slot. -/
theorem insert_tracked (h : Tracked s) {type : EventType} {cursor : Snapshot} {id : ℕ}
    (hnone : s.objects id = none) (hlisted : ⟨id,type⟩ ∈ s.parent.events)
    (hfollows : cursor.generation = generation s type ∨ s.pending id = true)
    (hgiven : s.parent.nextEventRegistrationId ≠ 0 → id < s.parent.nextEventRegistrationId)
    (hunused : ∀ u type cursor, s.pc u ≠ .constructing type cursor id) :
    Tracked {s with objects := Function.update s.objects id (some ⟨type,cursor⟩)} := by
  have htakes : ∀ u, takes (s.pc u) ≠ some id := by
    intro u hu
    have hsome := h.known u id hu
    rw [hnone] at hsome
    cases hsome
  have hother : ∀ id', id' ≠ id →
      Function.update s.objects id (some ⟨type,cursor⟩) id' = s.objects id' :=
    fun id' hid => Function.update_of_ne hid ..
  refine ⟨fun id' event hfound => ?_, fun u id' current event hu hfound => ?_,
    fun u id' current event hu hfound => ?_, fun u id' hu => ?_, fun id' event hfound => ?_,
    fun u type' cursor' id' hu => ?_, h.alone, fun id' hused hnext => ?_, h.bounded⟩
  · by_cases hid : id' = id
    · subst hid
      obtain rfl : event = ⟨type,cursor⟩ := by simpa using hfound.symm
      exact hfollows.imp_right Or.inl
    · exact h.level id' event ((hother id' hid).symm.trans hfound)
  · have hid : id' ≠ id := by
      rintro rfl
      exact htakes u (by rw [show s.pc u = _ from hu]; rfl)
    exact h.settled u id' current event hu ((hother id' hid).symm.trans hfound)
  · have hid : id' ≠ id := by
      rintro rfl
      refine htakes u ?_
      revert hu
      cases s.pc u <;> simp +contextual [saw, takes]
    exact h.seen u id' current event hu ((hother id' hid).symm.trans hfound)
  · have hid : id' ≠ id := by
      rintro rfl
      exact htakes u hu
    have hsome := h.known u id' hu
    rwa [← hother id' hid] at hsome
  · by_cases hid : id' = id
    · subst hid
      obtain rfl : event = ⟨type,cursor⟩ := by simpa using hfound.symm
      exact hlisted
    · exact h.listed id' event ((hother id' hid).symm.trans hfound)
  · obtain ⟨hnone', hlisted', hfollows'⟩ := h.created u type' cursor' id' hu
    have hid : id' ≠ id := by
      rintro rfl
      exact hunused u type' cursor' hu
    exact ⟨(hother id' hid).trans hnone', hlisted', hfollows'⟩
  · by_cases hid : id' = id
    · subst hid
      exact hgiven hnext
    · refine h.given id' (hused.imp_left fun hfound => ?_) hnext
      rw [← hother id' hid]
      exact hfound

/-- A constructed Event follows its slot; a failed construction takes only its
own registration back. -/
theorem construct_tracked (h : Tracked s) {type : EventType} {cursor : Snapshot} {id : ℕ}
    {threw : Bool} (hpc : s.pc t = .constructing type cursor id) :
    Tracked (construct t type cursor id threw s) := by
  obtain ⟨hnone, hlisted, hfollows⟩ := h.created t type cursor id hpc
  have hidle : Tracked (s.goto t .idle) :=
    h.pass rfl rfl rfl rfl (fun _ hid => hid) rfl (by simp [hpc]) rfl (by simp)
  have hunused : ∀ u type' cursor', (s.goto t .idle).pc u ≠ .constructing type' cursor' id := by
    intro u type' cursor' hu
    have hut : u ≠ t := by
      rintro rfl
      simp [System.goto] at hu
    have hold : s.pc u = .constructing type' cursor' id := by
      simpa [System.goto, Function.update_of_ne hut] using hu
    exact hut (h.alone u t type' type cursor' cursor id hold hpc)
  unfold construct
  cases threw with
  | true => exact unregister_tracked hidle hnone hunused
  | false =>
    exact insert_tracked hidle hnone hlisted hfollows
      (h.given id (Or.inr ⟨t, type, cursor, hpc⟩)) hunused

/-- A cursor moves to the snapshot of its take; if that is outdated, the take was
overtaken. -/
theorem cursor_tracked (h : Tracked s) {id : ℕ} {current : Snapshot} {event : Event.Impl}
    (hpc : s.pc t = .comparing id current) (hfound : s.objects id = some event)
    (log : List Taken) :
    Tracked {s.goto t (.clearing id current.generation) with
      objects := Function.update s.objects id (some {event with cursor := current})
      log := log} := by
  have hseen : current.generation ≤ generation s event.type :=
    h.seen t id current.generation event (by rw [hpc]; rfl) hfound
  have hobject : ∀ {id' event'},
      Function.update s.objects id (some {event with cursor := current}) id' = some event' →
        id' = id ∧ event' = {event with cursor := current} ∨
          id' ≠ id ∧ s.objects id' = some event' := by
    intro id' event' hfound'
    by_cases hid : id' = id
    · subst hid
      exact Or.inl ⟨rfl, by simpa using hfound'.symm⟩
    · exact Or.inr ⟨hid, by rwa [Function.update_of_ne hid] at hfound'⟩
  have hsome : ∀ id', (Function.update s.objects id (some {event with cursor := current})
      id').isSome = (s.objects id').isSome := by
    intro id'
    by_cases hid : id' = id
    · subst hid
      rw [Function.update_self, hfound]
      rfl
    · rw [Function.update_of_ne hid]
  have hconstructs : ∀ {u type cursor id'},
      Function.update s.pc t (.clearing id current.generation) u = .constructing type cursor id' →
        s.pc u = .constructing type cursor id' :=
    fun hu => unmoved (fun q => q) hu (by simp)
  have hstill : ∀ id' type, Overtaken s id' type → ∃ u generation',
      Function.update s.pc t (.clearing id current.generation) u =
        .clearing id' generation' ∧ generation' ≠ generation s type :=
    fun _ _ ho => ho.move (by simp [hpc])
  have hown : current.generation = generation s event.type ∨ ∃ u generation',
      Function.update s.pc t (.clearing id current.generation) u =
        .clearing id generation' ∧ generation' ≠ generation s event.type := by
    by_cases hcurrent : current.generation = generation s event.type
    · exact Or.inl hcurrent
    · exact Or.inr ⟨t, current.generation, Function.update_self .., hcurrent⟩
  refine ⟨fun id' event' hfound' => ?_, fun u id' generation' event' hu hfound' => ?_,
    fun u id' generation' event' hu hfound' => ?_, fun u id' hu => ?_,
    fun id' event' hfound' => ?_, fun u type cursor id' hu => ?_,
    fun u v type type' cursor cursor' id' hu hv => ?_, fun id' hused hnext => ?_, h.bounded⟩
  · rcases hobject hfound' with ⟨rfl, rfl⟩ | ⟨-, hold⟩
    · exact hown.imp_right Or.inr
    · exact (h.level id' event' hold).imp_right (Or.imp_right (hstill id' event'.type))
  · rcases hobject hfound' with ⟨rfl, rfl⟩ | ⟨hid, hold⟩
    · exact hown.imp_right Or.inl
    · have hclearing : s.pc u = .clearing id' generation' :=
        unmoved (fun q => q) hu (by simp [Ne.symm hid])
      exact (h.settled u id' generation' event' hclearing hold).imp_right
        (Or.imp_left (hstill id' event'.type))
  · rcases hobject hfound' with ⟨rfl, rfl⟩ | ⟨hid, hold⟩
    · rcases moved saw hu with ⟨-, hsaw⟩ | ⟨-, hsaw⟩
      · obtain rfl : current.generation = generation' := by simpa [saw] using hsaw
        exact hseen
      · exact h.seen u id' generation' event hsaw hfound
    · exact h.seen u id' generation' event' (unmoved saw hu (by simp [saw, Ne.symm hid])) hold
  · refine (hsome id').trans ?_
    rcases moved takes hu with ⟨-, htakes⟩ | ⟨-, htakes⟩
    · obtain rfl : id = id' := by simpa [takes] using htakes
      rw [hfound]
      rfl
    · exact h.known u id' htakes
  · rcases hobject hfound' with ⟨rfl, rfl⟩ | ⟨-, hold⟩
    · exact h.listed id' event hfound
    · exact h.listed id' event' hold
  · obtain ⟨hnone, hlisted, hfollows⟩ := h.created u type cursor id' (hconstructs hu)
    have hid : id' ≠ id := by
      rintro rfl
      rw [hfound] at hnone
      cases hnone
    exact ⟨(Function.update_of_ne hid ..).trans hnone, hlisted, hfollows⟩
  · exact h.alone u v type type' cursor cursor' id' (hconstructs hu) (hconstructs hv)
  · refine h.given id' (hused.imp (fun hfound' => (hsome id').symm.trans hfound') ?_) hnext
    exact fun ⟨u, type, cursor, hu⟩ => ⟨u, type, cursor, hconstructs hu⟩

/-- A take that finds nothing new stops, the others move the cursor. -/
theorem compareCursor_tracked (h : Tracked s) {id : ℕ} {current : Snapshot}
    (hpc : s.pc t = .comparing id current) : Tracked (compareCursor t id current s) := by
  have hidle : Tracked (s.goto t .idle) :=
    h.pass rfl rfl rfl rfl (fun _ hid => hid) rfl (by simp [hpc]) rfl (by simp)
  unfold compareCursor
  cases hfound : s.objects id with
  | none => exact h
  | some event =>
    dsimp only
    split
    · exact hidle
    · cases difference current.info event.cursor.info with
      | none => exact hidle
      | some info => exact cursor_tracked h hpc hfound _

/-- A take that was not overtaken clears the flag of an Event that does not lag. -/
theorem clearPending_tracked (h : Tracked s) {id current : ℕ} (hpc : s.pc t = .clearing id current)
    (hok : Timely s (.clearPending t id current)) : Tracked (clearPending t id s) := by
  obtain ⟨event, hfound⟩ := Option.isSome_iff_exists.mp (h.known t id (by rw [hpc]; rfl))
  have hcurrent : generation s event.type = current := hok event hfound
  have hother : ∀ id', id' ≠ id → Function.update s.pending id false id' = s.pending id' :=
    fun id' hid => Function.update_of_ne hid ..
  -- the acting take was not overtaken, so an overtaken one is another
  have hstill : ∀ id' event', s.objects id' = some event' → Overtaken s id' event'.type →
      ∃ u generation', Function.update s.pc t .idle u = .clearing id' generation' ∧
        generation' ≠ generation s event'.type := by
    intro id' event' hfound' ho
    refine ho.move fun generation' hu => ?_
    obtain ⟨rfl, rfl⟩ : id = id' ∧ current = generation' := by simpa [hpc] using hu
    obtain rfl := Option.some.inj (hfound.symm.trans hfound')
    exact hcurrent.symm
  have hconstructs : ∀ {u type cursor id'},
      Function.update s.pc t .idle u = .constructing type cursor id' →
        s.pc u = .constructing type cursor id' :=
    fun hu => unmoved (fun q => q) hu (by simp)
  refine ⟨fun id' event' hfound' => ?_, fun u id' generation' event' hu hfound' => ?_,
    fun u id' generation' event' hu hfound' => ?_, fun u id' hu => ?_, h.listed,
    fun u type cursor id' hu => ?_, fun u v type type' cursor cursor' id' hu hv => ?_,
    fun id' hused => ?_, h.bounded⟩
  · by_cases hid : id' = id
    · subst hid
      obtain rfl := Option.some.inj (hfound.symm.trans hfound')
      rcases h.settled t id' current event hpc hfound with hsame | hovertaken | hne
      · exact Or.inl hsame
      · exact Or.inr (Or.inr (hstill id' event hfound hovertaken))
      · exact absurd hcurrent.symm hne
    · exact (h.level id' event' hfound').imp_right
        (Or.imp (fun hset => (hother id' hid).trans hset) (hstill id' event' hfound'))
  · have hclearing : s.pc u = .clearing id' generation' := unmoved (fun q => q) hu (by simp)
    exact (h.settled u id' generation' event' hclearing hfound').imp_right
      (Or.imp_left (hstill id' event' hfound'))
  · exact h.seen u id' generation' event' (unmoved saw hu (by simp [saw])) hfound'
  · exact h.known u id' (unmoved takes hu (by simp [takes]))
  · obtain ⟨hnone, hlisted, hfollows⟩ := h.created u type cursor id' (hconstructs hu)
    have hid : id' ≠ id := by
      rintro rfl
      rw [hfound] at hnone
      cases hnone
    exact ⟨hnone, hlisted, hfollows.imp_right fun hset => (hother id' hid).trans hset⟩
  · exact h.alone u v type type' cursor cursor' id' (hconstructs hu) (hconstructs hv)
  · refine h.given id' (hused.imp_right ?_)
    exact fun ⟨u, type, cursor, hu⟩ => ⟨u, type, cursor, hconstructs hu⟩

/-- A new endpoint has no Events that could lag. -/
theorem Tracked.initial (side : Side) : Tracked (System.initial side) where
  level _ _ hfound := by cases hfound
  settled _ _ _ _ hpc := by cases hpc
  seen _ _ _ _ hsaw := by cases hsaw
  known _ _ htakes := by cases htakes
  listed _ _ hfound := by cases hfound
  created _ _ _ _ hpc := by cases hpc
  alone _ _ _ _ _ _ _ hpc := by cases hpc
  given := by
    rintro id (hfound | ⟨t, type, cursor, hpc⟩)
    · cases hfound
    · cases hpc
  bounded := by simp [System.initial, EventParentState.initial, UInt64.size]

/-- Every timely event keeps the Events with their slots. -/
theorem Tracked.next (h : Tracked s) {e : Event} (hen : machine.enabled s e) (hok : Timely s e) :
    Tracked (machine.next s e) := by
  cases e with
  | update t type info => exact update_tracked h hen
  | notifyNext t type notifyAll limit previous =>
    have hpc : s.pc t = .notifying type notifyAll limit previous := hen
    simp only [machine, EndpointEvents.next, notifyNext]
    split
    · split <;>
        exact h.pass rfl rfl rfl rfl (fun _ hid => hid) rfl (by simp [hpc]) rfl (by simp)
    · exact h.pass rfl rfl rfl rfl (fun _ hid => hid) rfl (by simp [hpc]) rfl (by simp)
  | createBegin t type operation =>
    have hpc : s.pc t = .idle := hen
    simp only [machine, EndpointEvents.next, createBegin]
    split
    · exact h
    · exact h.pass rfl rfl rfl rfl (fun _ hid => hid) rfl (by simp [hpc]) rfl (by simp)
  | attachBegin t type threw =>
    have hpc : s.pc t = .attaching type := hen.1
    simp only [machine, EndpointEvents.next, attachBegin]
    split
    · exact h.pass rfl rfl rfl rfl (fun _ hid => hid) rfl (by simp [hpc]) rfl (by simp)
    · split <;>
        exact h.pass rfl rfl rfl rfl (fun _ hid => hid) rfl (by simp [hpc]) rfl (by simp)
  | attachEnd t type installed =>
    have hpc : s.pc t = .installing type := hen
    simp only [machine, EndpointEvents.next, attachEnd]
    split <;>
      exact h.pass rfl rfl rfl rfl (fun _ hid => hid) rfl (by simp [hpc]) rfl (by simp)
  | snapshot t type =>
    have hpc : s.pc t = .snapshotting type := hen
    exact h.pass rfl rfl rfl rfl (fun _ hid => hid) rfl (by simp [hpc]) rfl (by simp)
  | register t type cursor => exact register_tracked h hen hok
  | construct t type cursor id threw => exact construct_tracked h hen
  | takeBegin t id operation =>
    obtain ⟨hpc, hsome⟩ := hen
    simp only [machine, EndpointEvents.next, takeBegin]
    split
    · exact h
    · refine h.move rfl rfl rfl rfl (fun _ hid => hid) rfl (by simp [hpc]) (by simp) ?_ (by simp [saw])
      intro id' hid
      obtain rfl : id = id' := by simpa [takes] using hid
      exact hsome
  | takeSnapshot t id =>
    have hpc : s.pc t = .taking id := hen
    simp only [machine, EndpointEvents.next, takeSnapshot]
    cases hfound : s.objects id with
    | none => exact h
    | some event =>
      refine h.move rfl rfl rfl rfl (fun _ hid => hid) rfl (by simp [hpc]) (by simp) ?_ ?_
      · intro id' hid
        obtain rfl : id = id' := by simpa [takes] using hid
        simp [hfound]
      · intro id' current event' hsaw hfound'
        obtain ⟨rfl, rfl⟩ : id = id' ∧ (s.parent.snapshot event.type).generation = current := by
          simpa [saw] using hsaw
        obtain rfl := Option.some.inj (hfound.symm.trans hfound')
        exact Nat.le_of_eq (snapshot_generation s event.type)
  | compareCursor t id current => exact compareCursor_tracked h hen
  | clearPending t id current => exact clearPending_tracked h hen hok

end

/-- With no call in progress an Event that lags behind its slot is pending. -/
def LevelTriggered (s : System) : Prop :=
  (∀ t, s.pc t = .idle) → ∀ id event, s.objects id = some event →
    event.cursor.generation ≠ (s.parent.slots event.type).generation → s.pending id = true

/-- In every timely run Events are level-triggered throughout. -/
theorem level_triggered_throughout (side : Side) (es : List Event) (s : System)
    (hrun : machine.RunWhen Timely (System.initial side) es s) :
    machine.Always LevelTriggered (System.initial side) es := by
  refine hrun.always fun h hidle id event hfound hlags => ?_
  have htracked := h.invariant Tracked (Tracked.initial side) fun _ _ ht hen hok => ht.next hen hok
  rcases htracked.level id event hfound with hsame | hset | ⟨t, current, hclearing, -⟩
  · exact absurd hsame hlags
  · exact hset
  · rw [hidle t] at hclearing
    cases hclearing

/-- The status of a lost liveliness. -/
def lost (count : Int32) : EventInfo := .livelinessLost count 1

/-- Thread 0 creates an Event of a new Publisher, whose liveliness is lost once. -/
def notified : List Event :=
  [.createBegin 0 .livelinessLost true,.attachBegin 0 .livelinessLost false,
    .attachEnd 0 .livelinessLost true,.snapshot 0 .livelinessLost,
    .register 0 .livelinessLost ⟨.livelinessLost 0 0,0⟩,
    .construct 0 .livelinessLost ⟨.livelinessLost 0 0,0⟩ 1 false,
    .update 1 .livelinessLost (lost 1),.notifyNext 1 .livelinessLost false 1 0,
    .notifyNext 1 .livelinessLost false 1 1,.takeBegin 0 1 true,.takeSnapshot 0 1,
    .compareCursor 0 1 ⟨lost 1,1⟩]

/-- The take ends before the next update. -/
def taken : List Event :=
  notified ++ [.clearPending 0 1 1]

/-- The slot is the one of the snapshot. -/
def current (s : System) : Event → Bool
  | .register _ type cursor => (s.parent.slots type).generation = cursor.generation
  | .clearPending _ id current =>
    (s.objects id).all fun event => (s.parent.slots event.type).generation = current
  | _ => true

/-- What relies on the current slot is timely. -/
theorem timely_of_current (s : System) (e : Event) (h : current s e = true) : Timely s e := by
  cases e with
  | register t type cursor => exact fun _ => of_decide_eq_true h
  | clearPending t id generation =>
    intro event hfound
    simpa [current, hfound, EventReadiness.generation] using h
  | _ => trivial

/-- The law where the take is not overtaken. -/
theorem level_triggered_throughout_taken :
    ∃ s, machine.exec (System.initial .publisher) taken = some s ∧
      machine.Always LevelTriggered (System.initial .publisher) taken := by
  have hsome : (machine.exec (System.initial .publisher) taken).isSome := by decide
  obtain ⟨s, hexec⟩ := Option.isSome_iff_exists.mp hsome
  refine ⟨s, hexec, level_triggered_throughout .publisher taken s ?_⟩
  exact Machine.runWhen_of_exec current timely_of_current hexec (by decide)

/-- Liveliness is lost again before the take clears the flag. -/
def overtaken : List Event :=
  notified ++
    [.update 1 .livelinessLost (lost 2),.notifyNext 1 .livelinessLost false 1 0,
      .notifyNext 1 .livelinessLost false 1 1,.clearPending 0 1 1]

/-- The Event of the second loss is not pending. -/
theorem overtaken_silent :
    ¬ ∀ side es, machine.Always LevelTriggered (System.initial side) es := by
  intro hclaim
  have hend : (machine.exec (System.initial .publisher) overtaken).map (fun s =>
      decide (s.objects 1 = some ⟨.livelinessLost,⟨lost 1,1⟩⟩ ∧
        (s.parent.slots .livelinessLost).generation = 2 ∧ s.pending 1 = false ∧
          ∀ t : ℕ, t < 2 → s.pc t = .idle)) = some true := by decide
  obtain ⟨s, hexec, hfinal⟩ := Option.map_eq_some_iff.mp hend
  obtain ⟨hfound, hslot, hclear, hbusy⟩ := of_decide_eq_true hfinal
  have hthreads : ∀ e ∈ overtaken, e.thread < 2 := by decide
  have hidle : ∀ t, s.pc t = .idle := by
    intro t
    by_cases ht : t < 2
    · exact hbusy t ht
    · exact exec_pc_ne hexec fun e he heq => ht (heq ▸ hthreads e he)
  have hset := hclaim .publisher overtaken overtaken s List.prefix_rfl hexec hidle 1 _ hfound
    (by rw [hslot]; decide)
  rw [hclear] at hset
  cases hset

end Dmw.EventReadiness
