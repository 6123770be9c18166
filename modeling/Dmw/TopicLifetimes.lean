import Dmw.GuardedRuns
import Dmw.Identity
import Dmw.RefCounting

/-!
# Lifetimes of DDS types and topics

One Context registers DDS types and creates DDS topics on behalf of any number
of Topic handles. Each index stands for one call of `acquire_topic` and for the
handle it yields, which is destroyed at most once. Every critical section of a
registry mutex is one event, and so is every DDS call between two of them; DDS
calls succeed, fail or throw. A handle that is moved stays the same handle.
-/

namespace Dmw.TopicLifetimes

open Counting GuardedRuns Identity RefCounting

/-- Calls and their handles are numbered. -/
abbrev CallId := ℕ

/-- Wire type names are numbered. -/
abbrev TypeName := ℕ

/-- DDS topic names are numbered. -/
abbrev TopicName := ℕ

/-- DDS topics are numbered in the order of their creation. -/
abbrev TopicId := ℕ

/-- `MessageType`. -/
structure MessageType where
  /-- Wire type name. -/
  typeName : TypeName
  /-- Identity of its binding. -/
  pubsubType : ℕ
  deriving DecidableEq

/-- Entry of the type registry. -/
structure RegisteredType extends Entry where
  /-- Identity of the binding it was registered with. -/
  pubsubType : ℕ
  deriving DecidableEq

/-- Entry of the topic registry. -/
structure RegisteredTopic extends Entry where
  /-- Wire type name of the topic. -/
  wireTypeName : TypeName
  /-- The DDS topic, once it is created. -/
  topic : Option TopicId
  deriving DecidableEq

/-- A DDS topic that exists or may exist; history only. -/
structure DdsTopic where
  /-- Name it was created with. -/
  name : TopicName
  /-- Wire type name it was created with. -/
  type : TypeName
  /-- A deletion was confirmed. -/
  deleted : Bool
  /-- Calls of `delete_topic` on it. -/
  deletions : ℕ
  deriving DecidableEq

/-- How a call ends for its caller. -/
inductive Reply
  | destroyed
  | failure (error : Error)
  | exception
  deriving DecidableEq

/-- What `register_type` does. -/
inductive Registration
  | registered
  | failed (code : ErrorCode)
  | threw
  deriving DecidableEq

/-- What `create_topic` does. -/
inductive Creation
  | created
  | null
  | threw
  deriving DecidableEq

/-- What it has left behind: a throw may leave a topic. -/
inductive Created
  | topic (id : TopicId)
  | null
  | unknown (id : TopicId)
  deriving DecidableEq

/-- Next step of a call, or the state of its handle. -/
inductive Pc
  | idle
  | acquiringType (type : MessageType) (name : TopicName)
  /-- Calling `register_type`. -/
  | registering (type : MessageType) (name : TopicName)
  | settlingType (type : MessageType) (name : TopicName) (outcome : Registration)
  /-- Holding a type registration. -/
  | acquiringTopic (type : TypeName) (name : TopicName)
  /-- Calling `create_topic`. -/
  | creating (type : TypeName) (name : TopicName)
  | settlingTopic (type : TypeName) (name : TopicName) (outcome : Created)
  /-- The call has returned this handle. -/
  | live (type : TypeName) (name : TopicName) (topic : Option TopicId)
  /-- Calling `delete_topic`. -/
  | deleting (type : TypeName) (name : TopicName) (topic : Option TopicId)
  | settlingDelete (type : TypeName) (name : TopicName) (topic : Option TopicId) (deleted : Bool)
  | releasingType (type : TypeName) (reply : Reply)
  /-- Calling `unregister_type`. -/
  | unregistering (type : TypeName) (reply : Reply)
  | settlingUnregister (type : TypeName) (reply : Reply) (unregistered : Bool)
  | returning (reply : Reply)
  /-- The type registration was disarmed for the sake of this topic. -/
  | disarmed (type : TypeName) (topic : Option TopicId)
  deriving DecidableEq

/-- A Context with its calls and handles. -/
structure System where
  /-- `registered_types_`. -/
  types : TypeName → Option RegisteredType
  /-- `topics_`. -/
  topics : TopicName → Option RegisteredTopic
  /-- `topic_registry_degraded_`. -/
  degraded : Bool
  /-- DDS topics ever created. -/
  participant : TopicId → Option DdsTopic
  /-- Number of the next DDS topic. -/
  nextTopic : TopicId
  /-- Calls and handles. -/
  pc : CallId → Pc

namespace System

/-- Nothing is registered. -/
def initial : System where
  types := fun _ => none
  topics := fun _ => none
  degraded := false
  participant := fun _ => none
  nextTopic := 0
  pc := fun _ => .idle

/-- Move one call. -/
def goto (t : CallId) (next : Pc) (s : System) : System :=
  {s with pc := Function.update s.pc t next}

/-- Change the entry of a type. -/
def setType (type : TypeName) (entry : Option RegisteredType) (s : System) : System :=
  {s with types := Function.update s.types type entry}

/-- Change the entry of a topic. -/
def setTopic (name : TopicName) (entry : Option RegisteredTopic) (s : System) : System :=
  {s with topics := Function.update s.topics name entry}

/-- Record a DDS topic. -/
def setDds (id : TopicId) (topic : DdsTopic) (s : System) : System :=
  {s with participant := Function.update s.participant id (some topic)}

/-- The loop of `acquire_type`; a call that has to wait stays where it is. -/
def acquireType (t : CallId) (type : MessageType) (name : TopicName) (s : System) : System :=
  match s.types type.typeName with
  | none =>
    (s.goto t (.registering type name)).setType type.typeName (some ⟨⟨.creating,0⟩,type.pubsubType⟩)
  | some entry =>
    if entry.pubsubType ≠ type.pubsubType then
      s.goto t (.returning (.failure
        ⟨.typeMismatch,"DDS wire type name has a different binding"⟩))
    else
      match entry.phase with
      | .active =>
        (s.goto t (.acquiringTopic type.typeName name)).setType type.typeName
          (some {entry with count := entry.count+1})
      | .orphaned =>
        s.goto t (.returning (.failure
          ⟨.ddsError,"DDS type registration context is indeterminate"⟩))
      | .creating | .retiring => s

/-- The section after `register_type`. -/
def settleType (t : CallId) (type : MessageType) (name : TopicName) (outcome : Registration)
    (s : System) : System :=
  let entry := s.types type.typeName
  match outcome with
  | .registered =>
    (s.goto t (.acquiringTopic type.typeName name)).setType type.typeName
      (entry.map fun entry => {entry with phase := .active, count := 1})
  | .failed code =>
    (s.goto t (.returning (.failure
      ⟨code,"Fast DDS failed to register the message type"⟩))).setType type.typeName none
  | .threw =>
    (s.goto t (.returning .exception)).setType type.typeName
      (entry.map fun entry => {entry with phase := .orphaned})

/-- The loop of `acquire_topic`. A failure releases the type registration. -/
def acquireTopic (t : CallId) (type : TypeName) (name : TopicName) (s : System) : System :=
  if s.degraded then
    s.goto t (.releasingType type (.failure ⟨.ddsError,"DDS topic registry is degraded"⟩))
  else
    match s.topics name with
    | none => (s.goto t (.creating type name)).setTopic name (some ⟨⟨.creating,0⟩,type,none⟩)
    | some entry =>
      if entry.wireTypeName ≠ type then
        s.goto t (.releasingType type (.failure
          ⟨.typeMismatch,"DDS topic already has a different wire type"⟩))
      else
        match entry.phase with
        | .active =>
          (s.goto t (.live type name entry.topic)).setTopic name
            (some {entry with count := entry.count+1})
        | .orphaned =>
          s.goto t (.releasingType type (.failure
            ⟨.ddsError,"DDS topic creation context is indeterminate"⟩))
        | .creating | .retiring => s

/-- `create_topic`. -/
def createTopic (t : CallId) (type : TypeName) (name : TopicName) (outcome : Creation)
    (s : System) : System :=
  let id := s.nextTopic
  let made := {s.setDds id ⟨name,type,false,0⟩ with nextTopic := id+1}
  match outcome with
  | .created => made.goto t (.settlingTopic type name (.topic id))
  | .threw => made.goto t (.settlingTopic type name (.unknown id))
  | .null => s.goto t (.settlingTopic type name .null)

/-- The section after `create_topic`. -/
def settleTopic (t : CallId) (type : TypeName) (name : TopicName) (outcome : Created)
    (s : System) : System :=
  let entry := s.topics name
  match outcome with
  | .topic id =>
    (s.goto t (.live type name (some id))).setTopic name
      (entry.map fun entry => {entry with phase := .active, count := 1, topic := some id})
  | .null =>
    (s.goto t (.releasingType type (.failure
      ⟨.ddsError,"Fast DDS failed to create the topic"⟩))).setTopic name none
  | .unknown id =>
    (s.goto t (.disarmed type (some id))).setTopic name
      (entry.map fun entry => {entry with phase := .orphaned})

/-- The first section of `release_topic`. Without a confirmed deletion the type
registration is disarmed. -/
def releaseTopic (t : CallId) (type : TypeName) (name : TopicName) (topic : Option TopicId)
    (s : System) : System :=
  match s.topics name with
  | none => s.goto t (.disarmed type topic)
  | some entry =>
    if entry.count = 0 then s.goto t (.disarmed type topic)
    else if entry.phase ≠ .active then
      (s.goto t (.disarmed type topic)).setTopic name (some {entry with count := entry.count-1})
    else if entry.count-1 ≠ 0 then
      (s.goto t (.releasingType type .destroyed)).setTopic name
        (some {entry with count := entry.count-1})
    else
      (s.goto t (.deleting type name entry.topic)).setTopic name
        (some {entry with phase := .retiring, count := 0})

/-- `delete_topic`. -/
def deleteTopic (t : CallId) (type : TypeName) (name : TopicName) (topic : Option TopicId)
    (deleted : Bool) (s : System) : System :=
  let called := match topic.bind fun id => (s.participant id).map (id,·) with
    | none => s
    | some (id,dds) =>
      s.setDds id {dds with deleted := dds.deleted || deleted, deletions := dds.deletions+1}
  called.goto t (.settlingDelete type name topic deleted)

/-- The section after `delete_topic`. -/
def settleDelete (t : CallId) (type : TypeName) (name : TopicName) (topic : Option TopicId)
    (deleted : Bool) (s : System) : System :=
  match deleted with
  | true => (s.goto t (.releasingType type .destroyed)).setTopic name none
  | false =>
    (s.goto t (.disarmed type topic)).setTopic name
      ((s.topics name).map fun entry => {entry with phase := .orphaned})

/-- The first section of `release_type`. -/
def releaseType (t : CallId) (type : TypeName) (reply : Reply) (s : System) : System :=
  match s.types type with
  | none => s.goto t (.returning reply)
  | some entry =>
    if entry.count = 0 then s.goto t (.returning reply)
    else if entry.count-1 ≠ 0 ∨ entry.phase ≠ .active then
      (s.goto t (.returning reply)).setType type (some {entry with count := entry.count-1})
    else
      (s.goto t (.unregistering type reply)).setType type
        (some {entry with phase := .retiring, count := 0})

/-- The section after `unregister_type`. -/
def settleUnregister (t : CallId) (type : TypeName) (reply : Reply) (unregistered : Bool)
    (s : System) : System :=
  let entry := s.types type
  let after := match unregistered with
    | true => none
    | false => entry.map fun entry => {entry with phase := .orphaned}
  (s.goto t (.returning reply)).setType type after

end System

/-- One atomic event. -/
inductive Event
  | acquire (t : CallId) (type : MessageType) (name : TopicName)
  | acquireType (t : CallId) (type : MessageType) (name : TopicName)
  | registerType (t : CallId) (type : MessageType) (name : TopicName) (outcome : Registration)
  | settleType (t : CallId) (type : MessageType) (name : TopicName) (outcome : Registration)
  | acquireTopic (t : CallId) (type : TypeName) (name : TopicName)
  | createTopic (t : CallId) (type : TypeName) (name : TopicName) (outcome : Creation)
  | settleTopic (t : CallId) (type : TypeName) (name : TopicName) (outcome : Created)
  | releaseTopic (t : CallId) (type : TypeName) (name : TopicName) (topic : Option TopicId)
  | deleteTopic (t : CallId) (type : TypeName) (name : TopicName) (topic : Option TopicId)
      (deleted : Bool)
  | settleDelete (t : CallId) (type : TypeName) (name : TopicName) (topic : Option TopicId)
      (deleted : Bool)
  | releaseType (t : CallId) (type : TypeName) (reply : Reply)
  | unregisterType (t : CallId) (type : TypeName) (reply : Reply) (unregistered : Bool)
  | settleUnregister (t : CallId) (type : TypeName) (reply : Reply) (unregistered : Bool)
  | finish (t : CallId) (reply : Reply)
  deriving DecidableEq

/-- Calls follow their steps, and handles are destroyed at any time. -/
def Enabled (s : System) : Event → Prop
  | .acquire t _ _ => s.pc t = .idle
  | .acquireType t type name => s.pc t = .acquiringType type name
  | .registerType t type name _ => s.pc t = .registering type name
  | .settleType t type name outcome => s.pc t = .settlingType type name outcome
  | .acquireTopic t type name => s.pc t = .acquiringTopic type name
  | .createTopic t type name _ => s.pc t = .creating type name
  | .settleTopic t type name outcome => s.pc t = .settlingTopic type name outcome
  | .releaseTopic t type name topic => s.pc t = .live type name topic
  | .deleteTopic t type name topic _ => s.pc t = .deleting type name topic
  | .settleDelete t type name topic deleted => s.pc t = .settlingDelete type name topic deleted
  | .releaseType t type reply => s.pc t = .releasingType type reply
  | .unregisterType t type reply _ => s.pc t = .unregistering type reply
  | .settleUnregister t type reply unregistered =>
    s.pc t = .settlingUnregister type reply unregistered
  | .finish t reply => s.pc t = .returning reply

/-- Effect of an enabled event. -/
def next (s : System) : Event → System
  | .acquire t type name => s.goto t (.acquiringType type name)
  | .acquireType t type name => s.acquireType t type name
  | .registerType t type name outcome => s.goto t (.settlingType type name outcome)
  | .settleType t type name outcome => s.settleType t type name outcome
  | .acquireTopic t type name => s.acquireTopic t type name
  | .createTopic t type name outcome => s.createTopic t type name outcome
  | .settleTopic t type name outcome => s.settleTopic t type name outcome
  | .releaseTopic t type name topic => s.releaseTopic t type name topic
  | .deleteTopic t type name topic deleted => s.deleteTopic t type name topic deleted
  | .settleDelete t type name topic deleted => s.settleDelete t type name topic deleted
  | .releaseType t type reply => s.releaseType t type reply
  | .unregisterType t type reply unregistered =>
    s.goto t (.settlingUnregister type reply unregistered)
  | .settleUnregister t type reply unregistered => s.settleUnregister t type reply unregistered
  | .finish t _ => s.goto t .idle

instance (s : System) (e : Event) : Decidable (Enabled s e) := by
  cases e <;> unfold Enabled <;> infer_instance

/-- The Context as a guarded machine. -/
def machine : Machine System Event where
  enabled := Enabled
  next := next
  decidableEnabled := inferInstance

/-- What a call is to the type registry. -/
def Pc.typeRole : Pc → Role TypeName
  | .registering type _ | .settlingType type _ _ => .creator type.typeName
  | .acquiringTopic type _ | .creating type _ | .settlingTopic type _ _ | .live type _ _
  | .deleting type _ _ | .settlingDelete type _ _ _ | .releasingType type _
  | .disarmed type _ => .holder type
  | .unregistering type _ | .settlingUnregister type _ _ => .remover type
  | .idle | .acquiringType _ _ | .returning _ => .none

/-- What a call is to the topic registry. -/
def Pc.topicRole : Pc → Role TopicName
  | .creating _ name | .settlingTopic _ name _ => .creator name
  | .live _ name _ => .holder name
  | .deleting _ name _ | .settlingDelete _ name _ _ => .remover name
  | _ => .none

/-- The type registry without its bindings. -/
def System.typeEntries (s : System) (type : TypeName) : Option Entry :=
  (s.types type).map (·.toEntry)

/-- The topic registry without its topics. -/
def System.topicEntries (s : System) (name : TopicName) : Option Entry :=
  (s.topics name).map (·.toEntry)

/-- Both registries count. -/
structure Registered (s : System) : Prop where
  /-- Types and type registrations. -/
  types : Sound s.typeEntries fun i => (s.pc i).typeRole
  /-- Topics and handles. -/
  topics : Sound s.topicEntries fun i => (s.pc i).topicRole

section Registries

variable {s : System} {t : CallId} {p : Pc} {name : TopicName} {type : TypeName}

theorem typeRole_goto : (fun i => ((s.goto t p).pc i).typeRole) =
    Function.update (fun i => (s.pc i).typeRole) t p.typeRole := by
  funext i
  by_cases hi : i = t
  · subst hi
    simp [System.goto]
  · simp [System.goto, hi]

theorem topicRole_goto : (fun i => ((s.goto t p).pc i).topicRole) =
    Function.update (fun i => (s.pc i).topicRole) t p.topicRole := by
  funext i
  by_cases hi : i = t
  · subst hi
    simp [System.goto]
  · simp [System.goto, hi]

theorem typeEntries_setType (entry : Option RegisteredType) :
    (s.setType type entry).typeEntries =
      Function.update s.typeEntries type (entry.map (·.toEntry)) := by
  funext k
  by_cases hk : k = type
  · subst hk
    simp [System.typeEntries, System.setType]
  · simp [System.typeEntries, System.setType, hk]

theorem topicEntries_setTopic (entry : Option RegisteredTopic) :
    (s.setTopic name entry).topicEntries =
      Function.update s.topicEntries name (entry.map (·.toEntry)) := by
  funext k
  by_cases hk : k = name
  · subst hk
    simp [System.topicEntries, System.setTopic]
  · simp [System.topicEntries, System.setTopic, hk]

/-- A call moves within its roles. -/
theorem Registered.goto (h : Registered s) (htype : p.typeRole = (s.pc t).typeRole)
    (htopic : p.topicRole = (s.pc t).topicRole) : Registered (s.goto t p) where
  types := by
    rw [typeRole_goto, htype]
    exact h.types.stay
  topics := by
    rw [topicRole_goto, htopic]
    exact h.topics.stay

/-- A call changes its role to a type. -/
theorem Registered.typeStep (h : Registered s) {entry : Option RegisteredType}
    (hstep : Step type (s.typeEntries type) (entry.map (·.toEntry)) (s.pc t).typeRole p.typeRole)
    (htopic : p.topicRole = (s.pc t).topicRole) :
    Registered ((s.goto t p).setType type entry) where
  types := by
    have hsound := h.types.step hstep
    rw [← typeRole_goto, ← typeEntries_setType] at hsound
    exact hsound
  topics := by
    have hsound : Sound s.topicEntries fun i => ((s.goto t p).pc i).topicRole := by
      rw [topicRole_goto, htopic]
      exact h.topics.stay
    exact hsound

/-- A call changes its role to a topic. -/
theorem Registered.topicStep (h : Registered s) {entry : Option RegisteredTopic}
    (hstep : Step name (s.topicEntries name) (entry.map (·.toEntry)) (s.pc t).topicRole p.topicRole)
    (htype : p.typeRole = (s.pc t).typeRole) :
    Registered ((s.goto t p).setTopic name entry) where
  types := by
    have hsound : Sound s.typeEntries fun i => ((s.goto t p).pc i).typeRole := by
      rw [typeRole_goto, htype]
      exact h.types.stay
    exact hsound
  topics := by
    have hsound := h.topics.step hstep
    rw [← topicRole_goto, ← topicEntries_setTopic] at hsound
    exact hsound

/-- The record behind an entry of the type registry. -/
theorem types_of_entry {phase : EntryPhase} {count : ℕ}
    (h : s.typeEntries type = some ⟨phase,count⟩) :
    ∃ pubsubType, s.types type = some ⟨⟨phase,count⟩,pubsubType⟩ := by
  obtain ⟨record, hrecord, hentry⟩ := Option.map_eq_some_iff.mp h
  obtain ⟨entry, pubsubType⟩ := record
  have heq : entry = ⟨phase,count⟩ := hentry
  exact ⟨pubsubType, by rw [hrecord, heq]⟩

/-- The record behind an entry of the topic registry. -/
theorem topics_of_entry {phase : EntryPhase} {count : ℕ}
    (h : s.topicEntries name = some ⟨phase,count⟩) :
    ∃ wireTypeName topic, s.topics name = some ⟨⟨phase,count⟩,wireTypeName,topic⟩ := by
  obtain ⟨record, hrecord, hentry⟩ := Option.map_eq_some_iff.mp h
  obtain ⟨entry, wireTypeName, topic⟩ := record
  have heq : entry = ⟨phase,count⟩ := hentry
  exact ⟨wireTypeName, topic, by rw [hrecord, heq]⟩

/-- The section that looks a type up. -/
theorem Registered.acquireType (h : Registered s) {message : MessageType}
    (hpc : s.pc t = .acquiringType message name) : Registered (s.acquireType t message name) := by
  have hrole : (s.pc t).typeRole = .none := by rw [hpc]; rfl
  have hother : (s.pc t).topicRole = .none := by rw [hpc]; rfl
  unfold System.acquireType
  split
  · next habsent =>
    refine h.typeStep ?_ (by rw [hother]; rfl)
    rw [System.typeEntries, habsent, hrole]
    exact .reserve
  · next entry hentry =>
    split
    · exact h.goto (by rw [hrole]; rfl) (by rw [hother]; rfl)
    · split
      · next hphase =>
        refine h.typeStep ?_ (by rw [hother]; rfl)
        rw [System.typeEntries, hentry, hrole]
        obtain ⟨⟨phase, count⟩, pubsubType⟩ := entry
        obtain rfl : phase = .active := hphase
        exact .share
      · exact h.goto (by rw [hrole]; rfl) (by rw [hother]; rfl)
      · exact h
      · exact h

/-- The section after a registration. -/
theorem Registered.settleType (h : Registered s) {message : MessageType} {outcome : Registration}
    (hpc : s.pc t = .settlingType message name outcome) :
    Registered (s.settleType t message name outcome) := by
  have hrole : (s.pc t).typeRole = .creator message.typeName := by rw [hpc]; rfl
  have hother : (s.pc t).topicRole = .none := by rw [hpc]; rfl
  have hmade := h.types.made hrole
  obtain ⟨pubsubType, htypes⟩ := types_of_entry hmade
  unfold System.settleType
  cases outcome with
  | registered =>
    refine h.typeStep ?_ (by rw [hother]; rfl)
    rw [hmade, htypes, hrole]
    exact .activate
  | failed code =>
    refine h.typeStep ?_ (by rw [hother]; rfl)
    rw [hmade, hrole]
    exact .abandon
  | threw =>
    refine h.typeStep ?_ (by rw [hother]; rfl)
    rw [hmade, htypes, hrole]
    exact .orphanCreation

/-- The section that looks a topic up. -/
theorem Registered.acquireTopic (h : Registered s) (hpc : s.pc t = .acquiringTopic type name) :
    Registered (s.acquireTopic t type name) := by
  have hrole : (s.pc t).topicRole = .none := by rw [hpc]; rfl
  have hother : (s.pc t).typeRole = .holder type := by rw [hpc]; rfl
  have hrefused : ∀ reply, Registered (s.goto t (.releasingType type reply)) := fun reply =>
    h.goto (by rw [hother]; rfl) (by rw [hrole]; rfl)
  unfold System.acquireTopic
  split
  · exact hrefused _
  · split
    · next habsent =>
      refine h.topicStep ?_ (by rw [hother]; rfl)
      rw [System.topicEntries, habsent, hrole]
      exact .reserve
    · next entry hentry =>
      split
      · exact hrefused _
      · split
        · next hphase =>
          refine h.topicStep ?_ (by rw [hother]; rfl)
          rw [System.topicEntries, hentry, hrole]
          obtain ⟨⟨phase, count⟩, wireTypeName, topic⟩ := entry
          obtain rfl : phase = .active := hphase
          exact .share
        · exact hrefused _
        · exact h
        · exact h

/-- The section after a creation. -/
theorem Registered.settleTopic (h : Registered s) {outcome : Created}
    (hpc : s.pc t = .settlingTopic type name outcome) :
    Registered (s.settleTopic t type name outcome) := by
  have hrole : (s.pc t).topicRole = .creator name := by rw [hpc]; rfl
  have hother : (s.pc t).typeRole = .holder type := by rw [hpc]; rfl
  have hmade := h.topics.made hrole
  obtain ⟨wireTypeName, topic, htopics⟩ := topics_of_entry hmade
  unfold System.settleTopic
  cases outcome with
  | topic id =>
    refine h.topicStep ?_ (by rw [hother]; rfl)
    rw [hmade, htopics, hrole]
    exact .activate
  | null =>
    refine h.topicStep ?_ (by rw [hother]; rfl)
    rw [hmade, hrole]
    exact .abandon
  | unknown id =>
    refine h.topicStep ?_ (by rw [hother]; rfl)
    rw [hmade, htopics, hrole]
    exact .orphanCreation

/-- A live handle finds its entry active: it leaves other holders behind or
retires the entry. -/
theorem releaseTopic_cases (h : Registered s) {topic : Option TopicId}
    (hpc : s.pc t = .live type name topic) : ∃ n wireTypeName found,
      s.topics name = some ⟨⟨.active,n+1⟩,wireTypeName,found⟩ ∧
        (n ≠ 0 ∧ s.releaseTopic t type name topic =
            (s.goto t (.releasingType type .destroyed)).setTopic name
              (some ⟨⟨.active,n⟩,wireTypeName,found⟩) ∨
          n = 0 ∧ s.releaseTopic t type name topic =
            (s.goto t (.deleting type name found)).setTopic name
              (some ⟨⟨.retiring,0⟩,wireTypeName,found⟩)) := by
  have hrole : (s.pc t).topicRole = .holder name := by rw [hpc]; rfl
  obtain ⟨n, hheld⟩ := h.topics.held hrole
  obtain ⟨wireTypeName, found, htopics⟩ := topics_of_entry hheld
  refine ⟨n, wireTypeName, found, htopics, ?_⟩
  by_cases hn : n = 0
  · exact .inr ⟨hn, by simp [System.releaseTopic, htopics, hn]⟩
  · exact .inl ⟨hn, by simp [System.releaseTopic, htopics, hn]⟩

/-- The section that releases a handle. -/
theorem Registered.releaseTopic (h : Registered s) {topic : Option TopicId}
    (hpc : s.pc t = .live type name topic) : Registered (s.releaseTopic t type name topic) := by
  have hrole : (s.pc t).topicRole = .holder name := by rw [hpc]; rfl
  have hother : (s.pc t).typeRole = .holder type := by rw [hpc]; rfl
  obtain ⟨n, wireTypeName, found, htopics, hcase⟩ := releaseTopic_cases h hpc
  rcases hcase with ⟨hn, heq⟩ | ⟨hn, heq⟩
  · rw [heq]
    refine h.topicStep ?_ (by rw [hother]; rfl)
    rw [System.topicEntries, htopics, hrole]
    obtain ⟨m, rfl⟩ := Nat.exists_eq_succ_of_ne_zero hn
    exact .leave
  · rw [heq]
    refine h.topicStep ?_ (by rw [hother]; rfl)
    rw [System.topicEntries, htopics, hrole, hn]
    exact .retire

/-- The section after a deletion. -/
theorem Registered.settleDelete (h : Registered s) {topic : Option TopicId} {deleted : Bool}
    (hpc : s.pc t = .settlingDelete type name topic deleted) :
    Registered (s.settleDelete t type name topic deleted) := by
  have hrole : (s.pc t).topicRole = .remover name := by rw [hpc]; rfl
  have hother : (s.pc t).typeRole = .holder type := by rw [hpc]; rfl
  have hretired := h.topics.retired hrole
  obtain ⟨wireTypeName, found, htopics⟩ := topics_of_entry hretired
  unfold System.settleDelete
  cases deleted with
  | true =>
    refine h.topicStep ?_ (by rw [hother]; rfl)
    rw [hretired, hrole]
    exact .remove
  | false =>
    refine h.topicStep ?_ (by rw [hother]; rfl)
    rw [hretired, htopics, hrole]
    exact .orphanRemoval

/-- The section that releases a type registration. -/
theorem Registered.releaseType (h : Registered s) {reply : Reply}
    (hpc : s.pc t = .releasingType type reply) : Registered (s.releaseType t type reply) := by
  have hrole : (s.pc t).typeRole = .holder type := by rw [hpc]; rfl
  have hother : (s.pc t).topicRole = .none := by rw [hpc]; rfl
  obtain ⟨n, hheld⟩ := h.types.held hrole
  obtain ⟨pubsubType, htypes⟩ := types_of_entry hheld
  by_cases hn : n = 0
  · have heq : s.releaseType t type reply =
        (s.goto t (.unregistering type reply)).setType type (some ⟨⟨.retiring,0⟩,pubsubType⟩) := by
      simp [System.releaseType, htypes, hn]
    rw [heq]
    refine h.typeStep ?_ (by rw [hother]; rfl)
    rw [hheld, hrole, hn]
    exact .retire
  · have heq : s.releaseType t type reply =
        (s.goto t (.returning reply)).setType type (some ⟨⟨.active,n⟩,pubsubType⟩) := by
      simp [System.releaseType, htypes, hn]
    rw [heq]
    refine h.typeStep ?_ (by rw [hother]; rfl)
    rw [hheld, hrole]
    obtain ⟨m, rfl⟩ := Nat.exists_eq_succ_of_ne_zero hn
    exact .leave

/-- The section after an unregistration. -/
theorem Registered.settleUnregister (h : Registered s) {reply : Reply} {unregistered : Bool}
    (hpc : s.pc t = .settlingUnregister type reply unregistered) :
    Registered (s.settleUnregister t type reply unregistered) := by
  have hrole : (s.pc t).typeRole = .remover type := by rw [hpc]; rfl
  have hother : (s.pc t).topicRole = .none := by rw [hpc]; rfl
  have hretired := h.types.retired hrole
  obtain ⟨pubsubType, htypes⟩ := types_of_entry hretired
  unfold System.settleUnregister
  cases unregistered with
  | true =>
    refine h.typeStep ?_ (by rw [hother]; rfl)
    rw [hretired, hrole]
    exact .remove
  | false =>
    refine h.typeStep ?_ (by rw [hother]; rfl)
    rw [hretired, htypes, hrole]
    exact .orphanRemoval

/-- The DDS topics do not count. -/
theorem Registered.dds (h : Registered s) (participant : TopicId → Option DdsTopic)
    (nextTopic : TopicId) :
    Registered {s with participant := participant, nextTopic := nextTopic} :=
  ⟨h.types, h.topics⟩

/-- Every step keeps the counts of both registries. -/
theorem Registered.step (h : Registered s) {e : Event} (hen : Enabled s e) :
    Registered (next s e) := by
  cases e with
  | acquire t type name =>
    exact h.goto (congrArg Pc.typeRole hen).symm (congrArg Pc.topicRole hen).symm
  | acquireType t type name => exact h.acquireType hen
  | registerType t type name outcome =>
    exact h.goto (congrArg Pc.typeRole hen).symm (congrArg Pc.topicRole hen).symm
  | settleType t type name outcome => exact h.settleType hen
  | acquireTopic t type name => exact h.acquireTopic hen
  | createTopic t type name outcome =>
    have hmade := h.dds (Function.update s.participant s.nextTopic (some ⟨name,type,false,0⟩))
      (s.nextTopic+1)
    cases outcome with
    | created => exact hmade.goto (congrArg Pc.typeRole hen).symm (congrArg Pc.topicRole hen).symm
    | threw => exact hmade.goto (congrArg Pc.typeRole hen).symm (congrArg Pc.topicRole hen).symm
    | null => exact h.goto (congrArg Pc.typeRole hen).symm (congrArg Pc.topicRole hen).symm
  | settleTopic t type name outcome => exact h.settleTopic hen
  | releaseTopic t type name topic => exact h.releaseTopic hen
  | deleteTopic t type name topic deleted =>
    simp only [next, System.deleteTopic]
    split
    · exact h.goto (congrArg Pc.typeRole hen).symm (congrArg Pc.topicRole hen).symm
    · next id dds _ =>
      have hcalled := h.dds (Function.update s.participant id
        (some {dds with deleted := dds.deleted || deleted, deletions := dds.deletions+1})) s.nextTopic
      exact hcalled.goto (congrArg Pc.typeRole hen).symm (congrArg Pc.topicRole hen).symm
  | settleDelete t type name topic deleted => exact h.settleDelete hen
  | releaseType t type reply => exact h.releaseType hen
  | unregisterType t type reply unregistered =>
    exact h.goto (congrArg Pc.typeRole hen).symm (congrArg Pc.topicRole hen).symm
  | settleUnregister t type reply unregistered => exact h.settleUnregister hen
  | finish t reply =>
    exact h.goto (congrArg Pc.typeRole hen).symm (congrArg Pc.topicRole hen).symm

end Registries

/-- In every reachable state both registries count. -/
theorem registered_of_run {es : List Event} {s : System} (h : machine.Run System.initial es s) :
    Registered s :=
  h.invariant Registered ⟨Sound.empty, Sound.empty⟩ fun _ _ hregistered hen _ =>
    hregistered.step hen

/-- The DDS topic that a call or handle keeps the type for. -/
def Pc.guards : Pc → Option (TypeName × TopicId)
  | .settlingTopic type _ (.topic id) | .settlingTopic type _ (.unknown id) => some (type,id)
  | .live type _ topic | .deleting type _ topic | .settlingDelete type _ topic false
  | .disarmed type topic => topic.map (type,·)
  | _ => none

/-- Whoever guards a topic holds its type. -/
theorem Pc.holder_of_guards {p : Pc} {type : TypeName} {id : TopicId}
    (h : p.guards = some (type,id)) : p.typeRole = .holder type := by
  have hmap : ∀ {type' : TypeName} {topic : Option TopicId},
      topic.map (type',·) = some (type,id) → type' = type := by
    intro type' topic hsome
    obtain ⟨_, -, heq⟩ := Option.map_eq_some_iff.mp hsome
    exact (Prod.mk.inj heq).1
  cases p with
  | settlingTopic type' name outcome =>
    cases outcome with
    | topic id' => rw [← (Prod.mk.inj (Option.some.inj h)).1]; rfl
    | null => cases h
    | unknown id' => rw [← (Prod.mk.inj (Option.some.inj h)).1]; rfl
  | live type' name topic => rw [← hmap h]; rfl
  | deleting type' name topic => rw [← hmap h]; rfl
  | settlingDelete type' name topic deleted =>
    cases deleted with
    | true => cases h
    | false => rw [← hmap h]; rfl
  | disarmed type' topic => rw [← hmap h]; rfl
  | _ => cases h

/-- The entry of a topic has a wire type. -/
def Typed (s : System) (type : TypeName) (name : TopicName) : Prop :=
  ∃ entry, s.topics name = some entry ∧ entry.wireTypeName = type

/-- A DDS topic on which no deletion was tried. -/
def Fresh (s : System) (type : TypeName) (name : TopicName) (id : TopicId) : Prop :=
  s.participant id = some ⟨name,type,false,0⟩

/-- What the step of a call says about topics. -/
def PcOk (s : System) : Pc → Prop
  | .creating type name => Typed s type name
  | .settlingTopic type name outcome =>
    Typed s type name ∧ ∀ id, outcome = .topic id → Fresh s type name id
  | .live type name topic =>
    ∃ entry, s.topics name = some entry ∧ entry.wireTypeName = type ∧ entry.topic = topic
  | .deleting type name topic => ∃ id, topic = some id ∧ Fresh s type name id
  | _ => True

/-- DDS topics fit the registry, and their types are kept. -/
structure Kept (s : System) : Prop where
  /-- Numbers are given out once. -/
  numbered : ∀ id dds, s.participant id = some dds → id < s.nextTopic
  /-- Deletions are not repeated. -/
  once : ∀ id dds, s.participant id = some dds → dds.deletions ≤ 1
  /-- An active entry names its DDS topic. -/
  entries : ∀ name entry, s.topics name = some entry → entry.phase = .active →
    ∃ id, entry.topic = some id ∧ Fresh s entry.wireTypeName name id
  /-- Calls and handles. -/
  calls : ∀ i, PcOk s (s.pc i)
  /-- A DDS topic that may exist has somebody who keeps its type. -/
  guarded : ∀ id dds, s.participant id = some dds → dds.deleted = false →
    ∃ i, (s.pc i).guards = some (dds.type,id)

section Topics

variable {s : System} {t : CallId} {p : Pc} {name : TopicName} {type : TypeName}

/-- A call that works on the creation or holds an entry may count on its record. -/
def Untouched (s : System) (name : TopicName) (entry : Option RegisteredTopic) (p : Pc) : Prop :=
  p.topicRole = .creator name ∨ p.topicRole = .holder name →
    ∃ before after, s.topics name = some before ∧ entry = some after ∧
      after.wireTypeName = before.wireTypeName ∧ after.topic = before.topic

/-- A call keeps what it knows through a change of some entry. -/
theorem PcOk.setTopic (h : PcOk s p) {entry : Option RegisteredTopic}
    (huntouched : Untouched s name entry p) : PcOk (s.setTopic name entry) p := by
  have hother : ∀ {name'}, name' ≠ name → (s.setTopic name entry).topics name' = s.topics name' :=
    fun hne => Function.update_of_ne hne _ _
  have hself : (s.setTopic name entry).topics name = entry := Function.update_self _ _ _
  have htyped : ∀ {type name'}, Typed s type name' →
      (p.topicRole = .creator name' ∨ p.topicRole = .holder name') →
        Typed (s.setTopic name entry) type name' := by
    intro type name' ⟨record, hrecord, htype⟩ hrole
    by_cases hname : name' = name
    · subst hname
      obtain ⟨before, after, hbefore, hafter, hwire, -⟩ := huntouched hrole
      rw [hbefore, Option.some.injEq] at hrecord
      subst hrecord
      exact ⟨after, hself.trans hafter, hwire.trans htype⟩
    · exact ⟨record, (hother hname).trans hrecord, htype⟩
  cases p with
  | creating type' name' => exact htyped h (.inl rfl)
  | settlingTopic type' name' outcome => exact ⟨htyped h.1 (.inl rfl), h.2⟩
  | live type' name' topic =>
    obtain ⟨record, hrecord, htype, htopic⟩ := h
    by_cases hname : name' = name
    · subst hname
      obtain ⟨before, after, hbefore, hafter, hwire, hsame⟩ := huntouched (.inr rfl)
      rw [hbefore, Option.some.injEq] at hrecord
      subst hrecord
      exact ⟨after, hself.trans hafter, hwire.trans htype, hsame.trans htopic⟩
    · exact ⟨record, (hother hname).trans hrecord, htype, htopic⟩
  | deleting type' name' topic => exact h
  | _ => trivial

/-- What a call guards is still guarded when it moves on. -/
def Passes (s : System) (t : CallId) (p : Pc) : Prop :=
  ∀ g, (s.pc t).guards = some g → p.guards = some g ∨ ∃ u, u ≠ t ∧ (s.pc u).guards = some g

/-- A guarded topic stays guarded. -/
theorem guarded_goto {g : TypeName × TopicId} (hpasses : Passes s t p)
    (h : ∃ i, (s.pc i).guards = some g) : ∃ i, ((s.goto t p).pc i).guards = some g := by
  obtain ⟨i, hi⟩ := h
  have helse : ∀ u, u ≠ t → (s.pc u).guards = some g →
      ∃ i, ((s.goto t p).pc i).guards = some g := by
    intro u hu hguards
    exact ⟨u, by simpa [System.goto, hu] using hguards⟩
  by_cases hit : i = t
  · subst hit
    rcases hpasses g hi with hp | ⟨u, hu, hguards⟩
    · exact ⟨i, by simpa [System.goto] using hp⟩
    · exact helse u hu hguards
  · exact helse i hit hi

/-- One call moves on. -/
theorem Kept.goto (h : Kept s) (hok : PcOk s p) (hpasses : Passes s t p) : Kept (s.goto t p) where
  numbered := h.numbered
  once := h.once
  entries := h.entries
  calls := by
    intro i
    by_cases hi : i = t
    · subst hi
      have hpc : (s.goto i p).pc i = p := Function.update_self _ _ _
      rw [hpc]
      exact hok
    · have hpc : (s.goto t p).pc i = s.pc i := Function.update_of_ne hi _ _
      rw [hpc]
      exact h.calls i
  guarded := fun id dds hdds hnot => guarded_goto hpasses (h.guarded id dds hdds hnot)

/-- One call moves on and changes a type, which does not matter. -/
theorem Kept.typeMove (h : Kept s) {entry : Option RegisteredType} (hok : PcOk s p)
    (hpasses : Passes s t p) : Kept ((s.goto t p).setType type entry) := by
  have hmoved := h.goto hok hpasses
  exact ⟨hmoved.numbered, hmoved.once, hmoved.entries, hmoved.calls, hmoved.guarded⟩

/-- One call moves on and changes an entry. -/
theorem Kept.topicMove (h : Kept s) {entry : Option RegisteredTopic}
    (hok : PcOk (s.setTopic name entry) p)
    (hactive : ∀ after, entry = some after → after.phase = .active →
      ∃ id, after.topic = some id ∧ Fresh s after.wireTypeName name id)
    (hothers : ∀ i, i ≠ t → Untouched s name entry (s.pc i)) (hpasses : Passes s t p) :
    Kept ((s.goto t p).setTopic name entry) where
  numbered := h.numbered
  once := h.once
  entries := by
    intro name' record hrecord hphase
    by_cases hname : name' = name
    · subst hname
      exact hactive record (by simpa [System.setTopic] using hrecord) hphase
    · exact h.entries name' record (by simpa [System.setTopic, System.goto, hname] using hrecord) hphase
  calls := by
    intro i
    by_cases hi : i = t
    · subst hi
      have hpc : ((s.goto i p).setTopic name entry).pc i = p := Function.update_self _ _ _
      rw [hpc]
      exact hok
    · have hpc : ((s.goto t p).setTopic name entry).pc i = s.pc i := Function.update_of_ne hi _ _
      rw [hpc]
      have hcall : PcOk (s.setTopic name entry) (s.pc i) := (h.calls i).setTopic (hothers i hi)
      exact hcall
  guarded := fun id dds hdds hnot => guarded_goto hpasses (h.guarded id dds hdds hnot)

/-- A call that guards nothing may move anywhere. -/
theorem Passes.of_none (h : (s.pc t).guards = none) : Passes s t p := by
  intro g hg
  rw [h] at hg
  cases hg

/-- A call that goes on guarding the same may move. -/
theorem Passes.of_eq (h : p.guards = (s.pc t).guards) : Passes s t p :=
  fun _ hg => .inl (h.trans hg)

/-- A change that keeps the record bothers nobody. -/
theorem Untouched.of_some {before after : RegisteredTopic} {q : Pc}
    (hbefore : s.topics name = some before) (hwire : after.wireTypeName = before.wireTypeName)
    (htopic : after.topic = before.topic) : Untouched s name (some after) q :=
  fun _ => ⟨before, after, hbefore, rfl, hwire, htopic⟩

/-- Nobody knows an entry that is absent. -/
theorem Untouched.of_none (h : Kept s) (habsent : s.topics name = none)
    {entry : Option RegisteredTopic} (i : CallId) : Untouched s name entry (s.pc i) := by
  have hcall := h.calls i
  intro hrole
  generalize s.pc i = q at hcall hrole
  cases q with
  | creating type' name' =>
    obtain rfl : name' = name := by simpa [Pc.topicRole] using hrole
    obtain ⟨record, hrecord, -⟩ := hcall
    rw [habsent] at hrecord
    cases hrecord
  | settlingTopic type' name' outcome =>
    obtain rfl : name' = name := by simpa [Pc.topicRole] using hrole
    obtain ⟨⟨record, hrecord, -⟩, -⟩ := hcall
    rw [habsent] at hrecord
    cases hrecord
  | live type' name' topic =>
    obtain rfl : name' = name := by simpa [Pc.topicRole] using hrole
    obtain ⟨record, hrecord, -⟩ := hcall
    rw [habsent] at hrecord
    cases hrecord
  | _ => simp [Pc.topicRole] at hrole

/-- Nobody else knows an entry that one call makes. -/
theorem Untouched.of_creator (h : Registered s) (hrole : (s.pc t).topicRole = .creator name)
    {entry : Option RegisteredTopic} {i : CallId} (hi : i ≠ t) :
    Untouched s name entry (s.pc i) := by
  have hmade := h.topics.made hrole
  rintro (hcreator | hholder)
  · exact absurd (h.topics.creator_unique hcreator hrole) hi
  · obtain ⟨n, hheld⟩ := h.topics.held hholder
    rw [hmade] at hheld
    cases hheld

/-- Nobody knows an entry that one call retires. -/
theorem Untouched.of_remover (h : Registered s) (hrole : (s.pc t).topicRole = .remover name)
    {entry : Option RegisteredTopic} (i : CallId) : Untouched s name entry (s.pc i) := by
  have hretired := h.topics.retired hrole
  rintro (hcreator | hholder)
  · have hmade := h.topics.made hcreator
    rw [hretired] at hmade
    cases hmade
  · obtain ⟨n, hheld⟩ := h.topics.held hholder
    rw [hretired] at hheld
    cases hheld

/-- The section that looks a type up. -/
theorem Kept.acquireType (h : Kept s) {message : MessageType}
    (hpc : s.pc t = .acquiringType message name) : Kept (s.acquireType t message name) := by
  have hpasses : ∀ {p}, Passes s t p := .of_none (by rw [hpc]; rfl)
  unfold System.acquireType
  split
  · exact h.typeMove trivial hpasses
  · split
    · exact h.goto trivial hpasses
    · split
      · exact h.typeMove trivial hpasses
      · exact h.goto trivial hpasses
      · exact h
      · exact h

/-- The section after a registration. -/
theorem Kept.settleType (h : Kept s) {message : MessageType} {outcome : Registration}
    (hpc : s.pc t = .settlingType message name outcome) :
    Kept (s.settleType t message name outcome) := by
  have hpasses : ∀ {p}, Passes s t p := .of_none (by rw [hpc]; rfl)
  cases outcome with
  | registered => exact h.typeMove trivial hpasses
  | failed code => exact h.typeMove trivial hpasses
  | threw => exact h.typeMove trivial hpasses

/-- The section that looks a topic up. -/
theorem Kept.acquireTopic (h : Kept s) (hpc : s.pc t = .acquiringTopic type name) :
    Kept (s.acquireTopic t type name) := by
  have hpasses : ∀ {p}, Passes s t p := .of_none (by rw [hpc]; rfl)
  unfold System.acquireTopic
  split
  · exact h.goto trivial hpasses
  · split
    · next habsent =>
      refine h.topicMove ⟨_, Function.update_self _ _ _, rfl⟩ (fun after hafter hphase => ?_)
        (fun i _ => .of_none h habsent i) hpasses
      obtain rfl := Option.some.inj hafter
      cases hphase
    · next entry hentry =>
      split
      · exact h.goto trivial hpasses
      · next hwire =>
        split
        · next hphase =>
          refine h.topicMove ⟨_, Function.update_self _ _ _, not_not.mp hwire, rfl⟩
            (fun after hafter hactive => ?_) (fun i _ => .of_some hentry rfl rfl) hpasses
          obtain rfl := Option.some.inj hafter
          exact h.entries name entry hentry hactive
        · exact h.goto trivial hpasses
        · exact h
        · exact h

/-- The section after a creation. -/
theorem Kept.settleTopic (h : Kept s) (hregistered : Registered s) {outcome : Created}
    (hpc : s.pc t = .settlingTopic type name outcome) :
    Kept (s.settleTopic t type name outcome) := by
  have hrole : (s.pc t).topicRole = .creator name := by rw [hpc]; rfl
  have hcall := h.calls t
  rw [hpc] at hcall
  obtain ⟨⟨entry, hentry, hwire⟩, hfresh⟩ := hcall
  have hothers : ∀ {entry}, ∀ i, i ≠ t → Untouched s name entry (s.pc i) :=
    fun i hi => .of_creator hregistered hrole hi
  unfold System.settleTopic
  cases outcome with
  | topic id =>
    simp only [hentry, Option.map_some]
    refine h.topicMove ⟨_, Function.update_self _ _ _, hwire, rfl⟩ (fun after hafter _ => ?_) hothers
      (.of_eq (by rw [hpc]; rfl))
    obtain rfl := Option.some.inj hafter
    exact ⟨id, rfl, hwire ▸ hfresh id rfl⟩
  | null =>
    exact h.topicMove trivial (fun _ hafter => nomatch hafter) hothers (.of_none (by rw [hpc]; rfl))
  | unknown id =>
    simp only [hentry, Option.map_some]
    refine h.topicMove trivial (fun after hafter hphase => ?_) hothers (.of_eq (by rw [hpc]; rfl))
    obtain rfl := Option.some.inj hafter
    cases hphase

/-- The section that releases a handle. -/
theorem Kept.releaseTopic (h : Kept s) (hregistered : Registered s) {topic : Option TopicId}
    (hpc : s.pc t = .live type name topic) : Kept (s.releaseTopic t type name topic) := by
  have hcall := h.calls t
  rw [hpc] at hcall
  obtain ⟨entry, hentry, hwire, htopic⟩ := hcall
  obtain ⟨n, wireTypeName, found, htopics, hcase⟩ := releaseTopic_cases hregistered hpc
  rw [hentry, Option.some.injEq] at htopics
  subst htopics
  obtain rfl : wireTypeName = type := hwire
  obtain rfl : found = topic := htopic
  obtain ⟨id, hid, hfresh⟩ := h.entries name _ hentry rfl
  rcases hcase with ⟨hn, heq⟩ | ⟨hn, heq⟩
  · rw [heq]
    refine h.topicMove trivial (fun after hafter _ => ?_) (fun i _ => .of_some hentry rfl rfl) ?_
    · obtain rfl := Option.some.inj hafter
      exact ⟨id, hid, hfresh⟩
    · -- another handle of the entry guards the same topic
      intro g hg
      have hrole : (s.pc t).topicRole = .holder name := by rw [hpc]; rfl
      have hcount := hregistered.topics.holders name
      rw [System.topicEntries, hentry] at hcount
      obtain ⟨u, hu, hholder⟩ := hcount.another (by simp [holders]; omega) t
      refine .inr ⟨u, hu, ?_⟩
      rw [hpc] at hg
      have hother := h.calls u
      generalize s.pc u = q at hholder hother ⊢
      cases q with
      | live type' name' topic' =>
        obtain rfl : name' = name := by simpa [Pc.topicRole] using hholder
        obtain ⟨record, hrecord, hwire', htopic'⟩ := hother
        rw [hentry, Option.some.injEq] at hrecord
        subst hrecord
        rw [← hwire', ← htopic']
        exact hg
      | _ => cases hholder
  · rw [heq]
    refine h.topicMove ⟨id, hid, hfresh⟩ (fun after hafter hphase => ?_)
      (fun i _ => .of_some hentry rfl rfl) (.of_eq (by rw [hpc]; rfl))
    obtain rfl := Option.some.inj hafter
    cases hphase

/-- The section after a deletion. -/
theorem Kept.settleDelete (h : Kept s) (hregistered : Registered s) {topic : Option TopicId}
    {deleted : Bool} (hpc : s.pc t = .settlingDelete type name topic deleted) :
    Kept (s.settleDelete t type name topic deleted) := by
  have hrole : (s.pc t).topicRole = .remover name := by rw [hpc]; rfl
  have hothers : ∀ {entry}, ∀ i, i ≠ t → Untouched s name entry (s.pc i) :=
    fun i _ => .of_remover hregistered hrole i
  cases deleted with
  | true =>
    exact h.topicMove trivial (fun _ hafter => nomatch hafter) hothers (.of_none (by rw [hpc]; rfl))
  | false =>
    refine h.topicMove trivial (fun after hafter hphase => ?_) hothers (.of_eq (by rw [hpc]; rfl))
    obtain ⟨record, -, rfl⟩ := Option.map_eq_some_iff.mp hafter
    cases hphase

/-- The section that releases a type registration. -/
theorem Kept.releaseType (h : Kept s) {reply : Reply} (hpc : s.pc t = .releasingType type reply) :
    Kept (s.releaseType t type reply) := by
  have hpasses : ∀ {p}, Passes s t p := .of_none (by rw [hpc]; rfl)
  unfold System.releaseType
  split
  · exact h.goto trivial hpasses
  · split
    · exact h.goto trivial hpasses
    · split
      · exact h.typeMove trivial hpasses
      · exact h.typeMove trivial hpasses

/-- Calls keep what they know while the DDS topics they count on stay. -/
theorem PcOk.setDds {q : Pc} (h : PcOk s q) {participant : TopicId → Option DdsTopic}
    (nextTopic : TopicId)
    (hfresh : ∀ {type name id}, Fresh s type name id →
      q.topicRole = .creator name ∨ q.topicRole = .remover name →
        participant id = some ⟨name,type,false,0⟩) :
    PcOk {s with participant := participant, nextTopic := nextTopic} q := by
  cases q with
  | creating type' name' => exact h
  | settlingTopic type' name' outcome =>
    exact ⟨h.1, fun id hid => hfresh (h.2 id hid) (.inl rfl)⟩
  | live type' name' topic => exact h
  | deleting type' name' topic =>
    obtain ⟨id, hid, hdds⟩ := h
    exact ⟨id, hid, hfresh hdds (.inr rfl)⟩
  | _ => trivial

/-- A new DDS topic is guarded by the call that creates it. -/
theorem Kept.make (h : Kept s) (hpc : s.pc t = .creating type name)
    (hguards : p.guards = some (type,s.nextTopic))
    (hok : ∀ s', Typed s' type name → Fresh s' type name s.nextTopic → PcOk s' p) :
    Kept ({s.setDds s.nextTopic ⟨name,type,false,0⟩ with nextTopic := s.nextTopic+1}.goto t p) := by
  have hcall := h.calls t
  rw [hpc] at hcall
  have hold : ∀ {id dds}, s.participant id = some dds →
      Function.update s.participant s.nextTopic (some ⟨name,type,false,0⟩) id = some dds := by
    intro id dds hdds
    have hlt := h.numbered id dds hdds
    rw [Function.update_of_ne (Nat.ne_of_lt hlt)]
    exact hdds
  have hcases : ∀ {id dds},
      Function.update s.participant s.nextTopic (some ⟨name,type,false,0⟩) id = some dds →
        id = s.nextTopic ∧ dds = ⟨name,type,false,0⟩ ∨ s.participant id = some dds := by
    intro id dds hdds
    by_cases hid : id = s.nextTopic
    · subst hid
      rw [Function.update_self] at hdds
      exact .inl ⟨rfl, (Option.some.inj hdds).symm⟩
    · rw [Function.update_of_ne hid] at hdds
      exact .inr hdds
  refine ⟨?_, ?_, ?_, ?_, ?_⟩
  · intro id dds hdds
    rcases hcases hdds with ⟨rfl, -⟩ | hbefore
    · exact Nat.lt_succ_self _
    · exact Nat.lt_succ_of_lt (h.numbered id dds hbefore)
  · intro id dds hdds
    rcases hcases hdds with ⟨-, rfl⟩ | hbefore
    · exact Nat.zero_le 1
    · exact h.once id dds hbefore
  · intro name' entry hentry hphase
    obtain ⟨id, htopic, hfresh⟩ := h.entries name' entry hentry hphase
    exact ⟨id, htopic, hold hfresh⟩
  · intro i
    by_cases hi : i = t
    · subst hi
      simp only [System.goto, Function.update_self]
      exact hok _ hcall (Function.update_self _ _ _)
    · simp only [System.goto, Function.update_of_ne hi]
      exact (h.calls i).setDds (s.nextTopic+1) fun hfresh _ => hold hfresh
  · intro id dds hdds hnot
    rcases hcases hdds with ⟨rfl, rfl⟩ | hbefore
    · exact ⟨t, by simpa [System.goto] using hguards⟩
    · obtain ⟨i, hi⟩ := h.guarded id dds hbefore hnot
      have hit : i ≠ t := by
        intro heq
        rw [heq, hpc] at hi
        cases hi
      exact ⟨i, by simpa [System.goto, System.setDds, hit] using hi⟩

/-- `create_topic`. -/
theorem Kept.createTopic (h : Kept s) (hpc : s.pc t = .creating type name) (outcome : Creation) :
    Kept (s.createTopic t type name outcome) := by
  have hcall := h.calls t
  rw [hpc] at hcall
  cases outcome with
  | created =>
    refine h.make hpc rfl fun s' htyped hfresh => ⟨htyped, fun id hid => ?_⟩
    rw [← Created.topic.inj hid]
    exact hfresh
  | null =>
    exact h.goto ⟨hcall, fun _ hid => nomatch hid⟩ (.of_none (by rw [hpc]; rfl))
  | threw => exact h.make hpc rfl fun s' htyped _ => ⟨htyped, fun _ hid => nomatch hid⟩

/-- `delete_topic` is called on a topic that nobody else uses. -/
theorem Kept.deleteTopic (h : Kept s) (hregistered : Registered s) {topic : Option TopicId}
    (hpc : s.pc t = .deleting type name topic) (deleted : Bool) :
    Kept (s.deleteTopic t type name topic deleted) := by
  have hrole : (s.pc t).topicRole = .remover name := by rw [hpc]; rfl
  have hretired := hregistered.topics.retired hrole
  have hcall := h.calls t
  rw [hpc] at hcall
  obtain ⟨id, rfl, hfresh⟩ := hcall
  have hdds : s.participant id = some ⟨name,type,false,0⟩ := hfresh
  have heq : s.deleteTopic t type name (some id) deleted =
      (s.setDds id ⟨name,type,deleted,1⟩).goto t (.settlingDelete type name (some id) deleted) := by
    simp [System.deleteTopic, hdds]
  have hold : ∀ {type' name' id'}, Fresh s type' name' id' → name' ≠ name →
      Function.update s.participant id (some ⟨name,type,deleted,1⟩) id' =
        some ⟨name',type',false,0⟩ := by
    intro type' name' id' hfresh' hname
    have hid : id' ≠ id := by
      intro hid
      have hsame : s.participant id' = some ⟨name',type',false,0⟩ := hfresh'
      rw [hid, hdds, Option.some.injEq] at hsame
      exact hname (congrArg DdsTopic.name hsame).symm
    rw [Function.update_of_ne hid]
    exact hfresh'
  rw [heq]
  refine ⟨?_, ?_, ?_, ?_, ?_⟩
  · intro id' dds' hdds'
    by_cases hid : id' = id
    · exact hid ▸ h.numbered id _ hdds
    · exact h.numbered id' dds' (by simpa [System.goto, System.setDds, hid] using hdds')
  · intro id' dds' hdds'
    by_cases hid : id' = id
    · subst hid
      have hnew : (⟨name,type,deleted,1⟩ : DdsTopic) = dds' := by
        simpa [System.goto, System.setDds] using hdds'
      rw [← hnew]
    · exact h.once id' dds' (by simpa [System.goto, System.setDds, hid] using hdds')
  · intro name' entry hentry hphase
    obtain ⟨id', htopic, hfresh'⟩ := h.entries name' entry hentry hphase
    refine ⟨id', htopic, hold hfresh' ?_⟩
    intro hname
    have hentry' : s.topics name' = some entry := hentry
    rw [System.topicEntries, ← hname, hentry', Option.map_some, Option.some.injEq] at hretired
    rw [hretired] at hphase
    cases hphase
  · intro i
    by_cases hi : i = t
    · subst hi
      simp only [System.goto, Function.update_self]
      trivial
    · simp only [System.goto, Function.update_of_ne hi]
      refine (h.calls i).setDds s.nextTopic fun {type' name' id'} hfresh' hrole' => hold hfresh' ?_
      rintro rfl
      rcases hrole' with hcreator | hremover
      · have hmade := hregistered.topics.made hcreator
        rw [hretired] at hmade
        cases hmade
      · exact hi (hregistered.topics.remover_unique hremover hrole)
  · intro id' dds' hdds' hnot
    by_cases hid : id' = id
    · subst hid
      have hnew : (⟨name,type,deleted,1⟩ : DdsTopic) = dds' := by
        simpa [System.goto, System.setDds] using hdds'
      subst hnew
      obtain rfl : deleted = false := hnot
      exact ⟨t, by simp [System.goto, Pc.guards]⟩
    · have hbefore : s.participant id' = some dds' := by
        simpa [System.goto, System.setDds, hid] using hdds'
      obtain ⟨i, hi⟩ := h.guarded id' dds' hbefore hnot
      have hit : i ≠ t := by
        intro hit
        rw [hit, hpc] at hi
        exact hid (Prod.mk.inj (Option.some.inj hi)).2.symm
      exact ⟨i, by simpa [System.goto, System.setDds, hit] using hi⟩

/-- Every step keeps the types of the DDS topics. -/
theorem Kept.step (h : Kept s) (hregistered : Registered s) {e : Event} (hen : Enabled s e) :
    Kept (next s e) := by
  cases e with
  | acquire t type name => exact h.goto trivial (.of_eq (congrArg Pc.guards hen).symm)
  | acquireType t type name => exact h.acquireType hen
  | registerType t type name outcome =>
    exact h.goto trivial (.of_eq (congrArg Pc.guards hen).symm)
  | settleType t type name outcome => exact h.settleType hen
  | acquireTopic t type name => exact h.acquireTopic hen
  | createTopic t type name outcome => exact h.createTopic hen outcome
  | settleTopic t type name outcome => exact h.settleTopic hregistered hen
  | releaseTopic t type name topic => exact h.releaseTopic hregistered hen
  | deleteTopic t type name topic deleted => exact h.deleteTopic hregistered hen deleted
  | settleDelete t type name topic deleted => exact h.settleDelete hregistered hen
  | releaseType t type reply => exact h.releaseType hen
  | unregisterType t type reply unregistered =>
    exact h.goto trivial (.of_eq (congrArg Pc.guards hen).symm)
  | settleUnregister t type reply unregistered =>
    exact h.typeMove trivial (.of_eq (congrArg Pc.guards hen).symm)
  | finish t reply => exact h.goto trivial (.of_eq (congrArg Pc.guards hen).symm)

end Topics

/-- A Context without DDS topics. -/
theorem Kept.initial : Kept .initial where
  numbered := by
    intro id dds hdds
    cases hdds
  once := by
    intro id dds hdds
    cases hdds
  entries := by
    intro name entry hentry
    cases hentry
  calls := fun _ => trivial
  guarded := by
    intro id dds hdds
    cases hdds

/-- In every reachable state the types of the DDS topics are kept. -/
theorem kept_of_run {es : List Event} {s : System} (h : machine.Run System.initial es s) :
    Kept s :=
  h.invariant_using Kept registered_of_run .initial fun _ _ hregistered hkept hen _ => hkept.step hregistered hen

/-- A call or handle that refers to a type: it owns a type registration, or
disarmed it. -/
def RefersToType (s : System) (type : TypeName) (i : CallId) : Prop :=
  (s.pc i).typeRole = .holder type

/-- A live handle of a topic. -/
def RefersToTopic (s : System) (name : TopicName) (i : CallId) : Prop :=
  ∃ type topic, s.pc i = .live type name topic

/-- DDS types outlive the topics that use them. -/
structure Outlived (s : System) : Prop where
  /-- While a type is unregistered, every DDS topic of the type was deleted. -/
  unregistered : ∀ t type reply, s.pc t = .unregistering type reply →
    ∀ id dds, s.participant id = some dds → dds.type = type → dds.deleted = true
  /-- While a topic is deleted, it has no live handle and was not deleted before. -/
  unused : ∀ t type name topic, s.pc t = .deleting type name topic →
    (∀ i, ¬ RefersToTopic s name i) ∧
      ∃ id, topic = some id ∧ ∀ dds, s.participant id = some dds → dds.deletions = 0
  /-- No DDS topic is deleted twice. -/
  once : ∀ id dds, s.participant id = some dds → dds.deletions ≤ 1
  /-- Active types count who refers to them. -/
  types : ∀ type entry, s.types type = some entry → entry.phase = .active →
    Counts (RefersToType s type) entry.count
  /-- Active topics count their live handles. -/
  topics : ∀ name entry, s.topics name = some entry → entry.phase = .active →
    Counts (RefersToTopic s name) entry.count

/-- A holder of a topic is a live handle. -/
theorem refersToTopic_iff {s : System} {name : TopicName} {i : CallId} :
    RefersToTopic s name i ↔ (s.pc i).topicRole = .holder name := by
  constructor
  · intro ⟨type, topic, hpc⟩
    rw [hpc]
    rfl
  · intro hrole
    unfold RefersToTopic
    generalize s.pc i = q at hrole
    cases q with
    | live type' name' topic' =>
      obtain rfl : name' = name := by simpa [Pc.topicRole] using hrole
      exact ⟨type', topic', rfl⟩
    | _ => cases hrole

/-- In every reachable state the types outlive their topics. -/
theorem types_outlive_topics {es : List Event} {s : System}
    (h : machine.Run System.initial es s) : Outlived s := by
  have hregistered := registered_of_run h
  have hkept := kept_of_run h
  refine ⟨?_, ?_, hkept.once, ?_, ?_⟩
  · intro t type reply hpc id dds hdds htype
    have hretired := hregistered.types.retired (k := type) (i := t) (by rw [hpc]; rfl)
    by_contra hnot
    obtain ⟨i, hi⟩ := hkept.guarded id dds hdds (Bool.eq_false_iff.mpr hnot)
    have hholder := Pc.holder_of_guards hi
    rw [htype] at hholder
    exact hregistered.types.unheld (by rw [hretired]; rfl) hholder
  · intro t type name topic hpc
    have hretired := hregistered.topics.retired (k := name) (i := t) (by rw [hpc]; rfl)
    refine ⟨fun i hi => ?_, ?_⟩
    · exact hregistered.topics.unheld (by rw [hretired]; rfl) (refersToTopic_iff.mp hi)
    · have hcall := hkept.calls t
      rw [hpc] at hcall
      obtain ⟨id, hid, hfresh⟩ := hcall
      refine ⟨id, hid, fun dds hdds => ?_⟩
      have hsame : some dds = some _ := hdds.symm.trans hfresh
      rw [Option.some.inj hsame]
  · intro type entry hentry _
    exact hregistered.types.counts (by rw [System.typeEntries, hentry]; rfl)
  · intro name entry hentry _
    have hstored : s.topicEntries name = some entry.toEntry := by
      rw [System.topicEntries, hentry]
      rfl
    have hcounts := hregistered.topics.counts hstored
    exact hcounts.congr fun i => refersToTopic_iff

/-- Two handles of one topic; the deletion throws, and the type stays registered. -/
def sampleRun : List Event :=
  let type : MessageType := ⟨1,1⟩
  [.acquire 0 type 7,.acquire 1 type 7,.acquireType 0 type 7,.registerType 0 type 7 .registered,
    .settleType 0 type 7 .registered,.acquireTopic 0 1 7,.createTopic 0 1 7 .created,
    .settleTopic 0 1 7 (.topic 0),.acquireType 1 type 7,.acquireTopic 1 1 7,
    .releaseTopic 0 1 7 (some 0),.releaseType 0 1 .destroyed,.releaseTopic 1 1 7 (some 0),
    .deleteTopic 1 1 7 (some 0) false,.settleDelete 1 1 7 (some 0) false]

/-- The type of the orphaned topic keeps its one disarmed reference. -/
theorem types_outlive_topics_sampleRun :
    ∃ s, machine.exec System.initial sampleRun = some s ∧
      s.types 1 = some ⟨⟨.active,1⟩,1⟩ ∧ Outlived s := by
  have hend : (machine.exec System.initial sampleRun).map (fun s => s.types 1) =
      some (some ⟨⟨.active,1⟩,1⟩) := by decide
  obtain ⟨s, hexec, htypes⟩ := Option.map_eq_some_iff.mp hend
  exact ⟨s, hexec, htypes, types_outlive_topics (Machine.run_of_exec hexec)⟩

end Dmw.TopicLifetimes
