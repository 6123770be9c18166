import Dmw.GraphNames
import Dmw.Identity
import Dmw.QosPolicies

/-!
# Quality of service in DDS

The policies of a descriptor written over the QoS of a DDS endpoint and read
back. A duration becomes whole seconds and nanoseconds; which pair stands for
an infinite one is known to the DDS implementation, and so is a parameter here.
-/

namespace Dmw.QosMapping

open GraphNames Identity QosPolicies

/-- `Duration_t`. -/
structure Duration where
  /-- `seconds`. -/
  seconds : Int32
  /-- `nanosec`. -/
  nanosec : UInt32
  deriving DecidableEq

/-- `HistoryQosPolicyKind`. -/
inductive HistoryKind
  | keepLast
  | keepAll
  deriving DecidableEq

/-- `ReliabilityQosPolicyKind`. -/
inductive ReliabilityKind
  | bestEffort
  | reliable
  deriving DecidableEq

/-- `DurabilityQosPolicyKind`. -/
inductive DurabilityKind
  | volatile
  | transientLocal
  | transient
  | persistent
  deriving DecidableEq

/-- `LivelinessQosPolicyKind`. -/
inductive LivelinessKind
  | automatic
  | manualByParticipant
  | manualByTopic
  deriving DecidableEq

/-- The policies of an endpoint that a descriptor is about. -/
structure NeutralQos where
  /-- `history().kind`. -/
  history : HistoryKind
  /-- `history().depth`. -/
  depth : Int32
  /-- `reliability().kind`. -/
  reliability : ReliabilityKind
  /-- `durability().kind`. -/
  durability : DurabilityKind
  /-- `deadline().period`. -/
  deadline : Duration
  /-- `lifespan().duration`. -/
  lifespan : Duration
  /-- `liveliness().kind`. -/
  liveliness : LivelinessKind
  /-- `liveliness().lease_duration`. -/
  leaseDuration : Duration
  deriving DecidableEq

/-- `history_memory_policy`. -/
inductive MemoryPolicy
  | preallocated
  | preallocatedWithRealloc
  | dynamicReserve
  | dynamicReusable
  deriving DecidableEq

/-- `publish_mode().kind`. -/
inductive PublishMode
  | synchronous
  | asynchronous
  deriving DecidableEq

/-- `DataWriterQos`. -/
structure DataWriterQos extends NeutralQos where
  /-- `endpoint().history_memory_policy`. -/
  memoryPolicy : MemoryPolicy
  /-- `publish_mode().kind`. -/
  publishMode : PublishMode
  /-- `data_sharing()` is not off. -/
  dataSharing : Bool
  /-- `reliability().max_blocking_time`. -/
  maxBlockingTime : Duration
  deriving DecidableEq

/-- `DataReaderQos`. -/
structure DataReaderQos extends NeutralQos where
  /-- `endpoint().history_memory_policy`. -/
  memoryPolicy : MemoryPolicy
  /-- `data_sharing()` is not off. -/
  dataSharing : Bool
  deriving DecidableEq

/-- Largest `int32_t`. -/
def int32Max : ℕ := 2147483647

/-- `TIME_T_INFINITE_SECONDS` and `TIME_T_INFINITE_NANOSECONDS`. -/
def infiniteDuration : Duration := ⟨Int32.ofInt 2147483647,UInt32.ofNat 4294967295⟩

/-- Nanoseconds of a second. -/
def nanosecondsPerSecond : ℕ := 1000000000

/-- `to_duration`. -/
def toDuration : QosDuration → Result Duration
  | .systemDefault =>
    .error ⟨.invalidState,"SystemDefault duration has no concrete Fast DDS value"⟩
  | .infinite => .ok infiniteDuration
  | .finite value =>
    if value / nanosecondsPerSecond > int32Max then
      .error ⟨.unsupported,"QoS duration exceeds the Fast DDS range"⟩
    else .ok ⟨Int32.ofInt (value / nanosecondsPerSecond : ℕ),
      UInt32.ofNat (value % nanosecondsPerSecond)⟩

/-- `apply_ros2_compatibility_defaults`. -/
def applyRos2CompatibilityDefaults (qos : NeutralQos) : NeutralQos :=
  {qos with
    history := .keepLast
    depth := Int32.ofInt 10
    reliability := .reliable
    durability := .volatile}

/-- The history of `apply_neutral_qos`. -/
def applyHistory (source : Qos) (qos : NeutralQos) : Result NeutralQos :=
  match source.history with
  | .keepLast =>
    if source.depth > int32Max then
      .error ⟨.unsupported,"QoS history depth exceeds the Fast DDS range"⟩
    else .ok {qos with history := .keepLast, depth := Int32.ofInt source.depth}
  | .keepAll => .ok {qos with history := .keepAll}
  | .systemDefault => .ok qos

/-- The kind of a reliability, or the one that is there. -/
def reliabilityKind (kind : ReliabilityKind) : ReliabilityPolicy → ReliabilityKind
  | .reliable => .reliable
  | .bestEffort => .bestEffort
  | .systemDefault => kind

/-- The kind of a durability, or the one that is there. -/
def durabilityKind (kind : DurabilityKind) : DurabilityPolicy → DurabilityKind
  | .volatile => .volatile
  | .transientLocal => .transientLocal
  | .systemDefault => kind

/-- The kind of a liveliness, or the one that is there. -/
def livelinessKind (kind : LivelinessKind) : LivelinessPolicy → LivelinessKind
  | .automatic => .automatic
  | .manualByTopic => .manualByTopic
  | .systemDefault => kind

/-- An explicit duration, or the one that is there. -/
def durationOr (period : Duration) (duration : QosDuration) : Result Duration :=
  if duration = .systemDefault then .ok period else toDuration duration

/-- `apply_neutral_qos`. -/
def applyNeutralQos (source : Qos) (qos : NeutralQos) : Result NeutralQos := do
  let qos ← applyHistory source qos
  let qos := {qos with
    reliability := reliabilityKind qos.reliability source.reliability
    durability := durabilityKind qos.durability source.durability}
  let deadline ← durationOr qos.deadline source.deadline
  let qos := {qos with deadline := deadline}
  let lifespan ← durationOr qos.lifespan source.lifespan
  let qos := {qos with
    lifespan := lifespan
    liveliness := livelinessKind qos.liveliness source.liveliness}
  let leaseDuration ← durationOr qos.leaseDuration source.livelinessLeaseDuration
  pure {qos with leaseDuration := leaseDuration}

/-- `apply_ros2_writer_implementation_policy`. -/
def applyRos2WriterImplementationPolicy (qos : DataWriterQos) : DataWriterQos :=
  {qos with
    memoryPolicy := .preallocatedWithRealloc
    publishMode := .synchronous
    dataSharing := false
    maxBlockingTime := ⟨Int32.ofInt 0,UInt32.ofNat 100000000⟩}

/-- `apply_ros2_reader_implementation_policy`. -/
def applyRos2ReaderImplementationPolicy (qos : DataReaderQos) : DataReaderQos :=
  {qos with memoryPolicy := .preallocatedWithRealloc, dataSharing := false}

/-- The policies of an endpoint before a descriptor is applied. -/
def baseline (runtimeMode : RuntimeMode) (qos : NeutralQos) : NeutralQos :=
  if runtimeMode = .ros2 then applyRos2CompatibilityDefaults qos else qos

/-- `to_writer_qos`. -/
def toWriterQos (source : Qos) (runtimeMode : RuntimeMode) (qos : DataWriterQos) :
    Result DataWriterQos := do
  let neutral ← applyNeutralQos source (baseline runtimeMode qos.toNeutralQos)
  let qos := {qos with toNeutralQos := neutral}
  pure (if runtimeMode = .ros2 then applyRos2WriterImplementationPolicy qos else qos)

/-- `to_reader_qos`. -/
def toReaderQos (source : Qos) (runtimeMode : RuntimeMode) (qos : DataReaderQos) :
    Result DataReaderQos := do
  let neutral ← applyNeutralQos source (baseline runtimeMode qos.toNeutralQos)
  let qos := {qos with toNeutralQos := neutral}
  pure (if runtimeMode = .ros2 then applyRos2ReaderImplementationPolicy qos else qos)

section Reading

-- `is_infinite`.
variable (isInfinite : Duration → Bool)

/-- `from_duration`. -/
def fromDuration (duration : Duration) : Result QosDuration :=
  if isInfinite duration then .ok .infinite
  else if duration.seconds.toInt < 0 ∨ duration.nanosec.toNat ≥ nanosecondsPerSecond then
    .error ⟨.ddsError,"Fast DDS returned an invalid QoS duration"⟩
  else if duration.seconds.toInt > Int64.maxValue.toInt / nanosecondsPerSecond then
    .error ⟨.unsupported,"Fast DDS QoS duration exceeds DMW range"⟩
  else .ok (.finite
    (duration.seconds.toInt.toNat * nanosecondsPerSecond + duration.nanosec.toNat))

/-- `keep_last`. -/
def keepLast (depth : ℕ) (qos : Qos) : Result Qos :=
  if depth = 0 then .error ⟨.invalidArgument,"KeepLast depth must be greater than zero"⟩
  else .ok {qos with history := .keepLast, depth := depth}

/-- The history of `from_neutral_qos`. -/
def readHistory (source : NeutralQos) (qos : Qos) : Result Qos :=
  match source.history with
  | .keepLast =>
    if source.depth.toInt ≤ 0 then
      .error ⟨.ddsError,"Fast DDS returned an invalid KeepLast depth"⟩
    else keepLast source.depth.toInt.toNat qos
  | .keepAll => .ok {qos with history := .keepAll, depth := 0}

/-- The reliability of a kind. -/
def reliabilityPolicy : ReliabilityKind → ReliabilityPolicy
  | .reliable => .reliable
  | .bestEffort => .bestEffort

/-- The durability of a kind; other kinds are unknown. -/
def durabilityPolicy : DurabilityKind → DurabilityPolicy
  | .volatile => .volatile
  | .transientLocal => .transientLocal
  | _ => .systemDefault

/-- The liveliness of a kind; other kinds are unknown. -/
def livelinessPolicy : LivelinessKind → LivelinessPolicy
  | .automatic => .automatic
  | .manualByTopic => .manualByTopic
  | _ => .systemDefault

/-- `from_neutral_qos`. -/
def fromNeutralQos (source : NeutralQos) : Result Qos := do
  let qos ← readHistory source {}
  let deadline ← fromDuration isInfinite source.deadline
  let lifespan ← fromDuration isInfinite source.lifespan
  let leaseDuration ← fromDuration isInfinite source.leaseDuration
  pure {qos with
    reliability := reliabilityPolicy source.reliability
    durability := durabilityPolicy source.durability
    deadline := deadline
    lifespan := lifespan
    liveliness := livelinessPolicy source.liveliness
    livelinessLeaseDuration := leaseDuration}

end Reading

/-! ## What survives -/

/-- No policy is left to the middleware. -/
structure Concrete (qos : Qos) : Prop where
  history : qos.history ≠ .systemDefault
  reliability : qos.reliability ≠ .systemDefault
  durability : qos.durability ≠ .systemDefault
  deadline : qos.deadline ≠ .systemDefault
  lifespan : qos.lifespan ≠ .systemDefault
  liveliness : qos.liveliness ≠ .systemDefault
  lease : qos.livelinessLeaseDuration ≠ .systemDefault

/-- What the setters of a descriptor keep: there is a depth exactly if the last
samples are kept. -/
def Built (qos : Qos) : Prop := qos.history = .keepLast ↔ qos.depth ≠ 0

/-- A duration has more whole seconds than fit. -/
def TooLong (duration : QosDuration) : Prop :=
  ∃ value, duration = .finite value ∧ int32Max < value / nanosecondsPerSecond

/-- A depth or a duration does not fit. -/
def Exceeds (qos : Qos) : Prop :=
  qos.history = .keepLast ∧ int32Max < qos.depth ∨ TooLong qos.deadline ∨
    TooLong qos.lifespan ∨ TooLong qos.livelinessLeaseDuration

/-- The conversion is refused as unsupported. -/
def Unsupported {α : Type} (result : Result α) : Prop :=
  ∃ message, result = .error ⟨.unsupported,message⟩

/-- A conversion refuses exactly the descriptors that do not fit, and what it
returns is read back as it was. -/
structure Survives {α : Type} (isInfinite : Duration → Bool) (source : Qos) (read : α → NeutralQos)
    (result : Result α) : Prop where
  returns : ∀ out, result = .ok out → fromNeutralQos isInfinite (read out) = .ok source
  refuses : Unsupported result ↔ Exceeds source
  errors : ∀ e, result = .error e → e.code = .unsupported

variable {isInfinite : Duration → Bool} {source : Qos} {duration : QosDuration} {value : ℕ}

/-- The fields of a duration that fits. -/
theorem seconds_toInt (h : ¬ int32Max < value / nanosecondsPerSecond) :
    (Int32.ofInt (value / nanosecondsPerSecond : ℕ)).toInt =
      (value / nanosecondsPerSecond : ℕ) := by
  unfold int32Max at h
  generalize value / nanosecondsPerSecond = seconds at h ⊢
  exact Int32.toInt_ofInt_of_le (by omega) (by omega)

theorem nanosec_toNat (value : ℕ) :
    (UInt32.ofNat (value % nanosecondsPerSecond)).toNat = value % nanosecondsPerSecond := by
  have hlt : value % nanosecondsPerSecond < nanosecondsPerSecond :=
    Nat.mod_lt _ (by unfold nanosecondsPerSecond; omega)
  unfold nanosecondsPerSecond at hlt ⊢
  exact UInt32.toNat_ofNat_of_lt' (Nat.lt_trans hlt (by decide))

/-- A finite duration has fewer nanoseconds than the sentinel. -/
theorem finite_ne_infinite {t : Duration} (h : toDuration (.finite value) = .ok t) :
    t ≠ infiniteDuration := by
  unfold toDuration at h
  by_cases hlong : value / nanosecondsPerSecond > int32Max
  · simp only [if_pos hlong] at h
    cases h
  · simp only [if_neg hlong] at h
    cases h
    intro heq
    have hnanosec := congrArg (fun t => t.nanosec.toNat) heq
    change (UInt32.ofNat (value % nanosecondsPerSecond)).toNat = 4294967295 at hnanosec
    rw [nanosec_toNat] at hnanosec
    unfold nanosecondsPerSecond at hnanosec
    omega

/-- An explicit history is refused if its depth does not fit, and else read back
over any other policies. -/
theorem applyHistory_spec (qos : NeutralQos) (hbuilt : Built source)
    (hexplicit : source.history ≠ .systemDefault) :
    (source.history = .keepLast ∧ int32Max < source.depth) ∧
        Unsupported (applyHistory source qos) ∨
      ¬ (source.history = .keepLast ∧ int32Max < source.depth) ∧
        ∃ out, applyHistory source qos = .ok out ∧ ∀ other : NeutralQos,
          other.history = out.history → other.depth = out.depth →
            readHistory other {} = .ok {({} : Qos) with
              history := source.history, depth := source.depth} := by
  cases hhistory : source.history with
  | systemDefault => exact absurd hhistory hexplicit
  | keepAll =>
    have hdepth : source.depth = 0 := by
      by_contra h
      rw [hbuilt.mpr h] at hhistory
      cases hhistory
    refine .inr ⟨(fun h => by cases h.1),{qos with history := .keepAll},?_,fun other hkind _ => ?_⟩
    · unfold applyHistory
      rw [hhistory]
    · unfold readHistory
      rw [hkind,hdepth]
  | keepLast =>
    have hdepth : source.depth ≠ 0 := hbuilt.mp hhistory
    by_cases hlong : source.depth > int32Max
    · refine .inl ⟨⟨rfl,hlong⟩,"QoS history depth exceeds the Fast DDS range",?_⟩
      unfold applyHistory
      rw [hhistory]
      exact if_pos hlong
    · refine .inr ⟨fun h => hlong h.2,
        {qos with history := .keepLast, depth := Int32.ofInt source.depth},?_,
        fun other hkind hsame => ?_⟩
      · unfold applyHistory
        rw [hhistory]
        exact if_neg hlong
      · have hread : (Int32.ofInt source.depth).toInt = source.depth := by
          unfold int32Max at hlong
          exact Int32.toInt_ofInt_of_le (by omega) (by omega)
        have hpositive : ¬ other.depth.toInt ≤ 0 := by
          rw [hsame]
          change ¬ (Int32.ofInt source.depth).toInt ≤ 0
          rw [hread]
          omega
        have hnat : other.depth.toInt.toNat = source.depth := by
          rw [hsame]
          change (Int32.ofInt source.depth).toInt.toNat = source.depth
          rw [hread]
          rfl
        unfold readHistory
        rw [hkind]
        change (if other.depth.toInt ≤ 0 then _ else keepLast other.depth.toInt.toNat {}) = _
        rw [if_neg hpositive,hnat]
        exact if_neg hdepth

section Conversion

variable (hinfinite : ∀ t, isInfinite t = true ↔ t = infiniteDuration)

include hinfinite

theorem fromDuration_finite (h : ¬ int32Max < value / nanosecondsPerSecond) :
    fromDuration isInfinite ⟨Int32.ofInt (value / nanosecondsPerSecond : ℕ),
      UInt32.ofNat (value % nanosecondsPerSecond)⟩ = .ok (.finite value) := by
  have hto : toDuration (.finite value) = .ok ⟨Int32.ofInt (value / nanosecondsPerSecond : ℕ),
      UInt32.ofNat (value % nanosecondsPerSecond)⟩ := if_neg h
  have hfinite := mt (hinfinite _).mp (finite_ne_infinite hto)
  have hvalid : ¬ ((Int32.ofInt (value / nanosecondsPerSecond : ℕ)).toInt < 0 ∨
      (UInt32.ofNat (value % nanosecondsPerSecond)).toNat ≥ nanosecondsPerSecond) := by
    rw [seconds_toInt h,nanosec_toNat]
    unfold nanosecondsPerSecond
    omega
  have hrange : ¬ (Int32.ofInt (value / nanosecondsPerSecond : ℕ)).toInt >
      Int64.maxValue.toInt / nanosecondsPerSecond := by
    rw [seconds_toInt h]
    have hmax : Int64.maxValue.toInt = 9223372036854775807 := by decide
    rw [hmax]
    unfold int32Max at h
    unfold nanosecondsPerSecond at h ⊢
    omega
  unfold fromDuration
  rw [if_neg hfinite,if_neg hvalid,if_neg hrange,seconds_toInt h,nanosec_toNat,Int.toNat_natCast,
    Nat.mul_comm,Nat.div_add_mod]

/-- An explicit duration is refused if it is too long, and else read back. -/
theorem durationOr_spec (period : Duration) (hexplicit : duration ≠ .systemDefault) :
    TooLong duration ∧ Unsupported (durationOr period duration) ∨
      ¬ TooLong duration ∧ ∃ t, durationOr period duration = .ok t ∧
        fromDuration isInfinite t = .ok duration := by
  unfold durationOr
  rw [if_neg hexplicit]
  cases duration with
  | systemDefault => exact absurd rfl hexplicit
  | infinite =>
    refine .inr ⟨?_,infiniteDuration,rfl,if_pos ((hinfinite _).mpr rfl)⟩
    rintro ⟨value,h,-⟩
    cases h
  | finite value =>
    by_cases hlong : int32Max < value / nanosecondsPerSecond
    · exact .inl ⟨⟨value,rfl,hlong⟩,_,if_pos hlong⟩
    · refine .inr ⟨?_,_,if_neg hlong,fromDuration_finite hinfinite hlong⟩
      rintro ⟨other,h,hother⟩
      cases h
      exact hlong hother

/-- The policies of a descriptor over those of an endpoint. -/
def written (source : Qos) (qos : NeutralQos) (deadline lifespan leaseDuration : Duration) :
    NeutralQos where
  history := qos.history
  depth := qos.depth
  reliability := reliabilityKind qos.reliability source.reliability
  durability := durabilityKind qos.durability source.durability
  deadline := deadline
  lifespan := lifespan
  liveliness := livelinessKind qos.liveliness source.liveliness
  leaseDuration := leaseDuration

/-- Explicit policies are refused if one does not fit, and else read back. -/
theorem applyNeutralQos_spec (qos : NeutralQos) (hbuilt : Built source)
    (hconcrete : Concrete source) :
    Exceeds source ∧ Unsupported (applyNeutralQos source qos) ∨
      ¬ Exceeds source ∧ ∃ out, applyNeutralQos source qos = .ok out ∧
        fromNeutralQos isInfinite out = .ok source := by
  have hrun : applyNeutralQos source qos = (do
      let qos ← applyHistory source qos
      let deadline ← durationOr qos.deadline source.deadline
      let lifespan ← durationOr qos.lifespan source.lifespan
      let leaseDuration ← durationOr qos.leaseDuration source.livelinessLeaseDuration
      pure (written source qos deadline lifespan leaseDuration)) := rfl
  rw [hrun]
  obtain ⟨hlong,message,herror⟩ | ⟨hhistory,first,hfirst,hread⟩ :=
    applyHistory_spec qos hbuilt hconcrete.history
  · exact .inl ⟨.inl hlong,message,by rw [herror]; rfl⟩
  rw [hfirst]
  obtain ⟨hlong,message,herror⟩ | ⟨hdeadline,deadline,hwritten,hback⟩ :=
    durationOr_spec hinfinite first.deadline hconcrete.deadline
  · refine .inl ⟨.inr (.inl hlong),message,?_⟩
    change (durationOr first.deadline source.deadline >>= _) = _
    rw [herror]
    rfl
  obtain ⟨hlong,message,herror⟩ | ⟨hlifespan,lifespan,hwritten',hback'⟩ :=
    durationOr_spec hinfinite first.lifespan hconcrete.lifespan
  · refine .inl ⟨.inr (.inr (.inl hlong)),message,?_⟩
    change (durationOr first.deadline source.deadline >>= _) = _
    rw [hwritten]
    change (durationOr first.lifespan source.lifespan >>= _) = _
    rw [herror]
    rfl
  obtain ⟨hlong,message,herror⟩ | ⟨hlease,lease,hwritten'',hback''⟩ :=
    durationOr_spec hinfinite first.leaseDuration hconcrete.lease
  · refine .inl ⟨.inr (.inr (.inr hlong)),message,?_⟩
    change (durationOr first.deadline source.deadline >>= _) = _
    rw [hwritten]
    change (durationOr first.lifespan source.lifespan >>= _) = _
    rw [hwritten']
    change (durationOr first.leaseDuration source.livelinessLeaseDuration >>= _) = _
    rw [herror]
    rfl
  refine .inr ⟨?_,written source first deadline lifespan lease,?_,?_⟩
  · rintro (h | h | h | h)
    · exact hhistory h
    · exact hdeadline h
    · exact hlifespan h
    · exact hlease h
  · change (durationOr first.deadline source.deadline >>= _) = _
    rw [hwritten]
    change (durationOr first.lifespan source.lifespan >>= _) = _
    rw [hwritten']
    change (durationOr first.leaseDuration source.livelinessLeaseDuration >>= _) = _
    rw [hwritten'']
    rfl
  · have hreliability : reliabilityPolicy (reliabilityKind first.reliability
        source.reliability) = source.reliability := by
      cases h : source.reliability with
      | systemDefault => exact absurd h hconcrete.reliability
      | reliable => rfl
      | bestEffort => rfl
    have hdurability : durabilityPolicy (durabilityKind first.durability
        source.durability) = source.durability := by
      cases h : source.durability with
      | systemDefault => exact absurd h hconcrete.durability
      | volatile => rfl
      | transientLocal => rfl
    have hliveliness : livelinessPolicy (livelinessKind first.liveliness
        source.liveliness) = source.liveliness := by
      cases h : source.liveliness with
      | systemDefault => exact absurd h hconcrete.liveliness
      | automatic => rfl
      | manualByTopic => rfl
    unfold fromNeutralQos
    rw [hread (written source first deadline lifespan lease) rfl rfl]
    change (fromDuration isInfinite deadline >>= _) = _
    rw [hback]
    change (fromDuration isInfinite lifespan >>= _) = _
    rw [hback']
    change (fromDuration isInfinite lease >>= _) = _
    rw [hback'']
    change Except.ok _ = Except.ok source
    simp only [written,hreliability,hdurability,hliveliness]

/-- A conversion that passes the policies on. -/
theorem survives_of_passes {α : Type} {read : α → NeutralQos} {result : Result α}
    (qos : NeutralQos) (hbuilt : Built source) (hconcrete : Concrete source)
    (herror : ∀ e, applyNeutralQos source qos = .error e → result = .error e)
    (hok : ∀ out, applyNeutralQos source qos = .ok out → ∃ a, result = .ok a ∧ read a = out) :
    Survives isInfinite source read result := by
  rcases applyNeutralQos_spec hinfinite qos hbuilt hconcrete with
    ⟨hexceeds,message,hrefused⟩ | ⟨hfits,neutral,hwritten,hback⟩
  · have hresult := herror _ hrefused
    refine ⟨fun out hout => ?_,iff_of_true ⟨message,hresult⟩ hexceeds,fun e he => ?_⟩
    · rw [hresult] at hout
      cases hout
    · rw [hresult] at he
      cases he
      rfl
  · obtain ⟨a,hresult,hread⟩ := hok _ hwritten
    refine ⟨fun out hout => ?_,iff_of_false ?_ hfits,fun e he => ?_⟩
    · rw [hresult] at hout
      cases hout
      rw [hread]
      exact hback
    · rintro ⟨message,hrefused⟩
      rw [hresult] at hrefused
      cases hrefused
    · rw [hresult] at he
      cases he

theorem toWriterQos_survives (hbuilt : Built source) (hconcrete : Concrete source)
    (runtimeMode : RuntimeMode) (qos : DataWriterQos) :
    Survives isInfinite source DataWriterQos.toNeutralQos (toWriterQos source runtimeMode qos) := by
  refine survives_of_passes hinfinite (baseline runtimeMode qos.toNeutralQos) hbuilt hconcrete
    (fun e he => ?_) fun out hout => ?_
  · unfold toWriterQos
    rw [he]
    rfl
  · refine ⟨if runtimeMode = .ros2 then
      applyRos2WriterImplementationPolicy {qos with toNeutralQos := out}
        else {qos with toNeutralQos := out},?_,?_⟩
    · unfold toWriterQos
      rw [hout]
      rfl
    · split_ifs <;> rfl

theorem toReaderQos_survives (hbuilt : Built source) (hconcrete : Concrete source)
    (runtimeMode : RuntimeMode) (qos : DataReaderQos) :
    Survives isInfinite source DataReaderQos.toNeutralQos (toReaderQos source runtimeMode qos) := by
  refine survives_of_passes hinfinite (baseline runtimeMode qos.toNeutralQos) hbuilt hconcrete
    (fun e he => ?_) fun out hout => ?_
  · unfold toReaderQos
    rw [he]
    rfl
  · refine ⟨if runtimeMode = .ros2 then
      applyRos2ReaderImplementationPolicy {qos with toNeutralQos := out}
        else {qos with toNeutralQos := out},?_,?_⟩
    · unfold toReaderQos
      rw [hout]
      rfl
    · split_ifs <;> rfl

/-- Explicit policies come back from a writer and from a reader as they were, or
are refused because they do not fit; no finite duration becomes an infinite one. -/
theorem explicit_qos_survives (hbuilt : Built source) (hconcrete : Concrete source)
    (runtimeMode : RuntimeMode) (writer : DataWriterQos) (reader : DataReaderQos) :
    Survives isInfinite source DataWriterQos.toNeutralQos
        (toWriterQos source runtimeMode writer) ∧
      Survives isInfinite source DataReaderQos.toNeutralQos
        (toReaderQos source runtimeMode reader) ∧
      ∀ value t, toDuration (.finite value) = .ok t → isInfinite t = false := by
  refine ⟨toWriterQos_survives hinfinite hbuilt hconcrete runtimeMode writer,
    toReaderQos_survives hinfinite hbuilt hconcrete runtimeMode reader,fun value t ht => ?_⟩
  exact Bool.eq_false_iff.mpr fun h => finite_ne_infinite ht ((hinfinite t).mp h)

end Conversion

/-- Both fields of an infinite duration are the reserved ones. -/
def isReserved (t : Duration) : Bool := decide (t = infiniteDuration)

/-- A profile with the longest deadline that fits. -/
def longestDeadline : Qos where
  history := .keepLast
  depth := 10
  reliability := .reliable
  durability := .transientLocal
  deadline := .finite 2147483647999999999
  lifespan := .infinite
  liveliness := .manualByTopic
  livelinessLeaseDuration := .finite 0

/-- The policies of an endpoint that nothing has been written over. -/
def untouched : NeutralQos where
  history := .keepAll
  depth := 1
  reliability := .bestEffort
  durability := .persistent
  deadline := infiniteDuration
  lifespan := infiniteDuration
  liveliness := .manualByParticipant
  leaseDuration := infiniteDuration

theorem explicit_qos_survives_longest :
    (∀ t, isReserved t = true ↔ t = infiniteDuration) ∧ Built longestDeadline ∧
      Concrete longestDeadline ∧
        (Survives isReserved longestDeadline DataWriterQos.toNeutralQos
            (toWriterQos longestDeadline .ros2 ⟨untouched,.preallocated,.asynchronous,true,
              infiniteDuration⟩) ∧
          Survives isReserved longestDeadline DataReaderQos.toNeutralQos
            (toReaderQos longestDeadline .ros2 ⟨untouched,.preallocated,true⟩) ∧
          ∀ value t, toDuration (.finite value) = .ok t → isReserved t = false) := by
  have hreserved : ∀ t, isReserved t = true ↔ t = infiniteDuration := fun t => decide_eq_true_iff
  have hbuilt : Built longestDeadline := iff_of_true rfl nofun
  have hconcrete : Concrete longestDeadline := ⟨nofun,nofun,nofun,nofun,nofun,nofun,nofun⟩
  exact ⟨hreserved,hbuilt,hconcrete,explicit_qos_survives hreserved hbuilt hconcrete .ros2
    ⟨untouched,.preallocated,.asynchronous,true,infiniteDuration⟩
    ⟨untouched,.preallocated,true⟩⟩

end Dmw.QosMapping
