import Mathlib.Data.Nat.Notation

/-!
# Quality of service

The middleware-neutral QoS descriptor and the compatibility of a publisher
with a subscriber. A policy left at `systemDefault` is decided by the
middleware, so no verdict about it is more than a warning.
-/

namespace Dmw.QosPolicies

/-- How many samples an endpoint keeps. -/
inductive HistoryPolicy
  | systemDefault
  | keepLast
  | keepAll
  deriving DecidableEq, Repr

/-- Whether lost samples are repaired. -/
inductive ReliabilityPolicy
  | systemDefault
  | reliable
  | bestEffort
  deriving DecidableEq, Repr

/-- Whether a late subscriber still receives earlier samples. -/
inductive DurabilityPolicy
  | systemDefault
  | volatile
  | transientLocal
  deriving DecidableEq, Repr

/-- How an endpoint asserts that it is alive. -/
inductive LivelinessPolicy
  | systemDefault
  | automatic
  | manualByTopic
  deriving DecidableEq, Repr

/-- A policy duration without magic sentinel values. Negative finite values
are refused at construction. -/
inductive QosDuration
  | systemDefault
  | infinite
  | finite (nanoseconds : ℕ)
  deriving DecidableEq, Repr

/-- Middleware-neutral QoS descriptor. -/
structure Qos where
  /-- History kind. -/
  history : HistoryPolicy := .systemDefault
  /-- Kept samples, zero unless the history is `keepLast`. -/
  depth : ℕ := 0
  /-- Reliability kind. -/
  reliability : ReliabilityPolicy := .systemDefault
  /-- Durability kind. -/
  durability : DurabilityPolicy := .systemDefault
  /-- Expected period between samples. -/
  deadline : QosDuration := .systemDefault
  /-- Age after which a sample is stale. -/
  lifespan : QosDuration := .systemDefault
  /-- Liveliness kind. -/
  liveliness : LivelinessPolicy := .systemDefault
  /-- Longest silence of a live endpoint. -/
  livelinessLeaseDuration : QosDuration := .systemDefault
  deriving DecidableEq, Repr

/-- Verdict on a publisher and a subscriber. -/
inductive QosCompatibility
  | compatible
  | warning
  | incompatible
  deriving DecidableEq, Repr

/-- A verdict with its explanation. -/
structure QosCompatibilityResult where
  /-- The verdict. -/
  compatibility : QosCompatibility
  /-- Why, empty if compatible. -/
  reason : String
  deriving DecidableEq, Repr

/-- Compare what a publisher offers with what a subscriber requests. The
source wraps the verdict in a result that never carries an error. -/
def checkQosCompatibility (publisherQos subscriberQos : Qos) : QosCompatibilityResult :=
  if publisherQos.reliability = .bestEffort ∧ subscriberQos.reliability = .reliable then
    ⟨.incompatible, "A best-effort publisher cannot satisfy a reliable subscriber"⟩
  else if publisherQos.durability = .volatile ∧ subscriberQos.durability = .transientLocal then
    ⟨.incompatible, "A volatile publisher cannot satisfy a transient-local subscriber"⟩
  else if publisherQos.reliability = .systemDefault ∨ subscriberQos.reliability = .systemDefault ∨
      publisherQos.durability = .systemDefault ∨ subscriberQos.durability = .systemDefault then
    ⟨.warning, "Compatibility depends on middleware values selected for SystemDefault policies"⟩
  else
    ⟨.compatible, ""⟩

/-- A publisher is refused exactly where it offers less than what is requested,
in reliability or in durability. -/
theorem checkQosCompatibility_incompatible (publisherQos subscriberQos : Qos) :
    (checkQosCompatibility publisherQos subscriberQos).compatibility = .incompatible ↔
      publisherQos.reliability = .bestEffort ∧ subscriberQos.reliability = .reliable ∨
      publisherQos.durability = .volatile ∧ subscriberQos.durability = .transientLocal := by
  unfold checkQosCompatibility
  split
  · next hreliability => simp [hreliability]
  · next hreliability =>
    split
    · next hdurability => simp [hdurability]
    · next hdurability => split <;> simp [hreliability, hdurability]

end Dmw.QosPolicies
