import Dmw.QosPolicies
import Mathlib.Data.ENat.Basic

/-!
# Requested and offered quality of service

A subscriber is matched with a publisher that offers at least what it requests,
policy by policy. The verdict on two descriptors is compared with that rule.
-/

namespace Dmw.QosRequestOffer

open QosPolicies

/-- The length of an explicit duration; an infinite one is longer than all others. -/
def length : QosDuration → ℕ∞
  | .systemDefault => 0
  | .infinite => ⊤
  | .finite nanoseconds => nanoseconds

/-- A stronger kind of liveliness has a higher rank. -/
def rank : LivelinessPolicy → ℕ
  | .systemDefault | .automatic => 0
  | .manualByTopic => 1

/-- Nothing that is matched is left to the middleware. -/
structure Explicit (qos : Qos) : Prop where
  reliability : qos.reliability ≠ .systemDefault
  durability : qos.durability ≠ .systemDefault
  deadline : qos.deadline ≠ .systemDefault
  liveliness : qos.liveliness ≠ .systemDefault
  lease : qos.livelinessLeaseDuration ≠ .systemDefault

/-- Less than the requested reliability or durability is offered. -/
def OffersLessDelivery (publisherQos subscriberQos : Qos) : Prop :=
  publisherQos.reliability = .bestEffort ∧ subscriberQos.reliability = .reliable ∨
    publisherQos.durability = .volatile ∧ subscriberQos.durability = .transientLocal

/-- Less than the requested timing is offered: a longer deadline, a weaker
liveliness or a longer lease. -/
def OffersLessTiming (publisherQos subscriberQos : Qos) : Prop :=
  length subscriberQos.deadline < length publisherQos.deadline ∨
    rank publisherQos.liveliness < rank subscriberQos.liveliness ∨
      length subscriberQos.livelinessLeaseDuration < length publisherQos.livelinessLeaseDuration

/-- Some request is not offered. -/
def OffersLess (publisherQos subscriberQos : Qos) : Prop :=
  OffersLessDelivery publisherQos subscriberQos ∨ OffersLessTiming publisherQos subscriberQos

/-- The verdict tells whether every request is offered. -/
structure Judged (publisherQos subscriberQos : Qos) : Prop where
  incompatible : (checkQosCompatibility publisherQos subscriberQos).compatibility =
    .incompatible ↔ OffersLess publisherQos subscriberQos
  compatible : ¬ OffersLess publisherQos subscriberQos →
    (checkQosCompatibility publisherQos subscriberQos).compatibility = .compatible

variable {publisherQos subscriberQos : Qos}

/-- Explicit descriptors get no warning. -/
theorem checkQosCompatibility_compatible (hpublisher : Explicit publisherQos)
    (hsubscriber : Explicit subscriberQos) (h : ¬ OffersLessDelivery publisherQos subscriberQos) :
    (checkQosCompatibility publisherQos subscriberQos).compatibility = .compatible := by
  have hreliability : ¬ (publisherQos.reliability = .bestEffort ∧
      subscriberQos.reliability = .reliable) := fun hless => h (.inl hless)
  have hdurability : ¬ (publisherQos.durability = .volatile ∧
      subscriberQos.durability = .transientLocal) := fun hless => h (.inr hless)
  have hexplicit : ¬ (publisherQos.reliability = .systemDefault ∨
      subscriberQos.reliability = .systemDefault ∨ publisherQos.durability = .systemDefault ∨
        subscriberQos.durability = .systemDefault) := by
    rintro (hdefault | hdefault | hdefault | hdefault)
    · exact hpublisher.reliability hdefault
    · exact hsubscriber.reliability hdefault
    · exact hpublisher.durability hdefault
    · exact hsubscriber.durability hdefault
  unfold checkQosCompatibility
  rw [if_neg hreliability,if_neg hdurability,if_neg hexplicit]

/-- The verdict is right exactly if no timing is refused that the delivery
policies allow: deadlines, liveliness and leases are not looked at. -/
theorem judged_iff (hpublisher : Explicit publisherQos) (hsubscriber : Explicit subscriberQos) :
    Judged publisherQos subscriberQos ↔
      (OffersLessTiming publisherQos subscriberQos →
        OffersLessDelivery publisherQos subscriberQos) := by
  have hverdict := checkQosCompatibility_incompatible publisherQos subscriberQos
  constructor
  · intro h htiming
    exact hverdict.mp (h.incompatible.mpr (.inr htiming))
  · intro h
    refine ⟨⟨fun hverdict' => .inl (hverdict.mp hverdict'),fun hless => hverdict.mpr ?_⟩,
      fun hless => ?_⟩
    · exact hless.elim id h
    · exact checkQosCompatibility_compatible hpublisher hsubscriber fun hdelivery =>
        hless (.inl hdelivery)

/-- A reliable profile with a deadline in nanoseconds. -/
def withDeadline (deadline : QosDuration) : Qos where
  history := .keepLast
  depth := 10
  reliability := .reliable
  durability := .volatile
  deadline := deadline
  lifespan := .infinite
  liveliness := .automatic
  livelinessLeaseDuration := .infinite

theorem withDeadline_explicit {deadline : QosDuration} (h : deadline ≠ .systemDefault) :
    Explicit (withDeadline deadline) :=
  ⟨nofun,nofun,h,nofun,nofun⟩

/-- A shorter deadline than requested is offered. -/
theorem judged_iff_shorter :
    Explicit (withDeadline (.finite 5)) ∧ Explicit (withDeadline (.finite 7)) ∧
      (Judged (withDeadline (.finite 5)) (withDeadline (.finite 7)) ↔
        (OffersLessTiming (withDeadline (.finite 5)) (withDeadline (.finite 7)) →
          OffersLessDelivery (withDeadline (.finite 5)) (withDeadline (.finite 7)))) :=
  ⟨withDeadline_explicit nofun,withDeadline_explicit nofun,
    judged_iff (withDeadline_explicit nofun) (withDeadline_explicit nofun)⟩

/-- A publisher without a deadline passes for one that keeps a deadline. -/
theorem unbounded_deadline_compatible :
    (checkQosCompatibility (withDeadline .infinite) (withDeadline (.finite 7))).compatibility =
        .compatible ∧
      ¬ ∀ publisherQos subscriberQos : Qos, Explicit publisherQos → Explicit subscriberQos →
        Judged publisherQos subscriberQos := by
  have hverdict : (checkQosCompatibility (withDeadline .infinite)
      (withDeadline (.finite 7))).compatibility = .compatible := rfl
  refine ⟨hverdict,fun h => ?_⟩
  have hjudged := h (withDeadline .infinite) (withDeadline (.finite 7))
    (withDeadline_explicit nofun) (withDeadline_explicit nofun)
  have hless : OffersLess (withDeadline .infinite) (withDeadline (.finite 7)) :=
    .inr (.inl (ENat.natCast_lt_top 7))
  rw [hjudged.incompatible.mpr hless] at hverdict
  cases hverdict

end Dmw.QosRequestOffer
