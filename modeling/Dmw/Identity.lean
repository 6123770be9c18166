import Mathlib.Data.Int.Init

/-!
# Error codes and wire identities

The error vocabulary of every fallible call, and the identities that
correlate requests with responses: endpoint GUIDs, their neutral 16-byte form,
64-bit sequence numbers and sample identities. Bytes are kept as they stand on
the wire, so conversions are exact.
-/

namespace Dmw.Identity

/-- Error codes returned by expected failures. -/
inductive ErrorCode
  | invalidArgument
  | invalidState
  | invalidName
  | typeMismatch
  | alreadyExists
  | notFound
  | alreadyRegistered
  | notRegistered
  | busy
  | timeout
  | unsupported
  | incompatibleQos
  | parentDestroyed
  | resourceExhausted
  | ddsError
  | contextShutdown
  | interrupted
  | protocolFault
  deriving DecidableEq, Repr

/-- An expected failure with its diagnostic text. -/
structure Error where
  /-- Machine-readable reason. -/
  code : ErrorCode
  /-- Diagnostic text. -/
  message : String
  deriving DecidableEq, Repr

/-- Outcome of a fallible call. -/
abbrev Result (α : Type) := Except Error α

/-- Fast DDS participant prefix. -/
abbrev GuidPrefix := Vector UInt8 12

/-- Fast DDS entity identifier inside one participant. -/
abbrev EntityId := Vector UInt8 4

/-- Fast DDS endpoint identifier. -/
structure Guid where
  /-- Participant part. -/
  guidPrefix : GuidPrefix
  /-- Entity part; its last byte carries the entity kind. -/
  entityId : EntityId
  deriving DecidableEq

/-- The reserved identifier of no endpoint. -/
def Guid.unknown : Guid := ⟨Vector.replicate 12 0, Vector.replicate 4 0⟩

/-- Middleware-neutral endpoint identifier. -/
structure Gid where
  /-- Prefix bytes followed by entity bytes. -/
  data : Vector UInt8 16
  deriving DecidableEq

/-- Concatenate the two GUID parts. -/
def toGid (guid : Guid) : Gid := ⟨guid.guidPrefix ++ guid.entityId⟩

/-- Distinct endpoints keep distinct neutral identifiers. -/
theorem toGid_injective : Function.Injective toGid := by
  rintro ⟨p, e⟩ ⟨p', e'⟩ h
  simp only [toGid, Gid.mk.injEq] at h
  have hlist := congrArg (fun v : Vector UInt8 16 => v.toArray.toList) h
  simp only [Vector.toArray_append, Array.toList_append] at hlist
  obtain ⟨hp, he⟩ := List.append_inj hlist (by simp)
  have hstart : p = p' := Vector.toArray_inj.mp (Array.toList_inj.mp hp)
  have hentity : e = e' := Vector.toArray_inj.mp (Array.toList_inj.mp he)
  rw [hstart, hentity]

/-- Two 32-bit words of one Fast DDS sequence number. -/
structure SequenceNumber where
  /-- Signed high word, kept as its bit pattern. -/
  high : BitVec 32
  /-- Unsigned low word. -/
  low : BitVec 32
  deriving DecidableEq

/-- The reserved sequence number of no sample. -/
def SequenceNumber.unknown : SequenceNumber := ⟨-1, 0⟩

/-- Reassemble the signed 64-bit value from its two words. -/
def fromSequence (sequence : SequenceNumber) : ℤ := (sequence.high ++ sequence.low).toInt

/-- Correlates a service request with its response. -/
structure RequestId where
  /-- Requesting client. -/
  clientGid : Gid
  /-- Position in the client's request stream. -/
  sequenceNumber : ℤ
  deriving DecidableEq

/-- Fast DDS identity of one sample. -/
structure SampleIdentity where
  /-- Endpoint that wrote, or that shall receive, the sample. -/
  writerGuid : Guid
  /-- Position in that endpoint's stream. -/
  sequenceNumber : SequenceNumber
  deriving DecidableEq

/-- Metadata of one taken request. -/
structure SampleInfo where
  /-- The sample carries a message rather than a state change. -/
  validData : Bool
  /-- Identity of the request itself. -/
  sampleIdentity : SampleIdentity
  /-- Identity naming the client's response reader, when it sent one. -/
  relatedSampleIdentity : SampleIdentity
  deriving DecidableEq

/-- A sample with a known sequence has a request identity. -/
def toRequestId (identity : SampleIdentity) : Option RequestId :=
  if identity.sequenceNumber = SequenceNumber.unknown then none
  else some ⟨toGid identity.writerGuid, fromSequence identity.sequenceNumber⟩

/-- Reader entities carry bit 2 in the last entity byte. -/
def isReaderGuid (guid : Guid) : Bool :=
  guid ≠ Guid.unknown && (guid.entityId[3] &&& 0x04) != 0

end Dmw.Identity
