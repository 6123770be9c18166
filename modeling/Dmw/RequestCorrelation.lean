import Dmw.ServerPending

/-!
# Correlation identities along one request

`Client::write_request` and `Client::read_response` normalise the identity of
a request independently of `Server::read_request`. Fast DDS is assumed to number
the written samples and to carry both identities of a sample unchanged; its
other answers are supplied from outside. The sample handed to the caller
travels with the identity reported for it.
-/

namespace Dmw.RequestCorrelation

open Identity KeyedTable ServerPending

/-- Endpoints of one Client. -/
structure Client where
  /-- GUID of the request writer. -/
  requestWriter : Guid
  /-- GUID of the response reader. -/
  responseReader : Guid
  deriving DecidableEq

/-- Identity of the request reported to the caller. The DDS write leaves the
sequence it assigned, or nothing when it failed. -/
def writeRequest (client : Client) (requestNull operation : Bool)
    (written : Option SequenceNumber) : Result RequestId :=
  if requestNull then .error ⟨.invalidArgument,"Request must not be null"⟩
  else if !operation then .error ⟨.contextShutdown,"Context is shut down"⟩
  else
    match written with
    | none => .error ⟨.ddsError,"Fast DDS request write failed"⟩
    | some sequence =>
      match toRequestId ⟨client.requestWriter,sequence⟩ with
      | none => .error ⟨.ddsError,"Fast DDS request write returned an unknown sequence"⟩
      | some id => .ok {id with clientGid := toGid client.responseReader}

/-- The request sample as every Server takes it: only the GUID of the related
identity was set by the writer. -/
def carried (client : Client) (sequence : SequenceNumber) : SampleInfo where
  validData := true
  sampleIdentity := ⟨client.requestWriter,sequence⟩
  relatedSampleIdentity := ⟨client.responseReader,SequenceNumber.unknown⟩

/-- A destructive take and the outcome of the commit that follows a sample;
`none` is an exception. -/
abbrev Take := TakeOutcome × Option (Result Unit)

/-- How a read ends. -/
inductive ReadEnd
  /-- A sample was handed out under an identity. -/
  | sample (id : RequestId) (info : SampleInfo)
  /-- Nothing was handed out. -/
  | nothing (reply : Reply)

/-- A taken sample reaches the caller when its commit succeeds. -/
def commitSample (id : RequestId) (info : SampleInfo) : Option (Result Unit) → ReadEnd
  | some (.ok _) => .sample id info
  | some (.error e) => .nothing (.failure e)
  | none => .nothing .exception

/-- Identity under which a Client accepts a response sample; samples of other
clients and samples without a sequence are passed over. -/
def acceptResponse (client : Client) (info : SampleInfo) : Option RequestId :=
  let related := info.relatedSampleIdentity
  if !info.validData then none
  else if related.writerGuid ≠ client.requestWriter ∧ related.writerGuid ≠ client.responseReader then
    none
  else toRequestId related

/-- The loop of `read_response`; the list holds one take per unread sample. -/
def readResponseLoop (client : Client) : List Take → ReadEnd
  | [] => .nothing (.value false)
  | (take,commit) :: rest =>
    match take with
    | .threw => .nothing .exception
    | .scratchFailed e => .nothing (.failure e)
    | .noData => .nothing (.value false)
    | .failed e => .nothing (.failure e)
    | .taken info =>
      match acceptResponse client info with
      | none => readResponseLoop client rest
      | some id => commitSample id info commit

/-- One call of `Client::read_response`. -/
def readResponse (client : Client) (responseNull operation : Bool) (takes : List Take) : ReadEnd :=
  if responseNull then .nothing (.failure ⟨.invalidArgument,"Response must not be null"⟩)
  else if !operation then .nothing (.failure ⟨.contextShutdown,"Context is shut down"⟩)
  else readResponseLoop client takes

/-- The loop of `Server::read_request`, with nobody else at the pending table. -/
def readRequestLoop : Server → List Take → ReadEnd × Server
  | s, [] => (.nothing (.value false),s)
  | s, (take,commit) :: rest =>
    match s.reserveRequestSlot with
    | none =>
      (.nothing (.failure ⟨.resourceExhausted,"Server pending request capacity is exhausted"⟩),s)
    | some (_,reserved) =>
      match decodeTake take with
      | .throw => (.nothing .exception,reserved)
      | .leave reply => (.nothing reply,reserved.releaseRequestReservation.2)
      | .skip => readRequestLoop reserved.releaseRequestReservation.2 rest
      | .insert id identity =>
        match reserved.insertRequest id identity,take with
        | (true,inserted),.taken info =>
          (commitSample id info commit,
            if commit = some (.ok ()) then inserted else (inserted.releasePendingRequest id).2)
        | (_,dropped),_ => readRequestLoop dropped rest

/-- One call of `Server::read_request`. -/
def readRequest (s : Server) (requestNull operation : Bool) (takes : List Take) : ReadEnd × Server :=
  if requestNull then (.nothing (.failure ⟨.invalidArgument,"Request must not be null"⟩),s)
  else if !operation then (.nothing (.failure ⟨.contextShutdown,"Context is shut down"⟩),s)
  else readRequestLoop s takes

/-- Only a successful commit hands a sample out. -/
theorem commitSample_eq_sample {id id' : RequestId} {info info' : SampleInfo}
    {commit : Option (Result Unit)} :
    commitSample id info commit = .sample id' info' ↔
      commit = some (.ok ()) ∧ id = id' ∧ info = info' := by
  cases commit with
  | none => simp [commitSample]
  | some outcome => cases outcome <;> simp [commitSample]

/-- The two words of a sequence are recovered from its value. -/
theorem fromSequence_injective : Function.Injective fromSequence := by
  intro first second heq
  have hbits : first.high ++ first.low = second.high ++ second.low := BitVec.eq_of_toInt_eq heq
  have hhigh := congrArg (BitVec.extractLsb' 32 32) hbits
  have hlow := congrArg (BitVec.extractLsb' 0 32) hbits
  rw [BitVec.extractLsb'_append_eq_left, BitVec.extractLsb'_append_eq_left] at hhigh
  rw [BitVec.extractLsb'_append_eq_right, BitVec.extractLsb'_append_eq_right] at hlow
  cases first
  cases second
  simp_all

/-- A known sequence gives the identity of its stream position. -/
theorem toRequestId_eq_some {identity : SampleIdentity} {id : RequestId} :
    toRequestId identity = some id ↔
      identity.sequenceNumber ≠ SequenceNumber.unknown ∧
        id = ⟨toGid identity.writerGuid, fromSequence identity.sequenceNumber⟩ := by
  unfold toRequestId
  split
  · next hunknown => simp [hunknown]
  · next hknown =>
    simp only [Option.some.injEq, ne_eq, hknown, not_false_eq_true, true_and]
    exact eq_comm

/-- A Client accepts what is related to either of its endpoints. -/
theorem acceptResponse_eq_some {client : Client} {info : SampleInfo} {id : RequestId} :
    acceptResponse client info = some id ↔
      info.validData = true ∧
        (info.relatedSampleIdentity.writerGuid = client.requestWriter ∨
          info.relatedSampleIdentity.writerGuid = client.responseReader) ∧
        toRequestId info.relatedSampleIdentity = some id := by
  unfold acceptResponse
  cases hvalid : info.validData with
  | false => simp
  | true =>
    by_cases hforeign : info.relatedSampleIdentity.writerGuid ≠ client.requestWriter ∧
        info.relatedSampleIdentity.writerGuid ≠ client.responseReader
    · have hnot : ¬ (info.relatedSampleIdentity.writerGuid = client.requestWriter ∨
          info.relatedSampleIdentity.writerGuid = client.responseReader) := by tauto
      simp [hforeign]
    · have heither : info.relatedSampleIdentity.writerGuid = client.requestWriter ∨
          info.relatedSampleIdentity.writerGuid = client.responseReader := by tauto
      simp [hforeign, heither]

/-- A reported request is named by the response reader and its sequence. -/
theorem writeRequest_eq_ok {client : Client} {requestNull operation : Bool}
    {sequence : SequenceNumber} {r : RequestId}
    (hwrite : writeRequest client requestNull operation (some sequence) = .ok r) :
    sequence ≠ SequenceNumber.unknown ∧
      r = ⟨toGid client.responseReader, fromSequence sequence⟩ := by
  unfold writeRequest at hwrite
  split_ifs at hwrite
  cases hid : toRequestId ⟨client.requestWriter, sequence⟩ with
  | none => simp [hid] at hwrite
  | some id =>
    obtain ⟨hknown, rfl⟩ := toRequestId_eq_some.mp hid
    simp only [hid, Except.ok.injEq] at hwrite
    exact ⟨hknown, hwrite.symm⟩

/-- The first sample of a list that a Client accepts, with a commit that
succeeds. -/
def FirstAccepted (client : Client) (takes : List Take) (info : SampleInfo) : Prop :=
  ∃ before after, takes = before ++ (.taken info,some (.ok ())) :: after ∧
    (∀ passed ∈ before, ∃ other, passed.1 = .taken other ∧ acceptResponse client other = none) ∧
    (acceptResponse client info).isSome

/-- The first accepted sample is the head, or the head is passed over. -/
theorem firstAccepted_cons {client : Client} {head : Take} {rest : List Take} {info : SampleInfo} :
    FirstAccepted client (head :: rest) info ↔
      (head = (.taken info,some (.ok ())) ∧ (acceptResponse client info).isSome) ∨
        (∃ other, head.1 = .taken other ∧ acceptResponse client other = none) ∧
          FirstAccepted client rest info := by
  constructor
  · rintro ⟨before, after, hsplit, hpassed, haccepted⟩
    cases before with
    | nil =>
      have hhead : head = (.taken info,some (.ok ())) := (List.cons.inj hsplit).1
      exact .inl ⟨hhead, haccepted⟩
    | cons first before =>
      obtain ⟨hfirst, hrest⟩ := List.cons.inj hsplit
      have hskip := hpassed first List.mem_cons_self
      rw [← hfirst] at hskip
      have hlater := fun passed hmem => hpassed passed (List.mem_cons_of_mem first hmem)
      exact .inr ⟨hskip, before, after, hrest, hlater, haccepted⟩
  · rintro (⟨hhead, haccepted⟩ | ⟨hskip, before, after, hsplit, hpassed, haccepted⟩)
    · exact ⟨[], rest, by rw [hhead]; rfl, by simp, haccepted⟩
    · refine ⟨head :: before, after, by rw [hsplit]; rfl, ?_, haccepted⟩
      intro passed hmem
      rcases List.mem_cons.mp hmem with hhead | hbefore
      · rw [hhead]
        exact hskip
      · exact hpassed passed hbefore

/-- A read hands out the first accepted sample under its related identity. -/
theorem readResponseLoop_eq_sample {client : Client} {takes : List Take} {id : RequestId}
    {info : SampleInfo} :
    readResponseLoop client takes = .sample id info ↔
      FirstAccepted client takes info ∧ acceptResponse client info = some id := by
  induction takes with
  | nil => simp [readResponseLoop, FirstAccepted]
  | cons head rest ih =>
    obtain ⟨take, commit⟩ := head
    rw [firstAccepted_cons]
    cases take with
    | threw => simp [readResponseLoop]
    | scratchFailed e => simp [readResponseLoop]
    | noData => simp [readResponseLoop]
    | failed e => simp [readResponseLoop]
    | taken head =>
      cases haccept : acceptResponse client head with
      | none =>
        have hne : ¬ (head = info ∧ (acceptResponse client info).isSome) := by
          rintro ⟨rfl, hsome⟩
          simp [haccept] at hsome
        simp only [readResponseLoop, haccept, ih, TakeOutcome.taken.injEq, Prod.mk.injEq]
        constructor
        · intro h
          exact ⟨.inr ⟨⟨head, rfl, haccept⟩, h.1⟩, h.2⟩
        · rintro ⟨⟨⟨hhead, _⟩, hsome⟩ | ⟨_, hlater⟩, hid⟩
          · exact absurd ⟨hhead, hsome⟩ hne
          · exact ⟨hlater, hid⟩
      | some found =>
        simp only [readResponseLoop, haccept, commitSample_eq_sample, TakeOutcome.taken.injEq,
          Prod.mk.injEq]
        constructor
        · rintro ⟨hcommit, rfl, rfl⟩
          exact ⟨.inl ⟨⟨rfl, hcommit⟩, by simp [haccept]⟩, haccept⟩
        · rintro ⟨⟨⟨hhead, hcommit⟩, _⟩ | ⟨⟨other, rfl, hnone⟩, _⟩, hid⟩
          · rw [← hhead, haccept] at hid
            exact ⟨hcommit, Option.some.inj hid, hhead⟩
          · rw [haccept] at hnone
            cases hnone

/-- GUID a Server answers to: the reader the request carries, or else its
writer. -/
def answered (info : SampleInfo) : Guid :=
  if info.relatedSampleIdentity.writerGuid ≠ Guid.unknown then
    info.relatedSampleIdentity.writerGuid
  else info.sampleIdentity.writerGuid

/-- A request is answered to its response reader unless that has no GUID and
differs from the writer. -/
theorem answered_carried_iff {client : Client} {sequence : SequenceNumber} :
    answered (carried client sequence) = client.responseReader ↔
      (client.responseReader = Guid.unknown → client.requestWriter = client.responseReader) := by
  unfold answered carried
  by_cases hunknown : client.responseReader = Guid.unknown
  · simp [hunknown]
  · simp [hunknown]

/-- A registered request is named by the GUID its Server answers to. -/
theorem decodeTake_eq_insert {info : SampleInfo} {id : RequestId} {identity : SampleIdentity}
    (h : decodeTake (.taken info) = .insert id identity) :
    id = ⟨toGid (answered info), fromSequence info.sampleIdentity.sequenceNumber⟩ := by
  unfold decodeTake at h
  cases hid : toRequestId info.sampleIdentity with
  | none =>
    simp only [hid] at h
    split_ifs at h
  | some found =>
    obtain ⟨_, rfl⟩ := toRequestId_eq_some.mp hid
    simp only [hid] at h
    unfold answered
    split_ifs at h with _ hreader
    · rw [← (TakeDecision.insert.inj h).1, if_pos hreader]
    · rw [← (TakeDecision.insert.inj h).1, if_neg hreader]

/-- A Server hands out a sample under the identity it decoded. -/
theorem readRequestLoop_sample {s s' : Server} {takes : List Take} {id : RequestId}
    {info : SampleInfo} (h : readRequestLoop s takes = (.sample id info,s')) :
    ∃ identity, decodeTake (.taken info) = .insert id identity := by
  induction takes generalizing s with
  | nil => simp [readRequestLoop] at h
  | cons head rest ih =>
    obtain ⟨take, commit⟩ := head
    unfold readRequestLoop at h
    cases hreserve : s.reserveRequestSlot with
    | none => simp [hreserve] at h
    | some slot =>
      simp only [hreserve] at h
      cases hdecode : decodeTake take with
      | throw => simp [hdecode] at h
      | leave reply => simp [hdecode] at h
      | skip =>
        simp only [hdecode] at h
        exact ih h
      | insert found identity =>
        simp only [hdecode] at h
        split at h
        · next taken _ =>
          have hsample : commitSample found taken commit = .sample id info := (Prod.mk.inj h).1
          obtain ⟨_, rfl, rfl⟩ := commitSample_eq_sample.mp hsample
          exact ⟨identity, hdecode⟩
        · exact ih h

theorem readRequest_sample {s s' : Server} {requestNull operation : Bool} {takes : List Take}
    {id : RequestId} {info : SampleInfo}
    (h : readRequest s requestNull operation takes = (.sample id info,s')) :
    ∃ identity, decodeTake (.taken info) = .insert id identity := by
  unfold readRequest at h
  split_ifs at h
  · simp at h
  · simp at h
  · exact readRequestLoop_sample h

/-- The identities of one request agree: every response handed out for its
sequence, and every Server that hands the request out, name it as the write
did. -/
structure Correlated (client : Client) (sequence : SequenceNumber) (r : RequestId)
    (responses : List Take) : Prop where
  /-- Responses read by the Client. -/
  response : ∀ (responseNull operation : Bool) (id : RequestId) (info : SampleInfo),
    readResponse client responseNull operation responses = .sample id info →
      info.relatedSampleIdentity.sequenceNumber = sequence → id = r
  /-- The request as a Server reads it. -/
  request : ∀ (s s' : Server) (requestNull operation : Bool) (requests : List Take) (id : RequestId),
    readRequest s requestNull operation requests = (.sample id (carried client sequence),s') → id = r

/-- A response accepted for the sequence is related to the response reader. -/
def NamesReader (client : Client) (sequence : SequenceNumber) (responses : List Take) : Prop :=
  ∀ info, FirstAccepted client responses info →
    info.relatedSampleIdentity.sequenceNumber = sequence →
      info.relatedSampleIdentity.writerGuid = client.responseReader

variable {client : Client} {sequence : SequenceNumber}

/-- A response handed out is the first accepted one, named by its related
identity. -/
theorem readResponse_sample {responseNull operation : Bool} {takes : List Take} {id : RequestId}
    {info : SampleInfo} (h : readResponse client responseNull operation takes = .sample id info) :
    FirstAccepted client takes info ∧ acceptResponse client info = some id := by
  unfold readResponse at h
  split_ifs at h
  exact readResponseLoop_eq_sample.mp h

/-- Responses carry the identity of the write exactly when they name the
reader. -/
theorem response_iff (responses : List Take) :
    (∀ (responseNull operation : Bool) (id : RequestId) (info : SampleInfo),
      readResponse client responseNull operation responses = .sample id info →
        info.relatedSampleIdentity.sequenceNumber = sequence →
          id = ⟨toGid client.responseReader, fromSequence sequence⟩) ↔
      NamesReader client sequence responses := by
  constructor
  · intro hequal info hfirst hsequence
    obtain ⟨before, after, hsplit, hpassed, haccepted⟩ := id hfirst
    obtain ⟨id, hid⟩ := Option.isSome_iff_exists.mp haccepted
    have hread : readResponse client false true responses = .sample id info :=
      readResponseLoop_eq_sample.mpr ⟨hfirst, hid⟩
    have hsame := hequal false true id info hread hsequence
    obtain ⟨_, _, hrelated⟩ := acceptResponse_eq_some.mp hid
    have hnamed := (toRequestId_eq_some.mp hrelated).2
    exact toGid_injective (RequestId.mk.inj (hnamed.symm.trans hsame)).1
  · intro hnames responseNull operation id info hread hsequence
    obtain ⟨hfirst, hid⟩ := readResponse_sample hread
    obtain ⟨_, _, hrelated⟩ := acceptResponse_eq_some.mp hid
    rw [(toRequestId_eq_some.mp hrelated).2, hnames info hfirst hsequence, hsequence]

/-- The request sample of a write that succeeded is decoded. -/
theorem decodeTake_carried (hknown : sequence ≠ SequenceNumber.unknown) :
    ∃ id identity, decodeTake (.taken (carried client sequence)) = .insert id identity := by
  have hid : toRequestId ⟨client.requestWriter,sequence⟩ =
      some ⟨toGid client.requestWriter, fromSequence sequence⟩ :=
    toRequestId_eq_some.mpr ⟨hknown, rfl⟩
  by_cases hreader : client.responseReader = Guid.unknown
  · exact ⟨_, ⟨client.requestWriter,sequence⟩, by
      simp only [decodeTake, carried, hid, hreader]
      rfl⟩
  · exact ⟨_, ⟨client.responseReader,sequence⟩, by
      simp only [decodeTake, carried, hid, ne_eq, hreader, not_false_eq_true, if_true]
      rfl⟩

/-- A Server with a free slot hands the request out. -/
theorem readRequest_carried (hknown : sequence ≠ SequenceNumber.unknown) :
    ∃ id s', readRequest (Server.initial 1) false true
        [(.taken (carried client sequence),some (.ok ()))] =
      (.sample id (carried client sequence),s') := by
  obtain ⟨id, identity, hdecode⟩ := @decodeTake_carried client sequence hknown
  let reserved : Server := {Server.initial 1 with reservations := 1}
  have hslot : (Server.initial 1).reserveRequestSlot = some (true,reserved) := rfl
  have hnew : id ∉ reserved.pending := by simp [reserved, Server.initial]
  have hinsert : reserved.insertRequest id identity =
      (true,(reserved.insertRequest id identity).2) := by
    simp only [Server.insertRequest, if_neg hnew]
  have hread : readRequestLoop (Server.initial 1)
      [(.taken (carried client sequence),some (.ok ()))] =
        (.sample id (carried client sequence),(reserved.insertRequest id identity).2) := by
    rw [readRequestLoop, hslot]
    simp only [hdecode]
    rw [hinsert]
    rfl
  exact ⟨id, _, hread⟩

/-- Servers name the request as the write did exactly when they answer to its
response reader. -/
theorem request_iff (hknown : sequence ≠ SequenceNumber.unknown) :
    (∀ (s s' : Server) (requestNull operation : Bool) (requests : List Take) (id : RequestId),
      readRequest s requestNull operation requests = (.sample id (carried client sequence),s') →
        id = ⟨toGid client.responseReader, fromSequence sequence⟩) ↔
      (client.responseReader = Guid.unknown → client.requestWriter = client.responseReader) := by
  rw [← answered_carried_iff]
  constructor
  · intro hequal
    obtain ⟨id, s', hread⟩ := @readRequest_carried client sequence hknown
    obtain ⟨identity, hdecode⟩ := readRequest_sample hread
    have hsame := (decodeTake_eq_insert hdecode).symm.trans (hequal _ _ _ _ _ _ hread)
    exact toGid_injective (RequestId.mk.inj hsame).1
  · intro hanswered s s' requestNull operation requests id hread
    obtain ⟨identity, hdecode⟩ := readRequest_sample hread
    rw [decodeTake_eq_insert hdecode, hanswered]
    rfl

/-- Identities agree exactly when the response was addressed to the response
reader, which a Server can name unless it has no GUID; requests share an
identity only if they share the response reader and the sequence. -/
theorem correlated_iff {requestNull operation : Bool} {r : RequestId}
    (hwrite : writeRequest client requestNull operation (some sequence) = .ok r)
    (responses : List Take) :
    (Correlated client sequence r responses ↔
      NamesReader client sequence responses ∧
        (client.responseReader = Guid.unknown → client.requestWriter = client.responseReader)) ∧
    ∀ (other : Client) (requestNull operation : Bool) (sequence' : SequenceNumber) (r' : RequestId),
      writeRequest other requestNull operation (some sequence') = .ok r' →
        (r' = r ↔ other.responseReader = client.responseReader ∧ sequence' = sequence) := by
  obtain ⟨hknown, rfl⟩ := writeRequest_eq_ok hwrite
  refine ⟨?_, ?_⟩
  · rw [← response_iff, ← request_iff hknown]
    exact ⟨fun h => ⟨h.response, h.request⟩, fun h => ⟨h.1, h.2⟩⟩
  · intro other requestNull operation sequence' r' hother
    obtain ⟨_, rfl⟩ := writeRequest_eq_ok hother
    rw [RequestId.mk.injEq]
    constructor
    · intro h
      exact ⟨toGid_injective h.1, fromSequence_injective h.2⟩
    · rintro ⟨hreader, hsequence⟩
      rw [hreader, hsequence]
      exact ⟨rfl, rfl⟩

/-- A Client whose endpoints share one participant. -/
def sampleClient : Client where
  requestWriter := ⟨Vector.replicate 12 1,#v[0,0,1,3]⟩
  responseReader := ⟨Vector.replicate 12 1,#v[0,0,2,4]⟩

/-- First request of its writer. -/
def sampleSequence : SequenceNumber := ⟨0,1⟩

/-- A valid response to the first request, related to a given endpoint. -/
def sampleResponse (related : Guid) : SampleInfo where
  validData := true
  sampleIdentity := ⟨Guid.unknown,⟨0,9⟩⟩
  relatedSampleIdentity := ⟨related,sampleSequence⟩

/-- Identity the write reports for the first request. -/
def sampleId : RequestId := ⟨toGid sampleClient.responseReader, 1⟩

theorem writeRequest_sample :
    writeRequest sampleClient false true (some sampleSequence) = .ok sampleId := by
  decide

/-- A response related to the response reader is correlated. -/
theorem correlated_iff_reader_response :
    Correlated sampleClient sampleSequence sampleId
      [(.taken (sampleResponse sampleClient.responseReader),some (.ok ()))] := by
  refine (correlated_iff writeRequest_sample _).1.mpr ⟨?_, fun h => absurd h (by decide)⟩
  intro info hfirst _
  rcases firstAccepted_cons.mp hfirst with ⟨hhead, _⟩ | ⟨⟨other, _, hpassed⟩, before, _, hsplit, _⟩
  · rw [← TakeOutcome.taken.inj (Prod.mk.inj hhead).1]
    rfl
  · simp at hsplit

/-- A response related to the request writer is accepted under an identity that
the write never reported. -/
theorem not_correlated_writer_response :
    ¬ ∀ (client : Client) (requestNull operation : Bool) (sequence : SequenceNumber) (r : RequestId),
      writeRequest client requestNull operation (some sequence) = .ok r →
        ∀ responses, Correlated client sequence r responses := by
  intro hall
  have hcorrelated := hall sampleClient false true sampleSequence sampleId writeRequest_sample
    [(.taken (sampleResponse sampleClient.requestWriter),some (.ok ()))]
  have hread : readResponse sampleClient false true
      [(.taken (sampleResponse sampleClient.requestWriter),some (.ok ()))] =
        .sample ⟨toGid sampleClient.requestWriter,1⟩ (sampleResponse sampleClient.requestWriter) := by
    rfl
  have hsame := hcorrelated.response false true _ _ hread rfl
  exact absurd hsame (by decide)

end Dmw.RequestCorrelation
