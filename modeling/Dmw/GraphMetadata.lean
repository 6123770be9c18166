import Dmw.GraphCandidates
import Dmw.WireBuffers

/-!
# Graph metadata

What a participant tells the others about its nodes: the snapshot of its local
nodes and endpoints, its bytes on the wire and what a receiver takes from them.
The primitives of the wire, an octet, a 32-bit count and a string, are those of
Fast CDR; what is written of them at an offset and how it is read are parameters.
-/

namespace Dmw.GraphMetadata

open Identity RecordVector DiscoveryGraph GraphCandidates GraphNames Scripts WireBuffers

/-- The ROS 2 generation a build speaks. -/
inductive Layout
  | humble
  | rolling
  deriving DecidableEq, Repr

/-- `kRmwGidSize`. -/
def Layout.rmwGidSize : Layout → ℕ
  | .humble => 24
  | .rolling => 16

/-- `kDdsGuidSize`. -/
def ddsGuidSize : ℕ := 16

/-- A GUID has room in a wire identifier. -/
theorem Layout.ddsGuidSize_le (layout : Layout) : ddsGuidSize ≤ layout.rmwGidSize := by
  cases layout <;> decide

/-- `kMetadataPayloadSize`. -/
def metadataPayloadSize : ℕ := 65536

variable {layout : Layout}

/-- `rmw_gid_t`. -/
structure RmwGid (layout : Layout) where
  /-- Octets. -/
  data : Vector UInt8 layout.rmwGidSize
  deriving DecidableEq

/-- `RmwNodeEntitiesInfo`. -/
structure RmwNodeEntitiesInfo (layout : Layout) where
  /-- Node namespace. -/
  nodeNamespace : ByteString
  /-- Node name. -/
  nodeName : ByteString
  /-- The readers of the node. -/
  readerGids : List (RmwGid layout)
  /-- The writers of the node. -/
  writerGids : List (RmwGid layout)
  deriving DecidableEq

/-- `RmwParticipantEntitiesInfo`. -/
structure RmwParticipantEntitiesInfo (layout : Layout) where
  /-- The participant. -/
  gid : RmwGid layout
  /-- Its nodes. -/
  nodeEntitiesInfoSeq : List (RmwNodeEntitiesInfo layout)
  deriving DecidableEq

/-- The primitives of the wire. -/
structure Cdr where
  /-- The encapsulation header. -/
  encapsulation : Coder Unit
  /-- An octet. -/
  octet : Coder UInt8
  /-- A 32-bit count. -/
  count : Coder UInt32
  /-- A string. -/
  string : Coder ByteString

/-! ## The codec -/

section

variable (cdr : Cdr)

section

variable {size : ℕ}

/-- `write_string`. -/
def writeString (value : ByteString) : Put size := put cdr.string value

/-- `read_string`. -/
def readString : Get ByteString := get cdr.string

/-- `write_gid`. -/
def writeGid (gid : RmwGid layout) : Put size := Script.each (put cdr.octet) gid.data.toList

/-- `read_gid`. -/
def readGid (layout : Layout) : Get (RmwGid layout) := do
  let octets ← Script.times (get cdr.octet) layout.rmwGidSize
  pure ⟨Vector.ofFn fun index => octets.getD index 0⟩

/-- `write_gid_sequence`. -/
def writeGidSequence (gids : List (RmwGid layout)) : Put size := do
  put cdr.count (UInt32.ofNat gids.length)
  Script.each (writeGid cdr) gids

/-- `read_gid_sequence`. -/
def readGidSequence (layout : Layout) : Get (List (RmwGid layout)) := do
  let n ← get cdr.count
  Script.times (readGid cdr layout) n.toNat

/-- The loop body of `write_participant_entities`. -/
def writeNode (node : RmwNodeEntitiesInfo layout) : Put size := do
  writeString cdr node.nodeNamespace
  writeString cdr node.nodeName
  writeGidSequence cdr node.readerGids
  writeGidSequence cdr node.writerGids

/-- The loop body of `read_participant_entities`. -/
def readNode (layout : Layout) : Get (RmwNodeEntitiesInfo layout) := do
  let nodeNamespace ← readString cdr
  let nodeName ← readString cdr
  let readerGids ← readGidSequence cdr layout
  let writerGids ← readGidSequence cdr layout
  pure ⟨nodeNamespace,nodeName,readerGids,writerGids⟩

/-- The nodes in `write_participant_entities`. -/
def writeNodes (nodes : List (RmwNodeEntitiesInfo layout)) : Put size := do
  put cdr.count (UInt32.ofNat nodes.length)
  Script.each (writeNode cdr) nodes

/-- The nodes in `read_participant_entities`. -/
def readNodes (layout : Layout) : Get (List (RmwNodeEntitiesInfo layout)) := do
  let n ← get cdr.count
  Script.times (readNode cdr layout) n.toNat

/-- `write_participant_entities`. -/
def writeParticipantEntities (value : RmwParticipantEntitiesInfo layout) : Put size := do
  writeGid cdr value.gid
  writeNodes cdr value.nodeEntitiesInfoSeq

/-- `read_participant_entities`. -/
def readParticipantEntities (layout : Layout) : Get (RmwParticipantEntitiesInfo layout) := do
  let gid ← readGid cdr layout
  let nodeEntitiesInfoSeq ← readNodes cdr layout
  pure ⟨gid,nodeEntitiesInfoSeq⟩

/-- What `serialize` writes. -/
def writePayload (value : RmwParticipantEntitiesInfo layout) : Put size := do
  put cdr.encapsulation ()
  writeParticipantEntities cdr value

/-- What `deserialize` reads. -/
def readPayload (layout : Layout) : Get (RmwParticipantEntitiesInfo layout) := do
  let _ ← get cdr.encapsulation
  readParticipantEntities cdr layout

end

/-- `serialize` into a payload of `max_size`; nothing if it raises. -/
def serialize (maxSize : ℕ) (data : RmwParticipantEntitiesInfo layout) : Option (List UInt8) :=
  match writePayload cdr data (Buffer.empty maxSize) with
  | (.ok (),buffer) => some buffer.bytes
  | (.error _,_) => none

/-- `deserialize`, with the bytes that are left; nothing if it raises. -/
def deserialize (layout : Layout) (payload : List UInt8) :
    Option (RmwParticipantEntitiesInfo layout × List UInt8) :=
  match readPayload cdr layout ⟨0,payload⟩ with
  | (.ok data,cursor) => some (data,cursor.rest)
  | (.error _,_) => none

end

/-! ## Snapshots -/

/-- The octets of a GUID in a wire identifier, followed by zeros. -/
def wireGid (layout : Layout) (gid : Gid) : RmwGid layout :=
  ⟨Vector.ofFn fun index => if h : index.val < ddsGuidSize then gid.data.get ⟨index.val,h⟩ else 0⟩

/-- `rmw_gid_to_guid`. -/
def rmwGidToGuid (gid : RmwGid layout) : Vector UInt8 16 :=
  Vector.ofFn fun index =>
    gid.data.get ⟨index.val,Nat.lt_of_lt_of_le index.isLt layout.ddsGuidSize_le⟩

/-- One endpoint in the record of a node. -/
def listEndpoint (node : LocalNodeRecord) (record : RmwNodeEntitiesInfo layout)
    (endpoint : LocalEndpointRecord) : RmwNodeEntitiesInfo layout :=
  if endpoint.nodeId ≠ node.id then record
  else if endpoint.topic = graphMetadataTopicName then record
  else if endpoint.kind = .reader then
    {record with readerGids := record.readerGids ++ [wireGid layout (toGid endpoint.guid)]}
  else {record with writerGids := record.writerGids ++ [wireGid layout (toGid endpoint.guid)]}

/-- `build_local_snapshot`. -/
def buildLocalSnapshot (layout : Layout) (view : GraphView GuidPrefix) (participantGuid : Guid) :
    RmwParticipantEntitiesInfo layout where
  gid := wireGid layout (toGid participantGuid)
  nodeEntitiesInfoSeq := view.localNodes.records.map fun node =>
    view.localEndpoints.records.foldl (listEndpoint node) ⟨node.nodeNamespace,node.name,[],[]⟩

/-- What `ingest` makes of a node. -/
def remoteRecord (node : RmwNodeEntitiesInfo layout) : RemoteNodeRecord where
  nodeNamespace := node.nodeNamespace
  nodeName := node.nodeName
  readerGids := node.readerGids.map rmwGidToGuid
  writerGids := node.writerGids.map rmwGidToGuid

/-- The participant a sample is about. -/
def samplePrefix (sample : RmwParticipantEntitiesInfo layout) : GuidPrefix :=
  Vector.ofFn fun index => (rmwGidToGuid sample.gid).get ⟨index.val,by omega⟩

/-- What `ingest` does with a valid sample. -/
def ingestSample (localPrefix : GuidPrefix) (sample : RmwParticipantEntitiesInfo layout)
    (g : Graph) : Graph :=
  if samplePrefix sample = localPrefix then g
  else applyRemoteNodes (samplePrefix sample) (sample.nodeEntitiesInfoSeq.map remoteRecord) g

/-! ## Reading back -/

/-- The primitives are exact: what is written is read again, and nothing else is read. A
string holds no NUL, fits its 32-bit count with the terminator, and takes more bytes
than it has. -/
structure Exact (cdr : Cdr) : Prop where
  /-- The header. -/
  encapsulation : cdr.encapsulation.Inverts fun _ => True
  /-- Octets. -/
  octet : cdr.octet.Inverts fun _ => True
  /-- Counts. -/
  count : cdr.count.Inverts fun _ => True
  /-- Strings. -/
  string : cdr.string.Inverts fun value => 0 ∉ value ∧ value.length + 1 < UInt32.size
  /-- The characters and the terminator of a string. -/
  terminator : ∀ offset value, value.length < (cdr.string.write offset value).length

/-- The strings of a node hold no NUL. -/
def NulFree (node : RmwNodeEntitiesInfo layout) : Prop :=
  0 ∉ node.nodeNamespace ∧ 0 ∉ node.nodeName

section

variable {cdr : Cdr} {size : ℕ} {node : RmwNodeEntitiesInfo layout}

/-- An octet takes a byte. -/
theorem Exact.adds_octet (h : Exact cdr) (x : UInt8) : Adds 1 (put cdr.octet x : Put size) := by
  refine Adds.put fun offset => ?_
  have hother : x ≠ x + 1 := by simp
  exact List.length_pos_of_ne_nil (h.octet.write_ne_nil trivial trivial hother offset)

theorem Exact.echoes_string (h : Exact cdr) {value : ByteString} (hnul : 0 ∉ value)
    (hsize : size < UInt32.size) :
    Echoes (writeString cdr value : Put size) (readString cdr) value := by
  refine Echoes.put h.string fun offset hfits => ⟨hnul,?_⟩
  have hlength := h.terminator offset value
  omega

theorem Exact.echoes_gid (h : Exact cdr) (gid : RmwGid layout) :
    Echoes (writeGid cdr gid : Put size) (readGid cdr layout) gid := by
  have hoctets : Echoes (Script.each (put cdr.octet) gid.data.toList : Put size)
      (Script.times (get cdr.octet) gid.data.toList.length) gid.data.toList :=
    Echoes.each fun _ _ => Echoes.put h.octet fun _ _ => trivial
  rw [Vector.length_toList] at hoctets
  have hgid := hoctets.map fun octets =>
    (⟨Vector.ofFn fun index => octets.getD index 0⟩ : RmwGid layout)
  have hsame : (⟨Vector.ofFn fun index => gid.data.toList.getD index 0⟩ : RmwGid layout) = gid := by
    refine congrArg RmwGid.mk (Vector.ext fun index _ => ?_)
    simp
  rw [hsame] at hgid
  exact hgid

theorem Exact.adds_gid (h : Exact cdr) (gid : RmwGid layout) :
    Adds 1 (writeGid cdr gid : Put size) := by
  have hadds : Adds gid.data.toList.length
      (Script.each (put cdr.octet) gid.data.toList : Put size) :=
    Adds.each fun octet _ => h.adds_octet octet
  rw [Vector.length_toList] at hadds
  refine hadds.weaken ?_
  have hroom := layout.ddsGuidSize_le
  unfold ddsGuidSize at hroom
  omega

theorem Exact.echoes_gids (h : Exact cdr) (gids : List (RmwGid layout))
    (hsize : size < UInt32.size) :
    Echoes (writeGidSequence cdr gids : Put size) (readGidSequence cdr layout) gids :=
  Echoes.counted h.count hsize (fun gid _ => h.echoes_gid gid) fun gid _ => h.adds_gid gid

theorem Exact.echoes_node (h : Exact cdr) (hnul : NulFree node) (hsize : size < UInt32.size) :
    Echoes (writeNode cdr node : Put size) (readNode cdr layout) node :=
  (h.echoes_string hnul.1 hsize).bind <| (h.echoes_string hnul.2 hsize).bind <|
    (h.echoes_gids node.readerGids hsize).bind <|
      (h.echoes_gids node.writerGids hsize).map _

theorem Exact.adds_node (h : Exact cdr) (hnul : NulFree node) (hsize : size < UInt32.size) :
    Adds 1 (writeNode cdr node : Put size) := by
  have hnamespace : Adds 1 (writeString cdr node.nodeNamespace : Put size) := by
    refine Adds.put fun offset => ?_
    have hlength := h.terminator offset node.nodeNamespace
    omega
  have hname := (h.echoes_string hnul.2 hsize).adds
  have hreaders := (h.echoes_gids node.readerGids hsize).adds
  have hwriters := (h.echoes_gids node.writerGids hsize).adds
  exact hnamespace.bind (hname.bind (hreaders.bind hwriters))

theorem Exact.echoes_payload (h : Exact cdr) {value : RmwParticipantEntitiesInfo layout}
    (hnul : ∀ node ∈ value.nodeEntitiesInfoSeq, NulFree node) (hsize : size < UInt32.size) :
    Echoes (writePayload cdr value : Put size) (readPayload cdr layout) value := by
  have hheader : Echoes (put cdr.encapsulation () : Put size) (get cdr.encapsulation) () :=
    Echoes.put h.encapsulation fun _ _ => trivial
  have hnodes : Echoes (writeNodes cdr value.nodeEntitiesInfoSeq : Put size) (readNodes cdr layout)
      value.nodeEntitiesInfoSeq :=
    Echoes.counted h.count hsize (fun node hnode => h.echoes_node (hnul node hnode) hsize)
      fun node hnode => h.adds_node (hnul node hnode) hsize
  exact hheader.bind ((h.echoes_gid value.gid).bind (hnodes.map _))

/-- What was serialized is deserialized, and nothing of it is left. -/
theorem Exact.deserialize_serialize (h : Exact cdr) {value : RmwParticipantEntitiesInfo layout}
    (hnul : ∀ node ∈ value.nodeEntitiesInfoSeq, NulFree node) (hsize : size < UInt32.size)
    {payload : List UInt8} (hpayload : serialize cdr size value = some payload) :
    deserialize cdr layout payload = some (value,[]) := by
  unfold serialize at hpayload
  split at hpayload
  · rename_i buffer hwrite
    cases hpayload
    obtain ⟨added,hbytes,hread⟩ := h.echoes_payload hnul hsize _ _ hwrite
    have hthis := hread []
    rw [List.append_nil] at hthis
    unfold deserialize
    rw [hbytes]
    change (match readPayload cdr layout ⟨0,added⟩ with
      | (.ok data,cursor) => some (data,cursor.rest)
      | (.error _,_) => none) = _
    have hstart : readPayload cdr layout ⟨0,added⟩ = (.ok value,⟨buffer.bytes.length,[]⟩) := hthis
    rw [hstart]
  · cases hpayload

end

/-! ## What a receiver learns -/

/-- The octets of a GUID. -/
def guidOctets (guid : Guid) : Vector UInt8 16 := (toGid guid).data

/-- The endpoints of a node of one kind, without those of the metadata itself. -/
def endpointsOf (view : GraphView GuidPrefix) (node : LocalNodeRecord) (kind : EndpointKind) :
    List LocalEndpointRecord :=
  view.localEndpoints.records.filter fun endpoint =>
    decide (endpoint.nodeId = node.id ∧ endpoint.topic ≠ graphMetadataTopicName ∧
      endpoint.kind = kind)

/-- What there is to learn about a node. -/
def told (view : GraphView GuidPrefix) (node : LocalNodeRecord) : RemoteNodeRecord where
  nodeNamespace := node.nodeNamespace
  nodeName := node.name
  readerGids := (endpointsOf view node .reader).map fun endpoint => guidOctets endpoint.guid
  writerGids := (endpointsOf view node .writer).map fun endpoint => guidOctets endpoint.guid

section

variable {view : GraphView GuidPrefix} {node : LocalNodeRecord} {guid participantGuid : Guid}

/-- Two ways to name an octet. -/
theorem get_eq {n : ℕ} (octets : Vector UInt8 n) (index : Fin n) :
    octets.get index = octets[index.val] := rfl

/-- A GUID survives the wire identifier. -/
theorem rmwGidToGuid_wireGid (layout : Layout) (gid : Gid) :
    rmwGidToGuid (wireGid layout gid) = gid.data := by
  refine Vector.ext fun index hindex => ?_
  have hsmall : index < ddsGuidSize := hindex
  simp [rmwGidToGuid,wireGid,get_eq,hsmall]

/-- The prefix of a participant survives as well. -/
theorem samplePrefix_snapshot :
    samplePrefix (buildLocalSnapshot layout view participantGuid) = participantGuid.guidPrefix := by
  unfold samplePrefix
  rw [show (buildLocalSnapshot layout view participantGuid).gid =
    wireGid layout (toGid participantGuid) from rfl,rmwGidToGuid_wireGid]
  refine Vector.ext fun index hindex => ?_
  rw [Vector.getElem_ofFn,get_eq]
  exact Vector.getElem_append_left hindex

/-- The loop over the endpoints appends those of the node, by kind. -/
theorem foldl_listEndpoint (endpoints : List LocalEndpointRecord)
    (record : RmwNodeEntitiesInfo layout) :
    remoteRecord (endpoints.foldl (listEndpoint node) record) =
      {remoteRecord record with
        readerGids := (remoteRecord record).readerGids ++
          (endpoints.filter fun endpoint => decide (endpoint.nodeId = node.id ∧
            endpoint.topic ≠ graphMetadataTopicName ∧ endpoint.kind = .reader)).map fun endpoint =>
              guidOctets endpoint.guid
        writerGids := (remoteRecord record).writerGids ++
          (endpoints.filter fun endpoint => decide (endpoint.nodeId = node.id ∧
            endpoint.topic ≠ graphMetadataTopicName ∧ endpoint.kind = .writer)).map fun endpoint =>
              guidOctets endpoint.guid} := by
  induction endpoints generalizing record with
  | nil => simp
  | cons endpoint rest ih =>
    rw [List.foldl_cons,ih]
    unfold listEndpoint
    by_cases hnode : endpoint.nodeId = node.id
    · by_cases htopic : endpoint.topic = graphMetadataTopicName
      · simp [hnode,htopic]
      · cases hkind : endpoint.kind with
        | reader =>
          simp [hnode,htopic,hkind,remoteRecord,rmwGidToGuid_wireGid,guidOctets]
        | writer =>
          simp [hnode,htopic,hkind,remoteRecord,rmwGidToGuid_wireGid,guidOctets]
    · simp [hnode]

/-- A receiver makes of a snapshot what there is to learn. -/
theorem remoteRecord_snapshot :
    (buildLocalSnapshot layout view participantGuid).nodeEntitiesInfoSeq.map remoteRecord =
      view.localNodes.records.map (told view) := by
  change (view.localNodes.records.map _).map remoteRecord = _
  rw [List.map_map]
  refine List.map_congr_left fun node _ => ?_
  change remoteRecord (view.localEndpoints.records.foldl (listEndpoint node) _) = _
  rw [foldl_listEndpoint]
  simp [remoteRecord,told,endpointsOf]

/-- The strings of a snapshot are those of the local nodes. -/
theorem nulFree_snapshot
    (hnul : ∀ node ∈ view.localNodes.records, 0 ∉ node.name ∧ 0 ∉ node.nodeNamespace) :
    ∀ node ∈ (buildLocalSnapshot layout view participantGuid).nodeEntitiesInfoSeq, NulFree node := by
  intro node hnode
  have hrecord : remoteRecord node ∈ view.localNodes.records.map (told view) := by
    rw [← remoteRecord_snapshot]
    exact List.mem_map_of_mem hnode
  obtain ⟨localNode,hlocal,heq⟩ := List.mem_map.mp hrecord
  have hnamespace : localNode.nodeNamespace = node.nodeNamespace :=
    congrArg RemoteNodeRecord.nodeNamespace heq
  have hname : localNode.name = node.nodeName := congrArg RemoteNodeRecord.nodeName heq
  obtain ⟨hfree,hfree'⟩ := hnul localNode hlocal
  exact ⟨hnamespace ▸ hfree',hname ▸ hfree⟩

end

/-- The payload is shorter than a count can tell. -/
theorem metadataPayloadSize_lt : metadataPayloadSize < UInt32.size := by decide

/-- For exact primitives and strings without NUL: what fits the payload is read back as
it was, to the last byte. A receiver makes of a local snapshot the prefix of the
participant and for each local node its namespace, its name and the GUIDs of its
endpoints by kind, without those of the metadata; its own snapshot it ignores. -/
theorem codec_exact (cdr : Cdr) (hexact : Exact cdr) (layout : Layout) :
    (∀ (value : RmwParticipantEntitiesInfo layout) (payload : List UInt8),
      (∀ node ∈ value.nodeEntitiesInfoSeq, NulFree node) →
        serialize cdr metadataPayloadSize value = some payload →
          deserialize cdr layout payload = some (value,[])) ∧
      ∀ (view : GraphView GuidPrefix) (participantGuid : Guid) (payload : List UInt8),
        (∀ node ∈ view.localNodes.records, 0 ∉ node.name ∧ 0 ∉ node.nodeNamespace) →
          serialize cdr metadataPayloadSize (buildLocalSnapshot layout view participantGuid) =
              some payload →
            ∃ sample, deserialize cdr layout payload = some (sample,[]) ∧
              samplePrefix sample = participantGuid.guidPrefix ∧
              sample.nodeEntitiesInfoSeq.map remoteRecord =
                view.localNodes.records.map (told view) ∧
              ∀ localPrefix g, ingestSample localPrefix sample g =
                if participantGuid.guidPrefix = localPrefix then g
                else applyRemoteNodes participantGuid.guidPrefix
                  (view.localNodes.records.map (told view)) g := by
  constructor
  · intro value payload hnul hpayload
    exact hexact.deserialize_serialize hnul metadataPayloadSize_lt hpayload
  · intro view participantGuid payload hnul hpayload
    have hread := hexact.deserialize_serialize (nulFree_snapshot hnul) metadataPayloadSize_lt hpayload
    refine ⟨_,hread,samplePrefix_snapshot,remoteRecord_snapshot,fun localPrefix g => ?_⟩
    unfold ingestSample
    rw [samplePrefix_snapshot,remoteRecord_snapshot]

/-! ## Plain primitives -/

/-- The bytes before a 32-bit count. -/
def padding (offset : ℕ) : ℕ := (4 - offset % 4) % 4

/-- The bytes of a count, the lowest first. -/
def toLittleEndian (n : UInt32) : List UInt8 :=
  [UInt8.ofNat n.toNat,UInt8.ofNat (n.toNat / 0x100),UInt8.ofNat (n.toNat / 0x10000),
    UInt8.ofNat (n.toNat / 0x1000000)]

/-- The count of four bytes. -/
def ofLittleEndian : List UInt8 → Option (UInt32 × List UInt8)
  | b₀ :: b₁ :: b₂ :: b₃ :: rest =>
    some (UInt32.ofNat (b₀.toNat + 0x100 * b₁.toNat + 0x10000 * b₂.toNat + 0x1000000 * b₃.toNat),
      rest)
  | _ => none

/-- A count, aligned to four bytes. -/
def plainCount : Coder UInt32 where
  write := fun offset n => List.replicate (padding offset) 0 ++ toLittleEndian n
  read := fun offset bytes => ofLittleEndian (bytes.drop (padding offset))

/-- A string is its length with the terminator, its characters and the terminator, which a
reader drops if it is there. -/
def plainString : Coder ByteString where
  write := fun offset value =>
    plainCount.write offset (UInt32.ofNat (value.length + 1)) ++ (value ++ [0])
  read := fun offset bytes =>
    match plainCount.read offset bytes with
    | none => none
    | some (n,rest) =>
      if rest.length < n.toNat then none
      else
        let characters := rest.take n.toNat
        some (if characters.getLast? = some 0 then characters.dropLast else characters,
          rest.drop n.toNat)

/-- Plain CDR, little-endian. -/
def plainCdr : Cdr where
  encapsulation :=
    ⟨fun _ _ => [0,1,0,0],fun _ bytes =>
      if bytes.take 4 = [0,1,0,0] then some ((),bytes.drop 4) else none⟩
  octet := ⟨fun _ x => [x],fun _ bytes => bytes.head?.map fun x => (x,bytes.tail)⟩
  count := plainCount
  string := plainString

/-- The bytes of a count tell it. -/
theorem ofLittleEndian_toLittleEndian (n : UInt32) (rest : List UInt8) :
    ofLittleEndian (toLittleEndian n ++ rest) = some (n,rest) := by
  have hbytes : (UInt8.ofNat n.toNat).toNat + 0x100 * (UInt8.ofNat (n.toNat / 0x100)).toNat +
      0x10000 * (UInt8.ofNat (n.toNat / 0x10000)).toNat +
        0x1000000 * (UInt8.ofNat (n.toNat / 0x1000000)).toNat = n.toNat := by
    have hbound := n.toNat_lt
    simp only [UInt8.toNat_ofNat']
    omega
  change some (UInt32.ofNat _,rest) = _
  rw [hbytes,UInt32.ofNat_toNat]

theorem plainCount_inverts : plainCount.Inverts fun _ => True := by
  intro offset n rest _
  change ofLittleEndian (List.drop (padding offset)
    (List.replicate (padding offset) 0 ++ toLittleEndian n ++ rest)) = _
  rw [List.append_assoc,List.drop_left' (List.length_replicate ..)]
  exact ofLittleEndian_toLittleEndian n rest

theorem plainString_inverts :
    plainString.Inverts fun value => 0 ∉ value ∧ value.length + 1 < UInt32.size := by
  intro offset value rest hvalue
  have hcount := plainCount_inverts offset (UInt32.ofNat (value.length + 1)) (value ++ [0] ++ rest)
    trivial
  have hlength : (UInt32.ofNat (value.length + 1)).toNat = (value ++ [0]).length := by
    rw [UInt32.toNat_ofNat_of_lt' hvalue.2,List.length_append]
    rfl
  change (match plainCount.read offset (plainCount.write offset
      (UInt32.ofNat (value.length + 1)) ++ (value ++ [0]) ++ rest) with
    | none => none
    | some (n,rest) =>
      if rest.length < n.toNat then none
      else some (if (rest.take n.toNat).getLast? = some 0 then (rest.take n.toNat).dropLast
        else rest.take n.toNat,rest.drop n.toNat)) = _
  rw [List.append_assoc,hcount]
  simp only [hlength]
  rw [if_neg (by rw [List.length_append]; omega),List.take_left,List.drop_left]
  simp

/-- The plain primitives are exact. -/
theorem plainCdr_exact : Exact plainCdr where
  encapsulation := fun _ _ _ _ => rfl
  octet := fun _ _ _ _ => rfl
  count := plainCount_inverts
  string := plainString_inverts
  terminator := fun offset value => by
    change value.length < (plainCount.write offset _ ++ (value ++ [0])).length
    simp only [List.length_append,List.length_singleton]
    omega

/-- A participant of one node with a reader, and the reader of the metadata. -/
def listener : GraphView GuidPrefix where
  revision := 3
  participants := .empty
  endpoints := .empty
  localNodes := Records.empty.put ⟨1,text "a",text "/",3⟩
  localEndpoints := (Records.empty.put ⟨⟨Vector.replicate 12 1,Vector.replicate 4 4⟩,.reader,
      text "rt/t",text "T",{},1⟩).put ⟨⟨Vector.replicate 12 1,Vector.replicate 4 7⟩,.reader,
        graphMetadataTopicName,text "M",{},1⟩
  remoteNodes := .empty

/-- Its GUID. -/
def listenerGuid : Guid := ⟨Vector.replicate 12 1,Vector.replicate 4 193⟩

/-- What it publishes. -/
def listenerSnapshot : RmwParticipantEntitiesInfo .rolling :=
  buildLocalSnapshot .rolling listener listenerGuid

/-- The bytes of it. -/
def listenerPayload : List UInt8 :=
  (serialize plainCdr metadataPayloadSize listenerSnapshot).getD []

theorem listener_serialized :
    serialize plainCdr metadataPayloadSize listenerSnapshot = some listenerPayload := by
  have hsome : (serialize plainCdr metadataPayloadSize listenerSnapshot).isSome = true := by
    decide +kernel
  obtain ⟨payload,hpayload⟩ := Option.isSome_iff_exists.mp hsome
  rw [listenerPayload,hpayload]
  rfl

/-- It is read back, and a receiver learns one reader of one node. -/
theorem codec_exact_listener :
    listenerPayload.length = 64 ∧
      deserialize plainCdr .rolling listenerPayload = some (listenerSnapshot,[]) ∧
        ∃ sample, deserialize plainCdr .rolling listenerPayload = some (sample,[]) ∧
          sample.nodeEntitiesInfoSeq.map remoteRecord =
            [⟨text "/",text "a",[guidOctets ⟨Vector.replicate 12 1,Vector.replicate 4 4⟩],[]⟩] := by
  have hcodec := codec_exact plainCdr plainCdr_exact .rolling
  have hnul : ∀ node ∈ listener.localNodes.records, 0 ∉ node.name ∧ 0 ∉ node.nodeNamespace := by
    decide
  have hread := hcodec.1 listenerSnapshot listenerPayload (nulFree_snapshot hnul)
    listener_serialized
  obtain ⟨sample,hsample,-,htold,-⟩ :=
    hcodec.2 listener listenerGuid listenerPayload hnul listener_serialized
  refine ⟨by decide +kernel,hread,sample,hsample,?_⟩
  rw [htold]
  decide

end Dmw.GraphMetadata
