import GemSim.Bridge.HelloFields

/-!
# The codec of the first record

A HELLO that the decoder admits comes back from its encoding as it was. The record of a HELLO that
was accepted is the encoding of what the decoder returns, but for the place of the topology: the
encoder stores the field of the topology before the others.

## Main definitions

* `AdmittedHello` — the HELLOs that come back
* `HelloCodec` — the laws of the codec

## Main results

* `helloCodec` — the laws hold
-/

namespace GemSim.Bridge

open GemSim.Lib
open GemSim.Kmt (Status)

section FixedParts

variable {hello : Hello} {payload rest : List UInt8}

/-- The fixed part of a HELLO as the encoder stores it. -/
def storeHelloFixed (hello : Hello) : List UInt8 :=
  let payload := List.replicate HelloFixedBytes 0
  let payload := store16 payload 0 hello.minimumMajor
  let payload := store16 payload 2 hello.minimumMinor
  let payload := store16 payload 4 hello.maximumMajor
  let payload := store16 payload 6 hello.maximumMinor
  let payload := storeAt payload 8 hello.clientNonce.toList
  let payload := storeAt payload 24 hello.offered.toList
  let payload := storeAt payload 56 hello.required.toList
  let payload := store32 payload 88 hello.receiveMaximum
  store16 payload 92 RuntimeRole

/-- The fixed part of a HELLO in the fields of a payload. -/
structure HoldsFixed (hello : Hello) (payload : List UInt8) : Prop where
  long : HelloFixedBytes ≤ payload.length
  minimumMajor : bytesAt payload 0 2 = bigEndian 2 hello.minimumMajor.toNat
  minimumMinor : bytesAt payload 2 2 = bigEndian 2 hello.minimumMinor.toNat
  maximumMajor : bytesAt payload 4 2 = bigEndian 2 hello.maximumMajor.toNat
  maximumMinor : bytesAt payload 6 2 = bigEndian 2 hello.maximumMinor.toNat
  clientNonce : bytesAt payload 8 16 = hello.clientNonce.toList
  offered : bytesAt payload 24 32 = hello.offered.toList
  required : bytesAt payload 56 32 = hello.required.toList
  receiveMaximum : bytesAt payload 88 4 = bigEndian 4 hello.receiveMaximum.toNat
  role : bytesAt payload 92 2 = bigEndian 2 RuntimeRole.toNat
  reserved : bytesAt payload 94 2 = List.replicate 2 0

theorem length_storeHelloFixed (hello : Hello) :
    (storeHelloFixed hello).length = HelloFixedBytes := by
  simp only [storeHelloFixed, length_storeAt, length_store16, length_store32,
    List.length_replicate]

theorem holdsFixed_storeHelloFixed (hello : Hello) (rest : List UInt8) :
    HoldsFixed hello (storeHelloFixed hello ++ rest) := by
  have length := length_storeHelloFixed hello
  rw [HelloFixedBytes] at length
  have offered : hello.offered.toList.length = 32 := Vector.length_toList
  have required : hello.required.toList.length = 32 := Vector.length_toList
  refine ⟨?_, ?_, ?_, ?_, ?_, ?_, ?_, ?_, ?_, ?_, ?_⟩
  case refine_1 =>
    rw [List.length_append, length, HelloFixedBytes]
    exact Nat.le_add_right _ _
  all_goals
    rw [bytesAt_append_left (by omega)]
    simp (disch := first | assumption | omega | simp only [length_storeAt, offered, required,
      List.length_replicate, length_bigEndian, Vector.length_toList, HelloFixedBytes, or_true,
      true_or, Nat.reduceAdd, Nat.reduceLeDiff, zero_add]) only
      [storeHelloFixed, store16, store32, bytesAt_storeAt_of_apart, bytesAt_storeAt_self]
  exact bytesAt_replicate HelloFixedBytes 0 (by decide)

/-- A HELLO without what its fields of variable length say. -/
def Hello.bare (hello : Hello) : Hello :=
  { hello with
    topology := {}
    hasTopology := false
    optionalTlvs := []
    unknownCriticalTlv := false }

/-- The fixed part that was stored is read. -/
theorem HoldsFixed.load (holds : HoldsFixed hello payload) :
    { loadHello payload with hasTopology := false } = hello.bare := by
  have long := holds.long
  rw [HelloFixedBytes] at long
  have nonce := @loadBytes_of_bytesAt _ 8 16 hello.clientNonce (by omega) holds.clientNonce
  have offered := @loadBytes_of_bytesAt _ 24 32 hello.offered (by omega) holds.offered
  have required := @loadBytes_of_bytesAt _ 56 32 hello.required (by omega) holds.required
  rw [loadHello, load16_of_bytesAt holds.minimumMajor, load16_of_bytesAt holds.minimumMinor,
    load16_of_bytesAt holds.maximumMajor, load16_of_bytesAt holds.maximumMinor,
    load32_of_bytesAt holds.receiveMaximum]
  calc
    _ = { hello.bare with
          offered := loadBytes CapabilityBytes payload 24
          required := loadBytes CapabilityBytes payload 56 } :=
      congrArg (fun nonce => { hello.bare with
        clientNonce := nonce
        offered := loadBytes CapabilityBytes payload 24
        required := loadBytes CapabilityBytes payload 56 }) nonce
    _ = { hello.bare with required := loadBytes CapabilityBytes payload 56 } :=
      congrArg (fun offered => { hello.bare with
        offered := offered
        required := loadBytes CapabilityBytes payload 56 }) offered
    _ = hello.bare := congrArg (fun required => { hello.bare with required := required }) required

/-- A payload holds the fixed part that is read from it. -/
theorem holdsFixed_load (long : HelloFixedBytes ≤ payload.length)
    (role : load16 payload 92 = RuntimeRole) (reserved : load16 payload 94 = 0) :
    HoldsFixed (loadHello payload) payload := by
  have long' := long
  rw [HelloFixedBytes] at long'
  refine ⟨long, ?_, ?_, ?_, ?_, ?_, ?_, ?_, ?_, ?_, ?_⟩
  case refine_5 => exact (@toList_loadBytes payload 8 16 (by omega)).symm
  case refine_6 => exact (@toList_loadBytes payload 24 32 (by omega)).symm
  case refine_7 => exact (@toList_loadBytes payload 56 32 (by omega)).symm
  case refine_8 => exact bytesAt_of_load32 (by omega)
  case refine_9 => rw [bytesAt_of_load16 (by omega), role]
  case refine_10 =>
    rw [bytesAt_of_load16 (by omega), reserved]
    rfl
  all_goals exact bytesAt_of_load16 (by omega)

/-- Payloads that hold the same fixed part start with the same bytes. -/
theorem HoldsFixed.unique {other : List UInt8} (holds : HoldsFixed hello payload)
    (others : HoldsFixed hello other) :
    bytesAt payload 0 HelloFixedBytes = bytesAt other 0 HelloFixedBytes := by
  have versions := bytesAt_eq_append (bytesAt_eq_append (bytesAt_eq_append
    (holds.minimumMajor.trans others.minimumMajor.symm)
    (holds.minimumMinor.trans others.minimumMinor.symm))
    (holds.maximumMajor.trans others.maximumMajor.symm))
    (holds.maximumMinor.trans others.maximumMinor.symm)
  have capabilities := bytesAt_eq_append (bytesAt_eq_append (bytesAt_eq_append versions
    (holds.clientNonce.trans others.clientNonce.symm))
    (holds.offered.trans others.offered.symm)) (holds.required.trans others.required.symm)
  exact bytesAt_eq_append (bytesAt_eq_append (bytesAt_eq_append capabilities
    (holds.receiveMaximum.trans others.receiveMaximum.symm))
    (holds.role.trans others.role.symm)) (holds.reserved.trans others.reserved.symm)

end FixedParts

section Encodings

variable {hello : Hello} {payload : List UInt8} {header : Header}

/-- The encoder puts the bytes of a field behind what it has. -/
theorem appendTlv_eq (payload : List UInt8) (tlv : Tlv) :
    appendTlv payload tlv.type tlv.flags tlv.value = payload ++ tlv.bytes := by
  have extent : roundUp (8 + tlv.value.length) 8 = tlv.extent := by
    unfold Tlv.extent roundUp
    omega
  have long : tlv.value.length ≤ roundUp tlv.value.length 8 := le_roundUp (by decide)
  have more : tlv.extent = 8 + roundUp tlv.value.length 8 := rfl
  have length : (appendTlv payload tlv.type tlv.flags tlv.value).length =
      payload.length + tlv.extent := by
    simp only [appendTlv, length_storeAt, length_store16, length_store32, List.length_append,
      List.length_replicate, extent]
  -- each store in turn, from the last one to the first
  let zeros := payload ++ List.replicate (roundUp (8 + tlv.value.length) 8) 0
  let typed := store16 zeros payload.length tlv.type
  let flagged := store16 typed (payload.length + 2) tlv.flags
  let sized := store32 flagged (payload.length + 4) (UInt32.ofNat tlv.value.length)
  have stored : appendTlv payload tlv.type tlv.flags tlv.value =
      storeAt sized (payload.length + 8) tlv.value := rfl
  have whole : zeros.length = payload.length + tlv.extent := by
    rw [List.length_append, List.length_replicate, extent]
  have apart {place count : ℕ} (before : place + count ≤ payload.length ∨
      payload.length + 8 ≤ place) : bytesAt sized place count = bytesAt zeros place count := by
    simp only [sized, flagged, typed, store16, store32]
    rw [bytesAt_storeAt_of_apart (by rw [length_bigEndian]; omega),
      bytesAt_storeAt_of_apart (by rw [length_bigEndian]; omega),
      bytesAt_storeAt_of_apart (by rw [length_bigEndian]; omega)]
  have behind {place count : ℕ} (before : place + count ≤ payload.length + 8) :
      bytesAt (storeAt sized (payload.length + 8) tlv.value) place count =
        bytesAt sized place count :=
    bytesAt_storeAt_of_apart (Or.inl before)
  have front : bytesAt (storeAt sized (payload.length + 8) tlv.value) 0 payload.length =
      payload := by
    rw [behind (by omega), apart (by omega), bytesAt_append_left (by omega), bytesAt_zero_length]
  have stands : TlvAt (storeAt sized (payload.length + 8) tlv.value) payload.length tlv := by
    refine ⟨?_, ?_, ?_, ?_, ?_, ?_⟩
    · rw [← stored, length]
    · rw [behind (by omega)]
      simp only [sized, flagged, store16, store32]
      rw [bytesAt_storeAt_of_apart (by omega), bytesAt_storeAt_of_apart (by omega)]
      exact bytesAt_storeAt_self (length_bigEndian _ _) (by omega)
    · rw [behind (by omega)]
      simp only [sized, flagged, store16, store32]
      rw [bytesAt_storeAt_of_apart (by omega)]
      refine bytesAt_storeAt_self (length_bigEndian _ _) ?_
      simp only [typed, length_store16, whole]
      omega
    · rw [behind (by omega)]
      refine bytesAt_storeAt_self (length_bigEndian _ _) ?_
      simp only [flagged, typed, length_store16, whole]
      omega
    · refine bytesAt_storeAt ?_
      simp only [sized, flagged, typed, length_store16, length_store32, whole]
      omega
    · rw [bytesAt_storeAt_of_apart (Or.inr (by omega)), apart (Or.inr (by omega)), Nat.add_assoc,
        bytesAt_append_right]
      exact bytesAt_replicate _ _ (by omega)
  obtain ⟨rest, split⟩ := tlvAt_iff.mp stands
  have none : rest = [] := by
    have size := congrArg List.length split
    rw [List.length_drop, ← stored, length, List.length_append, length_tlvBytes] at size
    exact List.eq_nil_of_length_eq_zero (by omega)
  rw [none, List.append_nil] at split
  have pieces := drop_eq_bytesAt_append (storeAt sized (payload.length + 8) tlv.value) 0
    payload.length
  rwa [front, Nat.zero_add, split, List.drop_zero] at pieces

/-- The fields of variable length of a HELLO, in the order of the encoder. -/
def Hello.tlvs (hello : Hello) : List Tlv :=
  (if hello.hasTopology then
    [{ type := TopologyTlvType, flags := CriticalTlvFlag, value := hello.topology.encoded }]
  else []) ++ hello.optionalTlvs

theorem foldl_appendTlv (tlvs : List Tlv) (payload : List UInt8) :
    tlvs.foldl (fun payload tlv => appendTlv payload tlv.type tlv.flags tlv.value) payload =
      payload ++ (tlvs.map Tlv.bytes).flatten := by
  induction tlvs generalizing payload with
  | nil => rw [List.map_nil, List.flatten_nil, List.append_nil, List.foldl_nil]
  | cons tlv tlvs ih =>
    rw [List.foldl_cons, ih, appendTlv_eq, List.map_cons, List.flatten_cons, List.append_assoc]

/-- An encoding is the fixed part and the fields of variable length. -/
theorem encodeHello_eq (header : Header) (hello : Hello) :
    encodeHello header hello =
      encodeFrame { header with messageType := MessageHello, connectionId := 0 }
        (storeHelloFixed hello ++ (hello.tlvs.map Tlv.bytes).flatten) := by
  unfold encodeHello storeHelloFixed Hello.tlvs
  dsimp only
  generalize store16 _ 92 RuntimeRole = fixed
  rw [foldl_appendTlv, List.map_append, List.flatten_append, ← List.append_assoc]
  cases hello.hasTopology with
  | false =>
    rw [if_neg Bool.false_ne_true, if_neg Bool.false_ne_true, List.map_nil, List.flatten_nil,
      List.append_nil]
  | true =>
    have topology : appendTopology fixed hello.topology =
        appendTlv fixed TopologyTlvType CriticalTlvFlag hello.topology.encoded := rfl
    have appended := appendTlv_eq fixed
      { type := TopologyTlvType, flags := CriticalTlvFlag, value := hello.topology.encoded }
    rw [if_pos rfl, if_pos rfl, topology, List.map_singleton, List.flatten_singleton, ← appended]

end Encodings

section Notes

variable {hello : Hello} {fields : List Field} {field : Field}

/-- The field has a type of its own that the decoder does not know, and may be ignored. -/
def Field.ignorable (field : Field) : Bool :=
  field.type ≠ TopologyTlvType && field.flags &&& CriticalTlvFlag = 0

theorem storeHelloFixed_noteField (hello : Hello) (field : Field) :
    storeHelloFixed (hello.noteField field) = storeHelloFixed hello := by
  unfold Hello.noteField
  split_ifs <;> rfl

theorem storeHelloFixed_foldl (fields : List Field) (hello : Hello) :
    storeHelloFixed (fields.foldl Hello.noteField hello) = storeHelloFixed hello := by
  induction fields generalizing hello with
  | nil => rfl
  | cons field fields ih => rw [List.foldl_cons, ih, storeHelloFixed_noteField]

theorem optionalTlvs_noteField (hello : Hello) (field : Field) :
    (hello.noteField field).optionalTlvs =
      hello.optionalTlvs ++ ([field].filter Field.ignorable).map Field.toTlv := by
  unfold Hello.noteField
  split_ifs with topology critical
  · simp [Field.ignorable, topology]
  · simp [Field.ignorable, critical]
  · simp [Field.ignorable, topology, not_not.mp critical]

theorem optionalTlvs_foldl (fields : List Field) (hello : Hello) :
    (fields.foldl Hello.noteField hello).optionalTlvs =
      hello.optionalTlvs ++ (fields.filter Field.ignorable).map Field.toTlv := by
  induction fields generalizing hello with
  | nil => simp
  | cons field fields ih =>
    have split : field :: fields = [field] ++ fields := rfl
    rw [List.foldl_cons, ih, optionalTlvs_noteField, split, List.filter_append, List.map_append,
      List.append_assoc]

/-- A field of an unknown type that may not be ignored is noted for good. -/
theorem unknownCriticalTlv_foldl (fields : List Field) (hello : Hello) :
    (fields.foldl Hello.noteField hello).unknownCriticalTlv = (hello.unknownCriticalTlv ||
      fields.any fun field => !field.ignorable && field.type ≠ TopologyTlvType) := by
  induction fields generalizing hello with
  | nil => simp
  | cons field fields ih =>
    have note : (hello.noteField field).unknownCriticalTlv = (hello.unknownCriticalTlv ||
        (!field.ignorable && field.type ≠ TopologyTlvType)) := by
      unfold Hello.noteField
      split_ifs with topology critical
      · simp [topology]
      · simp [Field.ignorable, topology, critical]
      · simp [Field.ignorable, topology, not_not.mp critical]
    rw [List.foldl_cons, ih, note, List.any_cons, Bool.or_assoc]

def Field.isTopology (field : Field) : Bool := field.type = TopologyTlvType

theorem hasTopology_foldl (fields : List Field) (hello : Hello) :
    (fields.foldl Hello.noteField hello).hasTopology =
      (hello.hasTopology || fields.any Field.isTopology) := by
  induction fields generalizing hello with
  | nil => simp
  | cons field fields ih =>
    have note : (hello.noteField field).hasTopology =
        (hello.hasTopology || field.isTopology) := by
      unfold Hello.noteField
      split_ifs with topology critical
      · simp [Field.isTopology, topology]
      · simp [Field.isTopology, topology]
      · simp [Field.isTopology, topology]
    rw [List.foldl_cons, ih, note, List.any_cons, Bool.or_assoc]

theorem topology_foldl_of_none (fields : List Field) (hello : Hello)
    (none : ∀ field ∈ fields, field.type ≠ TopologyTlvType) :
    (fields.foldl Hello.noteField hello).topology = hello.topology := by
  induction fields generalizing hello with
  | nil => rfl
  | cons field fields ih =>
    have note : (hello.noteField field).topology = hello.topology := by
      rw [Hello.noteField, if_neg (none field (List.mem_cons_self ..))]
      split_ifs <;> rfl
    rw [List.foldl_cons, ih _ fun other among => none other (List.mem_cons_of_mem _ among), note]

/-- The topology is the one of the only field that has one. -/
theorem topology_foldl (hello : Hello)
    (distinct : (fields.map fun field => field.type).Nodup) (member : field ∈ fields)
    (same : field.type = TopologyTlvType) :
    (fields.foldl Hello.noteField hello).topology = loadTopology field.value 0 := by
  induction fields generalizing hello with
  | nil => cases member
  | cons first fields ih =>
    rw [List.map_cons, List.nodup_cons] at distinct
    rw [List.foldl_cons]
    rcases List.mem_cons.mp member with rfl | among
    · have others : ∀ other ∈ fields, other.type ≠ TopologyTlvType := by
        intro other among also
        exact distinct.1 (List.mem_map.mpr ⟨other, among, also.trans same.symm⟩)
      rw [topology_foldl_of_none fields _ others, Hello.noteField, if_pos same]
    · exact ih _ distinct.2 among

/-- The fields in the order of the encoder. -/
def topologyFirst (fields : List Field) : List Field :=
  fields.filter Field.isTopology ++ fields.filter fun field => !field.isTopology

/-- What the encoder makes of a topology that was read. -/
theorem toTlv_of_isTopology (same : field.type = TopologyTlvType) :
    field.toTlv =
      { type := TopologyTlvType
        flags := CriticalTlvFlag
        value := (loadTopology field.value 0).encoded } := by
  obtain ⟨flags, length⟩ := field.wellKnown same
  have value := (holdsTopology_load length).unique (holdsTopology_encoded _)
  rw [← same, ← flags, ← value]

/-- The only fields of a type are one field. -/
theorem filter_isTopology (distinct : (fields.map fun field => field.type).Nodup)
    (member : field ∈ fields) (same : field.type = TopologyTlvType) :
    fields.filter Field.isTopology = [field] := by
  induction fields with
  | nil => cases member
  | cons first fields ih =>
    rw [List.map_cons, List.nodup_cons] at distinct
    rcases List.mem_cons.mp member with rfl | among
    · have here : field.isTopology = true := decide_eq_true same
      rw [List.filter_cons_of_pos here, List.cons.injEq, List.filter_eq_nil_iff]
      refine ⟨rfl, ?_⟩
      intro other among also
      exact distinct.1 (List.mem_map.mpr
        ⟨other, among, (of_decide_eq_true also).trans same.symm⟩)
    · have other : ¬ first.isTopology = true := by
        intro also
        exact distinct.1 (List.mem_map.mpr
          ⟨field, among, same.trans (of_decide_eq_true also).symm⟩)
      rw [List.filter_cons_of_neg other, ih distinct.2 among]

/-- The fields that were read are those of the HELLO, if none of them had to be understood. -/
theorem tlvs_foldl (distinct : (fields.map fun field => field.type).Nodup)
    (known : (fields.foldl Hello.noteField hello.bare).unknownCriticalTlv = false) :
    (fields.foldl Hello.noteField hello.bare).tlvs = (topologyFirst fields).map Field.toTlv := by
  have ignorable : ∀ field ∈ fields, field.ignorable = !field.isTopology := by
    intro field member
    rw [unknownCriticalTlv_foldl, Bool.or_eq_false_iff, List.any_eq_false] at known
    have critical := known.2 field member
    by_cases same : field.type = TopologyTlvType
    · simp [Field.ignorable, Field.isTopology, same]
    · simpa [Field.ignorable, Field.isTopology, same] using critical
  have before : hello.bare.optionalTlvs = [] ∧ hello.bare.hasTopology = false := ⟨rfl, rfl⟩
  rw [Hello.tlvs, optionalTlvs_foldl, hasTopology_foldl, topologyFirst, List.map_append,
    List.filter_congr ignorable, before.1, before.2, List.nil_append, Bool.false_or]
  by_cases some : ∃ field ∈ fields, field.type = TopologyTlvType
  · obtain ⟨field, member, same⟩ := some
    have any : fields.any Field.isTopology = true :=
      List.any_eq_true.mpr ⟨field, member, decide_eq_true same⟩
    rw [any, if_pos rfl, filter_isTopology distinct member same,
      topology_foldl _ distinct member same, List.map_singleton]
    exact congrArg (fun tlv => [tlv] ++ _) (toTlv_of_isTopology same).symm
  · push Not at some
    have none : fields.any Field.isTopology = false := by
      rw [List.any_eq_false]
      intro field member also
      exact some field member (of_decide_eq_true also)
    have empty : fields.filter Field.isTopology = [] := by
      rw [List.filter_eq_nil_iff]
      intro field member also
      exact some field member (of_decide_eq_true also)
    rw [none, empty, if_neg Bool.false_ne_true, List.map_nil]

end Notes

section Decoder

variable {record : List UInt8} {configuredMaximum : UInt32} {hello : Hello}

/-- What the decoder checks of the frame of a HELLO. -/
structure HelloFrame (record : List UInt8) (configuredMaximum : UInt32) : Prop
    extends WellFramed record where
  most : record.length ≤ MaximumRecordBytes.toNat
  handshake : record.length ≤ MaximumHandshakeBytes.toNat
  configured : record.length ≤ configuredMaximum.toNat
  kind : (loadHeader record).messageType = MessageHello
  request : (loadHeader record).requestId ≠ 0
  connection : (loadHeader record).connectionId = 0
  fixed : HelloFixedBytes ≤ (record.drop HeaderBytes).length

/-- What the decoder checks of the fixed part. -/
structure ValidFixed (hello : Hello) : Prop where
  nonce : isZero hello.clientNonce = false
  least : MinimumRecordBytes ≤ hello.receiveMaximum
  most : hello.receiveMaximum ≤ MaximumRecordBytes
  versions : versionOrdered hello = true
  capabilities : capabilitySubset hello.required hello.offered = true

/-- The record holds the fixed part of a HELLO that is acceptable. -/
structure ValidPayload (payload : List UInt8) : Prop where
  valid : ValidFixed (loadHello payload)
  role : load16 payload 92 = RuntimeRole
  reserved : load16 payload 94 = 0

theorem HoldsFixed.validPayload {payload : List UInt8} (holds : HoldsFixed hello payload)
    (valid : ValidFixed hello) : ValidPayload payload := by
  have bare : ValidFixed hello.bare :=
    ⟨valid.nonce, valid.least, valid.most, valid.versions, valid.capabilities⟩
  rw [← holds.load] at bare
  exact ⟨⟨bare.nonce, bare.least, bare.most, bare.versions, bare.capabilities⟩,
    load16_of_bytesAt holds.role, load16_of_bytesAt holds.reserved⟩

/-- The decoder behind the checks of the frame and of the fixed part. -/
theorem decodeHelloRecord_of_frame (framed : HelloFrame record configuredMaximum)
    (valid : ValidPayload (record.drop HeaderBytes)) {found : Hello}
    (row : parseTlvs ((record.drop HeaderBytes).drop HelloFixedBytes)
      (loadHello (record.drop HeaderBytes)) = (found, none))
    (offered : found.hasTopology = (found.offered[0] &&& 1 != 0)) :
    decodeHelloRecord record configuredMaximum =
      acknowledge .ok "valid HELLO" (loadHeader record) found := by
  have long := framed.long
  have sizes := And.intro framed.most (And.intro framed.handshake framed.configured)
  have kind : load16 record 14 = MessageHello := framed.kind
  obtain ⟨⟨nonce, least, most, versions, capabilities⟩, role, reserved⟩ := valid
  unfold decodeHelloRecord
  dsimp only
  rw [if_neg (by omega), if_neg (by simp [framed.magic, framed.major, framed.minor]),
    if_neg (by simp [framed.headerBytes, framed.payloadBytes]),
    if_neg (by simp [kind, framed.flags]),
    if_neg (by simp [framed.request, framed.reserved32, framed.reserved64]),
    if_neg (by simp [framed.checksum]), if_neg (not_not.mpr framed.kind),
    if_neg (not_not.mpr framed.connection), if_neg (not_lt.mpr framed.fixed),
    if_neg (by rw [nonce]; exact Bool.false_ne_true),
    if_neg (by simp [role, reserved, least, most, versions, capabilities]),
    row]
  dsimp only
  rw [if_neg (not_not.mpr offered)]

theorem status_ite {condition : Prop} [Decidable condition] {refusal next : DecodeResult}
    (bad : refusal.status ≠ .ok) :
    (if condition then refusal else next).status = .ok ↔ ¬ condition ∧ next.status = .ok := by
  split
  · exact ⟨fun ok => absurd ok bad, fun both => absurd ‹condition› both.1⟩
  · exact ⟨fun ok => ⟨‹¬ condition›, ok⟩, fun both => both.2⟩

/-- What is accepted has passed all checks. -/
theorem decodeHelloRecord_ok
    (accepted : (decodeHelloRecord record configuredMaximum).status = .ok) :
    HelloFrame record configuredMaximum ∧ ValidPayload (record.drop HeaderBytes) ∧
      ∃ found, parseTlvs ((record.drop HeaderBytes).drop HelloFixedBytes)
          (loadHello (record.drop HeaderBytes)) = (found, none) ∧
        found.hasTopology = (found.offered[0] &&& 1 != 0) := by
  have malformed : Status.malformed ≠ .ok := by decide
  have dropped (reason : String) : (drop reason).status ≠ .ok := malformed
  have refused (reason : String) (header : Header) (hello : Hello) :
      (acknowledge .malformed reason header hello).status ≠ .ok := malformed
  unfold decodeHelloRecord at accepted
  dsimp only at accepted
  iterate 10 rw [status_ite (dropped _)] at accepted
  rw [status_ite (refused _ _ _)] at accepted
  obtain ⟨size, framing, envelope, type, identity, checksum, kind, connection, fixed, nonce, valid,
    row⟩ := accepted
  simp only [not_or, not_lt, not_not, ne_eq] at size framing envelope identity valid
  rw [Bool.not_eq_true', Bool.not_eq_false] at checksum
  obtain ⟨long, most, handshake, configured⟩ := size
  obtain ⟨magic, major, minor⟩ := framing
  obtain ⟨headerBytes, payloadBytes⟩ := envelope
  obtain ⟨request, reserved32, reserved64⟩ := identity
  obtain ⟨role, reserved, least, greatest, versions, capabilities⟩ := valid
  have flags : load32 record 16 = 0 := by
    rw [not_or, not_not] at type
    exact type.2
  refine ⟨⟨⟨long, magic, major, minor, headerBytes, payloadBytes, flags, reserved32, reserved64,
    checksum⟩, most, handshake, configured, not_not.mp kind, request, not_not.mp connection,
    not_lt.mp fixed⟩, ⟨⟨Bool.eq_false_of_not_eq_true nonce, UInt32.not_lt.mp least,
    UInt32.not_lt.mp greatest,
    by simpa using versions, by simpa using capabilities⟩, role, reserved⟩, ?_⟩
  cases parsed : parseTlvs ((record.drop HeaderBytes).drop HelloFixedBytes)
      (loadHello (record.drop HeaderBytes)) with
  | mk found failure =>
    rw [parsed] at row
    cases failure with
    | some reason => exact absurd row (refused _ _ _)
    | none =>
      dsimp only at row
      rw [status_ite (refused _ _ _)] at row
      exact ⟨found, rfl, not_not.mp row.1⟩

end Decoder

section Laws

/-- The HELLOs that the decoder admits, with nothing in them that a record does not carry. -/
structure AdmittedHello (hello : Hello) : Prop extends ValidFixed hello where
  offered : hello.hasTopology = (hello.offered[0] &&& 1 != 0)
  absent : hello.hasTopology = false → hello.topology = {}
  known : hello.unknownCriticalTlv = false
  optional : ∀ tlv ∈ hello.optionalTlvs, tlv.type ≠ TopologyTlvType ∧ tlv.flags = 0
  distinct : (hello.optionalTlvs.map fun tlv => tlv.type).Nodup

structure HelloCodec : Prop where
  /-- The rows that are accepted, and what is taken from them. -/
  rows : ∀ (data : List UInt8) (hello found : Hello), data.length ≤ u64Max.toNat - 7 →
    (parseTlvs data hello = (found, none) ↔ ∃ fields, Tiling Field.bytes data fields ∧
      (fields.map fun field => field.type).Nodup ∧
        fields.foldl Hello.noteField { hello with hasTopology := false } = found)
  returns : ∀ (header : Header) (hello : Hello) (configuredMaximum : UInt32),
    header.requestId ≠ 0 → AdmittedHello hello →
      (encodeHello header hello).length ≤ MaximumHandshakeBytes.toNat →
        (encodeHello header hello).length ≤ configuredMaximum.toNat →
          decodeHelloRecord (encodeHello header hello) configuredMaximum =
            acknowledge .ok "valid HELLO"
              { header with messageType := MessageHello, connectionId := 0 } hello
  /-- The encoder only moves the topology, and nothing at all if it stands first. -/
  encodes : ∀ (record : List UInt8) (configuredMaximum : UInt32) (result : DecodeResult),
    decodeHelloRecord record configuredMaximum = result → result.status = .ok →
      result.hello.unknownCriticalTlv = false → ∃ fields,
        Tiling Field.bytes ((record.drop HeaderBytes).drop HelloFixedBytes) fields ∧
          encodeHello result.header result.hello =
            encodeFrame (loadHeader record) (bytesAt (record.drop HeaderBytes) 0 HelloFixedBytes ++
              ((topologyFirst fields).map Field.bytes).flatten) ∧
          (topologyFirst fields = fields → encodeHello result.header result.hello = record)

end Laws

section Proofs

variable {record rows : List UInt8} {configuredMaximum : UInt32} {header : Header}
  {hello found : Hello} {fields : List Field}

theorem parseTlvs_iff (addressable : rows.length ≤ u64Max.toNat - 7) :
    parseTlvs rows hello = (found, none) ↔ ∃ fields, Tiling Field.bytes rows fields ∧
      (fields.map fun field => field.type).Nodup ∧
        fields.foldl Hello.noteField { hello with hasTopology := false } = found := by
  rw [parseTlvs, walkTlvs_iff (Nat.dvd_zero 8) addressable, List.drop_zero]
  simp only [List.not_mem_nil, not_false_eq_true, implies_true, true_and]

/-- Fields that may be ignored are kept one after the other. -/
theorem foldl_ignorable (fields : List Field) (hello : Hello)
    (ignorable : ∀ field ∈ fields, field.ignorable = true) :
    fields.foldl Hello.noteField hello =
      { hello with optionalTlvs := hello.optionalTlvs ++ fields.map Field.toTlv } := by
  induction fields generalizing hello with
  | nil => simp
  | cons field fields ih =>
    have here := ignorable field (List.mem_cons_self ..)
    simp only [Field.ignorable, ne_eq, decide_not, Bool.and_eq_true, Bool.not_eq_eq_eq_not,
      Bool.not_true, decide_eq_false_iff_not, decide_eq_true_eq] at here
    have note : hello.noteField field =
        { hello with optionalTlvs := hello.optionalTlvs ++ [field.toTlv] } := by
      rw [Hello.noteField, if_neg here.1, if_neg (not_not.mpr here.2)]
    rw [List.foldl_cons, ih _ fun other among => ignorable other (List.mem_cons_of_mem _ among),
      note, List.map_cons]
    simp only [List.append_assoc, List.singleton_append]

theorem Hello.rebuilt {topology : Topology} {hasTopology unknownCriticalTlv : Bool}
    {optionalTlvs : List Tlv} (sameTopology : topology = hello.topology)
    (sameFlag : hasTopology = hello.hasTopology) (sameTlvs : optionalTlvs = hello.optionalTlvs)
    (sameCritical : unknownCriticalTlv = hello.unknownCriticalTlv) :
    { hello with
      topology := topology
      hasTopology := hasTopology
      optionalTlvs := optionalTlvs
      unknownCriticalTlv := unknownCriticalTlv } = hello := by
  rw [sameTopology, sameFlag, sameTlvs, sameCritical]

/-- The fields of a HELLO that is admitted say what it says. -/
theorem foldl_tlvs (admitted : AdmittedHello hello) (same : fields.map Field.toTlv = hello.tlvs) :
    fields.foldl Hello.noteField hello.bare = hello := by
  obtain ⟨first, others, rfl, topology, optional⟩ := List.map_eq_append_iff.mp same
  have ignorable : ∀ field ∈ others, field.ignorable = true := by
    intro field member
    have known := admitted.optional field.toTlv
      (optional ▸ List.mem_map_of_mem member)
    simp [Field.ignorable, known.1, known.2]
  rw [List.foldl_append, foldl_ignorable others _ ignorable, optional]
  cases has : hello.hasTopology with
  | false =>
    rw [has, if_neg Bool.false_ne_true, List.map_eq_nil_iff] at topology
    rw [topology]
    exact @Hello.rebuilt hello _ _ _ _ (admitted.absent has).symm has.symm rfl admitted.known.symm
  | true =>
    rw [has, if_pos rfl, List.map_eq_singleton_iff] at topology
    obtain ⟨field, rfl, shape⟩ := topology
    have type : field.type = TopologyTlvType := by rw [shape]
    have value : field.value = hello.topology.encoded := by rw [shape]
    rw [List.foldl_cons, List.foldl_nil, Hello.noteField, if_pos type, value,
      (holdsTopology_encoded hello.topology).load]
    exact @Hello.rebuilt hello _ _ _ _ rfl has.symm rfl admitted.known.symm

/-- The fields of a HELLO that is admitted are ones that the decoder takes. -/
theorem exists_fields (admitted : AdmittedHello hello)
    (small : ∀ tlv ∈ hello.optionalTlvs, tlv.value.length < UInt32.size) :
    ∃ fields : List Field, fields.map Field.toTlv = hello.tlvs := by
  have each : ∀ tlv ∈ hello.tlvs, tlv ∈ Set.range Field.toTlv := by
    intro tlv member
    rcases List.mem_append.mp member with topology | optional
    · split at topology
      · rw [List.mem_singleton] at topology
        have length : tlv.value.length = TopologyValueBytes := by
          rw [topology, (holdsTopology_encoded hello.topology).length]
        have flags : tlv.flags = CriticalTlvFlag := by rw [topology]
        have bare : CriticalTlvFlag &&& ~~~CriticalTlvFlag = 0 := by decide
        have few : TopologyValueBytes < UInt32.size := by decide
        exact ⟨⟨tlv, by rw [flags, bare], by rw [length]; exact few, fun _ => ⟨flags, length⟩⟩, rfl⟩
      · cases topology
    · have known := admitted.optional tlv optional
      have bare : (0 : UInt16) &&& ~~~CriticalTlvFlag = 0 := by decide
      exact ⟨⟨tlv, by rw [known.2, bare], small tlv optional, fun same => absurd same known.1⟩, rfl⟩
  have range : hello.tlvs ∈ Set.range (List.map Field.toTlv) := by
    rw [Set.range_list_map]
    exact each
  exact range

theorem flatten_map_bytes (fields : List Field) :
    (fields.map Field.bytes).flatten = ((fields.map Field.toTlv).map Tlv.bytes).flatten := by
  rw [List.map_map]
  rfl

theorem length_le_flatten {tlvs : List Tlv} {tlv : Tlv} (member : tlv ∈ tlvs) :
    tlv.value.length ≤ (tlvs.map Tlv.bytes).flatten.length := by
  have here : List.Sublist tlv.bytes (tlvs.map Tlv.bytes).flatten :=
    List.sublist_flatten_of_mem (List.mem_map_of_mem member)
  have long : tlv.value.length ≤ roundUp tlv.value.length 8 := le_roundUp (by decide)
  have length := here.length_le
  rw [length_tlvBytes, Tlv.extent] at length
  omega

theorem AdmittedHello.nodup_tlvs (admitted : AdmittedHello hello) :
    (hello.tlvs.map fun tlv => tlv.type).Nodup := by
  rw [Hello.tlvs]
  split
  · rw [List.map_append, List.map_singleton, List.singleton_append, List.nodup_cons]
    refine ⟨?_, admitted.distinct⟩
    intro member
    obtain ⟨tlv, among, same⟩ := List.mem_map.mp member
    exact (admitted.optional tlv among).1 same
  · exact admitted.distinct

/-- What a HELLO that is admitted is encoded to is decoded to it. -/
theorem decode_encodeHello (request : header.requestId ≠ 0) (admitted : AdmittedHello hello)
    (handshake : (encodeHello header hello).length ≤ MaximumHandshakeBytes.toNat)
    (configured : (encodeHello header hello).length ≤ configuredMaximum.toNat) :
    decodeHelloRecord (encodeHello header hello) configuredMaximum =
      acknowledge .ok "valid HELLO" { header with messageType := MessageHello, connectionId := 0 }
        hello := by
  have encoding := encodeHello_eq header hello
  have limits : MaximumHandshakeBytes.toNat ≤ MaximumRecordBytes.toNat ∧
      MaximumHandshakeBytes.toNat < UInt32.size ∧
      MaximumHandshakeBytes.toNat ≤ u64Max.toNat - 7 := by decide
  have total := congrArg List.length encoding
  rw [length_encodeFrame, List.length_append, length_storeHelloFixed] at total
  have small : (storeHelloFixed hello ++ (hello.tlvs.map Tlv.bytes).flatten).length <
      UInt32.size := by
    rw [List.length_append, length_storeHelloFixed]
    omega
  have holds := holdsFixed_storeHelloFixed hello (hello.tlvs.map Tlv.bytes).flatten
  obtain ⟨fields, same⟩ := exists_fields admitted fun tlv member => by
    have part := length_le_flatten (List.mem_append_right
      (if hello.hasTopology then
        [{ type := TopologyTlvType, flags := CriticalTlvFlag, value := hello.topology.encoded }]
      else []) member)
    change tlv.value.length ≤ (hello.tlvs.map Tlv.bytes).flatten.length at part
    omega
  have framed : HelloFrame (encodeHello header hello) configuredMaximum := by
    rw [encoding] at handshake configured ⊢
    have loaded := @loadHeader_encodeFrame
      { header with messageType := MessageHello, connectionId := 0 }
      (storeHelloFixed hello ++ (hello.tlvs.map Tlv.bytes).flatten)
    refine ⟨wellFramed_encodeFrame small, by omega, handshake, configured, ?_, ?_, ?_, ?_⟩
    · rw [loaded]
    · rw [loaded]
      exact request
    · rw [loaded]
    · rw [drop_encodeFrame]
      exact holds.long
  have payload : (encodeHello header hello).drop HeaderBytes =
      storeHelloFixed hello ++ (hello.tlvs.map Tlv.bytes).flatten := by
    rw [encoding, drop_encodeFrame]
  have behind : ((encodeHello header hello).drop HeaderBytes).drop HelloFixedBytes =
      (hello.tlvs.map Tlv.bytes).flatten := by
    rw [payload, ← length_storeHelloFixed hello, List.drop_left]
  rw [← payload] at holds
  have row : parseTlvs (((encodeHello header hello).drop HeaderBytes).drop HelloFixedBytes)
      (loadHello ((encodeHello header hello).drop HeaderBytes)) = (hello, none) := by
    rw [behind, parseTlvs_iff (by omega), holds.load]
    refine ⟨fields, ?_, ?_, foldl_tlvs admitted same⟩
    · rw [Tiling, flatten_map_bytes, same]
    · have types : (fields.map fun field => field.type) = hello.tlvs.map fun tlv => tlv.type := by
        rw [← same, List.map_map]
        rfl
      rw [types]
      exact admitted.nodup_tlvs
  have header' : loadHeader (encodeHello header hello) =
      { header with messageType := MessageHello, connectionId := 0 } := by
    rw [encoding, loadHeader_encodeFrame]
  rw [decodeHelloRecord_of_frame framed (holds.validPayload admitted.toValidFixed) row
    admitted.offered, header']

/-- A HELLO that was read is encoded with its topology in front. -/
theorem encodeHello_of_row (framed : HelloFrame record configuredMaximum)
    (valid : ValidPayload (record.drop HeaderBytes))
    (row : parseTlvs ((record.drop HeaderBytes).drop HelloFixedBytes)
      (loadHello (record.drop HeaderBytes)) = (found, none))
    (known : found.unknownCriticalTlv = false) :
    ∃ fields, Tiling Field.bytes ((record.drop HeaderBytes).drop HelloFixedBytes) fields ∧
      encodeHello (loadHeader record) found =
        encodeFrame (loadHeader record) (bytesAt (record.drop HeaderBytes) 0 HelloFixedBytes ++
          ((topologyFirst fields).map Field.bytes).flatten) ∧
      (topologyFirst fields = fields → encodeHello (loadHeader record) found = record) := by
  have limit : MaximumRecordBytes.toNat ≤ u64Max.toNat - 7 := by decide
  have most := framed.most
  have short : ((record.drop HeaderBytes).drop HelloFixedBytes).length ≤ u64Max.toNat - 7 := by
    rw [List.length_drop, List.length_drop]
    omega
  obtain ⟨fields, tiling, distinct, rfl⟩ := (parseTlvs_iff short).mp row
  have start : { loadHello (record.drop HeaderBytes) with hasTopology := false } =
      (loadHello (record.drop HeaderBytes)).bare := rfl
  rw [start] at known ⊢
  have holds := holdsFixed_load framed.fixed valid.role valid.reserved
  have fixed : storeHelloFixed (fields.foldl Hello.noteField
      (loadHello (record.drop HeaderBytes)).bare) =
        bytesAt (record.drop HeaderBytes) 0 HelloFixedBytes := by
    have stored := holdsFixed_storeHelloFixed (loadHello (record.drop HeaderBytes)) []
    have length := length_storeHelloFixed (loadHello (record.drop HeaderBytes))
    rw [List.append_nil] at stored
    rw [storeHelloFixed_foldl, ← stored.unique holds, ← length, bytesAt_zero_length]
    rfl
  have header : { loadHeader record with messageType := MessageHello, connectionId := 0 } =
      loadHeader record := by
    rw [← framed.kind, ← framed.connection]
  have encoding : encodeHello (loadHeader record) (fields.foldl Hello.noteField
      (loadHello (record.drop HeaderBytes)).bare) =
        encodeFrame (loadHeader record) (bytesAt (record.drop HeaderBytes) 0 HelloFixedBytes ++
          ((topologyFirst fields).map Field.bytes).flatten) := by
    rw [encodeHello_eq, header, fixed, tlvs_foldl distinct known, flatten_map_bytes]
  refine ⟨fields, tiling, encoding, ?_⟩
  intro first
  rw [Tiling] at tiling
  have payload := drop_eq_bytesAt_append (record.drop HeaderBytes) 0 HelloFixedBytes
  rw [List.drop_zero, Nat.zero_add] at payload
  rw [encoding, first, tiling, ← payload, encodeFrame_loadHeader framed.toWellFramed]

end Proofs

/-- The laws of the codec. -/
theorem helloCodec : HelloCodec where
  rows data hello found addressable := parseTlvs_iff addressable
  returns header hello configuredMaximum request admitted handshake configured :=
    decode_encodeHello request admitted handshake configured
  encodes record configuredMaximum result decoded accepted known := by
    subst decoded
    obtain ⟨framed, valid, found, row, offered⟩ := decodeHelloRecord_ok accepted
    have answer := decodeHelloRecord_of_frame framed valid row offered
    rw [answer] at known ⊢
    exact encodeHello_of_row framed valid row known

end GemSim.Bridge
