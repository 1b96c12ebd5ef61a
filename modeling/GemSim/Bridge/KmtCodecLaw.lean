import GemSim.Bridge.FrameFields
import GemSim.Bridge.KmtRecord

/-!
# The codec of KMT requests

The encoder stores a request as it is, and the decoder accepts it exactly if its fields make
sense together; it then returns what was stored. Conversely the bytes of a record that is
accepted are those of its fields, so that the record is the encoding of what the decoder returns.

## Main definitions

* `ValidRequest` — the rules for the fields of a request
* `HoldsRequest` — a request in the fields of a payload
* `KmtCodec` — the laws of the codec

## Main results

* `decodeKmtRequestRecord_status` — the records that are accepted
* `kmtCodec` — the laws of the codec
-/

namespace GemSim.Bridge

open GemSim.Lib
open GemSim.Kmt (Status KmtCopiedBufferBytes KmtArgumentWordCount Words Buffer)

section Laws

/-- The fields of a request do not contradict each other. -/
structure ConsistentFields (request : KmtRequest) : Prop where
  operation : validKmtOperation request.operation = true
  flags : request.flags = 0
  sequence : request.operationSequence ≠ 0
  owner : request.ownerId = 0 ↔ request.ownerGeneration = 0
  object : request.objectId = 0 ↔ request.objectGeneration = 0
  aux : request.auxId = 0 ↔ request.auxGeneration = 0
  length : request.copiedBytes.toNat ≤ KmtCopiedBufferBytes
  padding : ∀ byte ∈ request.copiedBuffer.toList.drop request.copiedBytes.toNat, byte = 0
  checksum : request.copiedCrc32c = crc32c request.copied

/-- The fields of a request make sense together, and for its operation and version. -/
structure ValidRequest (request : KmtRequest) : Prop extends ConsistentFields request where
  openKfd : request.operation = KmtOperationOpenKfd →
    request.ownerId = 0 ∧ request.objectId = 0 ∧ request.auxId = 0
  version : request.major = KmtOperationMajor ∧ request.minor = KmtOperationMinor

/-- The answer to a request that is accepted. -/
def acceptedKmtRequest (header : Header) (request : KmtRequest) : KmtDecodeResult where
  action := .acknowledge
  closeConnection := false
  status := .ok
  reason := "valid KMT request"
  header := header
  request := request

structure KmtCodec : Prop where
  accepts_iff : ∀ (header : Header) (request : KmtRequest) (configuredMaximum : UInt32),
    Identified header →
      ((decodeKmtRequestRecord (encodeKmtRequest header request) configuredMaximum).status = .ok ↔
        ValidRequest request ∧ HeaderBytes + KmtPayloadBytes ≤ configuredMaximum.toNat)
  returns : ∀ (header : Header) (request : KmtRequest) (configuredMaximum : UInt32),
    Identified header →
      (decodeKmtRequestRecord (encodeKmtRequest header request) configuredMaximum).status = .ok →
        decodeKmtRequestRecord (encodeKmtRequest header request) configuredMaximum =
          acceptedKmtRequest { header with messageType := MessageKmtRequest } request
  /-- No record that is accepted carries anything but its fields. -/
  encodes : ∀ (record : List UInt8) (configuredMaximum : UInt32),
    (decodeKmtRequestRecord record configuredMaximum).status = .ok →
      encodeKmtRequest (decodeKmtRequestRecord record configuredMaximum).header
        (decodeKmtRequestRecord record configuredMaximum).request = record

end Laws

/-- A request in the fields of a payload, and zeros behind them. -/
structure HoldsRequest (request : KmtRequest) (payload : List UInt8) : Prop where
  length : payload.length = KmtPayloadBytes
  major : bytesAt payload 0 2 = bigEndian 2 request.major.toNat
  minor : bytesAt payload 2 2 = bigEndian 2 request.minor.toNat
  operation : bytesAt payload 4 2 = bigEndian 2 request.operation.toNat
  flags : bytesAt payload 6 2 = bigEndian 2 request.flags.toNat
  operationSequence : bytesAt payload 8 8 = bigEndian 8 request.operationSequence.toNat
  ownerId : bytesAt payload 16 8 = bigEndian 8 request.ownerId.toNat
  ownerGeneration : bytesAt payload 24 8 = bigEndian 8 request.ownerGeneration.toNat
  objectId : bytesAt payload 32 8 = bigEndian 8 request.objectId.toNat
  objectGeneration : bytesAt payload 40 8 = bigEndian 8 request.objectGeneration.toNat
  auxId : bytesAt payload 48 8 = bigEndian 8 request.auxId.toNat
  auxGeneration : bytesAt payload 56 8 = bigEndian 8 request.auxGeneration.toNat
  argumentWords : ∀ index < KmtArgumentWordCount, bytesAt payload (64 + index * 4) 4 =
    bigEndian 4 (request.argumentWords[index]?.getD 0).toNat
  copiedBytes : bytesAt payload 96 4 = bigEndian 4 request.copiedBytes.toNat
  copiedCrc32c : bytesAt payload 100 4 = bigEndian 4 request.copiedCrc32c.toNat
  copiedBuffer : bytesAt payload 104 128 = request.copiedBuffer.toList
  reserved : bytesAt payload 232 24 = List.replicate 24 0

section Payloads

variable {request : KmtRequest} {payload other : List UInt8}

/-- What the encoder stores. -/
theorem holdsRequest_storeKmtRequest (request : KmtRequest) :
    HoldsRequest request (storeKmtRequest request) := by
  have words (index : ℕ) :
      (bigEndian 4 (request.argumentWords[index]?.getD 0).toNat).length = 4 :=
    length_bigEndian _ _
  refine ⟨?_, ?_, ?_, ?_, ?_, ?_, ?_, ?_, ?_, ?_, ?_, ?_, ?_, ?_, ?_, ?_, ?_⟩
  case refine_1 =>
    simp only [storeKmtRequest, length_storeAt, length_store16, length_store32, length_store64,
      length_storeFields, List.length_replicate]
  case refine_13 =>
    intro index below
    have place : 64 + index * 4 + 4 ≤ 96 := by
      simp only [KmtArgumentWordCount] at below
      omega
    rw [storeKmtRequest, store32, store32, bytesAt_storeAt_of_apart (by omega),
      bytesAt_storeAt_of_apart (by omega), bytesAt_storeAt_of_apart (by omega)]
    refine @bytesAt_storeFields _ 64 4 KmtArgumentWordCount _ words ?_ index below
    simp only [length_store16, length_store64, List.length_replicate]
    decide
  all_goals
    simp (disch := first | assumption | omega | simp only [length_storeAt, length_storeFields,
      List.length_replicate, length_bigEndian, Vector.length_toList, KmtPayloadBytes,
      KmtArgumentWordCount, KmtCopiedBufferBytes, or_true, true_or, Nat.reduceAdd, Nat.reduceMul,
      Nat.reduceLeDiff]) only
      [storeKmtRequest, store16, store32, store64, bytesAt_storeAt_of_apart,
      bytesAt_storeFields_of_apart, bytesAt_storeAt_self]
  exact bytesAt_replicate _ _ (by decide)

theorem getElem?_getD_words (words : Words) (index : Fin KmtArgumentWordCount) :
    words[index.val]?.getD 0 = words.get index := by
  rw [Vector.getElem?_eq_getElem index.isLt, Option.getD_some]
  rfl

/-- What was stored is read. -/
theorem HoldsRequest.load (holds : HoldsRequest request payload) :
    loadKmtRequest payload = request := by
  have long : 104 + 128 ≤ payload.length := by
    rw [holds.length]
    decide
  have words : (Vector.ofFn fun index : Fin KmtArgumentWordCount =>
      load32 payload (64 + index.val * 4)) = request.argumentWords := by
    apply Vector.ext
    intro index below
    rw [Vector.getElem_ofFn, load32_of_bytesAt (holds.argumentWords index below)]
    exact getElem?_getD_words request.argumentWords ⟨index, below⟩
  have buffer := @loadBytes_of_bytesAt _ 104 128 request.copiedBuffer long holds.copiedBuffer
  rw [loadKmtRequest, load16_of_bytesAt holds.major, load16_of_bytesAt holds.minor,
    load16_of_bytesAt holds.operation, load16_of_bytesAt holds.flags,
    load64_of_bytesAt holds.operationSequence, load64_of_bytesAt holds.ownerId,
    load64_of_bytesAt holds.ownerGeneration, load64_of_bytesAt holds.objectId,
    load64_of_bytesAt holds.objectGeneration, load64_of_bytesAt holds.auxId,
    load64_of_bytesAt holds.auxGeneration, words, load32_of_bytesAt holds.copiedBytes,
    load32_of_bytesAt holds.copiedCrc32c]
  exact congrArg (fun buffer => { request with copiedBuffer := buffer }) buffer

/-- A payload of the right length holds what is read from it. -/
theorem holdsRequest_load (length : payload.length = KmtPayloadBytes)
    (reserved : bytesAt payload 232 24 = List.replicate 24 0) :
    HoldsRequest (loadKmtRequest payload) payload := by
  rw [KmtPayloadBytes] at length
  refine ⟨length, ?_, ?_, ?_, ?_, ?_, ?_, ?_, ?_, ?_, ?_, ?_, ?_, ?_, ?_, ?_, reserved⟩
  case refine_12 =>
    intro index below
    have word : (loadKmtRequest payload).argumentWords[index]?.getD 0 =
        load32 payload (64 + index * 4) := by
      rw [loadKmtRequest, Vector.getElem?_eq_getElem below, Option.getD_some,
        Vector.getElem_ofFn]
    rw [word]
    refine bytesAt_of_load32 ?_
    simp only [KmtArgumentWordCount] at below
    omega
  case refine_15 => exact (@toList_loadBytes payload 104 128 (by omega)).symm
  all_goals
    first
    | exact bytesAt_of_load16 (by omega)
    | exact bytesAt_of_load32 (by omega)
    | exact bytesAt_of_load64 (by omega)

/-- Payloads that hold the same request are the same. -/
theorem HoldsRequest.unique (holds : HoldsRequest request payload)
    (others : HoldsRequest request other) : payload = other := by
  have version := bytesAt_eq_append (bytesAt_eq_append (bytesAt_eq_append
    (holds.major.trans others.major.symm) (holds.minor.trans others.minor.symm))
    (holds.operation.trans others.operation.symm)) (holds.flags.trans others.flags.symm)
  have owner := bytesAt_eq_append (bytesAt_eq_append (bytesAt_eq_append version
    (holds.operationSequence.trans others.operationSequence.symm))
    (holds.ownerId.trans others.ownerId.symm))
    (holds.ownerGeneration.trans others.ownerGeneration.symm)
  have objects := bytesAt_eq_append (bytesAt_eq_append (bytesAt_eq_append (bytesAt_eq_append owner
    (holds.objectId.trans others.objectId.symm))
    (holds.objectGeneration.trans others.objectGeneration.symm))
    (holds.auxId.trans others.auxId.symm)) (holds.auxGeneration.trans others.auxGeneration.symm)
  have words := @bytesAt_eq_of_fields payload 64 4 KmtArgumentWordCount other
    fun index below =>
      (holds.argumentWords index below).trans (others.argumentWords index below).symm
  have copied := bytesAt_eq_append (bytesAt_eq_append (bytesAt_eq_append (bytesAt_eq_append
    (bytesAt_eq_append objects words) (holds.copiedBytes.trans others.copiedBytes.symm))
    (holds.copiedCrc32c.trans others.copiedCrc32c.symm))
    (holds.copiedBuffer.trans others.copiedBuffer.symm))
    (holds.reserved.trans others.reserved.symm)
  exact eq_of_bytesAt holds.length others.length copied

end Payloads

section Decoder

variable {record payload : List UInt8} {configuredMaximum : UInt32} {header : Header}
  {request : KmtRequest}

theorem pairValid_iff (id generation : UInt64) :
    pairValid id generation = true ↔ (id = 0 ↔ generation = 0) := by
  rw [pairValid, beq_iff_eq, Bool.eq_iff_iff, beq_iff_eq, beq_iff_eq]

theorem all_zero_iff {bytes : List UInt8} :
    (bytes.all fun value => value == 0) = true ↔ ∀ byte ∈ bytes, byte = 0 := by
  simp [List.all_eq_true]

theorem all_zero_replicate {bytes : List UInt8} {count : ℕ} (length : bytes.length = count) :
    (bytes.all fun value => value == 0) = true ↔ bytes = List.replicate count 0 := by
  rw [all_zero_iff, List.eq_replicate_iff]
  exact ⟨fun zeros => ⟨length, zeros⟩, fun both => both.2⟩

/-- No bytes have no checksum to carry. -/
theorem crc32c_nil : crc32c [] = 0 := rfl

/-- The decoder's test of the copied bytes, once their length fits. -/
theorem copiedCrcValid_iff (fits : request.copiedBytes.toNat ≤ KmtCopiedBufferBytes) :
    (if request.copiedBytes = 0 then request.copiedCrc32c == 0
      else request.copiedBytes.toNat ≤ KmtCopiedBufferBytes &&
        crc32c request.copied == request.copiedCrc32c) = true ↔
      request.copiedCrc32c = crc32c request.copied := by
  by_cases none : request.copiedBytes = 0
  · have empty : request.copied = [] := by
      rw [KmtRequest.copied, none]
      rfl
    rw [if_pos none, beq_iff_eq, empty, crc32c_nil]
  · rw [if_neg none, decide_eq_true fits, Bool.true_and, beq_iff_eq]
    exact eq_comm

theorem invalidKmtFields_eq_false_iff {reservedZero : Bool} :
    invalidKmtFields request reservedZero = false ↔
      ConsistentFields request ∧ reservedZero = true := by
  rw [invalidKmtFields]
  simp only [Bool.or_eq_false_iff, Bool.not_eq_false', bne_eq_false_iff_eq, beq_eq_false_iff_ne,
    decide_eq_false_iff_not, gt_iff_lt, not_lt, pairValid_iff, all_zero_iff]
  constructor
  · rintro ⟨⟨⟨⟨⟨⟨⟨⟨⟨operation, flags⟩, sequence⟩, owner⟩, object⟩, aux⟩, length⟩, padding⟩,
      checksum⟩, reserved⟩
    rw [copiedCrcValid_iff length] at checksum
    rw [min_eq_left length] at padding
    exact ⟨⟨operation, flags, sequence, owner, object, aux, length, padding, checksum⟩, reserved⟩
  · rintro ⟨⟨operation, flags, sequence, owner, object, aux, length, padding, checksum⟩, reserved⟩
    rw [copiedCrcValid_iff length, min_eq_left length]
    exact ⟨⟨⟨⟨⟨⟨⟨⟨⟨operation, flags⟩, sequence⟩, owner⟩, object⟩, aux⟩, length⟩, padding⟩,
      checksum⟩, reserved⟩

theorem validRequest_iff :
    ValidRequest request ↔ ConsistentFields request ∧
      ¬ (request.operation = KmtOperationOpenKfd ∧
        (request.ownerId ≠ 0 ∨ request.objectId ≠ 0 ∨ request.auxId ≠ 0)) ∧
      ¬ (request.major ≠ KmtOperationMajor ∨ request.minor ≠ KmtOperationMinor) := by
  constructor
  · rintro ⟨consistent, openKfd, version⟩
    refine ⟨consistent, ?_, ?_⟩
    · rintro ⟨opens, carries⟩
      obtain ⟨noOwner, noObject, noAux⟩ := openKfd opens
      simp [noOwner, noObject, noAux] at carries
    · simp [version.1, version.2]
  · rintro ⟨consistent, identities, version⟩
    refine ⟨consistent, ?_, ?_⟩
    · intro opens
      simpa [opens] using identities
    · simpa using version

/-- The records that are accepted, and the answer to them. -/
theorem decodeKmtRequestRecord_of_envelope
    (envelope : decodeEstablishedEnvelope record configuredMaximum = .ok (header, payload))
    (kind : header.messageType = MessageKmtRequest)
    (length : record.length - HeaderBytes = KmtPayloadBytes) :
    ((decodeKmtRequestRecord record configuredMaximum).status = .ok ↔
        ValidRequest (loadKmtRequest payload) ∧
          bytesAt payload 232 24 = List.replicate 24 0) ∧
      ((decodeKmtRequestRecord record configuredMaximum).status = .ok →
        decodeKmtRequestRecord record configuredMaximum =
          acceptedKmtRequest header (loadKmtRequest payload)) := by
  have sized : payload.length = KmtPayloadBytes := by
    obtain ⟨-, -, -, -, -, rfl⟩ := decodeEstablishedEnvelope_eq_ok_iff.mp envelope
    rw [List.length_drop, length]
  have reserved : (bytesAt payload 232 (KmtPayloadBytes - 232)).length = 24 :=
    length_bytesAt (by rw [sized]; decide)
  have zeros := all_zero_replicate reserved
  have malformed : Status.malformed ≠ .ok := by decide
  rw [decodeKmtRequestRecord, envelope, validRequest_iff]
  dsimp only
  rw [if_neg (not_not.mpr kind), if_neg (not_not.mpr length)]
  generalize loadKmtRequest payload = request
  have fields := @invalidKmtFields_eq_false_iff request
    ((bytesAt payload 232 (KmtPayloadBytes - 232)).all fun value => value == 0)
  rw [zeros] at fields
  by_cases invalid : invalidKmtFields request
    ((bytesAt payload 232 (KmtPayloadBytes - 232)).all fun value => value == 0) = true
  · rw [if_pos invalid]
    refine ⟨⟨fun ok => absurd ok malformed, ?_⟩, fun ok => absurd ok malformed⟩
    rintro ⟨⟨consistent, -⟩, behind⟩
    rw [fields.mpr ⟨consistent, behind⟩] at invalid
    exact absurd invalid Bool.false_ne_true
  · obtain ⟨consistent, behind⟩ := fields.mp (Bool.eq_false_of_not_eq_true invalid)
    rw [if_neg invalid]
    split_ifs with identities version
    · exact ⟨⟨False.elim, fun valid => absurd identities valid.1.2.1⟩, False.elim⟩
    · exact ⟨⟨False.elim, fun valid => absurd version valid.1.2.2⟩, False.elim⟩
    · exact ⟨⟨fun _ => ⟨⟨consistent, identities, version⟩, behind⟩, fun _ => rfl⟩, fun _ => rfl⟩

/-- Everything about a record that is accepted. -/
theorem decodeKmtRequestRecord_ok
    (accepted : (decodeKmtRequestRecord record configuredMaximum).status = .ok) :
    WellFramed record ∧ record.length ≤ configuredMaximum.toNat ∧
      (loadHeader record).messageType = MessageKmtRequest ∧
      HoldsRequest (loadKmtRequest (record.drop HeaderBytes)) (record.drop HeaderBytes) ∧
      decodeKmtRequestRecord record configuredMaximum =
        acceptedKmtRequest (loadHeader record) (loadKmtRequest (record.drop HeaderBytes)) := by
  cases envelope : decodeEstablishedEnvelope record configuredMaximum with
  | error reason =>
    rw [decodeKmtRequestRecord, envelope] at accepted
    cases accepted
  | ok pair =>
    obtain ⟨header, payload⟩ := pair
    obtain ⟨framed, -, fits, -, rfl, rfl⟩ := decodeEstablishedEnvelope_eq_ok_iff.mp envelope
    by_cases kind : (loadHeader record).messageType = MessageKmtRequest
    · by_cases length : record.length - HeaderBytes = KmtPayloadBytes
      · obtain ⟨iff, answer⟩ := decodeKmtRequestRecord_of_envelope envelope kind length
        obtain ⟨-, behind⟩ := iff.mp accepted
        refine ⟨framed, fits, kind, holdsRequest_load ?_ behind, answer accepted⟩
        rw [List.length_drop, length]
      · rw [decodeKmtRequestRecord, envelope] at accepted
        dsimp only at accepted
        rw [if_neg (not_not.mpr kind), if_pos length] at accepted
        cases accepted
    · rw [decodeKmtRequestRecord, envelope] at accepted
      dsimp only at accepted
      rw [if_pos kind] at accepted
      cases accepted

end Decoder

section Encoder

variable {header : Header} {request : KmtRequest} {configuredMaximum : UInt32}

theorem length_encodeKmtRequest :
    (encodeKmtRequest header request).length = HeaderBytes + KmtPayloadBytes := by
  rw [encodeKmtRequest, length_encodeFrame, (holdsRequest_storeKmtRequest request).length]

/-- The envelope of a request is accepted where it fits. -/
theorem envelope_encodeKmtRequest (identified : Identified header)
    (fits : HeaderBytes + KmtPayloadBytes ≤ configuredMaximum.toNat) :
    decodeEstablishedEnvelope (encodeKmtRequest header request) configuredMaximum =
      .ok ({ header with messageType := MessageKmtRequest }, storeKmtRequest request) := by
  have length := (holdsRequest_storeKmtRequest request).length
  have small : (storeKmtRequest request).length < UInt32.size := by
    rw [length]
    decide
  rw [decodeEstablishedEnvelope_eq_ok_iff, length_encodeKmtRequest, encodeKmtRequest,
    loadHeader_encodeFrame, drop_encodeFrame]
  exact ⟨wellFramed_encodeFrame small, by decide, fits,
    ⟨identified.requestId, identified.connectionId, identified.daemonUuid, identified.jobEpoch⟩,
    rfl, rfl⟩

theorem decode_encodeKmtRequest (identified : Identified header)
    (fits : HeaderBytes + KmtPayloadBytes ≤ configuredMaximum.toNat) :
    ((decodeKmtRequestRecord (encodeKmtRequest header request) configuredMaximum).status = .ok ↔
        ValidRequest request) ∧
      ((decodeKmtRequestRecord (encodeKmtRequest header request) configuredMaximum).status = .ok →
        decodeKmtRequestRecord (encodeKmtRequest header request) configuredMaximum =
          acceptedKmtRequest { header with messageType := MessageKmtRequest } request) := by
  have holds := holdsRequest_storeKmtRequest request
  obtain ⟨iff, answer⟩ := decodeKmtRequestRecord_of_envelope
    (@envelope_encodeKmtRequest header request configuredMaximum identified fits) rfl
    (by rw [length_encodeKmtRequest, Nat.add_sub_cancel_left])
  rw [holds.load] at iff answer
  exact ⟨iff.trans ⟨fun both => both.1, fun valid => ⟨valid, holds.reserved⟩⟩, answer⟩

end Encoder

/-- The decoder accepts what the encoder makes of a request that makes sense, and nothing that
the encoder does not make. -/
theorem kmtCodec : KmtCodec where
  accepts_iff header request configuredMaximum identified := by
    by_cases fits : HeaderBytes + KmtPayloadBytes ≤ configuredMaximum.toNat
    · rw [(decode_encodeKmtRequest identified fits).1]
      exact ⟨fun valid => ⟨valid, fits⟩, fun both => both.1⟩
    · refine ⟨fun accepted => absurd ?_ fits, fun both => absurd both.2 fits⟩
      rw [← @length_encodeKmtRequest header request]
      exact (decodeKmtRequestRecord_ok accepted).2.1
  returns header request configuredMaximum identified accepted := by
    have fits := (decodeKmtRequestRecord_ok accepted).2.1
    rw [length_encodeKmtRequest] at fits
    exact (decode_encodeKmtRequest identified fits).2 accepted
  encodes record configuredMaximum accepted := by
    obtain ⟨framed, -, kind, holds, answer⟩ := decodeKmtRequestRecord_ok accepted
    rw [answer]
    have header : { loadHeader record with messageType := MessageKmtRequest } =
        loadHeader record := by rw [← kind]
    have payload := (holdsRequest_storeKmtRequest _).unique holds
    rw [acceptedKmtRequest, encodeKmtRequest, header, payload, encodeFrame_loadHeader framed]

end GemSim.Bridge
