import GemSim.Bridge.FrameLaw

/-!
# The fields of a frame

A frame is determined by its header, its payload and its checksum: every byte of it belongs to a
field, and the fields that carry nothing are zero. A frame that was built holds what it was built
from, and a frame that a decoder has checked holds what the decoder has read.

## Main definitions

* `HoldsFrame` — a header and a payload in the fields of a frame
* `WellFramed`, `Identified` — what the decoders check

## Main results

* `holdsFrame_encodeFrame` — a frame that was built
* `holdsFrame_of_wellFramed` — a frame that was checked
* `encodeFrame_loadHeader` — it is the frame of what was read
* `decodeEstablishedEnvelope_eq_ok_iff` — the records of a connection that is open
-/

namespace GemSim.Bridge

open GemSim.Lib

section Loads

variable {record : List UInt8} {offset count : ℕ}

theorem bytesAt_eq_bigEndian (inside : offset + count ≤ record.length) :
    bytesAt record offset count = bigEndian count (ofBigEndian (bytesAt record offset count)) := by
  have bytes := bigEndian_ofBigEndian (bytesAt record offset count)
  rw [length_bytesAt inside] at bytes
  exact bytes.symm

theorem bytesAt_of_load16 (inside : offset + 2 ≤ record.length) :
    bytesAt record offset 2 = bigEndian 2 (load16 record offset).toNat := by
  have below : ofBigEndian (bytesAt record offset 2) < 2 ^ 16 :=
    (ofBigEndian_lt _).trans_eq (by rw [length_bytesAt inside]; rfl)
  rw [load16, UInt16.toNat_ofNat', Nat.mod_eq_of_lt below]
  exact bytesAt_eq_bigEndian inside

theorem bytesAt_of_load32 (inside : offset + 4 ≤ record.length) :
    bytesAt record offset 4 = bigEndian 4 (load32 record offset).toNat := by
  have below : ofBigEndian (bytesAt record offset 4) < 2 ^ 32 :=
    (ofBigEndian_lt _).trans_eq (by rw [length_bytesAt inside]; rfl)
  rw [load32, UInt32.toNat_ofNat', Nat.mod_eq_of_lt below]
  exact bytesAt_eq_bigEndian inside

theorem bytesAt_of_load64 (inside : offset + 8 ≤ record.length) :
    bytesAt record offset 8 = bigEndian 8 (load64 record offset).toNat := by
  have below : ofBigEndian (bytesAt record offset 8) < 2 ^ 64 :=
    (ofBigEndian_lt _).trans_eq (by rw [length_bytesAt inside]; rfl)
  rw [load64, UInt64.toNat_ofNat', Nat.mod_eq_of_lt below]
  exact bytesAt_eq_bigEndian inside

theorem load16_of_bytesAt {value : UInt16} (field : bytesAt record offset 2 = bigEndian 2 value.toNat) :
    load16 record offset = value := by
  rw [load16, field, ofBigEndian_bigEndian, Nat.mod_eq_of_lt (by exact value.toNat_lt),
    UInt16.ofNat_toNat]

theorem load32_of_bytesAt {value : UInt32} (field : bytesAt record offset 4 = bigEndian 4 value.toNat) :
    load32 record offset = value := by
  rw [load32, field, ofBigEndian_bigEndian, Nat.mod_eq_of_lt (by exact value.toNat_lt),
    UInt32.ofNat_toNat]

theorem load64_of_bytesAt {value : UInt64} (field : bytesAt record offset 8 = bigEndian 8 value.toNat) :
    load64 record offset = value := by
  rw [load64, field, ofBigEndian_bigEndian, Nat.mod_eq_of_lt (by exact value.toNat_lt),
    UInt64.ofNat_toNat]

theorem toList_loadBytes (inside : offset + count ≤ record.length) :
    (loadBytes count record offset).toList = bytesAt record offset count := by
  apply List.ext_getElem?
  intro index
  rw [getElem?_bytesAt, loadBytes, Vector.getElem?_toList]
  by_cases below : index < count
  · rw [if_pos below, Vector.getElem?_eq_getElem below, Vector.getElem_ofFn,
      List.getElem?_eq_getElem (by omega), Option.getD_some]
  · rw [if_neg below, Vector.getElem?_eq_none (not_lt.mp below)]

theorem loadBytes_of_bytesAt {value : Vector UInt8 count} (inside : offset + count ≤ record.length)
    (field : bytesAt record offset count = value.toList) : loadBytes count record offset = value := by
  rw [← Vector.toList_inj, toList_loadBytes inside, field]

end Loads

/-- A header and a payload in the fields of a frame, and zeros in those that carry nothing. -/
structure HoldsFrame (header : Header) (payload frame : List UInt8) : Prop where
  length : frame.length = HeaderBytes + payload.length
  magic : bytesAt frame 0 8 = Magic
  major : bytesAt frame 8 2 = bigEndian 2 1
  minor : bytesAt frame 10 2 = bigEndian 2 0
  headerBytes : bytesAt frame 12 2 = bigEndian 2 HeaderBytes
  messageType : bytesAt frame 14 2 = bigEndian 2 header.messageType.toNat
  flags : bytesAt frame 16 4 = bigEndian 4 0
  payloadBytes : bytesAt frame 20 4 = bigEndian 4 (UInt32.ofNat payload.length).toNat
  requestId : bytesAt frame 24 8 = bigEndian 8 header.requestId.toNat
  daemonUuid : bytesAt frame 32 16 = header.daemonUuid.toList
  connectionId : bytesAt frame 48 8 = bigEndian 8 header.connectionId.toNat
  jobEpoch : bytesAt frame 56 8 = bigEndian 8 header.jobEpoch.toNat
  reserved : bytesAt frame 68 12 = List.replicate 12 0
  payload : bytesAt frame 80 payload.length = payload

section Frames

variable {header : Header} {payload frame other : List UInt8}

/-- A frame that was built holds what it was built from. -/
theorem holdsFrame_encodeFrame (header : Header) (payload : List UInt8) :
    HoldsFrame header payload (encodeFrame header payload) := by
  refine ⟨length_encodeFrame _ _, ?_, ?_, ?_, ?_, ?_, ?_, ?_, ?_, ?_, ?_, ?_, ?_, ?_⟩
  all_goals
    simp (disch := first | omega | simp +arith [HeaderBytes, CrcOffset, Magic]) only [encodeFrame,
      store16, store32, store64, bytesAt_storeAt_of_apart, bytesAt_storeAt_self]
  case refine_12 => exact bytesAt_replicate _ _ (by rw [HeaderBytes]; omega)
  case refine_13 => exact @bytesAt_storeAt _ payload HeaderBytes (by simp)
  all_goals rfl

/-- Frames that hold the same agree before their checksum and behind it. -/
theorem HoldsFrame.agree (holds : HoldsFrame header payload frame)
    (others : HoldsFrame header payload other) :
    bytesAt frame 0 64 = bytesAt other 0 64 ∧
      bytesAt frame 68 (12 + payload.length) = bytesAt other 68 (12 + payload.length) := by
  have framing := bytesAt_eq_append (bytesAt_eq_append (bytesAt_eq_append
    (holds.magic.trans others.magic.symm) (holds.major.trans others.major.symm))
    (holds.minor.trans others.minor.symm)) (holds.headerBytes.trans others.headerBytes.symm)
  have sizes := bytesAt_eq_append (bytesAt_eq_append (bytesAt_eq_append framing
    (holds.messageType.trans others.messageType.symm)) (holds.flags.trans others.flags.symm))
    (holds.payloadBytes.trans others.payloadBytes.symm)
  have identity := bytesAt_eq_append (bytesAt_eq_append (bytesAt_eq_append (bytesAt_eq_append sizes
    (holds.requestId.trans others.requestId.symm))
    (holds.daemonUuid.trans others.daemonUuid.symm))
    (holds.connectionId.trans others.connectionId.symm))
    (holds.jobEpoch.trans others.jobEpoch.symm)
  exact ⟨identity, bytesAt_eq_append (holds.reserved.trans others.reserved.symm)
    (holds.payload.trans others.payload.symm)⟩

theorem getElem?_of_bytesAt {offset count index : ℕ}
    (same : bytesAt frame offset count = bytesAt other offset count) (above : offset ≤ index)
    (below : index < offset + count) : frame[index]? = other[index]? := by
  have field := congrArg (fun bytes => bytes[index - offset]?) same
  rwa [getElem?_bytesAt, getElem?_bytesAt, if_pos (by omega), if_pos (by omega),
    Nat.add_sub_cancel' above] at field

/-- Frames that hold the same have one checksum, and are the same if they carry it. -/
theorem HoldsFrame.unique (holds : HoldsFrame header payload frame)
    (others : HoldsFrame header payload other) (valid : checksumValid frame = true)
    (also : checksumValid other = true) : frame = other := by
  obtain ⟨front, back⟩ := holds.agree others
  have first := holds.length
  have second := others.length
  have long : CrcOffset + 4 ≤ HeaderBytes := by decide
  have same : calculateCrc32c frame true = calculateCrc32c other true := by
    refine calculateCrc32c_congr ?_ (first.trans second.symm)
    intro index outside
    by_cases inside : index < frame.length
    · rcases outside with below | above
      · exact getElem?_of_bytesAt front (Nat.zero_le _) (by rw [Nat.zero_add]; exact below)
      · refine getElem?_of_bytesAt back above ?_
        rw [first, HeaderBytes] at inside
        omega
    · rw [List.getElem?_eq_none (by omega), List.getElem?_eq_none (by omega)]
  rw [checksumValid, beq_iff_eq] at valid also
  have checksum : bytesAt frame CrcOffset 4 = bytesAt other CrcOffset 4 := by
    rw [bytesAt_of_load32 (by omega), bytesAt_of_load32 (by omega), ← valid, ← also, same]
  have tiles : 64 + 4 + (12 + payload.length) = HeaderBytes + payload.length := by
    rw [HeaderBytes]
    omega
  exact eq_of_bytesAt (first.trans tiles.symm) (second.trans tiles.symm)
    (bytesAt_eq_append (bytesAt_eq_append front checksum) back)

end Frames

section Checks

variable {record : List UInt8} {header : Header} {payload : List UInt8}

/-- What every decoder checks of the frame of a record. -/
structure WellFramed (record : List UInt8) : Prop where
  long : HeaderBytes ≤ record.length
  magic : bytesAt record 0 8 = Magic
  major : load16 record 8 = 1
  minor : load16 record 10 = 0
  headerBytes : (load16 record 12).toNat = HeaderBytes
  payloadBytes : (load32 record 20).toNat = record.length - HeaderBytes
  flags : load32 record 16 = 0
  reserved32 : load32 record 68 = 0
  reserved64 : load64 record 72 = 0
  checksum : checksumValid record = true

/-- A frame that was checked holds what was read. -/
theorem holdsFrame_of_wellFramed (framed : WellFramed record) :
    HoldsFrame (loadHeader record) (record.drop HeaderBytes) record := by
  have long := framed.long
  rw [HeaderBytes] at long
  have size : (UInt32.ofNat (record.length - HeaderBytes)).toNat = (load32 record 20).toNat := by
    rw [← framed.payloadBytes, UInt32.ofNat_toNat]
  refine ⟨?_, framed.magic, ?_, ?_, ?_, ?_, ?_, ?_, ?_, ?_, ?_, ?_, ?_, ?_⟩
  · rw [List.length_drop, Nat.add_sub_cancel' framed.long]
  · rw [bytesAt_of_load16 (by omega), framed.major]
    rfl
  · rw [bytesAt_of_load16 (by omega), framed.minor]
    rfl
  · rw [bytesAt_of_load16 (by omega), framed.headerBytes]
  · exact bytesAt_of_load16 (by omega)
  · rw [bytesAt_of_load32 (by omega), framed.flags]
    rfl
  · rw [bytesAt_of_load32 (by omega), List.length_drop, size]
  · exact bytesAt_of_load64 (by omega)
  · exact (@toList_loadBytes record 32 16 (by omega)).symm
  · exact bytesAt_of_load64 (by omega)
  · exact bytesAt_of_load64 (by omega)
  · -- the two reserved fields meet
    have first : bytesAt record 68 4 = List.replicate 4 0 := by
      rw [bytesAt_of_load32 (by omega), framed.reserved32]
      rfl
    have second : bytesAt record 72 8 = List.replicate 8 0 := by
      rw [bytesAt_of_load64 (by omega), framed.reserved64]
      rfl
    have both := bytesAt_append_bytesAt record 68 4 8
    rw [first, second] at both
    exact both.symm
  · rw [bytesAt, List.take_of_length_le (by rw [HeaderBytes])]
    rfl

/-- The frame of what was read is the record. -/
theorem encodeFrame_loadHeader (framed : WellFramed record) :
    encodeFrame (loadHeader record) (record.drop HeaderBytes) = record :=
  (holdsFrame_encodeFrame _ _).unique (holdsFrame_of_wellFramed framed)
    (checksumValid_encodeFrame _ _) framed.checksum

/-- A frame that was built is well framed if its length fits. -/
theorem wellFramed_encodeFrame (fits : payload.length < UInt32.size) :
    WellFramed (encodeFrame header payload) := by
  have holds := holdsFrame_encodeFrame header payload
  have small : (UInt32.ofNat payload.length).toNat = payload.length := by
    rw [UInt32.toNat_ofNat', Nat.mod_eq_of_lt fits]
  have zeros : bytesAt (encodeFrame header payload) 68 4 = List.replicate 4 0 ∧
      bytesAt (encodeFrame header payload) 72 8 = List.replicate 8 0 := by
    have both := bytesAt_append_bytesAt (encodeFrame header payload) 68 4 8
    rw [holds.reserved] at both
    have long : HeaderBytes ≤ (encodeFrame header payload).length := by
      rw [holds.length]
      exact Nat.le_add_right _ _
    rw [HeaderBytes] at long
    have split : List.replicate 12 (0 : UInt8) = List.replicate 4 0 ++ List.replicate 8 0 := rfl
    rw [split] at both
    refine List.append_inj both ?_
    rw [length_bytesAt (by omega), List.length_replicate]
  refine ⟨?_, holds.magic, load16_of_bytesAt holds.major, load16_of_bytesAt holds.minor, ?_, ?_,
    load32_of_bytesAt holds.flags, ?_, ?_, checksumValid_encodeFrame _ _⟩
  · rw [holds.length]
    exact Nat.le_add_right _ _
  · rw [@load16_of_bytesAt _ 12 (UInt16.ofNat HeaderBytes) holds.headerBytes]
    rfl
  · rw [load32_of_bytesAt holds.payloadBytes, small, holds.length, Nat.add_sub_cancel_left]
  · exact load32_of_bytesAt zeros.1
  · exact load64_of_bytesAt zeros.2

/-- What was put in is read. -/
theorem loadHeader_encodeFrame : loadHeader (encodeFrame header payload) = header := by
  have holds := holdsFrame_encodeFrame header payload
  have long : 32 + 16 ≤ (encodeFrame header payload).length := by
    rw [holds.length, HeaderBytes]
    omega
  have uuid := @loadBytes_of_bytesAt _ 32 16 header.daemonUuid long holds.daemonUuid
  rw [loadHeader, load16_of_bytesAt holds.messageType, load64_of_bytesAt holds.requestId,
    load64_of_bytesAt holds.connectionId, load64_of_bytesAt holds.jobEpoch]
  exact congrArg (fun uuid => { header with daemonUuid := uuid }) uuid

theorem drop_encodeFrame : (encodeFrame header payload).drop HeaderBytes = payload := by
  have holds := holdsFrame_encodeFrame header payload
  have field := holds.payload
  rwa [bytesAt, List.take_of_length_le] at field
  rw [List.length_drop, holds.length, HeaderBytes]
  omega

/-- The header names a request, a connection, a daemon and a job. -/
structure Identified (header : Header) : Prop where
  requestId : header.requestId ≠ 0
  connectionId : header.connectionId ≠ 0
  daemonUuid : isZero header.daemonUuid = false
  jobEpoch : header.jobEpoch ≠ 0

/-- The records that are accepted on a connection that is open. -/
theorem decodeEstablishedEnvelope_eq_ok_iff {configuredMaximum : UInt32} :
    decodeEstablishedEnvelope record configuredMaximum = .ok (header, payload) ↔
      WellFramed record ∧ record.length ≤ MaximumRecordBytes.toNat ∧
        record.length ≤ configuredMaximum.toNat ∧ Identified (loadHeader record) ∧
        header = loadHeader record ∧ payload = record.drop HeaderBytes := by
  rw [decodeEstablishedEnvelope]
  dsimp only
  constructor
  · intro accepted
    split_ifs at accepted with size framing envelope identity checksum
    simp only [not_or, not_lt, ne_eq, not_not] at size framing envelope identity
    rw [Except.ok.injEq, Prod.mk.injEq] at accepted
    rw [Bool.not_eq_true', Bool.not_eq_false] at checksum
    obtain ⟨long, most, configured⟩ := size
    obtain ⟨magic, major, minor⟩ := framing
    obtain ⟨headerBytes, payloadBytes, flags⟩ := envelope
    obtain ⟨requestId, connectionId, daemonUuid, jobEpoch, reserved32, reserved64⟩ := identity
    exact ⟨⟨long, magic, major, minor, headerBytes, payloadBytes, flags, reserved32, reserved64,
        checksum⟩, most, configured,
      ⟨requestId, connectionId, Bool.eq_false_of_not_eq_true daemonUuid, jobEpoch⟩,
      accepted.1.symm, accepted.2.symm⟩
  · rintro ⟨framed, most, configured, identified, rfl, rfl⟩
    rw [if_neg, if_neg, if_neg, if_neg, if_neg]
    · simp [framed.checksum]
    · simp [identified.requestId, identified.connectionId, identified.daemonUuid,
        identified.jobEpoch, framed.reserved32, framed.reserved64]
    · simp [framed.headerBytes, framed.payloadBytes, framed.flags]
    · simp [framed.magic, framed.major, framed.minor]
    · have long := framed.long
      omega

end Checks

end GemSim.Bridge
