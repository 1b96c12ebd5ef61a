import GemSim.Bridge.Checksum
import GemSim.Bridge.Hello

/-!
# The integrity of a record

A record that was altered in at most four consecutive bytes is dropped, whichever decoder
sees it, if these bytes lie outside the checksum or inside it.

## Main definitions

* `Altered` — one record differs from another only in a short window
* `RecordIntegrity` — what the checksum guarantees

## Main results

* `checksumValid_encodeFrame` — a record that was built carries its checksum
* `recordIntegrity` — altered records are dropped, and the checksum is the standard one
-/

namespace GemSim.Bridge

open GemSim.Lib

section Fields

variable (header : Header) (payload : List UInt8)

@[simp] theorem length_store16 (record : List UInt8) (place : ℕ) (value : UInt16) :
    (store16 record place value).length = record.length := length_storeAt _ _ _

@[simp] theorem length_store32 (record : List UInt8) (place : ℕ) (value : UInt32) :
    (store32 record place value).length = record.length := length_storeAt _ _ _

@[simp] theorem length_store64 (record : List UInt8) (place : ℕ) (value : UInt64) :
    (store64 record place value).length = record.length := length_storeAt _ _ _

@[simp] theorem length_encodeFrame :
    (encodeFrame header payload).length = HeaderBytes + payload.length := by
  simp [encodeFrame]

theorem load32_store32 {record : List UInt8} {place : ℕ} (value : UInt32)
    (inside : place + 4 ≤ record.length) : load32 (store32 record place value) place = value := by
  rw [load32, store32, bytesAt_storeAt_bigEndian _ inside, ofBigEndian_bigEndian,
    Nat.mod_eq_of_lt (by exact value.toNat_lt), UInt32.ofNat_toNat]

/-- A record that was built carries its checksum. -/
theorem checksumValid_encodeFrame : checksumValid (encodeFrame header payload) = true := by
  have carried : ∀ frame : List UInt8, HeaderBytes ≤ frame.length →
      checksumValid (store32 frame CrcOffset (calculateCrc32c frame true)) = true := by
    intro frame long
    have same : calculateCrc32c (store32 frame CrcOffset (calculateCrc32c frame true)) true =
        calculateCrc32c frame true := by
      refine calculateCrc32c_congr ?_ (length_store32 _ _ _)
      intro index outside
      refine getElem?_storeAt_of_apart ?_
      rw [length_bigEndian]
      exact outside
    rw [checksumValid, same, load32_store32 _ (Nat.le_trans (by decide) long), beq_self_eq_true]
  refine carried _ ?_
  simp

end Fields

section Integrity

/-- One record differs from another, and only in a window of at most four bytes that lies
outside the checksum or inside it. -/
structure Altered (record altered : List UInt8) (start count : ℕ) : Prop where
  length : altered.length = record.length
  short : count ≤ 4
  placed : start + count ≤ CrcOffset ∨ CrcOffset + 4 ≤ start ∨
    (CrcOffset ≤ start ∧ start + count ≤ CrcOffset + 4)
  window : ∀ index, index < start ∨ start + count ≤ index → altered[index]? = record[index]?
  different : altered ≠ record

variable {record altered : List UInt8} {start count : ℕ}

theorem load32_congr {offset : ℕ}
    (same : ∀ index, offset ≤ index → index < offset + 4 → altered[index]? = record[index]?) :
    load32 altered offset = load32 record offset := by
  have field : bytesAt altered offset 4 = bytesAt record offset 4 := by
    apply List.ext_getElem?
    intro index
    rw [getElem?_bytesAt, getElem?_bytesAt]
    split
    · exact same _ (Nat.le_add_right _ _) (by omega)
    · rfl
  rw [load32, field, load32]

/-- A changed field is another number. -/
theorem load32_ne {offset : ℕ} (inside : offset + 4 ≤ record.length)
    (length : altered.length = record.length)
    (different : bytesAt altered offset 4 ≠ bytesAt record offset 4) :
    load32 altered offset ≠ load32 record offset := by
  intro same
  apply different
  have numbers := congrArg UInt32.toNat same
  have first := length_bytesAt inside
  have second := length_bytesAt (length ▸ inside : offset + 4 ≤ altered.length)
  have small : ofBigEndian (bytesAt altered offset 4) < 2 ^ 32 := by
    exact (ofBigEndian_lt _).trans_eq (by rw [second]; rfl)
  have other : ofBigEndian (bytesAt record offset 4) < 2 ^ 32 := by
    exact (ofBigEndian_lt _).trans_eq (by rw [first]; rfl)
  rw [load32, load32, UInt32.toNat_ofNat', UInt32.toNat_ofNat', Nat.mod_eq_of_lt small,
    Nat.mod_eq_of_lt other] at numbers
  exact ofBigEndian_inj (second.trans first.symm) numbers

/-- An altered record does not carry its checksum. -/
theorem checksumValid_of_altered (valid : checksumValid record = true)
    (long : HeaderBytes ≤ record.length) (change : Altered record altered start count) :
    checksumValid altered = false := by
  rw [checksumValid, beq_iff_eq] at valid
  rw [checksumValid, beq_eq_false_iff_ne]
  have placed : (start + count ≤ CrcOffset ∨ CrcOffset + 4 ≤ start) ∨
      (CrcOffset ≤ start ∧ start + count ≤ CrcOffset + 4) := or_assoc.mpr change.placed
  rcases placed with outside | inside
  · have kept : load32 altered CrcOffset = load32 record CrcOffset := by
      apply load32_congr
      intro index above below
      exact change.window index (by omega)
    rw [kept, ← valid]
    exact calculateCrc32c_ne change.length change.short outside change.window change.different
  · have counted : calculateCrc32c altered true = calculateCrc32c record true := by
      refine calculateCrc32c_congr ?_ change.length
      intro index beside
      exact change.window index (by omega)
    rw [counted, valid]
    refine (load32_ne (Nat.le_trans (by decide) long) change.length ?_).symm
    intro same
    apply change.different
    apply List.ext_getElem?
    intro index
    by_cases field : CrcOffset ≤ index ∧ index < CrcOffset + 4
    · have equal := congrArg (fun bytes : List UInt8 => bytes[index - CrcOffset]?) same
      simp only [getElem?_bytesAt, if_pos (show index - CrcOffset < 4 by omega),
        Nat.add_sub_cancel' field.1] at equal
      exact equal
    · exact change.window index (by omega)

theorem decodeHelloRecord_of_invalid (invalid : checksumValid altered = false)
    (configuredMaximum : UInt32) : (decodeHelloRecord altered configuredMaximum).action = .drop := by
  unfold decodeHelloRecord
  dsimp only
  rw [invalid, Bool.not_false, if_pos (rfl : true = true)]
  split_ifs <;> rfl

theorem decodeEstablishedEnvelope_of_invalid (invalid : checksumValid altered = false)
    (configuredMaximum : UInt32) :
    ∃ reason, decodeEstablishedEnvelope altered configuredMaximum = .error reason := by
  unfold decodeEstablishedEnvelope
  dsimp only
  rw [invalid, Bool.not_false, if_pos (rfl : true = true)]
  split_ifs
  all_goals exact ⟨_, rfl⟩

/-- What the checksum guarantees of records. -/
structure RecordIntegrity : Prop where
  dropped : ∀ header payload altered start count configuredMaximum,
    Altered (encodeFrame header payload) altered start count →
      (decodeHelloRecord altered configuredMaximum).action = .drop ∧
        ∃ reason, decodeEstablishedEnvelope altered configuredMaximum = .error reason
  standard : ∀ data, calculateCrc32c data false = standardCrc32c data
  uncounted : ∀ first second : List UInt8, first.length = second.length →
    (∀ index, index < CrcOffset ∨ CrcOffset + 4 ≤ index → first[index]? = second[index]?) →
      calculateCrc32c first true = calculateCrc32c second true

/-- Altered records are dropped, and the checksum is the standard one. -/
theorem recordIntegrity : RecordIntegrity where
  dropped := by
    intro header payload altered start count configuredMaximum change
    have invalid : checksumValid altered = false := by
      refine checksumValid_of_altered (checksumValid_encodeFrame header payload) ?_ change
      rw [length_encodeFrame]
      exact Nat.le_add_right _ _
    exact ⟨decodeHelloRecord_of_invalid invalid configuredMaximum,
      decodeEstablishedEnvelope_of_invalid invalid configuredMaximum⟩
  standard := calculateCrc32c_eq_standard
  uncounted := fun _ _ length same => calculateCrc32c_congr same length

end Integrity

end GemSim.Bridge
