import GemSim.Bridge.Frame
import GemSim.Lib.Crc

/-!
# The checksum of a record

The bitwise loop computes the reflected CRC-32C, the remainder of the bytes by a polynomial
over the field of two elements. Byte sequences that differ in at most four consecutive bytes
have different checksums.

## Main definitions

* `crc32cPolynomial`, `standardCrc32c` — the check value by division

## Main results

* `calculateCrc32c_eq_standard` — the loop computes the check value
* `calculateCrc32c_ne` — a burst of at most four bytes that count changes the checksum
* `calculateCrc32c_congr` — the bytes of the checksum do not count
-/

namespace GemSim.Bridge

open GemSim.Lib
open GemSim.Kmt (crc32cBit crc32cByte)
open Polynomial

/-- The constant 0x1EDC6F41 with its highest power. -/
noncomputable def crc32cPolynomial : (ZMod 2)[X] :=
  X ^ 32 + X ^ 28 + X ^ 27 + X ^ 26 + X ^ 25 + X ^ 23 + X ^ 22 + X ^ 20 + X ^ 19 + X ^ 18 +
    X ^ 14 + X ^ 13 + X ^ 11 + X ^ 10 + X ^ 9 + X ^ 8 + X ^ 6 + 1

/-- The reflected CRC-32C: the register starts full, and the remainder is complemented. -/
noncomputable def standardCrc32c (data : List UInt8) : UInt32 :=
  UInt32.ofBitVec
    (Crc.reflectedCrc crc32cPolynomial (BitVec.allOnes 32) (BitVec.allOnes 32) data)

/-- The constant of the loop, with the highest power in its low bit. -/
def reflectedConstant : BitVec 32 := 0x82f63b78

theorem generatorOf_reflectedConstant : Crc.generatorOf reflectedConstant = crc32cPolynomial := by
  unfold Crc.generatorOf Crc.toPoly crc32cPolynomial reflectedConstant
  simp only [Finset.sum_range_succ, Finset.range_zero, Finset.sum_empty]
  simp [BitVec.getMsbD]
  ring

theorem toBitVec_crc32cBit (crc : UInt32) :
    (crc32cBit crc).toBitVec = Crc.crcBit reflectedConstant crc.toBitVec := by
  unfold crc32cBit Crc.crcBit
  have low : (crc &&& 1).toBitVec =
      BitVec.setWidth 32 (BitVec.ofBool (crc.toBitVec.getLsbD 0)) :=
    BitVec.and_one_eq_setWidth_ofBool_getLsbD
  cases bit : crc.toBitVec.getLsbD 0 with
  | false =>
    have zero : crc &&& 1 = 0 := UInt32.toBitVec_inj.mp (by rw [low, bit]; rfl)
    simp [zero]
  | true =>
    have one : crc &&& 1 = 1 := UInt32.toBitVec_inj.mp (by rw [low, bit]; rfl)
    have ones : (0x82f63b78 : UInt32) &&& (0 - 1) = 0x82f63b78 := by decide
    simp only [one, ones]
    rfl

theorem toBitVec_crc32cByte (crc : UInt32) (byte : UInt8) :
    (crc32cByte crc byte).toBitVec = Crc.crcByte reflectedConstant crc.toBitVec byte := by
  rw [crc32cByte, Crc.crcByte]
  iterate 8 rw [toBitVec_crc32cBit]
  rfl

theorem toBitVec_foldl_crc32cByte (data : List UInt8) (crc : UInt32) :
    (data.foldl crc32cByte crc).toBitVec =
      data.foldl (Crc.crcByte reflectedConstant) crc.toBitVec := by
  induction data generalizing crc with
  | nil => rfl
  | cons byte rest ih => rw [List.foldl_cons, List.foldl_cons, ih, toBitVec_crc32cByte]

theorem mapIdx_checkedByte_false (data : List UInt8) :
    data.mapIdx (checkedByte false) = data := by
  apply List.ext_getElem?
  intro index
  rw [List.getElem?_mapIdx]
  cases data[index]? with
  | none => rfl
  | some byte => simp [checkedByte]

/-- Without the flag the loop computes the reflected CRC-32C of the bytes. -/
theorem calculateCrc32c_eq_standard (data : List UInt8) :
    calculateCrc32c data false = standardCrc32c data := by
  apply UInt32.toBitVec_inj.mp
  unfold calculateCrc32c standardCrc32c
  rw [mapIdx_checkedByte_false, UInt32.toBitVec_xor, toBitVec_foldl_crc32cByte,
    ← generatorOf_reflectedConstant]
  exact Crc.foldl_crcByte_eq (by decide) _ _ _ data

set_option maxRecDepth 4000 in
example : calculateCrc32c [0x31, 0x32, 0x33, 0x34, 0x35, 0x36, 0x37, 0x38, 0x39] false =
    0xe3069283 := by decide

/-- The bytes of the checksum do not count. -/
theorem calculateCrc32c_congr {first second : List UInt8}
    (same : ∀ index, index < CrcOffset ∨ CrcOffset + 4 ≤ index → first[index]? = second[index]?)
    (length : first.length = second.length) :
    calculateCrc32c first true = calculateCrc32c second true := by
  have counted : first.mapIdx (checkedByte true) = second.mapIdx (checkedByte true) := by
    apply List.ext_getElem?
    intro index
    rw [List.getElem?_mapIdx, List.getElem?_mapIdx]
    by_cases outside : index < CrcOffset ∨ CrcOffset + 4 ≤ index
    · rw [same index outside]
    · have inside : CrcOffset ≤ index ∧ index < CrcOffset + 4 := by omega
      by_cases there : index < first.length
      · rw [List.getElem?_eq_getElem there, List.getElem?_eq_getElem (length ▸ there)]
        simp [checkedByte, inside]
      · rw [List.getElem?_eq_none (not_lt.mp there),
          List.getElem?_eq_none (length ▸ not_lt.mp there)]
  rw [calculateCrc32c, counted, calculateCrc32c]

/-- Bytes that count and differ only in a burst of at most four change the checksum. -/
theorem calculateCrc32c_ne {first second : List UInt8} {start count : ℕ}
    (length : first.length = second.length) (short : count ≤ 4)
    (apart : start + count ≤ CrcOffset ∨ CrcOffset + 4 ≤ start)
    (window : ∀ index, index < start ∨ start + count ≤ index → first[index]? = second[index]?)
    (different : first ≠ second) :
    calculateCrc32c first true ≠ calculateCrc32c second true := by
  intro same
  have registers := congrArg UInt32.toBitVec same
  simp only [calculateCrc32c, UInt32.toBitVec_xor, BitVec.xor_left_inj,
    toBitVec_foldl_crc32cByte] at registers
  have outside : ∀ index, index < start ∨ start + count ≤ index →
      (first.mapIdx (checkedByte true))[index]? = (second.mapIdx (checkedByte true))[index]? := by
    intro index outside
    rw [List.getElem?_mapIdx, List.getElem?_mapIdx, window index outside]
  have burst : 8 * count ≤ 32 := by omega
  refine Crc.foldl_crcByte_ne_of_window (by decide) (by decide) _ ?_ burst outside ?_ registers
  · rw [List.length_mapIdx, List.length_mapIdx, length]
  · -- the window counts, so what differs there still does
    intro counted
    apply different
    apply List.ext_getElem?
    intro index
    by_cases beside : index < start ∨ start + count ≤ index
    · exact window index beside
    · have counts : checkedByte true index = id := by
        funext byte
        rw [checkedByte, if_neg (by omega), id]
      have equal := congrArg (fun bytes : List UInt8 => bytes[index]?) counted
      simpa [counts] using equal

end GemSim.Bridge
