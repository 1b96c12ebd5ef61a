import Mathlib.Algebra.Order.Ring.Nat
import Mathlib.Data.List.Basic
import Mathlib.Tactic.Ring

/-!
# Records of bytes

A record is a list of bytes with fields at fixed offsets, the numbers among them mostly with their
highest byte first. A record is written by storing its fields into a list of zeros, and it is
determined by the fields that tile it.

## Main definitions

* `bigEndian`, `ofBigEndian` — the bytes of a number, and the number of some bytes
* `littleEndian`, `ofLittleEndian` — the same with the lowest byte first
* `bytesAt`, `storeAt` — the field at an offset, and a record with another field there
* `storeFields` — a row of fields of one width

## Main results

* `ofBigEndian_bigEndian`, `bigEndian_ofBigEndian` — a number is read back, and so are bytes
* `bytesAt_storeAt`, `bytesAt_storeAt_of_apart` — the fields of a record after a store
* `bytesAt_append_bytesAt`, `eq_of_bytesAt` — fields that meet are one field, and tile a record
* `bytesAt_storeFields` — fields that a loop stores
-/

namespace GemSim.Lib

/-- The lowest bytes of a number, the highest of them first. -/
def bigEndian : ℕ → ℕ → List UInt8
  | 0, _ => []
  | count + 1, value => UInt8.ofNat (value / 256 ^ count) :: bigEndian count value

/-- The number whose bytes these are, the highest first. -/
def ofBigEndian (bytes : List UInt8) : ℕ :=
  bytes.foldl (fun value byte => 256 * value + byte.toNat) 0

/-- The lowest bytes of a number, the lowest of them first. -/
def littleEndian (count value : ℕ) : List UInt8 := (bigEndian count value).reverse

/-- The number whose bytes these are, the lowest first. -/
def ofLittleEndian (bytes : List UInt8) : ℕ := ofBigEndian bytes.reverse

/-- The field of `count` bytes at an offset. -/
def bytesAt (record : List UInt8) (offset count : ℕ) : List UInt8 := (record.drop offset).take count

/-- The record with other bytes at an offset. -/
def storeAt (record : List UInt8) (offset : ℕ) (bytes : List UInt8) : List UInt8 :=
  record.mapIdx fun index byte => if offset ≤ index then bytes[index - offset]?.getD byte else byte

section Numbers

@[simp] theorem length_bigEndian (count value : ℕ) : (bigEndian count value).length = count := by
  induction count with
  | zero => rfl
  | succ count ih => rw [bigEndian, List.length_cons, ih]

theorem foldl_bigEndian (bytes : List UInt8) (start : ℕ) :
    bytes.foldl (fun value byte => 256 * value + byte.toNat) start =
      start * 256 ^ bytes.length + ofBigEndian bytes := by
  unfold ofBigEndian
  induction bytes generalizing start with
  | nil => simp
  | cons byte rest ih =>
    rw [List.foldl_cons, ih, List.foldl_cons, ih (256 * 0 + byte.toNat), List.length_cons, pow_succ]
    ring

theorem ofBigEndian_cons (byte : UInt8) (rest : List UInt8) :
    ofBigEndian (byte :: rest) = byte.toNat * 256 ^ rest.length + ofBigEndian rest := by
  rw [ofBigEndian, List.foldl_cons, foldl_bigEndian]
  simp

theorem ofBigEndian_lt (bytes : List UInt8) : ofBigEndian bytes < 256 ^ bytes.length := by
  induction bytes with
  | nil => exact Nat.one_pos
  | cons byte rest ih =>
    have below := byte.toNat_lt
    have scaled := Nat.mul_le_mul_right (256 ^ rest.length) (Nat.le_of_lt_succ below)
    rw [ofBigEndian_cons, List.length_cons, pow_succ]
    omega

/-- A number that fits is read back. -/
theorem ofBigEndian_bigEndian (count value : ℕ) :
    ofBigEndian (bigEndian count value) = value % 256 ^ count := by
  induction count with
  | zero => simp [bigEndian, ofBigEndian, Nat.mod_one]
  | succ count ih =>
    rw [bigEndian, ofBigEndian_cons, length_bigEndian, ih, pow_succ, Nat.mod_mul]
    have byte : (UInt8.ofNat (value / 256 ^ count)).toNat = value / 256 ^ count % 256 := rfl
    rw [byte]
    ring

/-- Bytes are the bytes of their number. -/
theorem bigEndian_ofBigEndian (bytes : List UInt8) :
    bigEndian bytes.length (ofBigEndian bytes) = bytes := by
  have lower : ∀ count high low, bigEndian count (high * 256 ^ count + low) = bigEndian count low := by
    intro count
    induction count with
    | zero => intros; rfl
    | succ count ih =>
      intro high low
      have split : high * 256 ^ (count + 1) + low = high * 256 * 256 ^ count + low := by ring
      rw [bigEndian, bigEndian, split, ih, Nat.add_comm, Nat.add_mul_div_right _ _ (Nat.pow_pos (by decide))]
      congr 1
      apply UInt8.toNat_inj.mp
      simp only [UInt8.toNat_ofNat']
      omega
  induction bytes with
  | nil => rfl
  | cons byte rest ih =>
    rw [List.length_cons, bigEndian, ofBigEndian_cons, lower, ih, Nat.add_comm,
      Nat.add_mul_div_right _ _ (Nat.pow_pos (by decide)), Nat.div_eq_of_lt (ofBigEndian_lt rest)]
    simp

@[simp] theorem length_littleEndian (count value : ℕ) : (littleEndian count value).length = count := by
  rw [littleEndian, List.length_reverse, length_bigEndian]

theorem ofLittleEndian_littleEndian (count value : ℕ) :
    ofLittleEndian (littleEndian count value) = value % 256 ^ count := by
  rw [ofLittleEndian, littleEndian, List.reverse_reverse, ofBigEndian_bigEndian]

theorem littleEndian_ofLittleEndian (bytes : List UInt8) :
    littleEndian bytes.length (ofLittleEndian bytes) = bytes := by
  have size : bytes.length = bytes.reverse.length := List.length_reverse.symm
  rw [littleEndian, ofLittleEndian, size, bigEndian_ofBigEndian, List.reverse_reverse]

/-- Bits that do not meet are added. -/
theorem or_shiftLeft_eq_add {low high shift : ℕ} (below : low < 2 ^ shift) :
    low ||| high <<< shift = high * 2 ^ shift + low := by
  rw [Nat.or_comm, ← Nat.shiftLeft_add_eq_or_of_lt below, Nat.shiftLeft_eq]

/-- A byte that is moved inside a word. -/
theorem toNat_toUInt32_shiftLeft (byte : UInt8) {shift : UInt32} (fits : shift.toNat ≤ 24) :
    (byte.toUInt32 <<< shift).toNat = byte.toNat <<< shift.toNat := by
  have below := byte.toNat_lt
  have scale : 2 ^ shift.toNat ≤ 2 ^ 24 := Nat.pow_le_pow_right (by decide) fits
  have product := Nat.mul_le_mul (Nat.le_of_lt_succ below) scale
  have small : shift.toNat % 32 = shift.toNat := Nat.mod_eq_of_lt (by omega)
  rw [UInt32.toNat_shiftLeft, UInt8.toNat_toUInt32, small, Nat.mod_eq_of_lt]
  rw [Nat.shiftLeft_eq]
  omega

theorem ofBigEndian_inj {first second : List UInt8} (length : first.length = second.length)
    (same : ofBigEndian first = ofBigEndian second) : first = second :=
  calc
    first = bigEndian first.length (ofBigEndian first) := (bigEndian_ofBigEndian first).symm
    _ = bigEndian second.length (ofBigEndian second) := by rw [length, same]
    _ = second := bigEndian_ofBigEndian second

end Numbers

section Fields

variable {record bytes : List UInt8} {offset place count : ℕ}

theorem length_bytesAt (inside : offset + count ≤ record.length) :
    (bytesAt record offset count).length = count := by
  rw [bytesAt, List.length_take, List.length_drop]
  omega

theorem getElem?_bytesAt (record : List UInt8) (offset count index : ℕ) :
    (bytesAt record offset count)[index]? =
      if index < count then record[offset + index]? else none := by
  rw [bytesAt, List.getElem?_take]
  split
  · rw [List.getElem?_drop]
  · rfl

@[simp] theorem length_storeAt (record : List UInt8) (place : ℕ) (bytes : List UInt8) :
    (storeAt record place bytes).length = record.length := by
  rw [storeAt, List.length_mapIdx]

theorem getElem?_storeAt (record : List UInt8) (place : ℕ) (bytes : List UInt8) (index : ℕ) :
    (storeAt record place bytes)[index]? =
      record[index]?.map fun byte =>
        if place ≤ index then bytes[index - place]?.getD byte else byte := by
  rw [storeAt, List.getElem?_mapIdx]

/-- A byte apart from the field that is stored. -/
theorem getElem?_storeAt_of_apart {index : ℕ}
    (apart : index < place ∨ place + bytes.length ≤ index) :
    (storeAt record place bytes)[index]? = record[index]? := by
  rw [getElem?_storeAt]
  cases record[index]? with
  | none => rfl
  | some byte =>
    rw [Option.map_some]
    rcases apart with before | after
    · rw [if_neg (by omega)]
    · rw [if_pos (by omega), List.getElem?_eq_none (by omega), Option.getD_none]

/-- The field that was stored. -/
theorem bytesAt_storeAt (inside : place + bytes.length ≤ record.length) :
    bytesAt (storeAt record place bytes) place bytes.length = bytes := by
  apply List.ext_getElem?
  intro index
  rw [getElem?_bytesAt]
  split
  · rename_i within
    have here : place + index < record.length := by omega
    rw [getElem?_storeAt, List.getElem?_eq_getElem here, Option.map_some,
      if_pos (Nat.le_add_right _ _), Nat.add_sub_cancel_left, List.getElem?_eq_getElem within,
      Option.getD_some]
  · rename_i beyond
    rw [List.getElem?_eq_none (not_lt.mp beyond)]

/-- A field apart from the one that is stored. -/
theorem bytesAt_storeAt_of_apart
    (apart : offset + count ≤ place ∨ place + bytes.length ≤ offset) :
    bytesAt (storeAt record place bytes) offset count = bytesAt record offset count := by
  apply List.ext_getElem?
  intro index
  rw [getElem?_bytesAt, getElem?_bytesAt]
  split
  · rename_i within
    exact getElem?_storeAt_of_apart (by omega)
  · rfl

/-- The number that was stored. -/
theorem bytesAt_storeAt_bigEndian (value : ℕ) (inside : place + count ≤ record.length) :
    bytesAt (storeAt record place (bigEndian count value)) place count = bigEndian count value := by
  have stored := @bytesAt_storeAt record (bigEndian count value) place
  rw [length_bigEndian] at stored
  exact stored inside

/-- Fields that meet are one field. -/
theorem bytesAt_append_bytesAt (record : List UInt8) (offset first second : ℕ) :
    bytesAt record offset first ++ bytesAt record (offset + first) second =
      bytesAt record offset (first + second) := by
  unfold bytesAt
  rw [List.take_add, List.drop_drop]

theorem bytesAt_zero_length (record : List UInt8) : bytesAt record 0 record.length = record := by
  rw [bytesAt, List.drop_zero, List.take_length]

/-- Bytes of a known length that were stored. -/
theorem bytesAt_storeAt_self (sized : bytes.length = count)
    (inside : place + count ≤ record.length) :
    bytesAt (storeAt record place bytes) place count = bytes := by
  subst sized
  exact bytesAt_storeAt inside

theorem bytesAt_replicate (length : ℕ) (byte : UInt8) (inside : offset + count ≤ length) :
    bytesAt (List.replicate length byte) offset count = List.replicate count byte := by
  rw [bytesAt, List.drop_replicate, List.take_replicate]
  congr 1
  omega

/-- Records that agree on two fields that meet agree on both. -/
theorem bytesAt_eq_append {other : List UInt8} {first second : ℕ}
    (front : bytesAt record offset first = bytesAt other offset first)
    (back : bytesAt record (offset + first) second = bytesAt other (offset + first) second) :
    bytesAt record offset (first + second) = bytesAt other offset (first + second) := by
  rw [← bytesAt_append_bytesAt, front, back, bytesAt_append_bytesAt]

theorem eq_of_bytesAt {other : List UInt8} (length : record.length = count)
    (same : other.length = count) (fields : bytesAt record 0 count = bytesAt other 0 count) :
    record = other := by
  rwa [← length, bytesAt_zero_length, length, ← same, bytesAt_zero_length] at fields

end Fields

section Loops

/-- Fields of one width, stored one after the other. -/
def storeFields (record : List UInt8) (place width count : ℕ) (field : ℕ → List UInt8) :
    List UInt8 :=
  (List.range count).foldl (fun record index => storeAt record (place + index * width) (field index))
    record

variable {record : List UInt8} {place width count : ℕ} {field : ℕ → List UInt8}

theorem storeFields_succ :
    storeFields record place width (count + 1) field =
      storeAt (storeFields record place width count field) (place + count * width)
        (field count) := by
  rw [storeFields, List.range_succ, List.foldl_append]
  rfl

@[simp] theorem length_storeFields :
    (storeFields record place width count field).length = record.length := by
  induction count with
  | zero => rfl
  | succ count ih => rw [storeFields_succ, length_storeAt, ih]

theorem bytesAt_storeFields_of_apart (sized : ∀ index, (field index).length = width)
    {offset others : ℕ} (apart : offset + others ≤ place ∨ place + count * width ≤ offset) :
    bytesAt (storeFields record place width count field) offset others =
      bytesAt record offset others := by
  induction count with
  | zero => rfl
  | succ count ih =>
    rw [Nat.succ_mul] at apart
    rw [storeFields_succ, bytesAt_storeAt_of_apart (by rw [sized]; omega), ih (by omega)]

/-- The field that was stored at an index. -/
theorem bytesAt_storeFields (sized : ∀ index, (field index).length = width)
    (inside : place + count * width ≤ record.length) {index : ℕ} (below : index < count) :
    bytesAt (storeFields record place width count field) (place + index * width) width =
      field index := by
  induction count with
  | zero => exact absurd below (Nat.not_lt_zero _)
  | succ count ih =>
    rw [Nat.succ_mul] at inside
    rw [storeFields_succ]
    by_cases last : index = count
    · subst last
      exact bytesAt_storeAt_self (sized index) (by rw [length_storeFields]; omega)
    · have before : index * width + width ≤ count * width := by
        rw [← Nat.succ_mul]
        exact Nat.mul_le_mul_right width (by omega)
      rw [bytesAt_storeAt_of_apart (by rw [sized]; omega), ih (by omega) (by omega)]

/-- Records that agree on every field of a row agree on the row. -/
theorem bytesAt_eq_of_fields {other : List UInt8}
    (same : ∀ index < count, bytesAt record (place + index * width) width =
      bytesAt other (place + index * width) width) :
    bytesAt record place (count * width) = bytesAt other place (count * width) := by
  induction count with
  | zero => simp [bytesAt]
  | succ count ih =>
    rw [Nat.succ_mul]
    exact bytesAt_eq_append (ih fun index below => same index (by omega)) (same count (by omega))

end Loops

end GemSim.Lib
