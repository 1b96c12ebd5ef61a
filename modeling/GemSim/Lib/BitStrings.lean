import GemSim.Lib.Records
import Mathlib.Data.Nat.Bitwise

/-!
# Bit strings

A bit string lists its bits with the highest first. A number has a string of any length, which is
that of its lowest bits, and the string of some bytes is that of the number they spell with the
highest byte first.

## Main definitions

* `natBits`, `ofBits` — the lowest bits of a number, and the number of some bits
* `byteBits` — the bits of some bytes

## Main results

* `byteBits_eq_natBits` — the bits of bytes are those of their number
* `ofBits_natBits` — a number is read back
-/

namespace GemSim.Lib

/-- The lowest bits of a number, the highest of them first. -/
def natBits : ℕ → ℕ → List Bool
  | 0, _ => []
  | count + 1, value => value.testBit count :: natBits count value

/-- The number whose bits these are, the highest first. -/
def ofBits (bits : List Bool) : ℕ := bits.foldl (fun value bit => 2 * value + bit.toNat) 0

def byteBits (bytes : List UInt8) : List Bool := bytes.flatMap fun byte => natBits 8 byte.toNat

section Numbers

@[simp] theorem length_natBits (count value : ℕ) : (natBits count value).length = count := by
  induction count with
  | zero => rfl
  | succ count ih => rw [natBits, List.length_cons, ih]

/-- The higher bits stand before the lower ones. -/
theorem natBits_add (high low value : ℕ) :
    natBits (high + low) value = natBits high (value / 2 ^ low) ++ natBits low value := by
  induction high with
  | zero => rw [Nat.zero_add, natBits, List.nil_append]
  | succ high ih =>
    rw [Nat.succ_add, natBits, natBits, ih, Nat.testBit_div_two_pow, List.cons_append]

/-- Only the lowest bits count. -/
theorem natBits_mod (count value : ℕ) : natBits count (value % 2 ^ count) = natBits count value := by
  have lower : ∀ few ≤ count, natBits few (value % 2 ^ count) = natBits few value := by
    intro few
    induction few with
    | zero => intro _; rfl
    | succ few ih =>
      intro inside
      rw [natBits, natBits, ih (Nat.le_of_succ_le inside), Nat.testBit_mod_two_pow,
        decide_eq_true (Nat.lt_of_succ_le inside), Bool.true_and]
  exact lower count le_rfl

theorem natBits_mul_add (count low high : ℕ) :
    natBits count (high * 2 ^ count + low) = natBits count low := by
  rw [← natBits_mod, Nat.mul_comm, Nat.mul_add_mod, natBits_mod]

theorem foldl_ofBits (bits : List Bool) (start : ℕ) :
    bits.foldl (fun value bit => 2 * value + bit.toNat) start =
      start * 2 ^ bits.length + ofBits bits := by
  unfold ofBits
  induction bits generalizing start with
  | nil => simp
  | cons bit rest ih =>
    rw [List.foldl_cons, ih, List.foldl_cons, ih (2 * 0 + bit.toNat), List.length_cons, pow_succ]
    ring

theorem ofBits_cons (bit : Bool) (rest : List Bool) :
    ofBits (bit :: rest) = bit.toNat * 2 ^ rest.length + ofBits rest := by
  rw [ofBits, List.foldl_cons, foldl_ofBits, Nat.mul_zero, Nat.zero_add]

/-- A number is read back from its lowest bits. -/
theorem ofBits_natBits (count value : ℕ) : ofBits (natBits count value) = value % 2 ^ count := by
  induction count with
  | zero => rw [natBits, pow_zero, Nat.mod_one]; rfl
  | succ count ih =>
    have split := Nat.mod_mul (x := value) (a := 2 ^ count) (b := 2)
    rw [natBits, ofBits_cons, length_natBits, ih, pow_succ, split, Nat.toNat_testBit, Nat.mul_comm,
      Nat.add_comm]

end Numbers

section Bytes

@[simp] theorem byteBits_nil : byteBits [] = [] := rfl

theorem byteBits_cons (byte : UInt8) (rest : List UInt8) :
    byteBits (byte :: rest) = natBits 8 byte.toNat ++ byteBits rest := List.flatMap_cons

theorem byteBits_append (first second : List UInt8) :
    byteBits (first ++ second) = byteBits first ++ byteBits second := List.flatMap_append

@[simp] theorem length_byteBits (bytes : List UInt8) : (byteBits bytes).length = 8 * bytes.length := by
  induction bytes with
  | nil => rfl
  | cons byte rest ih =>
    rw [byteBits_cons, List.length_append, ih, length_natBits, List.length_cons]
    omega

theorem drop_byteBits (bytes : List UInt8) (count : ℕ) :
    (byteBits bytes).drop (8 * count) = byteBits (bytes.drop count) := by
  induction count generalizing bytes with
  | zero => rfl
  | succ count ih =>
    cases bytes with
    | nil => rfl
    | cons byte rest =>
      have size : 8 * (count + 1) = (natBits 8 byte.toNat).length + 8 * count := by
        rw [length_natBits]
        omega
      rw [byteBits_cons, size, ← List.drop_drop, List.drop_left, ih, List.drop_succ_cons]

theorem take_byteBits (bytes : List UInt8) (count : ℕ) :
    (byteBits bytes).take (8 * count) = byteBits (bytes.take count) := by
  by_cases short : count ≤ bytes.length
  · have split := byteBits_append (bytes.take count) (bytes.drop count)
    rw [List.take_append_drop] at split
    rw [split, List.take_left']
    rw [length_byteBits, List.length_take, Nat.min_eq_left short]
  · rw [List.take_of_length_le (by omega : bytes.length ≤ count),
      List.take_of_length_le (by rw [length_byteBits]; omega)]

/-- The bits of some bytes are those of the number the bytes spell. -/
theorem byteBits_eq_natBits (bytes : List UInt8) :
    byteBits bytes = natBits (8 * bytes.length) (ofBigEndian bytes) := by
  induction bytes with
  | nil => rfl
  | cons byte rest ih =>
    have power : (256 : ℕ) ^ rest.length = 2 ^ (8 * rest.length) := (Nat.pow_mul 2 8 _).symm
    have below := ofBigEndian_lt rest
    have size : 8 * (byte :: rest).length = 8 + 8 * rest.length := by
      rw [List.length_cons]
      omega
    rw [power] at below
    rw [byteBits_cons, ih, size, natBits_add, ofBigEndian_cons, power, natBits_mul_add,
      Nat.add_comm, Nat.add_mul_div_right _ _ (Nat.pow_pos (by decide)), Nat.div_eq_of_lt below,
      Nat.zero_add]

/-- Reading the bits of bytes is reading the bytes. -/
theorem ofBits_byteBits (bytes : List UInt8) : ofBits (byteBits bytes) = ofBigEndian bytes := by
  have below := ofBigEndian_lt bytes
  have power : (256 : ℕ) ^ bytes.length = 2 ^ (8 * bytes.length) := (Nat.pow_mul 2 8 _).symm
  rw [byteBits_eq_natBits, ofBits_natBits, Nat.mod_eq_of_lt (power ▸ below)]

end Bytes

end GemSim.Lib
