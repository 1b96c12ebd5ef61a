import Mathlib.Algebra.Order.Ring.Nat
import Mathlib.Data.Nat.Bitwise

/-!
# Sixty-four bit words against natural numbers

Machine arithmetic wraps at `2 ^ 64`. These lemmas read the guards a program
writes against wrapping (`a > max - b`, masks, rounding up to an alignment) as
statements about unbounded natural numbers, where `omega` finishes.
-/

namespace GemSim.Lib

/-- The largest 64-bit word. -/
def u64Max : UInt64 := 0xffffffffffffffff

@[simp] theorem toNat_u64Max : u64Max.toNat = 2 ^ 64 - 1 := rfl

theorem toNat_ofNat_of_lt {value : ℕ} (fits : value < 2 ^ 64) :
    (UInt64.ofNat value).toNat = value := by
  rw [UInt64.toNat_ofNat', Nat.mod_eq_of_lt fits]

theorem toNat_add_exact {a b : UInt64} (fits : a.toNat + b.toNat < 2 ^ 64) :
    (a + b).toNat = a.toNat + b.toNat := by
  rw [UInt64.toNat_add, Nat.mod_eq_of_lt fits]

theorem toNat_sub_exact {a b : UInt64} (le : b.toNat ≤ a.toNat) :
    (a - b).toNat = a.toNat - b.toNat :=
  UInt64.toNat_sub_of_le a b (UInt64.le_iff_toNat_le.mpr le)

@[simp] theorem toNat_max_sub (b : UInt64) : (u64Max - b).toNat = 2 ^ 64 - 1 - b.toNat := by
  have bound := b.toNat_lt
  rw [toNat_sub_exact (by rw [toNat_u64Max]; omega), toNat_u64Max]

/-- The overflow guard `a > max - b` fires exactly when the unbounded sum does
not fit a word. -/
theorem max_sub_lt_iff {a b : UInt64} : u64Max - b < a ↔ 2 ^ 64 ≤ a.toNat + b.toNat := by
  have bound := b.toNat_lt
  rw [UInt64.lt_iff_toNat_lt, toNat_max_sub]
  omega

theorem le_max_sub_iff {a b : UInt64} : a ≤ u64Max - b ↔ a.toNat + b.toNat < 2 ^ 64 := by
  rw [← UInt64.not_lt, max_sub_lt_iff]
  omega

/-- The overflow guard `b > max / a` fires exactly when the unbounded product is above the bound. -/
theorem div_lt_iff_lt_mul {bound a b : UInt64} (positive : 0 < a.toNat) :
    bound / a < b ↔ bound.toNat < a.toNat * b.toNat := by
  rw [UInt64.lt_iff_toNat_lt, UInt64.toNat_div, Nat.div_lt_iff_lt_mul positive, Nat.mul_comm]

theorem toNat_mul_exact {a b : UInt64} (fits : a.toNat * b.toNat < 2 ^ 64) :
    (a * b).toNat = a.toNat * b.toNat := by
  rw [UInt64.toNat_mul, Nat.mod_eq_of_lt fits]

theorem ne_zero_iff_toNat_pos {a : UInt64} : a ≠ 0 ↔ 0 < a.toNat := by
  rw [ne_eq, ← UInt64.toNat_inj, UInt64.toNat_zero]
  omega

/-- Decrementing a nonzero word does not wrap. -/
theorem toNat_pred {a : UInt64} (pos : a ≠ 0) : (a - 1).toNat = a.toNat - 1 := by
  have := ne_zero_iff_toNat_pos.mp pos
  exact toNat_sub_exact (by rw [UInt64.toNat_one]; omega)

/-- Incrementing a word below the largest one does not wrap. -/
theorem toNat_succ {a : UInt64} (below : a ≠ u64Max) : (a + 1).toNat = a.toNat + 1 := by
  have bound := a.toNat_lt
  have ne : a.toNat ≠ u64Max.toNat := fun same => below (UInt64.toNat_inj.mp same)
  rw [toNat_u64Max] at ne
  rw [toNat_add_exact (by rw [UInt64.toNat_one]; omega), UInt64.toNat_one]

theorem toNat_succ_of_lt {a b : UInt64} (below : a.toNat < b.toNat) :
    (a + 1).toNat = a.toNat + 1 := by
  refine toNat_succ fun top => ?_
  have bound := b.toNat_lt
  rw [top, toNat_u64Max] at below
  omega

/-- The wrapped sum, when the unbounded one just reaches `2 ^ 64`. -/
theorem add_eq_zero_of_full {a b : UInt64} (full : a.toNat + b.toNat = 2 ^ 64) : a + b = 0 := by
  rw [← UInt64.toNat_inj, UInt64.toNat_add, full]
  rfl

theorem toNat_min (first second : UInt64) :
    (min first second).toNat = min first.toNat second.toNat := by
  rw [UInt64.min_def]
  split
  · rename_i le
    exact (min_eq_left (UInt64.le_iff_toNat_le.mp le)).symm
  · rename_i le
    exact (min_eq_right (Nat.le_of_not_le (mt UInt64.le_iff_toNat_le.mpr le))).symm

theorem toNat_max (first second : UInt64) :
    (max first second).toNat = max first.toNat second.toNat := by
  rw [UInt64.max_def]
  split
  · rename_i le
    exact (max_eq_right (UInt64.le_iff_toNat_le.mp le)).symm
  · rename_i le
    exact (max_eq_left (Nat.le_of_not_le (mt UInt64.le_iff_toNat_le.mpr le))).symm

section Masks

/-- Masking with `2 ^ k - 1` takes the remainder modulo `2 ^ k`. -/
theorem toNat_and_mask (a mask : UInt64) {k : ℕ} (shape : mask.toNat = 2 ^ k - 1) :
    (a &&& mask).toNat = a.toNat % 2 ^ k := by
  rw [UInt64.toNat_and, shape, Nat.and_two_pow_sub_one_eq_mod]

theorem or_and_distrib (a b mask : UInt64) : (a ||| b) &&& mask = (a &&& mask) ||| (b &&& mask) := by
  rw [← UInt64.toBitVec_inj]
  simp only [UInt64.toBitVec_and, UInt64.toBitVec_or]
  rw [BitVec.and_comm, BitVec.and_or_distrib_left, BitVec.and_comm _ a.toBitVec,
    BitVec.and_comm _ b.toBitVec]

/-- A word splits into its bits under a mask and its bits outside it. -/
theorem and_add_and_not (a mask : UInt64) : (a &&& mask) + (a &&& ~~~mask) = a := by
  rw [← UInt64.toBitVec_inj, UInt64.toBitVec_add, UInt64.toBitVec_and, UInt64.toBitVec_and,
    UInt64.toBitVec_not, BitVec.add_eq_or_of_and_eq_zero]
  · rw [← BitVec.and_or_distrib_left, BitVec.or_not_self, BitVec.and_allOnes]
  · ext index
    simp only [BitVec.getElem_and, BitVec.getElem_not, BitVec.getElem_zero]
    cases a.toBitVec[index] <;> cases mask.toBitVec[index] <;> rfl

theorem toNat_and_not_mask (a mask : UInt64) {k : ℕ} (shape : mask.toNat = 2 ^ k - 1) :
    (a &&& ~~~mask).toNat = a.toNat - a.toNat % 2 ^ k := by
  have split := congrArg UInt64.toNat (and_add_and_not a mask)
  have low := toNat_and_mask a mask shape
  have high : (a &&& ~~~mask).toNat ≤ a.toNat := by
    rw [UInt64.toNat_and]
    exact Nat.and_le_left
  have lowLe : a.toNat % 2 ^ k ≤ a.toNat := Nat.mod_le _ _
  have bound := a.toNat_lt
  rw [UInt64.toNat_add, low] at split
  have cases : a.toNat % 2 ^ k + (a &&& ~~~mask).toNat < 2 ^ 64 ∨
      2 ^ 64 ≤ a.toNat % 2 ^ k + (a &&& ~~~mask).toNat := lt_or_ge _ _
  omega

/-- The least multiple of `unit` at or above `size`. -/
def roundUp (size unit : ℕ) : ℕ := (size + (unit - 1)) / unit * unit

theorem le_roundUp {size unit : ℕ} (pos : 0 < unit) : size ≤ roundUp size unit := by
  have division := Nat.div_add_mod (size + (unit - 1)) unit
  have remainder := Nat.mod_lt (size + (unit - 1)) pos
  have := Nat.mul_comm unit ((size + (unit - 1)) / unit)
  unfold roundUp
  omega

theorem roundUp_dvd (size unit : ℕ) : unit ∣ roundUp size unit := Dvd.intro_left _ rfl

/-- Rounding up with a mask computes `roundUp` whenever the addition fits. -/
theorem toNat_roundUp {size unit : UInt64} {k : ℕ} (shape : unit.toNat = 2 ^ k)
    (fits : size.toNat + (2 ^ k - 1) < 2 ^ 64) :
    ((size + unit - 1) &&& ~~~(unit - 1)).toNat = roundUp size.toNat (2 ^ k) := by
  have pos : 0 < 2 ^ k := Nat.two_pow_pos k
  have bound := unit.toNat_lt
  have predecessor : (unit - 1).toNat = 2 ^ k - 1 := by
    rw [toNat_sub_exact (by rw [UInt64.toNat_one]; omega), UInt64.toNat_one, shape]
  have regroup : size + unit - 1 = size + (unit - 1) := by
    rw [UInt64.sub_eq_add_neg, UInt64.sub_eq_add_neg, UInt64.add_assoc]
  have sum : (size + unit - 1).toNat = size.toNat + (2 ^ k - 1) := by
    rw [regroup, toNat_add_exact (by rw [predecessor]; exact fits), predecessor]
  rw [toNat_and_not_mask _ _ predecessor, sum, roundUp]
  have division := Nat.div_add_mod (size.toNat + (2 ^ k - 1)) (2 ^ k)
  rw [Nat.mul_comm] at division
  omega

end Masks

/-- A signed word that is not negative, read without its sign. -/
theorem toNat_toUInt64_of_nonneg {value : Int64} (nonneg : 0 ≤ value.toInt) :
    (value.toUInt64.toNat : ℤ) = value.toInt := by
  have below := value.toInt_lt
  have word : value.toInt = value.toUInt64.toBitVec.toInt := rfl
  rw [word, BitVec.toInt_eq_toNat_cond] at nonneg below ⊢
  have same : value.toUInt64.toBitVec.toNat = value.toUInt64.toNat := rfl
  rw [same] at nonneg below ⊢
  have bound := value.toUInt64.toNat_lt
  split at nonneg
  · rename_i small
    rw [if_pos small]
  · omega

/-- The magnitude of a negative word, computed without the opposite of the least one. -/
theorem toNat_magnitude {value : Int64} (negative : value.toInt < 0) :
    ((-(value + 1)).toUInt64 + 1).toNat = (-value.toInt).toNat := by
  have least := value.le_toInt
  have next : (value + 1).toInt = value.toInt + 1 := by
    rw [Int64.toInt_add, Int64.toInt_one]
    exact Int.bmod_eq_of_le (by omega) (by omega)
  have opposite : (-(value + 1)).toInt = -(value.toInt + 1) := by
    rw [Int64.toInt_neg, next]
    exact Int.bmod_eq_of_le (by omega) (by omega)
  have word := toNat_toUInt64_of_nonneg (by rw [opposite]; omega : 0 ≤ (-(value + 1)).toInt)
  rw [opposite] at word
  rw [toNat_add_exact (by rw [UInt64.toNat_one]; omega), UInt64.toNat_one]
  omega
end GemSim.Lib
