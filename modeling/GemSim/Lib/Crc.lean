import Mathlib

/-!
# Cyclic redundancy checks

A cyclic redundancy check reads a message as a polynomial and keeps the remainder of its
division by a generator. Here the digits of the register and of every byte are reflected: the
low bit is the coefficient of the highest power. The register is shifted once for every bit of
the message, and the generator is subtracted whenever a digit leaves the register.

## Main definitions

* `remainder` — the remainder of a message behind the first contents of the register
* `toPoly`, `ofPoly` — a reflected register as a polynomial, and back
* `crcBit`, `crcByte` — one shift, and the eight shifts of a byte
* `message` — the bytes of a message as one polynomial
* `reflectedCrc` — the check value by division

## Main results

* `not_dvd_burst` — a generator with a constant term divides no burst shorter than itself
* `toPoly_foldl_crcByte` — the shifts compute the remainder
* `foldl_crcByte_ne` — messages that differ in one burst have different check values
-/

namespace GemSim.Lib.Crc

open Polynomial

section Division

variable {K : Type*} [Field K] {generator : K[X]} {width count : ℕ}

/-- The remainder of a message of `count` digits behind an initial register. -/
noncomputable def remainder (generator : K[X]) (width count : ℕ) (initial message : K[X]) : K[X] :=
  (X ^ count * initial + X ^ width * message) %ₘ generator

theorem isCoprime_X_pow (constant : generator.coeff 0 ≠ 0) (count : ℕ) :
    IsCoprime generator (X ^ count) := by
  apply IsCoprime.pow_right
  refine (Polynomial.irreducible_X.coprime_iff_not_dvd.mpr ?_).symm
  rw [X_dvd_iff]
  exact constant

/-- A generator with a constant term divides no burst shorter than itself. -/
theorem not_dvd_burst (constant : generator.coeff 0 ≠ 0) {burst : K[X]} (some : burst ≠ 0)
    (short : burst.degree < generator.degree) (place : ℕ) : ¬generator ∣ X ^ place * burst := by
  intro divides
  have alone := (isCoprime_X_pow constant place).dvd_of_dvd_mul_left divides
  exact not_dvd_of_degree_lt some short alone

/-- Two messages have one remainder exactly when the generator divides their difference. -/
theorem remainder_eq_iff (monic : generator.Monic) (constant : generator.coeff 0 ≠ 0)
    {initial first second : K[X]} :
    remainder generator width count initial first =
      remainder generator width count initial second ↔ generator ∣ first - second := by
  unfold remainder
  rw [← sub_eq_zero, ← sub_modByMonic, modByMonic_eq_zero_iff_dvd monic, add_sub_add_left_eq_sub,
    ← mul_sub]
  exact ⟨(isCoprime_X_pow constant width).dvd_of_dvd_mul_left, fun divides => divides.mul_left _⟩

/-- A factor may be reduced before the product is. -/
theorem mul_mod (monic : generator.Monic) (first second : K[X]) :
    (first * (second %ₘ generator)) %ₘ generator = (first * second) %ₘ generator := by
  have reduced : second %ₘ generator %ₘ generator = second %ₘ generator :=
    (modByMonic_eq_self_iff monic).mpr (degree_modByMonic_lt _ monic)
  rw [mul_modByMonic, reduced, ← mul_modByMonic]

end Division

section Registers

variable {w : ℕ}

/-- A reflected register as a polynomial. -/
noncomputable def toPoly (register : BitVec w) : (ZMod 2)[X] :=
  ∑ place ∈ Finset.range w, if register.getMsbD place then X ^ place else 0

theorem coeff_toPoly (register : BitVec w) (place : ℕ) :
    (toPoly register).coeff place = if register.getMsbD place then 1 else 0 := by
  unfold toPoly
  rw [finsetSum_coeff]
  have terms : ∀ other,
      (if register.getMsbD other then (X : (ZMod 2)[X]) ^ other else 0).coeff place =
        if place = other then (if register.getMsbD other then 1 else 0) else 0 := by
    intro other
    by_cases set : register.getMsbD other = true
    · rw [if_pos set, if_pos set, coeff_X_pow]
    · rw [if_neg set, if_neg set, coeff_zero, ite_self]
  simp only [terms, Finset.sum_ite_eq, Finset.mem_range]
  split
  · rfl
  · rename_i beyond
    rw [BitVec.getMsbD_of_ge _ _ (not_lt.mp beyond), if_neg Bool.false_ne_true]

theorem degree_toPoly_lt (register : BitVec w) : (toPoly register).degree < w := by
  rw [degree_lt_iff_coeff_zero]
  intro place beyond
  rw [coeff_toPoly, BitVec.getMsbD_of_ge _ _ beyond, if_neg Bool.false_ne_true]

theorem toPoly_injective : Function.Injective (toPoly (w := w)) := by
  intro first second same
  apply BitVec.eq_of_getMsbD_eq
  intro place _
  have equal := congrArg (coeff · place) same
  simp only [coeff_toPoly] at equal
  revert equal
  cases first.getMsbD place <;> cases second.getMsbD place <;> simp

@[simp] theorem toPoly_zero : toPoly (0#w) = 0 := by
  ext place
  rw [coeff_toPoly]
  simp

theorem toPoly_xor (first second : BitVec w) :
    toPoly (first ^^^ second) = toPoly first + toPoly second := by
  ext place
  rw [coeff_add, coeff_toPoly, coeff_toPoly, coeff_toPoly, BitVec.getMsbD_xor]
  cases first.getMsbD place <;> cases second.getMsbD place <;> decide

/-- The register of a polynomial: the reflection of its lowest coefficients. -/
noncomputable def ofPoly (w : ℕ) (polynomial : (ZMod 2)[X]) : BitVec w :=
  BitVec.ofFnLE fun place => polynomial.coeff (w - 1 - place) = 1

theorem ofPoly_toPoly (register : BitVec w) : ofPoly w (toPoly register) = register := by
  apply BitVec.eq_of_getLsbD_eq
  intro place within
  have reflected : register.getMsbD (w - 1 - place) = register.getLsbD place := by
    rw [BitVec.getMsbD_eq_getLsbD]
    simp only [show w - 1 - place < w by omega, decide_true, Bool.true_and]
    congr 1
    omega
  unfold ofPoly
  rw [BitVec.getLsbD_ofFnLE, dif_pos within, coeff_toPoly, reflected]
  cases register.getLsbD place <;> simp

/-- The generator of a reflected constant, with its highest power. -/
noncomputable def generatorOf (constant : BitVec w) : (ZMod 2)[X] := X ^ w + toPoly constant

theorem monic_generatorOf (constant : BitVec w) : (generatorOf constant).Monic :=
  monic_X_pow_add (degree_toPoly_lt constant)

theorem degree_generatorOf (constant : BitVec w) : (generatorOf constant).degree = w := by
  unfold generatorOf
  rw [degree_add_eq_left_of_degree_lt, degree_X_pow]
  rw [degree_X_pow]
  exact degree_toPoly_lt constant

theorem coeff_zero_generatorOf {constant : BitVec w} (positive : 0 < w)
    (odd : constant.getMsbD 0 = true) : (generatorOf constant).coeff 0 ≠ 0 := by
  unfold generatorOf
  rw [coeff_add, coeff_X_pow, if_neg positive.ne, coeff_toPoly, if_pos odd]
  decide

/-- One shift of the register. -/
def crcBit (constant register : BitVec w) : BitVec w :=
  if register.getLsbD 0 then (register >>> 1) ^^^ constant else register >>> 1

/-- The digit that a shift pushes out is the coefficient of the highest power. -/
theorem X_mul_toPoly (register : BitVec w) :
    X * toPoly register =
      toPoly (register >>> 1) + if register.getLsbD 0 then X ^ w else 0 := by
  have pushed : ∀ place, (if register.getLsbD 0 then (X : (ZMod 2)[X]) ^ w else 0).coeff place =
      if place = w ∧ register.getLsbD 0 then 1 else 0 := by
    intro place
    by_cases low : register.getLsbD 0 = true
    · rw [if_pos low, coeff_X_pow]
      simp [low]
    · rw [if_neg low, coeff_zero, if_neg fun both => low both.2]
  ext place
  rw [coeff_add, coeff_toPoly, BitVec.getMsbD_ushiftRight, pushed]
  cases place with
  | zero =>
    rw [coeff_X_mul_zero]
    by_cases empty : w = 0
    · subst empty
      simp
    · simp [Ne.symm empty]
  | succ place =>
    rw [coeff_X_mul, coeff_toPoly]
    rcases lt_trichotomy (place + 1) w with inside | rfl | beyond
    · simp [inside, inside.ne]
    · simp [BitVec.getMsbD_eq_getLsbD]
    · rw [BitVec.getMsbD_of_ge _ _ (by omega)]
      simp [beyond.not_gt, beyond.ne']

theorem toPoly_crcBit (constant register : BitVec w) :
    toPoly (crcBit constant register) = (X * toPoly register) %ₘ generatorOf constant := by
  refine (div_modByMonic_unique (if register.getLsbD 0 then 1 else 0) _
    (monic_generatorOf constant) ⟨?_, ?_⟩).2.symm
  · unfold crcBit generatorOf
    rw [X_mul_toPoly]
    by_cases low : register.getLsbD 0 = true
    · rw [if_pos low, if_pos low, if_pos low, toPoly_xor, mul_one, add_assoc, add_comm (X ^ w),
        ← add_assoc (toPoly constant), CharTwo.add_self_eq_zero, zero_add]
    · rw [if_neg low, if_neg low, if_neg low, mul_zero]
  · rw [degree_generatorOf]
    exact degree_toPoly_lt _

/-- The shifts of the register for several bits. -/
theorem toPoly_iterate_crcBit (constant register : BitVec w) (count : ℕ) :
    toPoly ((crcBit constant)^[count] register) =
      (X ^ count * toPoly register) %ₘ generatorOf constant := by
  induction count with
  | zero =>
    rw [Function.iterate_zero_apply, pow_zero, one_mul,
      (modByMonic_eq_self_iff (monic_generatorOf constant)).mpr]
    rw [degree_generatorOf]
    exact degree_toPoly_lt register
  | succ count ih =>
    rw [Function.iterate_succ_apply', toPoly_crcBit, ih, mul_mod (monic_generatorOf constant),
      pow_succ', mul_assoc]

/-- The low bits of a register from a byte. -/
def widen (w : ℕ) (byte : UInt8) : BitVec w := byte.toBitVec.setWidth w

theorem toPoly_widen (wide : 8 ≤ w) (byte : UInt8) :
    toPoly (widen w byte) = X ^ (w - 8) * toPoly byte.toBitVec := by
  ext place
  rw [coeff_toPoly, widen, BitVec.getMsbD_setWidth, coeff_X_pow_mul', coeff_toPoly]
  by_cases high : w - 8 ≤ place
  · rw [if_pos high, decide_eq_true high, Bool.true_and]
    congr 3
    omega
  · rw [if_neg high, decide_eq_false high, Bool.false_and, if_neg Bool.false_ne_true]

/-- The eight shifts of the register for a byte. -/
def crcByte (constant register : BitVec w) (byte : UInt8) : BitVec w :=
  (crcBit constant)^[8] (register ^^^ widen w byte)

/-- The bytes of a message as one polynomial: the low bit of the first byte is the
coefficient of the highest power. -/
noncomputable def message (data : List UInt8) : (ZMod 2)[X] :=
  data.foldl (fun before byte => X ^ 8 * before + toPoly byte.toBitVec) 0

@[simp] theorem message_nil : message [] = 0 := rfl

theorem message_concat (data : List UInt8) (byte : UInt8) :
    message (data ++ [byte]) = X ^ 8 * message data + toPoly byte.toBitVec := by
  rw [message, List.foldl_append]
  rfl

theorem message_append (first second : List UInt8) :
    message (first ++ second) = X ^ (8 * second.length) * message first + message second := by
  induction second using List.reverseRecOn with
  | nil => simp
  | append_singleton second byte ih =>
    rw [← List.append_assoc, message_concat, ih, message_concat, List.length_append,
      List.length_singleton]
    ring

theorem degree_message_lt (data : List UInt8) :
    (message data).degree < (8 * data.length : ℕ) := by
  induction data using List.reverseRecOn with
  | nil => simp
  | append_singleton data byte ih =>
    rw [degree_lt_iff_coeff_zero] at ih ⊢
    intro place beyond
    rw [List.length_append, List.length_singleton] at beyond
    rw [message_concat, coeff_add, coeff_X_pow_mul', if_pos (by omega), ih _ (by omega),
      coeff_toPoly, BitVec.getMsbD_of_ge _ _ (by omega), if_neg Bool.false_ne_true, add_zero]

/-- The shifts compute the remainder of the message. -/
theorem toPoly_foldl_crcByte (wide : 8 ≤ w) (constant initial : BitVec w) (data : List UInt8) :
    toPoly (data.foldl (crcByte constant) initial) =
      remainder (generatorOf constant) w (8 * data.length) (toPoly initial) (message data) := by
  unfold remainder
  induction data using List.reverseRecOn with
  | nil =>
    have small : (toPoly initial).degree < (generatorOf constant).degree := by
      rw [degree_generatorOf]
      exact degree_toPoly_lt initial
    simpa using ((modByMonic_eq_self_iff (monic_generatorOf constant)).mpr small).symm
  | append_singleton data byte ih =>
    have shifted : (X : (ZMod 2)[X]) ^ 8 * (X ^ (w - 8) * toPoly byte.toBitVec) =
        X ^ w * toPoly byte.toBitVec := by
      rw [← mul_assoc, ← pow_add, Nat.add_sub_cancel' wide]
    rw [List.foldl_append, List.foldl_cons, List.foldl_nil, crcByte, toPoly_iterate_crcBit,
      toPoly_xor, toPoly_widen wide, mul_add, shifted, add_modByMonic, ih,
      mul_mod (monic_generatorOf constant), ← add_modByMonic, message_concat, List.length_append,
      List.length_singleton]
    exact congrArg (· %ₘ generatorOf constant) (by ring)

/-- The check value by division, with the register complemented by a constant at the end. -/
noncomputable def reflectedCrc (generator : (ZMod 2)[X]) (initial final : BitVec w)
    (data : List UInt8) : BitVec w :=
  ofPoly w (remainder generator w (8 * data.length) (toPoly initial) (message data)) ^^^ final

theorem foldl_crcByte_eq (wide : 8 ≤ w) (constant initial final : BitVec w) (data : List UInt8) :
    data.foldl (crcByte constant) initial ^^^ final =
      reflectedCrc (generatorOf constant) initial final data := by
  unfold reflectedCrc
  rw [← toPoly_foldl_crcByte wide, ofPoly_toPoly]

theorem message_inj {first second : List UInt8} (length : first.length = second.length)
    (same : message first = message second) : first = second := by
  induction first using List.reverseRecOn generalizing second with
  | nil => exact (List.length_eq_zero_iff.mp length.symm).symm
  | append_singleton first byte ih =>
    obtain ⟨second, other, rfl⟩ : ∃ rest last, second = rest ++ [last] :=
      ⟨_, _, (List.dropLast_append_getLast (by
        rintro rfl
        simp at length)).symm⟩
    rw [message_concat, message_concat] at same
    have bytes : byte = other := by
      apply UInt8.toBitVec_inj.mp
      apply toPoly_injective
      ext place
      by_cases low : place < 8
      · have equal := congrArg (coeff · place) same
        simpa [coeff_X_pow_mul', not_le.mpr low] using equal
      · rw [coeff_toPoly, coeff_toPoly, BitVec.getMsbD_of_ge _ _ (not_lt.mp low),
          BitVec.getMsbD_of_ge _ _ (not_lt.mp low)]
    subst bytes
    have before := mul_left_cancel₀ (pow_ne_zero 8 X_ne_zero) (add_right_cancel same)
    rw [ih (by simpa using length) before]

/-- Messages that differ in one burst, not longer than the register, have different check
values. -/
theorem foldl_crcByte_ne (wide : 8 ≤ w) {constant : BitVec w} (odd : constant.getMsbD 0 = true)
    (initial : BitVec w) (before after : List UInt8) {first second : List UInt8}
    (length : first.length = second.length) (short : 8 * first.length ≤ w)
    (different : first ≠ second) :
    (before ++ first ++ after).foldl (crcByte constant) initial ≠
      (before ++ second ++ after).foldl (crcByte constant) initial := by
  intro same
  have remainders := congrArg toPoly same
  have total : (before ++ first ++ after).length = (before ++ second ++ after).length := by
    simp [length]
  have unit := coeff_zero_generatorOf (by omega) odd
  rw [toPoly_foldl_crcByte wide, toPoly_foldl_crcByte wide, total,
    remainder_eq_iff (monic_generatorOf constant) unit, message_append (before ++ first),
    message_append before first, message_append (before ++ second), message_append before second,
    length] at remainders
  have burst : message first - message second ≠ 0 :=
    sub_ne_zero.mpr fun equal => different (message_inj length equal)
  have small : (message first - message second).degree < (generatorOf constant).degree := by
    rw [degree_generatorOf]
    refine lt_of_le_of_lt (degree_sub_le _ _) (max_lt ?_ ?_)
    · exact (degree_message_lt first).trans_le (by exact_mod_cast short)
    · exact (degree_message_lt second).trans_le (by exact_mod_cast length ▸ short)
  refine not_dvd_burst unit burst small (8 * after.length) ?_
  convert remainders using 1
  ring

/-- The same for messages that agree outside a window. -/
theorem foldl_crcByte_ne_of_window (wide : 8 ≤ w) {constant : BitVec w}
    (odd : constant.getMsbD 0 = true) (initial : BitVec w) {first second : List UInt8}
    {start count : ℕ} (length : first.length = second.length) (short : 8 * count ≤ w)
    (window : ∀ index, index < start ∨ start + count ≤ index → first[index]? = second[index]?)
    (different : first ≠ second) :
    first.foldl (crcByte constant) initial ≠ second.foldl (crcByte constant) initial := by
  have parts : ∀ data : List UInt8,
      data = data.take start ++ (data.drop start).take count ++ data.drop (start + count) := by
    intro data
    rw [List.append_assoc, ← List.drop_drop, List.take_append_drop, List.take_append_drop]
  have before : first.take start = second.take start := by
    apply List.ext_getElem?
    intro index
    rw [List.getElem?_take, List.getElem?_take]
    split
    · exact window index (.inl ‹_›)
    · rfl
  have after : first.drop (start + count) = second.drop (start + count) := by
    apply List.ext_getElem?
    intro index
    rw [List.getElem?_drop, List.getElem?_drop]
    exact window _ (.inr (Nat.le_add_right _ _))
  have middle : ((first.drop start).take count).length = ((second.drop start).take count).length := by
    rw [List.length_take, List.length_take, List.length_drop, List.length_drop, length]
  have bursts : (first.drop start).take count ≠ (second.drop start).take count := by
    intro same
    exact different (by rw [parts first, parts second, before, same, after])
  rw [parts first, parts second, before, after]
  refine foldl_crcByte_ne wide odd initial _ _ middle ?_ bursts
  refine le_trans (Nat.mul_le_mul_left 8 ?_) short
  rw [List.length_take]
  exact min_le_left _ _

end Registers

end GemSim.Lib.Crc
