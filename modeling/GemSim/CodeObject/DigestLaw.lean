import GemSim.CodeObject.Sha256
import GemSim.Lib.Sha2
import Mathlib.Data.Nat.Prime.Basic

/-!
# The law of the digest

The digest of an image is the one of the secure hash algorithm. The image is a vector of bytes and
the algorithm is about bit strings, so that the padding, the words and the digest itself are
compared by their bits. The constants are compared by the roots they come from.

## Main definitions

* `registers` — the working words as those of the algorithm

## Main results

* `constant_eq`, `initial_eq` — the tables hold the roots of primes
* `byteBits_padded` — the padding in bytes is the padding in bits
* `registers_compress` — one block
* `sha256_eq_hash` — the digest
-/

namespace GemSim.CodeObject

open GemSim.Lib

section Constants

/-- The primes that the constants come from. -/
def primes : List ℕ :=
  [2, 3, 5, 7, 11, 13, 17, 19, 23, 29, 31, 37, 41, 43, 47, 53, 59, 61, 67, 71, 73, 79, 83, 89, 97,
    101, 103, 107, 109, 113, 127, 131, 137, 139, 149, 151, 157, 163, 167, 173, 179, 181, 191, 193,
    197, 199, 211, 223, 227, 229, 233, 239, 241, 251, 257, 263, 269, 271, 277, 281, 283, 293, 307,
    311]

/-- No number below eighteen shows that a number is not prime. -/
def Trial (number : ℕ) : Prop :=
  2 ≤ number ∧ ∀ divisor : ℕ, divisor < 18 → 2 ≤ divisor → divisor * divisor ≤ number →
    number % divisor ≠ 0

instance (number : ℕ) : Decidable (Trial number) := inferInstanceAs (Decidable (_ ∧ _))

/-- Below the square of eighteen, the trial decides. -/
theorem prime_iff_trial {number : ℕ} (small : number < 18 * 18) : number.Prime ↔ Trial number := by
  rw [Nat.prime_def_le_sqrt]
  refine and_congr_right fun _ => ?_
  constructor
  · intro none divisor _ some square divides
    exact none divisor some (Nat.le_sqrt.mpr square) (Nat.dvd_of_mod_eq_zero divides)
  · intro none divisor some root divides
    have square := Nat.le_sqrt.mp root
    refine none divisor ?_ some square (Nat.mod_eq_zero_of_dvd divides)
    by_contra large
    have scaled := Nat.mul_le_mul (not_lt.mp large) (not_lt.mp large)
    omega

theorem filter_prime : (List.range 312).filter (fun number => Nat.Prime number) = primes := by
  have trial : ∀ number ∈ List.range 312, decide (Nat.Prime number) = decide (Trial number) := by
    intro number member
    rw [List.mem_range] at member
    exact decide_eq_decide.mpr (prime_iff_trial (member.trans (by decide)))
  rw [List.filter_congr trial]
  decide +kernel

theorem nth_prime {index prime : ℕ} (found : primes[index]? = some prime) :
    Nat.nth Nat.Prime index = prime := by
  rw [← filter_prime] at found
  exact Sha2.nth_of_filter_range found

/-- A word with the bits behind the point of a root of a prime. -/
def IsFraction (degree prime : ℕ) (word : UInt32) : Prop :=
  ∃ whole < 18, (whole * 2 ^ 32 + word.toNat) ^ degree ≤ prime * 2 ^ (32 * degree) ∧
    prime * 2 ^ (32 * degree) < (whole * 2 ^ 32 + word.toNat + 1) ^ degree

instance (degree prime : ℕ) (word : UInt32) : Decidable (IsFraction degree prime word) :=
  inferInstanceAs (Decidable (∃ whole < 18, _))

theorem fraction_of_isFraction {degree prime : ℕ} {word : UInt32} (positive : degree ≠ 0)
    (root : IsFraction degree prime word) : Sha2.fraction degree prime = word.toBitVec := by
  obtain ⟨whole, -, lower, upper⟩ := root
  rw [Sha2.fraction_eq positive lower upper]
  apply BitVec.eq_of_toNat_eq
  rw [BitVec.toNat_ofNat, Nat.mul_comm, Nat.mul_add_mod, Nat.mod_eq_of_lt word.toNat_lt]
  rfl

theorem cubeRoots : ∀ index < 64, ∃ prime ∈ primes[index]?, ∃ word ∈ Sha256Constants[index]?,
    IsFraction 3 prime word := by
  decide +kernel

/-- The table holds the constants of the rounds. -/
theorem constant_eq {index : ℕ} (inside : index < 64) :
    Sha2.constant index = (Sha256Constants.getD index 0).toBitVec := by
  obtain ⟨prime, there, word, found, root⟩ := cubeRoots index inside
  rw [Sha2.constant, nth_prime there, fraction_of_isFraction (by decide) root,
    List.getD_eq_getElem?_getD, found, Option.getD_some]

theorem squareRoots : ∀ index < 8, ∃ prime ∈ primes[index]?, ∃ word ∈ ({} : Working).words[index]?,
    IsFraction 2 prime word := by
  decide +kernel

theorem initialWord_eq {index : ℕ} (inside : index < 8) :
    Sha2.initialWord index = (({} : Working).words.getD index 0).toBitVec := by
  obtain ⟨prime, there, word, found, root⟩ := squareRoots index inside
  rw [Sha2.initialWord, nth_prime there, fraction_of_isFraction (by decide) root,
    List.getD_eq_getElem?_getD, found, Option.getD_some]

end Constants

section Rounds

variable {bytes image : List UInt8} {block index count : ℕ}

/-- A rotation, by its two shifts. -/
theorem toBitVec_rotateRight (value : UInt32) {amount : UInt32} (positive : 0 < amount.toNat)
    (below : amount.toNat < 32) :
    (rotateRight value amount).toBitVec = value.toBitVec.rotateRight amount.toNat := by
  have word : ∀ shift : UInt32, shift.toNat < 32 →
      (shift.toBitVec % (32 : BitVec 32)).toNat = shift.toNat := by
    intro shift small
    rw [BitVec.toNat_umod]
    exact Nat.mod_eq_of_lt small
  have left : (32 - amount).toNat = 32 - amount.toNat :=
    UInt32.toNat_sub_of_le _ _ (UInt32.le_iff_toNat_le.mpr below.le)
  rw [rotateRight, UInt32.toBitVec_or, UInt32.toBitVec_shiftRight, UInt32.toBitVec_shiftLeft,
    BitVec.ushiftRight_eq', BitVec.shiftLeft_eq', BitVec.rotateRight_def]
  have right := word amount below
  have back := word (32 - amount) (by omega)
  rw [Nat.mod_eq_of_lt below, ← left, ← back, ← right]

/-- The working words, as those of the algorithm. -/
def registers (working : Working) : Sha2.Registers where
  a := working.a.toBitVec
  b := working.b.toBitVec
  c := working.c.toBitVec
  d := working.d.toBitVec
  e := working.e.toBitVec
  f := working.f.toBitVec
  g := working.g.toBitVec
  h := working.h.toBitVec

theorem registers_round (working : Working) (input : UInt32 × UInt32) :
    registers (round working input) =
      Sha2.round (registers working) input.1.toBitVec input.2.toBitVec := by
  simp only [round, registers, Sha2.round, Sha2.upperSigma0, Sha2.upperSigma1, Sha2.choose,
    Sha2.majority, UInt32.toBitVec_add, UInt32.toBitVec_xor, UInt32.toBitVec_and,
    UInt32.toBitVec_not, @toBitVec_rotateRight _ 2 (by decide) (by decide),
    @toBitVec_rotateRight _ 6 (by decide) (by decide),
    @toBitVec_rotateRight _ 11 (by decide) (by decide),
    @toBitVec_rotateRight _ 13 (by decide) (by decide),
    @toBitVec_rotateRight _ 22 (by decide) (by decide),
    @toBitVec_rotateRight _ 25 (by decide) (by decide)]
  rfl

theorem initial_eq : Sha2.initial = registers {} := by
  rw [Sha2.initial, initialWord_eq (by decide), initialWord_eq (by decide),
    initialWord_eq (by decide), initialWord_eq (by decide), initialWord_eq (by decide),
    initialWord_eq (by decide), initialWord_eq (by decide), initialWord_eq (by decide)]
  rfl

/-- The word of four bytes that follow each other. -/
theorem toNat_bigWord {offset : ℕ} (inside : offset + 4 ≤ bytes.length) :
    (bigWord bytes offset).toNat = ofBigEndian (bytesAt bytes offset 4) := by
  have words : (bigWord bytes offset).toNat =
      (bytes.getD offset 0).toNat <<< 24 ||| (bytes.getD (offset + 1) 0).toNat <<< 16 |||
        (bytes.getD (offset + 2) 0).toNat <<< 8 ||| (bytes.getD (offset + 3) 0).toNat := by
    simp only [bigWord, UInt32.toNat_or]
    rw [toNat_toUInt32_shiftLeft _ (by decide), toNat_toUInt32_shiftLeft _ (by decide),
      toNat_toUInt32_shiftLeft _ (by decide)]
    rfl
  have four : bytesAt bytes offset 4 = [bytes.getD offset 0, bytes.getD (offset + 1) 0,
      bytes.getD (offset + 2) 0, bytes.getD (offset + 3) 0] := by
    rw [bytesAt, List.drop_eq_getElem_cons (by omega), List.drop_eq_getElem_cons (by omega),
      List.drop_eq_getElem_cons (by omega), List.drop_eq_getElem_cons (by omega),
      List.getD_eq_getElem _ _ (by omega), List.getD_eq_getElem _ _ (by omega),
      List.getD_eq_getElem _ _ (by omega), List.getD_eq_getElem _ _ (by omega)]
    rfl
  rw [words, four]
  generalize bytes.getD offset 0 = a
  generalize bytes.getD (offset + 1) 0 = b
  generalize bytes.getD (offset + 2) 0 = c
  generalize bytes.getD (offset + 3) 0 = d
  have second := b.toNat_lt
  have third := c.toNat_lt
  have fourth := d.toNat_lt
  change a.toNat <<< 24 ||| b.toNat <<< 16 ||| c.toNat <<< 8 ||| d.toNat =
    256 * (256 * (256 * (256 * 0 + a.toNat) + b.toNat) + c.toNat) + d.toNat
  -- each byte is added below those before it
  have add : ∀ high low shift, low < 2 ^ shift → high <<< shift ||| low = high * 2 ^ shift + low := by
    intro high low shift below
    rw [Nat.or_comm, or_shiftLeft_eq_add below]
  have two : a.toNat <<< 24 ||| b.toNat <<< 16 = (a.toNat * 2 ^ 8 + b.toNat) <<< 16 := by
    rw [add _ _ _ (by rw [Nat.shiftLeft_eq]; omega), Nat.shiftLeft_eq, Nat.shiftLeft_eq]
    omega
  have three : (a.toNat * 2 ^ 8 + b.toNat) <<< 16 ||| c.toNat <<< 8 =
      ((a.toNat * 2 ^ 8 + b.toNat) * 2 ^ 8 + c.toNat) <<< 8 := by
    rw [add _ _ _ (by rw [Nat.shiftLeft_eq]; omega), Nat.shiftLeft_eq, Nat.shiftLeft_eq]
    omega
  rw [two, three, add _ _ _ fourth]
  omega

/-- A word of the padded image. -/
theorem toBitVec_bigWord (inside : 4 * index + 4 ≤ bytes.length) :
    (bigWord bytes (4 * index)).toBitVec = Sha2.word (byteBits bytes) index := by
  have place : 32 * index = 8 * (4 * index) := by omega
  have below := (bigWord bytes (4 * index)).toNat_lt
  have taken : (byteBits (bytes.drop (4 * index))).take 32 =
      byteBits (bytesAt bytes (4 * index) 4) := take_byteBits (bytes.drop (4 * index)) 4
  rw [Sha2.word, place, drop_byteBits, taken, ofBits_byteBits, ← toNat_bigWord inside]
  apply BitVec.eq_of_toNat_eq
  rw [BitVec.toNat_ofNat, Nat.mod_eq_of_lt below]
  rfl

/-- The step of the schedule. -/
def nextWord (words : List UInt32) (index : ℕ) : UInt32 :=
  let early := words.getD (index - 15) 0
  let late := words.getD (index - 2) 0
  let s0 := rotateRight early 7 ^^^ rotateRight early 18 ^^^ (early >>> 3)
  let s1 := rotateRight late 17 ^^^ rotateRight late 19 ^^^ (late >>> 10)
  words.getD (index - 16) 0 + s0 + words.getD (index - 7) 0 + s1

/-- The words that a schedule has so far. -/
def Scheduled (words : List UInt32) (first : ℕ → Sha2.Word) (count : ℕ) : Prop :=
  words.length = count ∧
    ∀ index < count, (words.getD index 0).toBitVec = Sha2.schedule first index

theorem toBitVec_lowerSigma0 (word : UInt32) :
    (rotateRight word 7 ^^^ rotateRight word 18 ^^^ (word >>> 3)).toBitVec =
      Sha2.lowerSigma0 word.toBitVec := by
  rw [UInt32.toBitVec_xor, UInt32.toBitVec_xor, toBitVec_rotateRight word (by decide) (by decide),
    toBitVec_rotateRight word (by decide) (by decide)]
  rfl

theorem toBitVec_lowerSigma1 (word : UInt32) :
    (rotateRight word 17 ^^^ rotateRight word 19 ^^^ (word >>> 10)).toBitVec =
      Sha2.lowerSigma1 word.toBitVec := by
  rw [UInt32.toBitVec_xor, UInt32.toBitVec_xor, toBitVec_rotateRight word (by decide) (by decide),
    toBitVec_rotateRight word (by decide) (by decide)]
  rfl

theorem Scheduled.next {words : List UInt32} {first : ℕ → Sha2.Word}
    (scheduled : Scheduled words first count) (more : 16 ≤ count) :
    Scheduled (words ++ [nextWord words count]) first (count + 1) := by
  obtain ⟨size, same⟩ := scheduled
  refine ⟨by rw [List.length_append, size, List.length_singleton], ?_⟩
  intro index inside
  by_cases before : index < count
  · rw [List.getD_append _ _ _ _ (size.symm ▸ before)]
    exact same index before
  · have last : index = count := by omega
    rw [last, List.getD_append_right _ _ _ _ size.le, size, Nat.sub_self, List.getD_cons_zero,
      Sha2.schedule, if_neg (by omega), nextWord]
    rw [UInt32.toBitVec_add, UInt32.toBitVec_add, UInt32.toBitVec_add, toBitVec_lowerSigma0,
      toBitVec_lowerSigma1, same _ (by omega), same _ (by omega), same _ (by omega),
      same _ (by omega)]
    ac_rfl

theorem Scheduled.foldl {words : List UInt32} {first : ℕ → Sha2.Word}
    (scheduled : Scheduled words first count) (more : 16 ≤ count) (steps : ℕ) :
    Scheduled ((List.range' count steps).foldl
      (fun words index => words ++ [nextWord words index]) words) first (count + steps) := by
  induction steps generalizing words count with
  | zero => exact scheduled
  | succ steps ih =>
    rw [List.range'_succ, List.foldl_cons, Nat.add_comm steps, ← Nat.add_assoc]
    exact ih (scheduled.next more) (Nat.le_succ_of_le more)

/-- The words of a block are those of the algorithm. -/
theorem scheduled_schedule (inside : 64 * block + 64 ≤ bytes.length) :
    Scheduled (schedule bytes (64 * block))
      (fun offset => Sha2.word (byteBits bytes) (16 * block + offset)) 64 := by
  have start : Scheduled ((List.range 16).map fun index => bigWord bytes (64 * block + index * 4))
      (fun offset => Sha2.word (byteBits bytes) (16 * block + offset)) 16 := by
    refine ⟨by rw [List.length_map, List.length_range], ?_⟩
    intro index below
    have place : 64 * block + index * 4 = 4 * (16 * block + index) := by omega
    rw [List.getD_eq_getElem _ _ (by rwa [List.length_map, List.length_range]), List.getElem_map,
      List.getElem_range, place, toBitVec_bigWord (by omega), Sha2.schedule, if_pos below]
  exact start.foldl le_rfl 48

/-- The rounds of a block are those of the algorithm. -/
theorem registers_rounds {words : List UInt32} {first : ℕ → Sha2.Word}
    (scheduled : Scheduled words first 64) (working : Working) :
    registers ((Sha256Constants.zip words).foldl round working) =
      (List.range 64).foldl (fun registers index =>
        Sha2.round registers (Sha2.constant index) (Sha2.schedule first index))
        (registers working) := by
  have inputs : Sha256Constants.zip words = (List.range 64).map fun index =>
      (Sha256Constants.getD index 0, words.getD index 0) := by
    have table : Sha256Constants.length = 64 := rfl
    apply List.ext_getElem
    · rw [List.length_zip, table, scheduled.1, List.length_map, List.length_range, Nat.min_self]
    · intro index left right
      rw [List.length_map, List.length_range] at right
      rw [List.getElem_zip, List.getElem_map, List.getElem_range,
        List.getD_eq_getElem _ _ (table ▸ right), List.getD_eq_getElem _ _ (scheduled.1 ▸ right)]
  have steps : ∀ indices : List ℕ, (∀ index ∈ indices, index < 64) → ∀ working,
      registers (indices.foldl (fun working index =>
          round working (Sha256Constants.getD index 0, words.getD index 0)) working) =
        indices.foldl (fun registers index =>
          Sha2.round registers (Sha2.constant index) (Sha2.schedule first index))
          (registers working) := by
    intro indices
    induction indices with
    | nil => intro _ working; rfl
    | cons index indices ih =>
      intro inside working
      have here := inside index List.mem_cons_self
      rw [List.foldl_cons, List.foldl_cons,
        ih (fun other member => inside other (List.mem_cons_of_mem _ member)), registers_round,
        constant_eq here, ← scheduled.2 index here]
  rw [inputs, List.foldl_map]
  exact steps _ (fun index member => List.mem_range.mp member) working

/-- One block is mixed in as the algorithm does. -/
theorem registers_compress (inside : 64 * block + 64 ≤ bytes.length) (state : Working) :
    registers (compress bytes state (64 * block)) =
      Sha2.process (fun offset => Sha2.word (byteBits bytes) (16 * block + offset))
        (registers state) := by
  have rounds := registers_rounds (scheduled_schedule inside) state
  rw [Sha2.process, ← rounds]
  simp only [compress, registers, Sha2.Registers.add, UInt32.toBitVec_add, BitVec.add_comm]

end Rounds

section Padding

variable {image : List UInt8}

theorem byteBits_replicate (count : ℕ) :
    byteBits (List.replicate count 0) = List.replicate (8 * count) false := by
  induction count with
  | zero => rfl
  | succ count ih =>
    have zero : natBits 8 (0 : UInt8).toNat = List.replicate 8 false := by decide
    rw [List.replicate_succ, byteBits_cons, ih, zero, List.replicate_append_replicate]
    congr 1
    omega

/-- The length of the image, in eight bytes. -/
theorem lengthBytes_eq (bitLength : UInt64) :
    ((List.range 8).map fun byte => (bitLength >>> UInt64.ofNat ((7 - byte) * 8)).toUInt8) =
      bigEndian 8 bitLength.toNat := by
  have element : ∀ byte ∈ List.range 8,
      (bitLength >>> UInt64.ofNat ((7 - byte) * 8)).toUInt8 =
        UInt8.ofNat (bitLength.toNat / 256 ^ (7 - byte)) := by
    intro byte member
    rw [List.mem_range] at member
    have shift : (UInt64.ofNat ((7 - byte) * 8)).toNat % 64 = 8 * (7 - byte) := by
      rw [UInt64.toNat_ofNat', Nat.mod_eq_of_lt (by omega : (7 - byte) * 8 < 2 ^ 64)]
      omega
    have power : (256 : ℕ) ^ (7 - byte) = 2 ^ (8 * (7 - byte)) := (Nat.pow_mul 2 8 _).symm
    rw [← UInt8.toNat_inj, UInt64.toNat_toUInt8, UInt64.toNat_shiftRight, shift,
      Nat.shiftRight_eq_div_pow, power]
    rfl
  rw [List.map_congr_left element]
  rfl

/-- The padding in bytes is the padding in bits. -/
theorem byteBits_padded (short : image.length < 2 ^ 61) :
    byteBits (padded image) = Sha2.padded (byteBits image) := by
  have bitLength : (UInt64.ofNat image.length * 8).toNat = 8 * image.length := by
    rw [UInt64.toNat_mul, UInt64.toNat_ofNat', Nat.mod_eq_of_lt (by omega : image.length < 2 ^ 64)]
    change image.length * 8 % 2 ^ 64 = _
    omega
  have mark : natBits 8 (0x80 : UInt8).toNat = true :: List.replicate 7 false := by decide
  have count : Sha2.zeros (8 * image.length) =
      7 + 8 * ((image.length + 9 + 63) / 64 * 64 - image.length - 9) :=
    Sha2.zeros_eq (by omega) (by omega)
  have length : byteBits (bigEndian 8 (8 * image.length)) = natBits 64 (8 * image.length) := by
    rw [byteBits_eq_natBits, length_bigEndian, ofBigEndian_bigEndian,
      Nat.mod_eq_of_lt (by omega : 8 * image.length < 256 ^ 8)]
  rw [padded, lengthBytes_eq, bitLength, byteBits_append, byteBits_append, byteBits_cons, mark,
    byteBits_replicate, length, Sha2.padded, length_byteBits, count, List.replicate_add,
    List.cons_append]

end Padding

section Digest

/-- The bytes of a word are its bits. -/
theorem byteBits_word (word : UInt32) :
    byteBits ((List.range 4).map fun index =>
      (word >>> UInt32.ofNat (24 - index * 8)).toUInt8) = natBits 32 word.toNat := by
  have bytes : (List.range 4).map (fun index =>
      (word >>> UInt32.ofNat (24 - index * 8)).toUInt8) = bigEndian 4 word.toNat := by
    have element : ∀ index ∈ List.range 4, (word >>> UInt32.ofNat (24 - index * 8)).toUInt8 =
        UInt8.ofNat (word.toNat / 256 ^ (3 - index)) := by
      intro index member
      rw [List.mem_range] at member
      have shift : (UInt32.ofNat (24 - index * 8)).toNat % 32 = 8 * (3 - index) := by
        rw [UInt32.toNat_ofNat', Nat.mod_eq_of_lt (by omega : 24 - index * 8 < 2 ^ 32)]
        omega
      have power : (256 : ℕ) ^ (3 - index) = 2 ^ (8 * (3 - index)) := (Nat.pow_mul 2 8 _).symm
      rw [← UInt8.toNat_inj, UInt32.toNat_toUInt8, UInt32.toNat_shiftRight, shift,
        Nat.shiftRight_eq_div_pow, power]
      rfl
    rw [List.map_congr_left element]
    rfl
  rw [bytes, byteBits_eq_natBits, length_bigEndian, ofBigEndian_bigEndian, Nat.mod_eq_of_lt]
  exact word.toNat_lt

/-- The bytes of the digest, word by word. -/
theorem byteBits_digest (state : Working) :
    byteBits (Vector.ofFn (n := 32) fun index =>
        (state.words.getD (index.val / 4) 0 >>> UInt32.ofNat (24 - index.val % 4 * 8)).toUInt8).toList =
      (registers state).bits := by
  have words : (Vector.ofFn (n := 32) fun index => (state.words.getD (index.val / 4) 0 >>>
      UInt32.ofNat (24 - index.val % 4 * 8)).toUInt8).toList =
      state.words.flatMap fun word => (List.range 4).map fun index =>
        (word >>> UInt32.ofNat (24 - index * 8)).toUInt8 := by
    rw [Vector.toList_ofFn]
    rfl
  have each : ∀ words : List UInt32, byteBits (words.flatMap fun word =>
      (List.range 4).map fun index => (word >>> UInt32.ofNat (24 - index * 8)).toUInt8) =
        words.flatMap fun word => natBits 32 word.toNat := by
    intro words
    induction words with
    | nil => rfl
    | cons word words ih =>
      rw [List.flatMap_cons, byteBits_append, byteBits_word, ih, List.flatMap_cons]
  rw [words, each]
  rfl

/-- The digest of an image is the one of the secure hash algorithm, bit by bit. -/
theorem sha256_eq_hash (image : List UInt8) (short : image.length < 2 ^ 61) :
    byteBits (sha256 image).toList = Sha2.hash (byteBits image) := by
  have blocks : ∀ indices : List ℕ, (∀ index ∈ indices, 64 * index + 64 ≤ (padded image).length) →
      ∀ state, registers (indices.foldl (fun state index =>
          compress (padded image) state (index * 64)) state) =
        indices.foldl (fun value index =>
          Sha2.process (fun offset => Sha2.word (byteBits (padded image)) (16 * index + offset)) value)
          (registers state) := by
    intro indices
    induction indices with
    | nil => intro _ state; rfl
    | cons index indices ih =>
      intro inside state
      rw [List.foldl_cons, List.foldl_cons,
        ih (fun other member => inside other (List.mem_cons_of_mem _ member)), Nat.mul_comm index 64,
        registers_compress (inside index List.mem_cons_self)]
  have count : (byteBits (padded image)).length / 512 = (padded image).length / 64 := by
    rw [length_byteBits]
    omega
  refine (byteBits_digest _).trans ?_
  rw [List.foldl_map, blocks, Sha2.hash, ← byteBits_padded short, initial_eq]
  · rw [count]
  · intro index member
    rw [List.mem_range] at member
    omega

theorem sha256_eq_hash_abc :
    byteBits (sha256 [0x61, 0x62, 0x63]).toList = Sha2.hash (byteBits [0x61, 0x62, 0x63]) :=
  sha256_eq_hash [0x61, 0x62, 0x63] (by decide)

end Digest

end GemSim.CodeObject
