import GemSim.Lib.BitStrings
import Mathlib.Data.Nat.Find
import Mathlib.Data.Nat.Nth
import Mathlib.Data.Nat.Prime.Defs
import Mathlib.Data.Nat.Prime.Infinite

/-!
# The secure hash algorithm with 256 bits

A message is a bit string. It is padded to blocks of 512 bits, each block is expanded to a
schedule of 64 words, and the words are mixed into eight words, round by round. The constants are
the first bits behind the point of roots of primes.

## Main definitions

* `fraction` — the first bits behind the point of a root
* `padded`, `word` — the message with its padding, and its words
* `schedule`, `round`, `process` — one block
* `hash` — the digest of a message

## Main results

* `fraction_eq` — the first bits behind the point, by the powers they lie between
* `nth_of_filter_range` — the numbers of a kind below a bound are its first ones
* `zeros_eq` — how many zeros the padding has
-/

namespace GemSim.Lib.Sha2

abbrev Word := BitVec 32

section Constants

/-- The first 32 bits behind the point of a root. -/
def fraction (degree radicand : ℕ) : Word :=
  BitVec.ofNat 32 (Nat.findGreatest
    (fun root => root ^ degree ≤ radicand * 2 ^ (32 * degree)) (radicand * 2 ^ (32 * degree)))

/-- The constant of a round, from the cube root of a prime. -/
noncomputable def constant (index : ℕ) : Word := fraction 3 (Nat.nth Nat.Prime index)

/-- A word of the initial value, from the square root of a prime. -/
noncomputable def initialWord (index : ℕ) : Word := fraction 2 (Nat.nth Nat.Prime index)

theorem fraction_eq {degree radicand root : ℕ} (positive : degree ≠ 0)
    (lower : root ^ degree ≤ radicand * 2 ^ (32 * degree))
    (upper : radicand * 2 ^ (32 * degree) < (root + 1) ^ degree) :
    fraction degree radicand = BitVec.ofNat 32 root := by
  have greatest : Nat.findGreatest (fun root => root ^ degree ≤ radicand * 2 ^ (32 * degree))
      (radicand * 2 ^ (32 * degree)) = root := by
    rw [Nat.findGreatest_eq_iff]
    refine ⟨(Nat.le_self_pow positive root).trans lower, fun _ => lower, ?_⟩
    intro other above _
    exact not_le.mpr (upper.trans_le (Nat.pow_le_pow_left above degree))
  rw [fraction, greatest]

/-- The numbers of a kind below a bound, in their order, are the first ones of the kind. -/
theorem nth_of_filter_range {kind : ℕ → Prop} [DecidablePred kind] {bound index value : ℕ}
    (found : ((List.range bound).filter (fun number => kind number))[index]? = some value) :
    Nat.nth kind index = value := by
  have length : ∀ bound, ((List.range bound).filter (fun number => kind number)).length =
      Nat.count kind bound := by
    intro bound
    induction bound with
    | zero => rw [Nat.count_zero]; rfl
    | succ bound ih =>
      rw [List.range_succ, List.filter_append, List.length_append, ih, Nat.count_succ]
      by_cases there : kind bound <;> simp [there]
  induction bound with
  | zero => cases found
  | succ bound ih =>
    rw [List.range_succ, List.filter_append, List.getElem?_append] at found
    by_cases before : index < ((List.range bound).filter (fun number => kind number)).length
    · rw [if_pos before] at found
      exact ih found
    · rw [if_neg before] at found
      by_cases there : kind bound
      · rw [List.filter_cons_of_pos (by simpa using there), List.filter_nil,
          List.getElem?_singleton] at found
        by_cases last : index - ((List.range bound).filter (fun number => kind number)).length = 0
        · rw [if_pos last, Option.some.injEq] at found
          have same : index = Nat.count kind bound := by
            rw [← length]
            omega
          rw [same, ← found, Nat.nth_count there]
        · rw [if_neg last] at found
          cases found
      · rw [List.filter_cons_of_neg (by simpa using there)] at found
        cases found

end Constants

section Functions

def choose (x y z : Word) : Word := (x &&& y) ^^^ (~~~x &&& z)

def majority (x y z : Word) : Word := (x &&& y) ^^^ (x &&& z) ^^^ (y &&& z)

def upperSigma0 (x : Word) : Word := x.rotateRight 2 ^^^ x.rotateRight 13 ^^^ x.rotateRight 22

def upperSigma1 (x : Word) : Word := x.rotateRight 6 ^^^ x.rotateRight 11 ^^^ x.rotateRight 25

def lowerSigma0 (x : Word) : Word := x.rotateRight 7 ^^^ x.rotateRight 18 ^^^ x >>> 3

def lowerSigma1 (x : Word) : Word := x.rotateRight 17 ^^^ x.rotateRight 19 ^^^ x >>> 10

end Functions

section Message

theorem exists_zeros (length : ℕ) : ∃ count, (length + 1 + count) % 512 = 448 :=
  ⟨(959 - length % 512) % 512, by omega⟩

/-- The zeros behind the end mark, as few as there can be. -/
def zeros (length : ℕ) : ℕ := Nat.find (exists_zeros length)

/-- The message, its end mark, zeros, and its length. -/
def padded (message : List Bool) : List Bool :=
  message ++ true :: List.replicate (zeros message.length) false ++ natBits 64 message.length

/-- A word of a bit string. -/
def word (bits : List Bool) (index : ℕ) : Word :=
  BitVec.ofNat 32 (ofBits ((bits.drop (32 * index)).take 32))

theorem zeros_eq {length count : ℕ} (few : count < 512) (fits : (length + 1 + count) % 512 = 448) :
    zeros length = count := by
  rw [zeros, Nat.find_eq_iff]
  refine ⟨fits, ?_⟩
  intro fewer below
  omega

end Message

section Blocks

/-- The words of the value, and those that a round works with. -/
structure Registers where
  a : Word
  b : Word
  c : Word
  d : Word
  e : Word
  f : Word
  g : Word
  h : Word

noncomputable def initial : Registers where
  a := initialWord 0
  b := initialWord 1
  c := initialWord 2
  d := initialWord 3
  e := initialWord 4
  f := initialWord 5
  g := initialWord 6
  h := initialWord 7

/-- The words of a block, and those that are made of them. -/
def schedule (block : ℕ → Word) (index : ℕ) : Word :=
  if index < 16 then block index
  else
    lowerSigma1 (schedule block (index - 2)) + schedule block (index - 7) +
      lowerSigma0 (schedule block (index - 15)) + schedule block (index - 16)
termination_by index

/-- One round, with its constant and its word. -/
def round (registers : Registers) (constant word : Word) : Registers :=
  let first := registers.h + upperSigma1 registers.e +
    choose registers.e registers.f registers.g + constant + word
  let second := upperSigma0 registers.a + majority registers.a registers.b registers.c
  { a := first + second, b := registers.a, c := registers.b, d := registers.c
    e := registers.d + first, f := registers.e, g := registers.f, h := registers.g }

def Registers.add (left right : Registers) : Registers where
  a := left.a + right.a
  b := left.b + right.b
  c := left.c + right.c
  d := left.d + right.d
  e := left.e + right.e
  f := left.f + right.f
  g := left.g + right.g
  h := left.h + right.h

/-- One block mixed into the value. -/
noncomputable def process (block : ℕ → Word) (value : Registers) : Registers :=
  ((List.range 64).foldl (fun registers index =>
    round registers (constant index) (schedule block index)) value).add value

def Registers.bits (registers : Registers) : List Bool :=
  [registers.a, registers.b, registers.c, registers.d, registers.e, registers.f, registers.g,
    registers.h].flatMap fun word => natBits 32 word.toNat

/-- The digest of a message. -/
noncomputable def hash (message : List Bool) : List Bool :=
  let bits := padded message
  ((List.range (bits.length / 512)).foldl
    (fun value index => process (fun offset => word bits (16 * index + offset)) value)
    initial).bits

end Blocks

end GemSim.Lib.Sha2
