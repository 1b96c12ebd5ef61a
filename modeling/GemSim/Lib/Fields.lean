import Mathlib.Data.Bool.Basic
import Mathlib.Data.List.Range
import Mathlib.Data.Nat.Notation

/-!
# Fields of equal width

Bits are gathered by or-ing fields of equal width into one word, or into several. The bit at
a position of a field is then the bit of that field, since no other field reaches there.

## Main definitions

* `orFields` — the bits of the fields together

## Main results

* `orFields_at` — the bit at a position of a field
* `foldl_or_eq` — the loop over the fields
-/

namespace GemSim.Lib

/-- The bits of `count` fields of `width` bits each, one after the other. -/
def orFields (width count : ℕ) (field : ℕ → ℕ → Bool) (position : ℕ) : Bool :=
  (List.range count).any fun index =>
    decide (index * width ≤ position ∧ position < index * width + width) &&
      field index (position - index * width)

variable {width count : ℕ} {field : ℕ → ℕ → Bool}

theorem orFields_succ (position : ℕ) :
    orFields width (count + 1) field position =
      (orFields width count field position ||
        (decide (count * width ≤ position ∧ position < count * width + width) &&
          field count (position - count * width))) := by
  simp [orFields, List.range_succ]

theorem orFields_at {index bit : ℕ} (inside : index < count) (small : bit < width) :
    orFields width count field (index * width + bit) = field index bit := by
  rw [Bool.eq_iff_iff, orFields, List.any_eq_true]
  constructor
  · rintro ⟨other, -, found⟩
    rw [Bool.and_eq_true, decide_eq_true_eq] at found
    obtain ⟨⟨above, below⟩, set⟩ := found
    -- the position lies in one field only
    have same : other = index := by
      rcases Nat.lt_trichotomy other index with less | same | more
      · have := Nat.mul_le_mul_right width (Nat.succ_le_of_lt less)
        rw [Nat.succ_mul] at this
        omega
      · exact same
      · have := Nat.mul_le_mul_right width (Nat.succ_le_of_lt more)
        rw [Nat.succ_mul] at this
        omega
    subst same
    rwa [Nat.add_sub_cancel_left] at set
  · intro set
    refine ⟨index, List.mem_range.mpr inside, ?_⟩
    rw [Bool.and_eq_true, decide_eq_true_eq, Nat.add_sub_cancel_left]
    exact ⟨by omega, set⟩

/-- A loop that ors one field after the other into what it reads as bits. -/
theorem foldl_or_eq {State : Type*} (bits : State → ℕ → Bool) (put : State → ℕ → State)
    (within : ℕ → Prop)
    (step : ∀ state index position, within position → bits (put state index) position =
      (bits state position ||
        (decide (index * width ≤ position ∧ position < index * width + width) &&
          field index (position - index * width))))
    (start : State) (empty : ∀ position, within position → bits start position = false)
    {position : ℕ} (inside : within position) :
    bits ((List.range count).foldl put start) position = orFields width count field position := by
  induction count with
  | zero => exact empty position inside
  | succ count ih =>
    rw [List.range_succ, List.foldl_append, List.foldl_cons, List.foldl_nil,
      step _ _ _ inside, ih, orFields_succ]

end GemSim.Lib
