import Mathlib.Data.List.Range
import Mathlib.Data.Nat.Notation
import Mathlib.Logic.Function.Basic

/-!
# Loops over lanes

A loop visits every lane once and gives the active ones a new value, which may depend on the
value the lane has. It may fail, and then has no result. Since no lane is visited twice, each
new value is computed from what the lane held before the loop.

## Main definitions

* `forLanes` — the loop

## Main results

* `forLanes_eq_some_iff` — what the loop leaves in every lane
* `forLanes_some` — a loop that cannot fail
* `forLanes_eq_none_iff` — the loop fails where some active lane does
-/

namespace GemSim.Lib

variable {Value : Type*}

/-- A new value for each active lane below a bound, one after the other. -/
def forLanes (count : ℕ) (active : ℕ → Bool) (value : ℕ → Value → Option Value)
    (data : ℕ → Value) : Option (ℕ → Value) :=
  (List.range count).foldlM (fun data lane =>
    if active lane then (value lane (data lane)).map (Function.update data lane)
    else some data) data

variable {count : ℕ} {active : ℕ → Bool} {value : ℕ → Value → Option Value} {data out : ℕ → Value}

@[simp] theorem forLanes_zero : forLanes 0 active value data = some data := rfl

theorem forLanes_succ :
    forLanes (count + 1) active value data =
      (forLanes count active value data).bind fun done =>
        if active count then (value count (done count)).map (Function.update done count)
        else some done := by
  rw [forLanes, List.range_succ, List.foldlM_append]
  change (forLanes count active value data).bind _ = _
  congr 1
  funext done
  simp

theorem forLanes_eq_some_iff :
    forLanes count active value data = some out ↔
      (∀ lane < count, active lane = true → value lane (data lane) = some (out lane)) ∧
        ∀ lane, ¬ (lane < count ∧ active lane = true) → out lane = data lane := by
  induction count generalizing out with
  | zero =>
    simp only [forLanes_zero, Option.some.injEq, Nat.not_lt_zero, false_and, not_false_eq_true,
      false_implies, implies_true, true_and, true_implies]
    exact ⟨fun same lane => by rw [same], fun same => (funext same).symm⟩
  | succ count ih =>
    rw [forLanes_succ, Option.bind_eq_some_iff]
    constructor
    · rintro ⟨done, before, last⟩
      obtain ⟨visited, others⟩ := ih.mp before
      have untouched := others count (by omega)
      by_cases here : active count = true
      · rw [if_pos here, Option.map_eq_some_iff] at last
        obtain ⟨new, computed, rfl⟩ := last
        constructor
        · intro lane inside there
          by_cases same : lane = count
          · subst same
            rw [Function.update_self, ← untouched, computed]
          · rw [Function.update_of_ne same, visited lane (by omega) there]
        · intro lane outside
          have same : lane ≠ count := fun same => outside ⟨by omega, same ▸ here⟩
          rw [Function.update_of_ne same, others lane fun both => outside ⟨by omega, both.2⟩]
      · rw [if_neg here, Option.some.injEq] at last
        subst last
        constructor
        · intro lane inside there
          have same : lane ≠ count := fun same => here (same ▸ there)
          exact visited lane (by omega) there
        · intro lane outside
          exact others lane fun both => outside ⟨by omega, both.2⟩
    · rintro ⟨visited, others⟩
      -- before its last lane, the loop has left that lane alone
      refine ⟨Function.update out count (data count), ih.mpr ⟨?_, ?_⟩, ?_⟩
      · intro lane inside there
        rw [Function.update_of_ne (by omega), visited lane (by omega) there]
      · intro lane outside
        by_cases same : lane = count
        · rw [same, Function.update_self]
        · rw [Function.update_of_ne same, others lane fun both => outside ⟨by omega, both.2⟩]
      · rw [Function.update_self]
        by_cases here : active count = true
        · rw [if_pos here, visited count (by omega) here, Option.map_some, Function.update_idem,
            Function.update_eq_self]
        · rw [if_neg here, ← others count fun both => here both.2, Function.update_eq_self]

/-- A loop in which no active lane fails. -/
theorem forLanes_eq_some {new : ℕ → Value}
    (every : ∀ lane < count, active lane = true → value lane (data lane) = some (new lane)) :
    forLanes count active value data =
      some fun lane => if lane < count ∧ active lane = true then new lane else data lane := by
  rw [forLanes_eq_some_iff]
  constructor
  · intro lane inside here
    rw [if_pos ⟨inside, here⟩, every lane inside here]
  · intro lane outside
    rw [if_neg outside]

/-- A loop that cannot fail. -/
theorem forLanes_some (new : ℕ → Value → Value) :
    forLanes count active (fun lane old => some (new lane old)) data =
      some fun lane => if lane < count ∧ active lane = true then new lane (data lane)
        else data lane :=
  forLanes_eq_some fun _ _ _ => rfl

theorem forLanes_eq_none_iff :
    forLanes count active value data = none ↔
      ∃ lane < count, active lane = true ∧ value lane (data lane) = none := by
  constructor
  · intro failed
    by_contra every
    push Not at every
    -- otherwise every lane has a value, and the loop a result
    have computed : ∀ lane < count, active lane = true →
        value lane (data lane) = some ((value lane (data lane)).getD (data lane)) := by
      intro lane inside here
      obtain ⟨new, computed⟩ := Option.ne_none_iff_exists'.mp (every lane inside here)
      rw [computed, Option.getD_some]
    rw [forLanes_eq_some computed] at failed
    cases failed
  · rintro ⟨lane, inside, here, failed⟩
    by_contra some
    obtain ⟨out, result⟩ := Option.ne_none_iff_exists'.mp some
    have computed := (forLanes_eq_some_iff.mp result).1 lane inside here
    rw [failed] at computed
    cases computed

end GemSim.Lib
