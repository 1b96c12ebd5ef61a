import GemSim.Lib.Loop
import Mathlib.Data.List.Infix

/-!
# Tilings

A buffer is tiled by values when their encodings follow each other in it and fill it. Where each
encoding says itself where it ends, no two values start one buffer, and then a buffer has at most
one tiling. A reader finds it with a loop: each pass takes one value, and may refuse it for what
it has seen before.

## Main definitions

* `Tiling`, `Delimited` — a buffer cut into values, and encodings that say where they end
* `Walk` — a loop whose passes take one value each

## Main results

* `Tiling.unique` — a buffer has at most one tiling
* `Walk.finished` — a walk ends inside its buffer, and accepts the tilings
-/

namespace GemSim.Lib

variable {Element Value : Type*} {encode : Value → List Element} {buffer rest : List Element}
  {value : Value} {values others : List Value}

section Tilings

/-- The values follow each other, and fill the buffer. -/
def Tiling (encode : Value → List Element) (buffer : List Element) (values : List Value) : Prop :=
  (values.map encode).flatten = buffer

/-- Encodings that are not empty, and of which no two start one buffer. -/
structure Delimited (encode : Value → List Element) : Prop where
  ne_nil : ∀ value, encode value ≠ []
  unique : ∀ value other rest others, encode value ++ rest = encode other ++ others → value = other

/-- An empty buffer has the empty tiling. -/
theorem tiling_nil_iff (delimited : Delimited encode) : Tiling encode [] values ↔ values = [] := by
  constructor
  · intro tiling
    cases values with
    | nil => rfl
    | cons value others =>
      rw [Tiling, List.map_cons, List.flatten_cons, List.append_eq_nil_iff] at tiling
      exact absurd tiling.1 (delimited.ne_nil value)
  · rintro rfl
    rfl

/-- What starts with a value is tiled by that value and the tiling of what is left. -/
theorem tiling_append_iff (delimited : Delimited encode) :
    Tiling encode (encode value ++ rest) values ↔
      ∃ others, values = value :: others ∧ Tiling encode rest others := by
  constructor
  · intro tiling
    cases values with
    | nil =>
      have empty := (List.append_eq_nil_iff.mp tiling.symm).1
      exact absurd empty (delimited.ne_nil value)
    | cons other others =>
      rw [Tiling, List.map_cons, List.flatten_cons] at tiling
      have same := delimited.unique other value _ _ tiling
      rw [same] at tiling
      rw [same]
      exact ⟨others, rfl, List.append_cancel_left tiling⟩
  · rintro ⟨others, rfl, tiling⟩
    rw [Tiling, List.map_cons, List.flatten_cons, tiling]

/-- A buffer that no value starts is tiled only when it is empty. -/
theorem not_tiling (more : buffer ≠ []) (none : ∀ value rest, buffer ≠ encode value ++ rest) :
    ¬ Tiling encode buffer values := by
  intro tiling
  cases values with
  | nil => exact more tiling.symm
  | cons value others => exact none value _ tiling.symm

theorem Tiling.unique (delimited : Delimited encode) (first : Tiling encode buffer values)
    (second : Tiling encode buffer others) : values = others := by
  induction values generalizing buffer others with
  | nil =>
    have empty : buffer = [] := first.symm
    rw [empty, tiling_nil_iff delimited] at second
    exact second.symm
  | cons value values ih =>
    have split : encode value ++ (values.map encode).flatten = buffer := first
    rw [← split, tiling_append_iff delimited] at second
    obtain ⟨remaining, rfl, behind⟩ := second
    rw [ih rfl behind]

end Tilings

section Walks

variable {State Failure Result : Type*}

/-- A loop that takes the values of a buffer one by one. What it makes of a value depends on what
it has seen before, and it may refuse one. -/
structure Walk (encode : Value → List Element) (inside : State → Prop)
    (left : State → List Element) (absorb : State → Value → Except Failure State)
    (result : State → Result) (pass : State → Pass State (Except Failure Result)) : Prop where
  delimited : Delimited encode
  finish : ∀ state, inside state → left state = [] → pass state = .finish (.ok (result state))
  reject : ∀ state, inside state → left state ≠ [] →
    (∀ value rest, left state ≠ encode value ++ rest) →
    ∃ failure, pass state = .finish (.error failure)
  refuse : ∀ state value rest failure, inside state → left state = encode value ++ rest →
    absorb state value = .error failure → pass state = .finish (.error failure)
  take : ∀ state value rest after, inside state → left state = encode value ++ rest →
    absorb state value = .ok after → pass state = .next after ∧ inside after ∧ left after = rest

variable {inside : State → Prop} {left : State → List Element} {absorb : State → Value → Except Failure State}
  {result : State → Result} {pass : State → Pass State (Except Failure Result)}

/-- A walk ends and stays inside the buffer, and it accepts what is tiled by values none of which
is refused. -/
theorem Walk.finished (walk : Walk encode inside left absorb result pass) {passes : ℕ} {state : State}
    (start : inside state) (enough : (left state).length < passes) :
    ∃ outcome, loop pass passes state = .finished outcome ∧
      ∀ found, outcome = .ok found ↔
        ∃ values after, Tiling encode (left state) values ∧
          values.foldlM absorb state = .ok after ∧ result after = found := by
  induction passes generalizing state with
  | zero => exact absurd enough (Nat.not_lt_zero _)
  | succ passes ih =>
    by_cases empty : left state = []
    · refine ⟨_, loop_of_finish (walk.finish state start empty), fun found => ?_⟩
      rw [empty]
      simp only [tiling_nil_iff walk.delimited]
      constructor
      · intro same
        exact ⟨[], state, rfl, rfl, Except.ok.inj same⟩
      · rintro ⟨values, after, rfl, folded, rfl⟩
        rw [Except.ok.inj folded]
    · by_cases first : ∃ value rest, left state = encode value ++ rest
      · obtain ⟨value, rest, split⟩ := first
        have some := List.length_pos_of_ne_nil (walk.delimited.ne_nil value)
        cases absorbed : absorb state value with
        | error failure =>
          refine ⟨_, loop_of_finish (walk.refuse state value rest failure start split absorbed),
            fun found => ?_⟩
          constructor
          · intro same
            cases same
          · rintro ⟨values, after, tiling, folded, -⟩
            rw [split, tiling_append_iff walk.delimited] at tiling
            obtain ⟨others, rfl, -⟩ := tiling
            rw [List.foldlM_cons, absorbed] at folded
            cases folded
        | ok after =>
          obtain ⟨goes, within, rested⟩ := walk.take state value rest after start split absorbed
          have less : (left after).length < passes := by
            rw [split, List.length_append] at enough
            rw [rested]
            omega
          obtain ⟨outcome, ends, accepts⟩ := ih within less
          refine ⟨outcome, (loop_of_next goes).trans ends, fun found => ?_⟩
          rw [accepts found, split, rested]
          constructor
          · rintro ⟨values, last, tiling, folded, same⟩
            refine ⟨value :: values, last,
              (tiling_append_iff walk.delimited).mpr ⟨values, rfl, tiling⟩, ?_, same⟩
            rw [List.foldlM_cons, absorbed]
            exact folded
          · rintro ⟨values, last, tiling, folded, same⟩
            rw [tiling_append_iff walk.delimited] at tiling
            obtain ⟨others, rfl, tiling⟩ := tiling
            rw [List.foldlM_cons, absorbed] at folded
            exact ⟨others, last, tiling, folded, same⟩
      · push Not at first
        obtain ⟨failure, ends⟩ := walk.reject state start empty first
        refine ⟨_, loop_of_finish ends, fun found => ?_⟩
        constructor
        · intro same
          cases same
        · rintro ⟨values, after, tiling, -⟩
          exact absurd tiling (not_tiling empty first)

end Walks

end GemSim.Lib
