import Mathlib.Data.Nat.Notation

/-!
# Loops

A loop makes passes over its state until one of them finishes, or leaves the buffer that the loop
reads. It is given a number of passes, and may still be running after them.

## Main definitions

* `Pass`, `Ending` — how a pass ends, and how a loop ends
* `loop` — a number of passes

## Main results

* `loop_add` — more passes do not change how a loop has ended
* `loop_finished` — a loop whose passes keep an invariant, and each of which makes the state
  smaller, finishes
-/

namespace GemSim.Lib

variable {State Result : Type*}

/-- How a pass of a loop ends. -/
inductive Pass (State Result : Type*) where
  | finish (result : Result)
  | next (state : State)
  /-- An access outside of the buffer. -/
  | overrun

/-- How a loop ends. After the passes that it is given it may still be running. -/
inductive Ending (Result : Type*) where
  | finished (result : Result)
  | overran
  | running
  deriving DecidableEq

def loop (pass : State → Pass State Result) : ℕ → State → Ending Result
  | 0, _ => .running
  | passes + 1, state =>
    match pass state with
    | .finish result => .finished result
    | .next state => loop pass passes state
    | .overrun => .overran

variable {pass : State → Pass State Result} {passes : ℕ} {state after : State} {result : Result}

theorem loop_of_finish (ends : pass state = .finish result) :
    loop pass (passes + 1) state = .finished result := by
  rw [loop, ends]

theorem loop_of_next (goes : pass state = .next after) :
    loop pass (passes + 1) state = loop pass passes after := by
  rw [loop, goes]

/-- A loop that has ended ends so with more passes, too. -/
theorem loop_add {ending : Ending Result} (ends : loop pass passes state = ending)
    (ended : ending ≠ .running) (extra : ℕ) : loop pass (passes + extra) state = ending := by
  induction passes generalizing state with
  | zero => exact absurd ends.symm ended
  | succ passes ih =>
    rw [Nat.succ_add, loop]
    rw [loop] at ends
    cases went : pass state with
    | finish result => rwa [went] at ends
    | next after =>
      rw [went] at ends
      exact ih ends
    | overrun => rwa [went] at ends

theorem finished_ne_running : Ending.finished result ≠ .running := by
  intro same
  cases same

/-- A loop finishes in one way. -/
theorem loop_unique {others : ℕ} {other : Result}
    (first : loop pass passes state = .finished result)
    (second : loop pass others state = .finished other) : result = other := by
  have more := loop_add first finished_ne_running others
  have same := loop_add second finished_ne_running passes
  rw [Nat.add_comm, more] at same
  exact Ending.finished.inj same

/-- Where the passes keep an invariant, and each of them finishes well or goes on with a smaller
state, the loop finishes well. -/
theorem loop_finished {invariant : State → Prop} {smaller : State → State → Prop}
    {good : Result → Prop} (wellFounded : WellFounded smaller)
    (step : ∀ state, invariant state → (∃ result, pass state = .finish result ∧ good result) ∨
      ∃ after, pass state = .next after ∧ invariant after ∧ smaller after state)
    (start : invariant state) :
    ∃ passes result, loop pass passes state = .finished result ∧ good result := by
  induction state using wellFounded.induction with
  | _ state ih =>
    rcases step state start with ⟨result, ends, fine⟩ | ⟨after, goes, kept, less⟩
    · exact ⟨1, result, loop_of_finish ends, fine⟩
    · obtain ⟨passes, result, ends, fine⟩ := ih after less kept
      exact ⟨passes + 1, result, (loop_of_next goes).trans ends, fine⟩

end GemSim.Lib
