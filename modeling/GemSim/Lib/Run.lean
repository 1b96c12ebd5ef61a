import Mathlib.Data.List.Chain
import Mathlib.Data.List.Pairwise
import Mathlib.Order.Basic

/-!
# Runs of a deterministic machine

A machine is a step function from a state and an input to the next state. A run
feeds it a list of inputs. This file proves the induction principles that lift
facts about one step to whole runs: invariants, invariants of guarded runs,
monotone observables, and the order of the outputs a run emits.

## Main definitions

* `runFrom` — the state a list of inputs leads to
* `Meets` — every step of the run meets a condition on state and input
* `Reachable` — the states some run reaches
* `outputs` — the concatenated outputs of the steps of a run

## Main results

* `invariant_runFrom`, `invariant_of_meets` — one-step preservation lifts to runs
* `runFrom_mono` — an observable no step decreases is monotone along runs
* `outputs_increasing_of_meets`, `outputs_strictlyIncreasing` — outputs issued from a counter are sorted
* `outputs_nodup`, `outputs_consecutive` — outputs emitted once, and outputs counted up
* `runFrom_simulates`, `outputs_simulates` — a simulated machine has the same runs
* `held_before_or_above` — a run only adds handles at or above the counter before it
-/

namespace GemSim.Lib

variable {State Input : Type*} (step : State → Input → State)

/-- The state reached by feeding a list of inputs to the machine. -/
def runFrom : State → List Input → State := List.foldl step

@[simp] theorem runFrom_nil (s : State) : runFrom step s [] = s := rfl

@[simp] theorem runFrom_cons (s : State) (input : Input) (rest : List Input) :
    runFrom step s (input :: rest) = runFrom step (step s input) rest := rfl

theorem runFrom_append (s : State) (first second : List Input) :
    runFrom step s (first ++ second) = runFrom step (runFrom step s first) second :=
  List.foldl_append

/-- Every step of the run from `s` meets the condition `ok` on the state before
the step and its input. -/
def Meets (ok : State → Input → Prop) : State → List Input → Prop
  | _, [] => True
  | s, input :: rest => ok s input ∧ Meets ok (step s input) rest

/-- Deciding a statement about the value of an option, if it has one. -/
def decidableForallSome {Value : Type*} (option : Option Value) (holds : Value → Prop)
    [∀ value, Decidable (holds value)] : Decidable (∀ value, option = some value → holds value) :=
  match option with
  | none => isTrue fun _ found => by cases found
  | some value =>
    decidable_of_iff (holds value)
      ⟨fun held other found => Option.some.inj found ▸ held, fun all => all value rfl⟩

instance decidableMeets (ok : State → Input → Prop) [∀ s input, Decidable (ok s input)] :
    ∀ (s : State) (inputs : List Input), Decidable (Meets step ok s inputs)
  | _, [] => isTrue trivial
  | s, input :: rest =>
    have := decidableMeets ok (step s input) rest
    inferInstanceAs (Decidable (ok s input ∧ Meets step ok (step s input) rest))

@[simp] theorem meets_nil (ok : State → Input → Prop) (s : State) :
    Meets step ok s [] := trivial

@[simp] theorem meets_cons (ok : State → Input → Prop) (s : State) (input : Input)
    (rest : List Input) :
    Meets step ok s (input :: rest) ↔ ok s input ∧ Meets step ok (step s input) rest :=
  Iff.rfl

theorem meets_append (ok : State → Input → Prop) (s : State) (first second : List Input) :
    Meets step ok s (first ++ second) ↔
      Meets step ok s first ∧ Meets step ok (runFrom step s first) second := by
  induction first generalizing s with
  | nil => simp
  | cons input rest ih => simp [ih, and_assoc]

theorem Meets.mono {ok weaker : State → Input → Prop}
    (imp : ∀ s input, ok s input → weaker s input) {s : State} {inputs : List Input}
    (meets : Meets step ok s inputs) : Meets step weaker s inputs := by
  induction inputs generalizing s with
  | nil => trivial
  | cons input rest ih => exact ⟨imp s input meets.1, ih meets.2⟩

/-- Preservation under guarded steps lifts to guarded runs. -/
theorem invariant_of_meets (inv : State → Prop) {ok : State → Input → Prop}
    (preserved : ∀ s input, inv s → ok s input → inv (step s input))
    {s : State} {inputs : List Input} (start : inv s) (meets : Meets step ok s inputs) :
    inv (runFrom step s inputs) := by
  induction inputs generalizing s with
  | nil => exact start
  | cons input rest ih => exact ih (preserved s input start meets.1) meets.2

/-- Preservation under every step lifts to every run. -/
theorem invariant_runFrom (inv : State → Prop)
    (preserved : ∀ s input, inv s → inv (step s input))
    {s : State} (start : inv s) (inputs : List Input) : inv (runFrom step s inputs) := by
  induction inputs generalizing s with
  | nil => exact start
  | cons input rest ih => exact ih (preserved s input start)

/-- An invariant strengthens the condition a run is known to meet. -/
theorem Meets.and_invariant (inv : State → Prop) {ok : State → Input → Prop}
    (preserved : ∀ s input, inv s → ok s input → inv (step s input))
    {s : State} {inputs : List Input} (start : inv s) (meets : Meets step ok s inputs) :
    Meets step (fun s input => inv s ∧ ok s input) s inputs := by
  induction inputs generalizing s with
  | nil => trivial
  | cons input rest ih =>
    exact ⟨⟨start, meets.1⟩, ih (preserved s input start meets.1) meets.2⟩

/-- An invariant of every step holds before every step of a run. -/
theorem meets_of_invariant {inv : State → Prop}
    (preserved : ∀ s input, inv s → inv (step s input)) {s : State} (start : inv s)
    (inputs : List Input) : Meets step (fun s _ => inv s) s inputs := by
  induction inputs generalizing s with
  | nil => trivial
  | cons input rest ih => exact ⟨start, ih (preserved s input start)⟩

/-- The states that some run from `init` reaches. -/
def Reachable (init s : State) : Prop := ∃ inputs, runFrom step init inputs = s

theorem Reachable.refl (init : State) : Reachable step init init := ⟨[], rfl⟩

theorem Reachable.next {init s : State} (reach : Reachable step init s) (input : Input) :
    Reachable step init (step s input) := by
  obtain ⟨inputs, rfl⟩ := reach
  exact ⟨inputs ++ [input], by rw [runFrom_append]; rfl⟩

theorem Reachable.invariant {inv : State → Prop} {init s : State}
    (preserved : ∀ s input, inv s → inv (step s input)) (start : inv init)
    (reach : Reachable step init s) : inv s := by
  obtain ⟨inputs, rfl⟩ := reach
  exact invariant_runFrom step inv preserved start inputs

section Observables

variable {Value : Type*} [Preorder Value]

/-- Under an invariant, an observable that no step decreases is monotone along runs. -/
theorem runFrom_mono (measure : State → Value) (inv : State → Prop)
    (preserved : ∀ s input, inv s → inv (step s input))
    (mono : ∀ s input, inv s → measure s ≤ measure (step s input))
    {s : State} (start : inv s) (inputs : List Input) :
    measure s ≤ measure (runFrom step s inputs) := by
  induction inputs generalizing s with
  | nil => exact le_rfl
  | cons input rest ih => exact (mono s input start).trans (ih (preserved s input start))

/-- The outputs of the steps of a run, in order. -/
def outputs {Output : Type*} (out : State → Input → List Output) : State → List Input → List Output
  | _, [] => []
  | s, input :: rest => out s input ++ outputs out (step s input) rest

@[simp] theorem outputs_nil {Output : Type*} (out : State → Input → List Output) (s : State) :
    outputs step out s [] = [] := rfl

@[simp] theorem outputs_cons {Output : Type*} (out : State → Input → List Output) (s : State)
    (input : Input) (rest : List Input) :
    outputs step out s (input :: rest) = out s input ++ outputs step out (step s input) rest :=
  rfl

end Observables

section Counters

/-- When every step of a run meets a condition under which its outputs are sorted and lie
between the counter before and the counter after it, the outputs of the run are sorted,
and all lie at or above the counter it started from. -/
theorem outputs_increasing_of_meets {out : State → Input → List ℕ} (counter : State → ℕ)
    {ok : State → Input → Prop}
    (within : ∀ s input, ok s input → ∀ value ∈ out s input,
      counter s ≤ value ∧ value < counter (step s input))
    (sorted : ∀ s input, (out s input).Pairwise (· < ·))
    (mono : ∀ s input, ok s input → counter s ≤ counter (step s input)) {s : State}
    {inputs : List Input} (meets : Meets step ok s inputs) :
    (outputs step out s inputs).Pairwise (· < ·) ∧
      ∀ value ∈ outputs step out s inputs, counter s ≤ value := by
  induction inputs generalizing s with
  | nil => simp
  | cons input rest ih =>
    obtain ⟨now, following⟩ := meets
    obtain ⟨later, above⟩ := ih following
    refine ⟨List.pairwise_append.mpr ⟨sorted s input, later, ?_⟩, ?_⟩
    · intro value hvalue next hnext
      exact (within s input now value hvalue).2.trans_le (above next hnext)
    · intro value hvalue
      rcases List.mem_append.mp hvalue with hnow | hlater
      · exact (within s input now value hnow).1
      · exact (mono s input now).trans (above value hlater)

/-- The same for every run, under an invariant. -/
theorem outputs_strictlyIncreasing {out : State → Input → List ℕ} (counter : State → ℕ)
    (inv : State → Prop) (preserved : ∀ s input, inv s → inv (step s input))
    (within : ∀ s input, inv s → ∀ value ∈ out s input,
      counter s ≤ value ∧ value < counter (step s input))
    (sorted : ∀ s input, (out s input).Pairwise (· < ·))
    (mono : ∀ s input, inv s → counter s ≤ counter (step s input)) {s : State} (start : inv s)
    (inputs : List Input) :
    (outputs step out s inputs).Pairwise (· < ·) ∧
      ∀ value ∈ outputs step out s inputs, counter s ≤ value :=
  outputs_increasing_of_meets step counter within sorted mono
    (meets_of_invariant step preserved start inputs)

variable {Handle : Type*}

/-- What is held after a run was held before it, or carries a value at or above the
counter the run started from: whatever a step makes held for the first time lies at
or above the counter before that step. -/
theorem held_before_or_above (held : State → Handle → Prop) (counter : State → Handle → ℕ)
    (generation : Handle → ℕ)
    (fresh : ∀ s input handle, held (step s input) handle →
      held s handle ∨ counter s handle ≤ generation handle)
    (mono : ∀ s input handle, counter s handle ≤ counter (step s input) handle)
    {s : State} {handle : Handle} {inputs : List Input}
    (later : held (runFrom step s inputs) handle) :
    held s handle ∨ counter s handle ≤ generation handle := by
  induction inputs generalizing s with
  | nil => exact Or.inl later
  | cons input rest ih =>
    rcases ih later with soon | above
    · exact fresh s input handle soon
    · exact Or.inr ((mono s input handle).trans above)

/-- Outputs that are spent by the step that emits them, and stay spent, are emitted once. -/
theorem outputs_nodup {Output : Type*} {out : State → Input → List Output} (inv : State → Prop)
    (spent : State → Output → Prop) (preserved : ∀ s input, inv s → inv (step s input))
    (single : ∀ s input, (out s input).Nodup)
    (spends : ∀ s input, inv s → ∀ value ∈ out s input, spent (step s input) value)
    (kept : ∀ s input value, inv s → spent s value → spent (step s input) value)
    (apart : ∀ s input value, spent s value → value ∉ out s input) {s : State} (start : inv s)
    (inputs : List Input) : (outputs step out s inputs).Nodup := by
  have fresh : ∀ inputs s value, inv s → spent s value → value ∉ outputs step out s inputs := by
    intro inputs
    induction inputs with
    | nil =>
      intro s value _ _ member
      cases member
    | cons input rest ih =>
      intro s value sound gone member
      rcases List.mem_append.mp member with now | later
      · exact apart s input value gone now
      · exact ih (step s input) value (preserved s input sound) (kept s input value sound gone) later
  induction inputs generalizing s with
  | nil => exact List.nodup_nil
  | cons input rest ih =>
    refine List.nodup_append.mpr ⟨single s input, ih (preserved s input start), ?_⟩
    rintro value now other later rfl
    exact fresh rest (step s input) value (preserved s input start) (spends s input start value now)
      later

/-- When a step emits nothing or the next number, the numbers a run emits are consecutive; a
step that emits nothing may also end the sequence. -/
theorem outputs_consecutive {out : State → Input → List ℕ} (inv : State → Prop)
    (next : State → Option ℕ) (preserved : ∀ s input, inv s → inv (step s input))
    (steps : ∀ s input, inv s →
      (out s input = [] ∧ (next (step s input) = next s ∨ next (step s input) = none)) ∨
        ∃ number, next s = some number ∧ out s input = [number] ∧
          next (step s input) = some (number + 1))
    {s : State} (start : inv s) (inputs : List Input) :
    (next s = none → outputs step out s inputs = []) ∧
      ∀ number, next s = some number →
        ∃ count, outputs step out s inputs = List.range' number count := by
  induction inputs generalizing s with
  | nil => exact ⟨fun _ => rfl, fun number _ => ⟨0, rfl⟩⟩
  | cons input rest ih =>
    obtain ⟨ended, going⟩ := ih (preserved s input start)
    rw [outputs_cons]
    rcases steps s input start with ⟨nothing, same | finished⟩ | ⟨first, here, emitted, after⟩
    · rw [nothing, List.nil_append]
      exact ⟨fun none => ended (same.trans none), fun number some => going number (same.trans some)⟩
    · rw [nothing, List.nil_append, ended finished]
      exact ⟨fun _ => rfl, fun number _ => ⟨0, rfl⟩⟩
    · refine ⟨fun none => absurd (here.symm.trans none) (by simp), fun number some => ?_⟩
      obtain rfl := Option.some.inj (here.symm.trans some)
      obtain ⟨count, later⟩ := going (first + 1) after
      exact ⟨count + 1, by rw [emitted, later, List.range'_succ, List.singleton_append]⟩

end Counters

section Simulation

variable {Abstract Output : Type*} (spec : Abstract → Input → Abstract) {view : State → Abstract}
  {inv : State → Prop}

/-- A view that takes every step to a step of another machine takes runs to runs. -/
theorem runFrom_simulates (preserved : ∀ s input, inv s → inv (step s input))
    (simulates : ∀ s input, inv s → view (step s input) = spec (view s) input)
    {s : State} (start : inv s) (inputs : List Input) :
    view (runFrom step s inputs) = runFrom spec (view s) inputs := by
  induction inputs generalizing s with
  | nil => rfl
  | cons input rest ih =>
    rw [runFrom_cons, runFrom_cons, ih (preserved s input start), simulates s input start]

/-- The two machines then have the same outputs, if every step of them has. -/
theorem outputs_simulates {out : State → Input → List Output}
    {specOut : Abstract → Input → List Output} (preserved : ∀ s input, inv s → inv (step s input))
    (simulates : ∀ s input, inv s → view (step s input) = spec (view s) input)
    (same : ∀ s input, inv s → out s input = specOut (view s) input) {s : State} (start : inv s)
    (inputs : List Input) :
    outputs step out s inputs = outputs spec specOut (view s) inputs := by
  induction inputs generalizing s with
  | nil => rfl
  | cons input rest ih =>
    rw [outputs_cons, outputs_cons, ih (preserved s input start), simulates s input start,
      same s input start]

end Simulation

end GemSim.Lib
