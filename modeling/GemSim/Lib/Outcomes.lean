import Mathlib.Data.List.Forall2

/-!
# Outcomes of programs that may stop

A program changes a state and may stop with an error; what it changed before it stops stays. An
outcome says what holds of the state at the end, in both cases.

## Main definitions

* `Program` — a program that may stop
* `Outcome` — what holds when a program is done, and when it stops

## Main results

* `Outcome.bind`, `Outcome.forM`, `Outcome.mapM` — the outcomes of programs that are made of others
-/

namespace GemSim.Lib

/-- A program that changes a state and may stop with an error. -/
abbrev Program (ε σ : Type) := ExceptT ε (StateM σ)

namespace Program

variable {ε σ α β : Type}

/-- How a program ends, and the state it leaves. -/
def result (program : Program ε σ α) (state : σ) : Except ε α × σ := program.run.run state

/-- When the program starts where `before` holds, then `done` holds of its value and the state it
leaves, or `stopped` of the error and that state. -/
def Outcome (before : σ → Prop) (program : Program ε σ α) (done : α → σ → Prop)
    (stopped : ε → σ → Prop) : Prop :=
  ∀ state, before state →
    (∀ value final, program.result state = (.ok value, final) → done value final) ∧
      ∀ error final, program.result state = (.error error, final) → stopped error final

variable {before : σ → Prop} {program : Program ε σ α} {next : α → Program ε σ β}
  {done between : α → σ → Prop} {ends : β → σ → Prop} {stopped : ε → σ → Prop}

theorem result_bind_ok {state middle : σ} {value : α}
    (first : program.result state = (.ok value, middle)) :
    (program >>= next).result state = (next value).result middle := by
  simp only [result, ExceptT.run, StateT.run, bind, ExceptT.bind, ExceptT.mk, StateT.bind] at first ⊢
  rw [first]
  rfl

theorem result_bind_error {state middle : σ} {error : ε}
    (first : program.result state = (.error error, middle)) :
    (program >>= next).result state = (.error error, middle) := by
  simp only [result, ExceptT.run, StateT.run, bind, ExceptT.bind, ExceptT.mk, StateT.bind] at first ⊢
  rw [first]
  rfl

namespace Outcome

theorem pure {value : α} (holds : ∀ state, before state → done value state) :
    Outcome before (Pure.pure value : Program ε σ α) done stopped := by
  intro state start
  refine ⟨?_, ?_⟩
  · intro other final ran
    cases ran
    exact holds state start
  · intro error final ran
    cases ran

theorem throw {error : ε} (holds : ∀ state, before state → stopped error state) :
    Outcome before (MonadExcept.throw error : Program ε σ α) done stopped := by
  intro state start
  refine ⟨?_, ?_⟩
  · intro value final ran
    cases ran
  · intro other final ran
    cases ran
    exact holds state start

theorem bind (first : Outcome before program between stopped)
    (second : ∀ value, Outcome (between value) (next value) ends stopped) :
    Outcome before (program >>= next) ends stopped := by
  intro state start
  rcases went : program.result state with ⟨made, middle⟩
  cases made with
  | error error =>
    rw [result_bind_error went]
    refine ⟨?_, ?_⟩
    · intro value final ran
      cases ran
    · intro other final ran
      cases ran
      exact (first state start).2 error middle went
  | ok value =>
    rw [result_bind_ok went]
    exact second value middle ((first state start).1 value middle went)

theorem weaken {also : σ → Prop} {ended : α → σ → Prop} {failed : ε → σ → Prop}
    (outcome : Outcome before program done stopped) (stronger : ∀ state, also state → before state)
    (weaker : ∀ value state, done value state → ended value state)
    (either : ∀ error state, stopped error state → failed error state) :
    Outcome also program ended failed := by
  intro state start
  obtain ⟨finished, broken⟩ := outcome state (stronger state start)
  exact ⟨fun value final ran => weaker value final (finished value final ran),
    fun error final ran => either error final (broken error final ran)⟩

/-- What each pass keeps, all of them keep. -/
theorem forM {list : List α} {each : α → Program ε σ Unit}
    (keeps : ∀ element ∈ list, Outcome before (each element) (fun _ => before) stopped) :
    Outcome before (list.forM each) (fun _ => before) stopped := by
  induction list with
  | nil => exact Outcome.pure fun _ start => start
  | cons element list ih =>
    have rest : Outcome before (list.forM each) (fun _ => before) stopped :=
      ih fun other member => keeps other (List.mem_cons_of_mem element member)
    exact Outcome.bind (keeps element List.mem_cons_self) fun _ => rest

/-- Each value that is computed has its property, and what each pass keeps, all of them keep. -/
theorem mapM {list : List α} {each : α → Program ε σ β} {made : α → β → Prop}
    (keeps : ∀ element ∈ list,
      Outcome before (each element) (fun value state => made element value ∧ before state) stopped) :
    Outcome before (list.mapM each)
      (fun values state => List.Forall₂ made list values ∧ before state) stopped := by
  induction list with
  | nil => exact Outcome.pure fun _ start => ⟨.nil, start⟩
  | cons element list ih =>
    rw [List.mapM_cons]
    refine Outcome.bind (keeps element List.mem_cons_self) fun value => ?_
    intro state start
    obtain ⟨here, kept⟩ := start
    have rest := ih fun other member => keeps other (List.mem_cons_of_mem element member)
    exact Outcome.bind rest (fun values => Outcome.pure fun _ later =>
      ⟨.cons here later.1, later.2⟩) state kept

end Outcome

end Program

end GemSim.Lib
