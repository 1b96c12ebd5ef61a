import Mathlib.Data.Nat.Notation

/-!
# Triples

An action changes a state and may throw. A triple says what holds after the action, if it does not
throw, provided that something held before.

## Main definitions

* `Triple` — what holds before an action, and after it

## Main results

* `Triple.bind`, `Triple.liftBind`, `Triple.forM` — the triples of actions that are made of others
-/

namespace GemSim.Lib

variable {σ ε α β : Type} {before after : σ → Prop} {action : StateT σ (Except ε) α}
  {next : α → StateT σ (Except ε) β} {between : α → σ → Prop} {ends : β → σ → Prop}

/-- An action that starts where `before` holds and returns a value ends where `post` holds of that
value. -/
def Triple (before : σ → Prop) (action : StateT σ (Except ε) α) (post : α → σ → Prop) : Prop :=
  ∀ state value final, before state → action.run state = .ok (value, final) → post value final

theorem Triple.bind (first : Triple before action between)
    (second : ∀ value, Triple (between value) (next value) ends) :
    Triple before (action >>= next) ends := by
  intro state value final start ran
  rw [StateT.run_bind] at ran
  cases went : action.run state with
  | error error =>
    rw [went] at ran
    cases ran
  | ok result =>
    rw [went] at ran
    exact second _ _ _ _ (first _ _ _ start went) ran

theorem Triple.pure {value : α} {post : α → σ → Prop}
    (holds : ∀ state, before state → post value state) :
    Triple before (Pure.pure value : StateT σ (Except ε) α) post := by
  intro state _ final start ran
  cases ran
  exact holds state start

theorem Triple.throw {error : ε} {post : α → σ → Prop} :
    Triple before (MonadExcept.throw error : StateT σ (Except ε) α) post := by
  intro state value final start ran
  cases ran

/-- A check leaves the state as it is. -/
theorem Triple.lift {check : Except ε α} {post : α → σ → Prop}
    (holds : ∀ value state, check = .ok value → before state → post value state) :
    Triple before (liftM check : StateT σ (Except ε) α) post := by
  intro state value final start ran
  cases made : check with
  | error error =>
    rw [made] at ran
    cases ran
  | ok result =>
    rw [made] at ran
    cases ran
    exact holds _ _ made start

/-- What follows a check may use that it has been passed. -/
theorem Triple.liftBind {check : Except ε α}
    (rest : ∀ value, check = .ok value → Triple before (next value) ends) :
    Triple before ((liftM check : StateT σ (Except ε) α) >>= next) ends := by
  have passed : Triple before (liftM check : StateT σ (Except ε) α)
      fun value state => check = .ok value ∧ before state :=
    Triple.lift fun value state made start => ⟨made, start⟩
  refine passed.bind fun value => ?_
  rintro state result final ⟨made, start⟩ ran
  exact rest value made state result final start ran

theorem Triple.weaken {also : σ → Prop} {post : α → σ → Prop} (triple : Triple before action post)
    (stronger : ∀ state, also state → before state) : Triple also action post :=
  fun state value final start ran => triple state value final (stronger state start) ran

/-- What each pass keeps, all of them keep. -/
theorem Triple.forM {list : List α} {each : α → StateT σ (Except ε) Unit}
    (keeps : ∀ element ∈ list, Triple before (each element) fun _ => before) :
    Triple before (list.forM each) fun _ => before := by
  induction list with
  | nil => exact Triple.pure fun _ start => start
  | cons element list ih =>
    have rest : Triple before (list.forM each) fun _ => before :=
      ih fun other member => keeps other (List.mem_cons_of_mem element member)
    exact Triple.bind (keeps element List.mem_cons_self) fun _ => rest

end GemSim.Lib
