import Mathlib.Data.List.Forall2

/-!
# Checks that throw

A check returns a value or throws. A sequence of checks returns when each of them does, and the
lemmas here take such a sequence apart into its checks, in the order in which they are made.

## Main results

* `bind_eq_ok`, `forM_eq_ok`, `mapM_eq_ok` — every check of a sequence has been passed
-/

namespace GemSim.Lib.Checks

variable {ε α β : Type} {list : List α} {results : List β}

theorem bind_eq_ok {first : Except ε α} {next : α → Except ε β} {result : β} :
    (first >>= next) = .ok result ↔ ∃ value, first = .ok value ∧ next value = .ok result := by
  cases first with
  | error failure =>
    constructor
    · intro failed
      cases failed
    · rintro ⟨value, found, -⟩
      cases found
  | ok value =>
    constructor
    · intro found
      exact ⟨value, rfl, found⟩
    · rintro ⟨other, found, rest⟩
      cases found
      exact rest

theorem throw_bind {failure : ε} {next : α → Except ε β} :
    ((throw failure : Except ε α) >>= next) = throw failure := rfl

/-- A check that throws has to be passed for the rest to be reached. -/
theorem ite_throw_eq_ok {wrong : Prop} [Decidable wrong] {failure : ε} {rest : Except ε α}
    {result : α} :
    (if wrong then (throw failure : Except ε α) else rest) = .ok result ↔
      ¬ wrong ∧ rest = .ok result := by
  by_cases holds : wrong
  · rw [if_pos holds]
    constructor
    · intro thrown
      cases thrown
    · intro passed
      exact absurd holds passed.1
  · rw [if_neg holds]
    exact (and_iff_right holds).symm

theorem pure_eq_ok {value result : α} : (pure value : Except ε α) = .ok result ↔ value = result :=
  ⟨Except.ok.inj, congrArg Except.ok⟩

theorem discard_eq_ok {first : Except ε α} :
    discard first = .ok () ↔ ∃ value, first = .ok value := by
  cases first with
  | error failure => simp [discard, Functor.mapConst, Except.map]
  | ok value => simp [discard, Functor.mapConst, Except.map]

theorem exists_unit {holds : Unit → Prop} : (∃ done, holds done) ↔ holds () :=
  ⟨fun ⟨_, there⟩ => there, fun there => ⟨(), there⟩⟩

theorem forM_eq_ok {check : α → Except ε Unit} :
    forM list check = .ok () ↔ ∀ element ∈ list, check element = .ok () := by
  induction list with
  | nil => simp [pure_eq_ok]
  | cons element list ih => simp [bind_eq_ok, exists_unit, ih]

theorem mapM_eq_ok {check : α → Except ε β} :
    list.mapM check = .ok results ↔
      List.Forall₂ (fun element result => check element = .ok result) list results := by
  induction list generalizing results with
  | nil =>
    rw [List.mapM_nil, pure_eq_ok, List.forall₂_nil_left_iff]
    exact eq_comm
  | cons element list ih =>
    simp only [List.mapM_cons, bind_eq_ok, pure_eq_ok, ih]
    constructor
    · rintro ⟨result, found, others, rest, rfl⟩
      exact .cons found rest
    · intro both
      cases both with
      | cons found rest => exact ⟨_, found, _, rest, rfl⟩

/-- Each result is that of an element. -/
theorem exists_of_mapM_eq_ok {check : α → Except ε β} {result : β}
    (passed : list.mapM check = .ok results) (member : result ∈ results) :
    ∃ element ∈ list, check element = .ok result := by
  rw [mapM_eq_ok] at passed
  induction passed with
  | nil => cases member
  | cons found rest ih =>
    rcases List.mem_cons.mp member with rfl | member
    · exact ⟨_, List.mem_cons_self, found⟩
    · obtain ⟨element, there, found⟩ := ih member
      exact ⟨element, List.mem_cons_of_mem _ there, found⟩

end GemSim.Lib.Checks
