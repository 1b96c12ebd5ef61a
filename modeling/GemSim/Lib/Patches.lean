import Mathlib.Data.List.Pairwise
import Mathlib.Data.Nat.Notation
import Mathlib.Logic.Basic

/-!
# Patches on a store

A store is a function of the address. A patch replaces the values from an address on by a
list of its own, and patches are applied one after the other. Where a list of patches agree
with one larger patch that they cover, they have its effect; where they do not meet, every
one of them can be read back whole.

## Main definitions

* `Patch`, `covers` — values at consecutive addresses
* `apply`, `applyAll` — a store after a patch, and after a list of them

## Main results

* `apply_append` — a patch in two halves
* `applyAll_eq_apply` — patches that cover a patch they agree with
* `applyAll_of_mem`, `applyAll_of_outside` — patches that do not meet
-/

namespace GemSim.Lib

/-- Values at consecutive addresses, from a first one on. -/
structure Patch (Value : Type*) where
  first : ℕ
  values : List Value

namespace Patch

variable {Value : Type*} {patch whole : Patch Value} {patches : List (Patch Value)}
  {store : ℕ → Value} {address : ℕ}

def covers (patch : Patch Value) (address : ℕ) : Prop :=
  patch.first ≤ address ∧ address < patch.first + patch.values.length

/-- No address is covered by both. -/
def Apart (left right : Patch Value) : Prop := ∀ address, left.covers address → ¬ right.covers address

instance : Std.Symm (@Apart Value) := ⟨fun _ _ apart address right left => apart address left right⟩

def apply (patch : Patch Value) (store : ℕ → Value) (address : ℕ) : Value :=
  if patch.first ≤ address then patch.values[address - patch.first]?.getD (store address)
  else store address

def applyAll (patches : List (Patch Value)) (store : ℕ → Value) : ℕ → Value :=
  patches.foldl (fun store patch => patch.apply store) store

@[simp] theorem applyAll_nil : applyAll [] store = store := rfl

@[simp] theorem applyAll_cons :
    applyAll (patch :: patches) store = applyAll patches (patch.apply store) := rfl

section One

theorem apply_of_covers {inside : address - patch.first < patch.values.length}
    (above : patch.first ≤ address) :
    patch.apply store address = patch.values[address - patch.first] := by
  rw [apply, if_pos above, List.getElem?_eq_getElem inside, Option.getD_some]

theorem apply_of_not_covers (outside : ¬ patch.covers address) :
    patch.apply store address = store address := by
  rw [apply]
  by_cases above : patch.first ≤ address
  · have beyond : patch.values.length ≤ address - patch.first := by
      by_contra inside
      exact outside ⟨above, by omega⟩
    rw [if_pos above, List.getElem?_eq_none beyond, Option.getD_none]
  · rw [if_neg above]

@[simp] theorem apply_nil (first : ℕ) : apply ⟨first, []⟩ store = store := by
  funext address
  apply apply_of_not_covers
  rintro ⟨above, below⟩
  rw [List.length_nil] at below
  omega

/-- A patch in two halves. -/
theorem apply_append (first : ℕ) (left right : List Value) (store : ℕ → Value) :
    apply ⟨first, left ++ right⟩ store =
      apply ⟨first + left.length, right⟩ (apply ⟨first, left⟩ store) := by
  funext address
  by_cases above : first + left.length ≤ address
  · have spared : ¬ covers ⟨first, left⟩ address := fun inside => by
      have := inside.2
      dsimp only at this
      omega
    rw [apply, if_pos (by dsimp only; omega), apply, if_pos above, apply_of_not_covers spared,
      List.getElem?_append_right (by dsimp only; omega)]
    dsimp only
    rw [Nat.sub_add_eq]
  · have spared : ¬ covers ⟨first + left.length, right⟩ address := fun inside => above inside.1
    rw [apply_of_not_covers spared, apply, apply]
    dsimp only
    by_cases reached : first ≤ address
    · rw [if_pos reached, if_pos reached, List.getElem?_append_left (by omega)]
    · rw [if_neg reached, if_neg reached]

end One

section Many

/-- What is true of the store, and of every value a patch puts there, is true in the end. -/
theorem applyAll_induction {motive : Value → Prop} (before : motive (store address))
    (put : ∀ patch ∈ patches, ∀ value, patch.covers address →
      patch.values[address - patch.first]? = some value → motive value) :
    motive (applyAll patches store address) := by
  induction patches generalizing store with
  | nil => exact before
  | cons patch rest ih =>
    rw [applyAll_cons]
    refine ih ?_ fun patch member => put patch (List.mem_cons_of_mem _ member)
    by_cases here : patch.covers address
    · have inside : address - patch.first < patch.values.length := by
        have := here.1
        have := here.2
        omega
      rw [@apply_of_covers _ _ _ _ inside here.1]
      exact put patch List.mem_cons_self _ here (List.getElem?_eq_getElem inside)
    · rw [apply_of_not_covers here]
      exact before

theorem applyAll_of_outside (outside : ∀ patch ∈ patches, ¬ patch.covers address) :
    applyAll patches store address = store address := by
  refine @applyAll_induction _ patches store address (· = store address) rfl ?_
  intro patch member value here
  exact absurd here (outside patch member)

/-- Every value some patch puts at an address is the same, and one does put it there. -/
theorem applyAll_eq_of_agree {value : Value}
    (agree : ∀ patch ∈ patches, patch.covers address →
      patch.values[address - patch.first]? = some value)
    (reached : ∃ patch ∈ patches, patch.covers address) :
    applyAll patches store address = value := by
  induction patches generalizing store with
  | nil =>
    obtain ⟨patch, member, -⟩ := reached
    cases member
  | cons patch rest ih =>
    have later : ∀ patch ∈ rest, patch.covers address →
        patch.values[address - patch.first]? = some value :=
      fun patch member => agree patch (List.mem_cons_of_mem _ member)
    rw [applyAll_cons]
    by_cases again : ∃ patch ∈ rest, patch.covers address
    · exact ih later again
    -- no later patch reaches the address, so the first one does
    have outside : ∀ patch ∈ rest, ¬ patch.covers address :=
      fun patch member here => again ⟨patch, member, here⟩
    rw [applyAll_of_outside outside]
    obtain ⟨found, member, here⟩ := reached
    rcases List.mem_cons.mp member with rfl | member
    · rw [apply, if_pos here.1, agree found List.mem_cons_self here, Option.getD_some]
    · exact absurd here (outside found member)

/-- Patches that cover a patch, and agree with it, have its effect. -/
theorem applyAll_eq_apply
    (agree : ∀ patch ∈ patches, ∀ address, patch.covers address → whole.covers address ∧
      patch.values[address - patch.first]? = whole.values[address - whole.first]?)
    (cover : ∀ address, whole.covers address → ∃ patch ∈ patches, patch.covers address) :
    applyAll patches store = whole.apply store := by
  funext address
  by_cases inside : whole.covers address
  · have below : address - whole.first < whole.values.length := by
      have := inside.1
      have := inside.2
      omega
    rw [@apply_of_covers _ _ _ _ below inside.1]
    apply applyAll_eq_of_agree _ (cover address inside)
    intro patch member here
    rw [(agree patch member address here).2, List.getElem?_eq_getElem below]
  · rw [apply_of_not_covers inside]
    apply applyAll_of_outside
    intro patch member here
    exact inside (agree patch member address here).1

/-- Patches that do not meet can each be read back. -/
theorem applyAll_of_mem (apart : patches.Pairwise Apart) (member : patch ∈ patches)
    (covered : patch.covers address) :
    applyAll patches store address = patch.apply store address := by
  have inside : address - patch.first < patch.values.length := by
    have := covered.1
    have := covered.2
    omega
  rw [@apply_of_covers _ _ _ _ inside covered.1]
  apply applyAll_eq_of_agree _ ⟨patch, member, covered⟩
  intro other there here
  by_cases same : other = patch
  · rw [same, List.getElem?_eq_getElem inside]
  · exact absurd covered (apart.forall there member same address here)

end Many

end Patch

end GemSim.Lib
