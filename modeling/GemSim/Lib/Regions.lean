import GemSim.Lib.SlotTable
import Mathlib.Data.Set.Lattice
import Mathlib.Order.CompletePartialOrder
import Mathlib.Order.Interval.Set.Disjoint

/-!
# Disjoint regions of the records of a table

Each record of a slot table occupies a set of points; records that compete for the
same points must occupy disjoint sets. This file keeps that property through the
table operations and derives that a point belongs to at most one record.

## Main definitions

* `Apart` — competing records in different slots occupy disjoint regions

## Main results

* `Apart.put`, `Apart.drop`, `Apart.of_regions` — the table operations keep it
* `Apart.unique` — a point is occupied by at most one of competing records
-/

namespace GemSim.Lib

variable {n : ℕ} {α β : Type*}

/-- Records in different slots that compete occupy disjoint regions. -/
def Apart (competes : α → α → Prop) (region : α → Set β) (table : SlotTable n α) : Prop :=
  ∀ first second x y, first ≠ second → table first = some x → table second = some y →
    competes x y → Disjoint (region x) (region y)

namespace Apart

variable {competes : α → α → Prop} {region : α → Set β} {table : SlotTable n α}

theorem empty : Apart competes region (SlotTable.empty : SlotTable n α) := by
  intro first second x y _ found
  cases found

/-- A record whose region is disjoint from its competitors in the other slots. -/
theorem put (apart : Apart competes region table) (symm : ∀ x y, competes x y → competes y x)
    {slot : Fin n} {record : α}
    (clear : ∀ other y, other ≠ slot → table other = some y → competes record y →
      Disjoint (region record) (region y)) :
    Apart competes region (table.put slot record) := by
  intro first second x y ne foundX foundY compete
  rcases SlotTable.put_eq_some.mp foundX with ⟨rfl, rfl⟩ | ⟨firstNe, oldX⟩
  · rcases SlotTable.put_eq_some.mp foundY with ⟨rfl, -⟩ | ⟨secondNe, oldY⟩
    · exact absurd rfl ne
    · exact clear second y secondNe oldY compete
  · rcases SlotTable.put_eq_some.mp foundY with ⟨rfl, rfl⟩ | ⟨-, oldY⟩
    · exact (clear first x firstNe oldX (symm x y compete)).symm
    · exact apart first second x y ne oldX oldY compete

theorem drop (apart : Apart competes region table) (slot : Fin n) :
    Apart competes region (table.drop slot) := by
  intro first second x y ne foundX foundY
  exact apart first second x y ne (SlotTable.drop_eq_some.mp foundX).2
    (SlotTable.drop_eq_some.mp foundY).2

/-- A table whose records come from the same slots with the same regions and rivals. -/
theorem of_regions (apart : Apart competes region table) {after : SlotTable n α}
    (origin : ∀ slot x, after slot = some x →
      ∃ old, table slot = some old ∧ region x = region old ∧
        ∀ y, (competes x y → competes old y) ∧ (competes y x → competes y old)) :
    Apart competes region after := by
  intro first second x y ne foundX foundY compete
  obtain ⟨oldX, presentX, regionX, rivalX⟩ := origin first x foundX
  obtain ⟨oldY, presentY, regionY, rivalY⟩ := origin second y foundY
  rw [regionX, regionY]
  exact apart first second oldX oldY ne presentX presentY
    ((rivalY oldX).2 ((rivalX y).1 compete))

/-- A point is occupied by at most one of competing records. -/
theorem unique (apart : Apart competes region table) {first second : Fin n} {x y : α}
    (foundX : table first = some x) (foundY : table second = some y) (compete : competes x y)
    {point : β} (inX : point ∈ region x) (inY : point ∈ region y) : first = second := by
  by_contra ne
  exact Set.disjoint_left.mp (apart first second x y ne foundX foundY compete) inX inY

end Apart

/-- Half-open ranges that do not pass each other's ends are disjoint. -/
theorem disjoint_Ico_of_not_overlap {a b c d : ℕ} (apart : ¬ (a < d ∧ c < b)) :
    Disjoint (Set.Ico a b) (Set.Ico c d) := by
  rw [Set.disjoint_left]
  rintro point ⟨aLe, ltB⟩ ⟨cLe, ltD⟩
  exact apart ⟨aLe.trans_lt ltD, cLe.trans_lt ltB⟩

end GemSim.Lib
