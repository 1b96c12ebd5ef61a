import GemSim.Lib.Words
import Mathlib.Algebra.BigOperators.Group.Finset.Basic
import Mathlib.Algebra.Order.BigOperators.Group.Finset
import Mathlib.Data.Fintype.Basic
import Mathlib.Data.List.FinRange

/-!
# Fixed-capacity slot tables

A slot table has a fixed number of slots, each free or holding one record. It is
the array-of-optionals on which handle-based stores are built: a record is put
into the lowest free slot, addressed by its slot number and dropped in place.

## Main definitions

* `SlotTable n α` — `n` slots over records of type `α`
* `firstFree` — the lowest free slot
* `findSlot`, `holds` — the first record a test accepts, and whether there is one
* `put`, `drop`, `keep`, `modify` — fill a slot, free a slot, free the slots a test
  rejects, change every record
* `live`, `total` — the number of records, and a natural-number sum over them
* `sweep` — release slot by slot the records a test accepts
-/

namespace GemSim.Lib

/-- A table of `n` slots, each free or holding a record. -/
abbrev SlotTable (n : ℕ) (α : Type*) := Fin n → Option α

namespace SlotTable

variable {n : ℕ} {α : Type*}

/-- The table whose slots are all free. -/
def empty : SlotTable n α := fun _ => none

/-- The lowest free slot. -/
def firstFree (table : SlotTable n α) : Option (Fin n) :=
  (List.finRange n).find? fun slot => (table slot).isNone

/-- The first record the test accepts, with its slot. -/
def findSlot (table : SlotTable n α) (test : α → Bool) : Option (Fin n × α) :=
  (List.finRange n).findSome? fun slot =>
    ((table slot).filter test).map fun record => (slot, record)

/-- Some record passes the test. -/
def holds (table : SlotTable n α) (test : α → Bool) : Bool :=
  (List.finRange n).any fun slot => (table slot).any test

/-- Fill a slot. -/
def put (table : SlotTable n α) (slot : Fin n) (record : α) : SlotTable n α :=
  Function.update table slot (some record)

/-- Free a slot. -/
def drop (table : SlotTable n α) (slot : Fin n) : SlotTable n α :=
  Function.update table slot none

/-- Free every slot whose record the test rejects. -/
def keep (table : SlotTable n α) (test : α → Bool) : SlotTable n α :=
  fun slot => (table slot).filter test

/-- Change every record. -/
def modify (table : SlotTable n α) (change : α → α) : SlotTable n α :=
  fun slot => (table slot).map change

@[simp] theorem empty_apply (slot : Fin n) : (empty : SlotTable n α) slot = none := rfl

@[simp] theorem put_same (table : SlotTable n α) (slot : Fin n) (record : α) :
    table.put slot record slot = some record := by
  simp [put]

theorem put_other (table : SlotTable n α) {slot other : Fin n} (record : α) (ne : other ≠ slot) :
    table.put slot record other = table other := by
  simp [put, ne]

@[simp] theorem drop_same (table : SlotTable n α) (slot : Fin n) :
    table.drop slot slot = none := by
  simp [drop]

theorem drop_other (table : SlotTable n α) {slot other : Fin n} (ne : other ≠ slot) :
    table.drop slot other = table other := by
  simp [drop, ne]

theorem put_apply (table : SlotTable n α) (slot other : Fin n) (record : α) :
    table.put slot record other = if other = slot then some record else table other := by
  simp [put, Function.update_apply]

theorem drop_apply (table : SlotTable n α) (slot other : Fin n) :
    table.drop slot other = if other = slot then none else table other := by
  simp [drop, Function.update_apply]

theorem put_eq_some {table : SlotTable n α} {slot other : Fin n} {record found : α} :
    table.put slot record other = some found ↔
      (other = slot ∧ found = record) ∨ (other ≠ slot ∧ table other = some found) := by
  rw [put_apply]
  by_cases same : other = slot <;> simp [same, eq_comm]

theorem drop_eq_some {table : SlotTable n α} {slot other : Fin n} {found : α} :
    table.drop slot other = some found ↔ other ≠ slot ∧ table other = some found := by
  rw [drop_apply]
  by_cases same : other = slot <;> simp [same]

theorem keep_eq_some {table : SlotTable n α} {test : α → Bool} {slot : Fin n} {found : α} :
    table.keep test slot = some found ↔ table slot = some found ∧ test found = true := by
  simp [keep, Option.filter_eq_some_iff]

theorem modify_eq_some {table : SlotTable n α} {change : α → α} {slot : Fin n} {found : α} :
    table.modify change slot = some found ↔ ∃ record, table slot = some record ∧
      change record = found := by
  simp [modify]

/-- Rewriting a record to one the change cannot tell apart is invisible through it. -/
theorem modify_put_same {table : SlotTable n α} {slot : Fin n} {old record : α} {β : Type*}
    {change : α → β} (taken : table slot = some old) (same : change record = change old) :
    (fun other => (table.put slot record other).map change) =
      fun other => (table other).map change := by
  funext other
  rw [put_apply]
  by_cases hit : other = slot
  · rw [if_pos hit, hit, taken, Option.map_some, Option.map_some, same]
  · rw [if_neg hit]

theorem firstFree_spec {table : SlotTable n α} {slot : Fin n}
    (found : table.firstFree = some slot) : table slot = none := by
  have := List.find?_some found
  simpa using this

theorem findSlot_spec {table : SlotTable n α} {test : α → Bool} {slot : Fin n} {record : α}
    (found : table.findSlot test = some (slot, record)) :
    table slot = some record ∧ test record = true := by
  obtain ⟨candidate, -, hit⟩ := List.exists_of_findSome?_eq_some found
  obtain ⟨kept, accepted, same⟩ := Option.map_eq_some_iff.mp hit
  obtain ⟨rfl, rfl⟩ := Prod.mk.inj same
  exact Option.filter_eq_some_iff.mp accepted

theorem findSlot_eq_none {table : SlotTable n α} {test : α → Bool} :
    table.findSlot test = none ↔ ∀ slot record, table slot = some record → test record = false := by
  simp [findSlot, List.findSome?_eq_none_iff, Option.filter_eq_none_iff]

/-- A search sees only the records that pass its test. -/
theorem findSlot_congr {table after : SlotTable n α} {test : α → Bool}
    (same : ∀ slot, (after slot).filter test = (table slot).filter test) :
    after.findSlot test = table.findSlot test := by
  unfold findSlot
  simp only [same]

/-- A record that alone passes the test is the one found. -/
theorem findSlot_unique {table : SlotTable n α} {test : α → Bool} {slot : Fin n} {record : α}
    (taken : table slot = some record) (accepted : test record = true)
    (alone : ∀ other found, table other = some found → test found = true → other = slot) :
    table.findSlot test = some (slot, record) := by
  cases result : table.findSlot test with
  | none => exact absurd accepted (by simp [findSlot_eq_none.mp result slot record taken])
  | some found =>
    obtain ⟨other, object⟩ := found
    obtain ⟨present, passes⟩ := findSlot_spec result
    obtain rfl := alone other object present passes
    rw [taken] at present
    rw [Option.some.inj present]

theorem holds_eq_true {table : SlotTable n α} {test : α → Bool} :
    table.holds test = true ↔ ∃ slot record, table slot = some record ∧ test record = true := by
  simp [holds, Option.any_eq_true]

theorem holds_eq_false {table : SlotTable n α} {test : α → Bool} :
    table.holds test = false ↔ ∀ slot record, table slot = some record → test record = false := by
  rw [← Bool.not_eq_true, holds_eq_true]
  push Not
  simp

section Sums

/-- The sum of a measure over the records of the table. -/
def total (table : SlotTable n α) (measure : α → ℕ) : ℕ :=
  ∑ slot, ((table slot).map measure).getD 0

/-- The number of slots in use. -/
def live (table : SlotTable n α) : ℕ := table.total fun _ => 1

@[simp] theorem total_empty (measure : α → ℕ) : (empty : SlotTable n α).total measure = 0 := by
  simp [total]

@[simp] theorem live_empty : (empty : SlotTable n α).live = 0 := total_empty _

/-- Splitting one slot off a sum over the table. -/
theorem total_eq_add (table : SlotTable n α) (measure : α → ℕ) (slot : Fin n) :
    table.total measure =
      ((table slot).map measure).getD 0 +
        ∑ other ∈ Finset.univ.erase slot, ((table other).map measure).getD 0 :=
  (Finset.add_sum_erase _ _ (Finset.mem_univ slot)).symm

/-- Writing one slot moves the sum by the difference at that slot. -/
theorem total_update (table : SlotTable n α) (measure : α → ℕ) (slot : Fin n)
    (entry : Option α) :
    SlotTable.total (Function.update table slot entry) measure +
        ((table slot).map measure).getD 0 =
      table.total measure + (entry.map measure).getD 0 := by
  rw [total_eq_add _ measure slot, total_eq_add table measure slot]
  have rest : ∀ other ∈ Finset.univ.erase slot,
      ((Function.update table slot entry other).map measure).getD 0 =
        ((table other).map measure).getD 0 := by
    intro other member
    rw [Function.update_of_ne (Finset.ne_of_mem_erase member)]
  rw [Finset.sum_congr rfl rest, Function.update_self]
  omega

theorem total_put_free {table : SlotTable n α} {slot : Fin n} (free : table slot = none)
    (measure : α → ℕ) (record : α) :
    (table.put slot record).total measure = table.total measure + measure record := by
  have := total_update table measure slot (some record)
  simpa [put, free] using this

theorem total_put_taken {table : SlotTable n α} {slot : Fin n} {old : α}
    (taken : table slot = some old) (measure : α → ℕ) (record : α) :
    (table.put slot record).total measure + measure old =
      table.total measure + measure record := by
  have := total_update table measure slot (some record)
  simpa [put, taken] using this

theorem total_drop {table : SlotTable n α} {slot : Fin n} {old : α}
    (taken : table slot = some old) (measure : α → ℕ) :
    (table.drop slot).total measure + measure old = table.total measure := by
  have := total_update table measure slot none
  simpa [drop, taken] using this

/-- A change that a measure cannot tell keeps its sum. -/
theorem total_modify (table : SlotTable n α) {change : α → α} (measure : α → ℕ)
    (same : ∀ record, measure (change record) = measure record) :
    (table.modify change).total measure = table.total measure := by
  refine Finset.sum_congr rfl fun slot _ => ?_
  rw [modify]
  cases table slot with
  | none => rfl
  | some record => exact same record

theorem le_total {table : SlotTable n α} {slot : Fin n} {record : α}
    (taken : table slot = some record) (measure : α → ℕ) :
    measure record ≤ table.total measure := by
  rw [total_eq_add table measure slot, taken]
  simp

theorem live_le (table : SlotTable n α) : table.live ≤ n := by
  have bound : ∀ slot ∈ (Finset.univ : Finset (Fin n)),
      ((table slot).map fun _ => 1).getD 0 ≤ 1 := by
    intro slot _
    cases table slot <;> simp
  simpa [live, total] using Finset.sum_le_card_nsmul _ _ 1 bound

/-- Tables that look alike through a view have the same sums of measures of it. -/
theorem total_of_view {table after : SlotTable n α} {β : Type*} {view : α → β}
    (same : (fun slot => (after slot).map view) = fun slot => (table slot).map view)
    (measure : β → ℕ) :
    (after.total fun record => measure (view record)) =
      table.total fun record => measure (view record) := by
  refine Finset.sum_congr rfl fun slot _ => ?_
  have here := congrArg (fun entry => (entry.map measure).getD 0) (congrFun same slot)
  simpa only [Option.map_map, Function.comp_def] using here

section Views

variable {β : Type*} (table : SlotTable n α) (view : α → β)

theorem firstFree_map : firstFree (fun slot => (table slot).map view) = table.firstFree := by
  simp [firstFree]

theorem total_map (measure : β → ℕ) :
    total (fun slot => (table slot).map view) measure =
      table.total fun record => measure (view record) := by
  simp [total, Function.comp_def]

theorem put_map (slot : Fin n) (record : α) :
    (fun other => (table.put slot record other).map view) =
      put (fun other => (table other).map view) slot (view record) := by
  funext other
  rw [put_apply, put_apply]
  split <;> rfl

theorem drop_map (slot : Fin n) :
    (fun other => (table.drop slot other).map view) =
      drop (fun other => (table other).map view) slot := by
  funext other
  rw [drop_apply, drop_apply]
  split <;> rfl

theorem keep_map (test : β → Bool) :
    (fun slot => (table.keep (fun record => test (view record)) slot).map view) =
      keep (fun slot => (table slot).map view) test := by
  funext slot
  simp only [keep]
  cases table slot with
  | none => rfl
  | some record => by_cases accepted : test (view record) = true <;> simp [Option.filter, accepted]

end Views

section Sweeps

variable {σ : Type*} (table : σ → SlotTable n α) (test : α → Bool) (release : Fin n → α → σ → σ)

/-- Release one slot of the table in a state, if the test accepts its record. -/
def sweepSlot (state : σ) (slot : Fin n) : σ :=
  match table state slot with
  | none => state
  | some record => if test record then release slot record state else state

/-- Release every slot whose record the test accepts, from the first to the last. -/
def sweep (state : σ) : σ := (List.finRange n).foldl (sweepSlot table test release) state

variable {table test release}

/-- What every release keeps, a sweep keeps. -/
theorem sweep_induct (inv : σ → Prop)
    (kept : ∀ state slot record, inv state → table state slot = some record →
      test record = true → inv (release slot record state))
    {state : σ} (start : inv state) : inv (sweep table test release state) := by
  have slots : ∀ slots : List (Fin n), ∀ state, inv state →
      inv (slots.foldl (sweepSlot table test release) state) := by
    intro slots
    induction slots with
    | nil => exact fun _ start => start
    | cons slot rest ih =>
      intro state start
      refine ih _ ?_
      unfold sweepSlot
      split
      · exact start
      · rename_i record here
        split
        · exact kept state slot record start here ‹_›
        · exact start
  exact slots _ state start

/-- When a release frees its own slot alone, a sweep keeps the records the test rejects. -/
theorem sweep_table (table : σ → SlotTable n α)
    (drops : ∀ state slot record, table (release slot record state) = (table state).drop slot)
    (state : σ) :
    table (sweep table test release state) = (table state).keep fun record => !test record := by
  have one : ∀ state slot other, table (sweepSlot table test release state slot) other =
      if other = slot then (table state other).filter fun record => !test record
      else table state other := by
    intro state slot other
    unfold sweepSlot
    cases here : table state slot with
    | none =>
      by_cases same : other = slot
      · rw [if_pos same, same, here]
        rfl
      · rw [if_neg same]
    | some record =>
      by_cases accepted : test record = true
      · by_cases same : other = slot
        · rw [if_pos same, same, here]
          simp [Option.filter_some, accepted, drops]
        · simp [accepted, drops, drop_apply, same]
      · by_cases same : other = slot
        · rw [if_pos same, same, here]
          simp [Option.filter_some, accepted, here]
        · simp [accepted, same]
  have slots : ∀ slots : List (Fin n), ∀ state other,
      table (slots.foldl (sweepSlot table test release) state) other =
        if other ∈ slots then (table state other).filter fun record => !test record
        else table state other := by
    intro slots
    induction slots with
    | nil => simp
    | cons slot rest ih =>
      intro state other
      rw [List.foldl_cons, ih, one]
      by_cases same : other = slot
      · simp [same, Option.filter_filter]
      · simp [same]
  funext slot
  exact (slots _ state slot).trans (if_pos (List.mem_finRange slot))

end Sweeps

section PartialViews

variable {β : Type*} {view : α → Option β} {table : SlotTable n α} {slot : Fin n}

/-- A record is replaced by one that shows as much through the view as was there. -/
theorem bind_put {record : α} (same : view record = (table slot).bind view) (other : Fin n) :
    (table.put slot record other).bind view = (table other).bind view := by
  rw [put_apply]
  by_cases hit : other = slot
  · rw [if_pos hit, hit, Option.bind_some, same]
  · rw [if_neg hit]

/-- Dropping a record the view hides is invisible. -/
theorem bind_drop (hidden : (table slot).bind view = none) (other : Fin n) :
    (table.drop slot other).bind view = (table other).bind view := by
  rw [drop_apply]
  by_cases hit : other = slot
  · rw [if_pos hit, hit, hidden, Option.bind_none]
  · rw [if_neg hit]

/-- A measure that only counts what a partial view shows has the same sum over tables that
look alike through it. -/
theorem total_of_bind {after : SlotTable n α}
    (same : ∀ slot, (after slot).bind view = (table slot).bind view) {measure : α → ℕ}
    (seen : β → ℕ) (through : ∀ record, measure record = ((view record).map seen).getD 0) :
    after.total measure = table.total measure := by
  have shown : ∀ entry : Option α,
      (entry.map measure).getD 0 = ((entry.bind view).map seen).getD 0 := by
    rintro (_ | record)
    · rfl
    · exact through record
  exact Finset.sum_congr rfl fun slot _ => by rw [shown, shown, same slot]

end PartialViews

section Counters

variable {counter : UInt64} {table : SlotTable n α}

/-- Counting up when a free slot is filled stays exact in a table of fewer than `2 ^ 64`
slots. -/
theorem live_put_free (small : n < 2 ^ 64) (exact : counter.toNat = table.live) {slot : Fin n}
    (free : table slot = none) (record : α) :
    (counter + 1).toNat = (table.put slot record).live := by
  have grown : (table.put slot record).live = table.live + 1 := total_put_free free _ record
  have bound := live_le (table.put slot record)
  rw [toNat_add_exact (by rw [UInt64.toNat_one]; omega), UInt64.toNat_one]
  omega

theorem live_drop (exact : counter.toNat = table.live) {slot : Fin n} {old : α}
    (taken : table slot = some old) : (counter - 1).toNat = (table.drop slot).live := by
  have shrunk : (table.drop slot).live + 1 = table.live := total_drop taken fun _ => 1
  rw [toNat_sub_exact (by rw [UInt64.toNat_one]; omega), UInt64.toNat_one]
  omega

theorem live_put_taken {slot : Fin n} {old : α} (taken : table slot = some old) (record : α) :
    (table.put slot record).live = table.live := by
  have same := total_put_taken taken (fun _ => 1) record
  simp only [live]
  omega

end Counters

end Sums

end SlotTable

end GemSim.Lib
