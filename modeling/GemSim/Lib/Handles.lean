import GemSim.Lib.SlotTable

/-!
# Generation-stamped handles

A handle names a slot of a table by a one-based id and by the generation its record was
stamped with. Generations come from a counter that hands out every 64-bit value at most
once and then nothing. A record put into a slot later carries a later generation, so a
handle whose record was dropped names nothing ever after.

## Main definitions

* `IssueCounter`, `IssueCounter.take` — the counter of generations
* `slotOfId` — the slot a one-based id names
* `StampedBelow` — every record of a table was stamped before a bound
* `Succeeds` — a table holds nothing but records of another one and fresh records
* `Gone` — a handle was issued and its record is no longer there

## Main results

* `take_spec` — a counter hands out its bound and moves past it
* `Gone.succeeds` — a handle that is gone stays gone
* `gone_of_succeeds` — a record that is no longer held is gone
-/

namespace GemSim.Lib

/-- A counter over the 64-bit values from 1 on, with a flag for the value after the last. -/
structure IssueCounter where
  next : UInt64 := 1
  exhausted : Bool := false
  deriving DecidableEq

namespace IssueCounter

/-- The value handed out and the counter after it; an exhausted counter hands out nothing. -/
def take (counter : IssueCounter) : Option (UInt64 × IssueCounter) :=
  if counter.exhausted || counter.next = 0 then none
  else if counter.next = u64Max then some (counter.next, { counter with exhausted := true })
  else some (counter.next, { counter with next := counter.next + 1 })

/-- Every value handed out so far is below the bound. -/
def bound (counter : IssueCounter) : ℕ := if counter.exhausted then 2 ^ 64 else counter.next.toNat

/-- A counter hands out its bound and moves past it. -/
theorem take_spec {counter after : IssueCounter} {value : UInt64}
    (taken : counter.take = some (value, after)) :
    value ≠ 0 ∧ value.toNat = counter.bound ∧ after.bound = counter.bound + 1 := by
  unfold take at taken
  split_ifs at taken with spent last
  all_goals
    obtain ⟨rfl, rfl⟩ := Prod.mk.inj (Option.some.inj taken)
    rw [Bool.or_eq_true, not_or, Bool.not_eq_true, decide_eq_true_eq] at spent
    obtain ⟨left, positive⟩ := spent
  · simp [bound, left, last]
    decide
  · refine ⟨positive, by simp [bound, left], ?_⟩
    simp only [bound, left, Bool.false_eq_true, if_false]
    exact toNat_succ last

end IssueCounter

/-- The slot a one-based id names. -/
def slotOfId (n : ℕ) (id : UInt64) : Option (Fin n) :=
  if id = 0 then none
  else if inside : id.toNat - 1 < n then some ⟨id.toNat - 1, inside⟩
  else none

/-- The one-based id of a slot. -/
def idOfSlot {n : ℕ} (slot : Fin n) : UInt64 := UInt64.ofNat (slot.val + 1)

theorem toNat_idOfSlot {n : ℕ} (small : n < 2 ^ 64) (slot : Fin n) :
    (idOfSlot slot).toNat = slot.val + 1 :=
  toNat_ofNat_of_lt (by have := slot.isLt; omega)

theorem slotOfId_idOfSlot {n : ℕ} (small : n < 2 ^ 64) (slot : Fin n) :
    slotOfId n (idOfSlot slot) = some slot := by
  have value := toNat_idOfSlot small slot
  have positive : idOfSlot slot ≠ 0 := ne_zero_iff_toNat_pos.mpr (by omega)
  rw [slotOfId, if_neg positive, dif_pos (by rw [value]; exact slot.isLt)]
  congr 1
  exact Fin.ext (congrArg (· - 1) value)

theorem slotOfId_inj {n : ℕ} {first second : UInt64} {slot : Fin n}
    (left : slotOfId n first = some slot) (right : slotOfId n second = some slot) :
    first = second := by
  unfold slotOfId at left right
  split_ifs at left right with firstZero firstIn secondZero secondIn
  obtain rfl := Option.some.inj left
  have same := congrArg Fin.val (Option.some.inj right)
  have firstPos := ne_zero_iff_toNat_pos.mp firstZero
  have secondPos := ne_zero_iff_toNat_pos.mp secondZero
  exact UInt64.toNat_inj.mp (by simp only at same; omega)

namespace SlotTable

variable {n : ℕ} {α Identity : Type*} (identity : α → Identity) (stamp : Identity → UInt64)

/-- Every record was stamped below the bound. -/
def StampedBelow (table : SlotTable n α) (bound : ℕ) : Prop :=
  ∀ slot record, table slot = some record → (stamp (identity record)).toNat < bound

/-- Every record of the table after was in its slot before, under the same identity, or is
stamped at the bound or later. -/
def Succeeds (bound : ℕ) (table after : SlotTable n α) : Prop :=
  ∀ slot record, after slot = some record →
    (∃ old, table slot = some old ∧ identity old = identity record) ∨
      bound ≤ (stamp (identity record)).toNat

/-- The handle was issued, and its record is not in its slot. -/
def Gone (table : SlotTable n α) (bound : ℕ) (slot : Fin n) (generation : UInt64) : Prop :=
  generation.toNat < bound ∧
    ∀ record, table slot = some record → stamp (identity record) ≠ generation

variable {identity stamp} {table middle after : SlotTable n α} {bound later : ℕ} {slot : Fin n}
  {record old : α}

theorem stampedBelow_empty : StampedBelow identity stamp (empty : SlotTable n α) bound := by
  intro slot record found
  cases found

theorem StampedBelow.put (below : StampedBelow identity stamp table bound) (le : bound ≤ later)
    (stamped : (stamp (identity record)).toNat < later) :
    StampedBelow identity stamp (table.put slot record) later := by
  intro other found taken
  rcases put_eq_some.mp taken with ⟨-, rfl⟩ | ⟨-, before⟩
  · exact stamped
  · exact (below other found before).trans_le le

theorem StampedBelow.replace (below : StampedBelow identity stamp table bound)
    (here : table slot = some old) (same : identity record = identity old) :
    StampedBelow identity stamp (table.put slot record) bound :=
  below.put le_rfl (same ▸ below slot old here)

theorem StampedBelow.drop (below : StampedBelow identity stamp table bound) (slot : Fin n) :
    StampedBelow identity stamp (table.drop slot) bound :=
  fun other found taken => below other found (drop_eq_some.mp taken).2

theorem StampedBelow.mono (below : StampedBelow identity stamp table bound) (le : bound ≤ later) :
    StampedBelow identity stamp table later :=
  fun slot record found => (below slot record found).trans_le le

theorem Succeeds.refl (table : SlotTable n α) : Succeeds identity stamp bound table table :=
  fun _ record found => .inl ⟨record, found, rfl⟩

theorem Succeeds.trans (first : Succeeds identity stamp bound table middle)
    (second : Succeeds identity stamp later middle after) (le : bound ≤ later) :
    Succeeds identity stamp bound table after := by
  intro slot record found
  rcases second slot record found with ⟨old, before, same⟩ | fresh
  · rw [← same]
    exact first slot old before
  · exact .inr (le.trans fresh)

/-- A fresh record is put into a slot. -/
theorem succeeds_put (fresh : bound ≤ (stamp (identity record)).toNat) :
    Succeeds identity stamp bound table (table.put slot record) := by
  intro other found taken
  rcases put_eq_some.mp taken with ⟨-, rfl⟩ | ⟨-, before⟩
  · exact .inr fresh
  · exact .inl ⟨found, before, rfl⟩

/-- A record is changed in its slot. -/
theorem succeeds_replace (here : table slot = some old) (same : identity record = identity old) :
    Succeeds identity stamp bound table (table.put slot record) := by
  intro other found taken
  rcases put_eq_some.mp taken with ⟨rfl, rfl⟩ | ⟨-, before⟩
  · exact .inl ⟨old, here, same.symm⟩
  · exact .inl ⟨found, before, rfl⟩

theorem succeeds_drop : Succeeds identity stamp bound table (table.drop slot) :=
  fun _ found taken => .inl ⟨found, (drop_eq_some.mp taken).2, rfl⟩

theorem succeeds_empty : Succeeds identity stamp bound table (empty : SlotTable n α) :=
  fun _ _ found => by cases found

/-- A handle that is gone stays gone. -/
theorem Gone.succeeds {generation : UInt64} (gone : Gone identity stamp table bound slot generation)
    (next : Succeeds identity stamp bound table after) (le : bound ≤ later) :
    Gone identity stamp after later slot generation := by
  refine ⟨gone.1.trans_le le, fun record found => ?_⟩
  rcases next slot record found with ⟨old, before, same⟩ | fresh
  · exact same ▸ gone.2 old before
  · rintro rfl
    exact absurd gone.1 (Nat.not_lt.mpr fresh)

/-- A record that its successors no longer hold is gone. -/
theorem gone_of_succeeds (below : StampedBelow identity stamp table bound)
    (here : table slot = some old) (next : Succeeds identity stamp bound table after)
    (le : bound ≤ later)
    (missing : ∀ record, after slot = some record → identity record ≠ identity old) :
    Gone identity stamp after later slot (stamp (identity old)) := by
  have issued := below slot old here
  refine ⟨issued.trans_le le, fun record found => ?_⟩
  rcases next slot record found with ⟨before, there, same⟩ | fresh
  · obtain rfl := Option.some.inj (here.symm.trans there)
    exact absurd same.symm (missing record found)
  · intro same
    rw [same] at fresh
    omega

end SlotTable

end GemSim.Lib
