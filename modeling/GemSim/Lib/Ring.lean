import Mathlib.Algebra.Order.Ring.Nat
import Mathlib.Data.Int.ModEq
import Mathlib.Data.List.GetD

/-!
# Rings addressed by unbounded indices

A ring of cells is addressed by an index that only grows; the cell of an index is found
modulo the length. A window of at most one revolution meets every cell at most once, so
inside it the cells behave like a store keyed by the index itself.

On such a ring a consumer trails a producer with three cursors: the cells of
`[read, write)` are published, those of `[read, fetch)` are fetched, and at most one
fetched index is not dispatched yet. Publication may run ahead of the write cursor.

## Main definitions

* `ringGet`, `ringSet` — the cell of an index
* `RingWindow` — the order of the cursors, and what they say of the cells

## Main results

* `window_injective` — indices of one window have different cells
* `ringGet_ringSet_window` — an update inside a window changes its own index only
* `RingWindow.publish`, `RingWindow.advance`, `RingWindow.fetchNext`, `RingWindow.accept`,
  `RingWindow.cancel`, `RingWindow.retire` — the moves that keep the discipline
-/

namespace GemSim.Lib

variable {α : Type*} [Inhabited α] {cells : List α} {i j start depth : ℕ}

/-- The cell of an index. -/
def ringGet (cells : List α) (index : ℕ) : α := cells.getD (index % cells.length) default

/-- Replace the cell of an index. -/
def ringSet (cells : List α) (index : ℕ) (cell : α) : List α :=
  cells.set (index % cells.length) cell

omit [Inhabited α] in
@[simp] theorem length_ringSet (cells : List α) (index : ℕ) (cell : α) :
    (ringSet cells index cell).length = cells.length := List.length_set

theorem ringGet_congr (same : i % cells.length = j % cells.length) :
    ringGet cells i = ringGet cells j := by
  rw [ringGet, same, ringGet]

theorem ringGet_ringSet_self (occupied : 0 < cells.length)
    (same : i % cells.length = j % cells.length) (cell : α) :
    ringGet (ringSet cells i cell) j = cell := by
  have below := Nat.mod_lt j occupied
  rw [ringGet, length_ringSet, ringSet, same, List.getD_eq_getElem _ _ (by simpa using below),
    List.getElem_set_self]

theorem ringGet_ringSet_of_ne (ne : i % cells.length ≠ j % cells.length) (cell : α) :
    ringGet (ringSet cells i cell) j = ringGet cells j := by
  simp only [ringGet, ringSet, List.length_set, List.getD_eq_getElem?_getD]
  rw [List.getElem?_set_ne ne]

/-- Indices of a window of at most one revolution have different cells. -/
theorem window_injective (iAbove : start ≤ i) (iBelow : i < start + depth) (jAbove : start ≤ j)
    (jBelow : j < start + depth) (same : i % depth = j % depth) : i = j := by
  wlog le : i ≤ j generalizing i j
  · exact (this jAbove jBelow iAbove iBelow same.symm (by omega)).symm
  have multiple : depth ∣ j - i := (Nat.modEq_iff_dvd' le).mp same
  have none : j - i = 0 := Nat.eq_zero_of_dvd_of_lt multiple (by omega)
  omega

/-- Inside a window of one revolution an update changes its own index only. -/
theorem ringGet_ringSet_window (iAbove : start ≤ i) (iBelow : i < start + cells.length)
    (jAbove : start ≤ j) (jBelow : j < start + cells.length) (cell : α) :
    ringGet (ringSet cells i cell) j = if j = i then cell else ringGet cells j := by
  split
  · rename_i same
    exact ringGet_ringSet_self (by omega) (by rw [same]) cell
  · rename_i ne
    exact ringGet_ringSet_of_ne
      (fun same => ne (window_injective iAbove iBelow jAbove jBelow same).symm) cell

/-- The cursors are in order within one revolution, the cells between them are published
and fetched as the cursors say, and the pending index is the one fetched last. -/
structure RingWindow (published fetched : α → Bool) (cells : List α)
    (read dispatch fetch write : ℕ) (pending : Option ℕ) : Prop where
  occupied : 0 < cells.length
  readLe : read ≤ dispatch
  dispatchLe : dispatch ≤ fetch
  fetchLe : fetch ≤ write
  writeLe : write ≤ read + cells.length
  free : pending = none → fetch = dispatch
  taken : ∀ index, pending = some index → index = dispatch ∧ fetch = dispatch + 1
  live : ∀ index, read ≤ index → index < write →
    published (ringGet cells index) = true ∧
      (fetched (ringGet cells index) = true ↔ index < fetch)
  owned : ∀ index, fetched (ringGet cells index) = true →
    ∃ owner, read ≤ owner ∧ owner < fetch ∧ owner % cells.length = index % cells.length

namespace RingWindow

variable {published fetched : α → Bool} {read dispatch fetch write : ℕ} {pending : Option ℕ}
  {index : ℕ} {cell : α}

/-- An empty ring, all cursors at one index. -/
theorem empty (occupied : 0 < cells.length)
    (blank : ∀ index, fetched (ringGet cells index) = false) :
    RingWindow published fetched cells index index index index none where
  occupied := occupied
  readLe := le_rfl
  dispatchLe := le_rfl
  fetchLe := le_rfl
  writeLe := Nat.le_add_right _ _
  free _ := rfl
  taken _ absent := by cases absent
  live other above below := absurd below (Nat.not_lt.mpr above)
  owned other held := by
    rw [blank other] at held
    cases held

/-- A cell ahead of the write cursor is not fetched. -/
theorem unfetched (window : RingWindow published fetched cells read dispatch fetch write pending)
    (above : write ≤ index) (below : index < read + cells.length) :
    fetched (ringGet cells index) = false := by
  have fetchLe := window.fetchLe
  have writeLe := window.writeLe
  by_contra held
  rw [Bool.not_eq_false] at held
  obtain ⟨owner, ownerAbove, ownerBelow, same⟩ := window.owned index held
  have equal := window_injective ownerAbove (by omega) (by omega) below same
  omega

/-- Who owns a fetched cell, after one cell was replaced. -/
theorem owned_ringSet (window : RingWindow published fetched cells read dispatch fetch write
      pending) {target : ℕ} (held : fetched (ringGet (ringSet cells target cell) index) = true) :
    (target % cells.length = index % cells.length ∧ fetched cell = true) ∨
      (target % cells.length ≠ index % cells.length ∧ ∃ owner, read ≤ owner ∧ owner < fetch ∧
        owner % cells.length = index % cells.length) := by
  by_cases same : target % cells.length = index % cells.length
  · rw [ringGet_ringSet_self window.occupied same] at held
    exact .inl ⟨same, held⟩
  · rw [ringGet_ringSet_of_ne same] at held
    exact .inr ⟨same, window.owned index held⟩

/-- A cell ahead of the write cursor is replaced. -/
theorem publish (window : RingWindow published fetched cells read dispatch fetch write pending)
    (above : write ≤ index) (below : index < read + cells.length)
    (blank : fetched cell = false) :
    RingWindow published fetched (ringSet cells index cell) read dispatch fetch write pending := by
  have order := window.readLe.trans (window.dispatchLe.trans window.fetchLe)
  have writeLe := window.writeLe
  refine ⟨?_, window.readLe, window.dispatchLe, window.fetchLe, ?_, window.free, window.taken,
    ?_, ?_⟩
  · rw [length_ringSet]
    exact window.occupied
  · rw [length_ringSet]
    exact writeLe
  · intro other otherAbove otherBelow
    rw [ringGet_ringSet_window (by omega) below otherAbove (by omega), if_neg (by omega)]
    exact window.live other otherAbove otherBelow
  · intro other held
    rw [length_ringSet]
    rcases window.owned_ringSet held with ⟨-, now⟩ | ⟨-, owner⟩
    · rw [blank] at now
      cases now
    · exact owner

/-- The write cursor moves over published cells; their contents may change, but not what
is fetched. -/
theorem advance (window : RingWindow published fetched cells read dispatch fetch write pending)
    {next : ℕ} {after : List α} (ahead : write ≤ next) (within : next ≤ read + cells.length)
    (length : after.length = cells.length)
    (same : ∀ index, fetched (ringGet after index) = fetched (ringGet cells index))
    (kept : ∀ index, read ≤ index → index < write → published (ringGet after index) = true)
    (all : ∀ index, write ≤ index → index < next → published (ringGet after index) = true) :
    RingWindow published fetched after read dispatch fetch next pending := by
  have fetchLe := window.fetchLe
  refine ⟨length ▸ window.occupied, window.readLe, window.dispatchLe, fetchLe.trans ahead,
    length ▸ within, window.free, window.taken, ?_, ?_⟩
  · intro index above below
    rw [same index]
    by_cases old : index < write
    · exact ⟨kept index above old, (window.live index above old).2⟩
    · refine ⟨all index (by omega) below, ?_⟩
      rw [window.unfetched (by omega) (by omega)]
      constructor
      · intro impossible
        cases impossible
      · intro beyond
        omega
  · intro index held
    rw [same index] at held
    rw [length]
    exact window.owned index held

/-- The cell at the fetch cursor is fetched. -/
theorem fetchNext (window : RingWindow published fetched cells read dispatch fetch write pending)
    (cell : α) (free : pending = none) (below : fetch < write) (shown : published cell = true)
    (held : fetched cell = true) :
    RingWindow published fetched (ringSet cells fetch cell) read dispatch (fetch + 1) write
      (some fetch) := by
  have caughtUp := window.free free
  have readLe := window.readLe
  have writeLe := window.writeLe
  refine ⟨?_, readLe, by omega, below, ?_, ?_, ?_, ?_, ?_⟩
  · rw [length_ringSet]
    exact window.occupied
  · rw [length_ringSet]
    exact writeLe
  · intro absent
    cases absent
  · rintro index ⟨⟩
    exact ⟨caughtUp, by omega⟩
  · intro index above within
    rw [ringGet_ringSet_window (by omega) (by omega) above (by omega)]
    split
    · exact ⟨shown, by rw [held]; simp; omega⟩
    · have old := window.live index above within
      refine ⟨old.1, old.2.trans ?_⟩
      omega
  · intro index now
    rw [length_ringSet]
    rcases window.owned_ringSet now with ⟨same, -⟩ | ⟨-, owner, above, within, same⟩
    · exact ⟨fetch, by omega, by omega, same⟩
    · exact ⟨owner, above, by omega, same⟩

/-- The pending index is dispatched. -/
theorem accept (window : RingWindow published fetched cells read dispatch fetch write
      (some index)) :
    RingWindow published fetched cells read (dispatch + 1) fetch write none := by
  obtain ⟨-, ahead⟩ := window.taken index rfl
  exact ⟨window.occupied, window.readLe.trans (Nat.le_succ _), ahead.ge, window.fetchLe,
    window.writeLe, fun _ => ahead, fun _ absent => (by cases absent), window.live, window.owned⟩

/-- The pending index is given back. -/
theorem cancel (window : RingWindow published fetched cells read dispatch fetch write
      (some index)) (shown : published cell = published (ringGet cells index))
    (blank : fetched cell = false) :
    RingWindow published fetched (ringSet cells index cell) read dispatch index write none := by
  obtain ⟨rfl, ahead⟩ := window.taken index rfl
  have readLe := window.readLe
  have fetchLe := window.fetchLe
  have writeLe := window.writeLe
  refine ⟨?_, readLe, le_rfl, by omega, ?_, fun _ => rfl, fun _ absent => (by cases absent), ?_,
    ?_⟩
  · rw [length_ringSet]
    exact window.occupied
  · rw [length_ringSet]
    exact writeLe
  · intro other above below
    have old := window.live other above below
    rw [ringGet_ringSet_window readLe (by omega) above (by omega)]
    split
    · rename_i same
      subst same
      exact ⟨shown.trans old.1, by rw [blank]; simp⟩
    · refine ⟨old.1, old.2.trans ?_⟩
      omega
  · intro other now
    rw [length_ringSet]
    rcases window.owned_ringSet now with ⟨-, held⟩ | ⟨apart, owner, above, below, same⟩
    · rw [blank] at held
      cases held
    · have ne : owner ≠ index := by
        rintro rfl
        exact apart same
      exact ⟨owner, above, by omega, same⟩

/-- The cell at the read cursor is freed. -/
theorem retire (window : RingWindow published fetched cells read dispatch fetch write pending)
    (cell : α) (below : read < dispatch) (blank : fetched cell = false) :
    RingWindow published fetched (ringSet cells read cell) (read + 1) dispatch fetch write
      pending := by
  have dispatchLe := window.dispatchLe
  have fetchLe := window.fetchLe
  have writeLe := window.writeLe
  refine ⟨?_, below, dispatchLe, fetchLe, ?_, window.free, window.taken, ?_, ?_⟩
  · rw [length_ringSet]
    exact window.occupied
  · rw [length_ringSet]
    omega
  · intro index above within
    rw [ringGet_ringSet_window le_rfl (by omega) (by omega) (by omega), if_neg (by omega)]
    exact window.live index (by omega) within
  · intro index now
    rw [length_ringSet]
    rcases window.owned_ringSet now with ⟨-, held⟩ | ⟨apart, owner, above, within, same⟩
    · rw [blank] at held
      cases held
    · have ne : owner ≠ read := by
        rintro rfl
        exact apart same
      exact ⟨owner, by omega, within, same⟩

end RingWindow

end GemSim.Lib
