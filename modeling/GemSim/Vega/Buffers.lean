import Mathlib.Data.List.Range
import GemSim.Lib.Fields
import GemSim.Lib.Patches

/-!
# Bytes and dwords

Registers and local memory are bytes; instructions load and store words of them, with the least
byte first. Words are compared with bytes one bit at a time.

## Main definitions

* `byteAt`, `loadU16`, `loadU32`, `storeU32` — the accesses of a buffer
* `bitOf` — the bits of a buffer
* `storeAll`, `Spread` — stores one after the other, and when they do not meet

## Main results

* `getLsbD_loadU16`, `getLsbD_loadU32` — the bits of a word are bits of the buffer
* `bitOf_storeU32` — a store is a patch on the bits
* `bitOf_storeAll` — stores that do not meet can be read back
-/

namespace GemSim.Vega

open GemSim.Lib

abbrev Byte := BitVec 8
abbrev Dword := BitVec 32

section Accesses

def byteAt (data : List Byte) (offset : ℕ) : Byte := data.getD offset 0

def loadU16 (bytes : ℕ → Byte) (offset : ℕ) : BitVec 16 :=
  (bytes offset).setWidth 16 ||| (bytes (offset + 1)).setWidth 16 <<< 8

def loadU32 (bytes : ℕ → Byte) (offset : ℕ) : Dword :=
  (bytes offset).setWidth 32 |||
    (bytes (offset + 1)).setWidth 32 <<< 8 |||
    (bytes (offset + 2)).setWidth 32 <<< 16 |||
    (bytes (offset + 3)).setWidth 32 <<< 24

def storeU32 (data : List Byte) (offset : ℕ) (value : Dword) : List Byte :=
  (((data.set offset (value.setWidth 8)).set (offset + 1) ((value >>> 8).setWidth 8)).set
    (offset + 2) ((value >>> 16).setWidth 8)).set (offset + 3) ((value >>> 24).setWidth 8)

end Accesses

section Loads

/-- The bits of a buffer, by their position. -/
def bitOf (bytes : ℕ → Byte) (position : ℕ) : Bool :=
  (bytes (position / 8)).getLsbD (position % 8)

variable {bytes : ℕ → Byte} {offset bit : ℕ}

/-- A field of a word, seen bit by bit. -/
theorem getLsbD_field {small wide : ℕ} (field : BitVec small) (shift : ℕ) (inside : bit < wide) :
    (field.setWidth wide <<< shift).getLsbD bit =
      (decide (shift ≤ bit ∧ bit < shift + small) && field.getLsbD (bit - shift)) := by
  rw [BitVec.getLsbD_shiftLeft, BitVec.getLsbD_setWidth]
  by_cases above : shift ≤ bit
  · by_cases below : bit < shift + small
    · have reached : bit - shift < wide := by omega
      have early : ¬ bit < shift := by omega
      simp [above, below, inside, reached, early]
    · have beyond : field.getLsbD (bit - shift) = false := BitVec.getLsbD_of_ge _ _ (by omega)
      simp [beyond]
  · have early : bit < shift := by omega
    simp [above, early]

theorem bitOf_bytes {count : ℕ} (inside : bit < count * 8) :
    orFields 8 count (fun index => (bytes (offset + index)).getLsbD) bit =
      bitOf bytes (offset * 8 + bit) := by
  have place : (offset * 8 + bit) / 8 = offset + bit / 8 := by omega
  have within : (offset * 8 + bit) % 8 = bit % 8 := by omega
  have split : bit = bit / 8 * 8 + bit % 8 := by omega
  rw [bitOf, place, within]
  conv_lhs => rw [split]
  exact orFields_at (by omega) (by omega)

theorem getLsbD_loadU16 (inside : bit < 16) :
    (loadU16 bytes offset).getLsbD bit = bitOf bytes (offset * 8 + bit) := by
  have first := getLsbD_field (bytes offset) 0 inside
  rw [BitVec.shiftLeft_zero] at first
  rw [← @bitOf_bytes _ _ _ 2 (by omega)]
  simp only [loadU16, BitVec.getLsbD_or, getLsbD_field _ _ inside, first]
  simp [orFields, List.range_succ]

theorem getLsbD_loadU32 (inside : bit < 32) :
    (loadU32 bytes offset).getLsbD bit = bitOf bytes (offset * 8 + bit) := by
  have first := getLsbD_field (bytes offset) 0 inside
  rw [BitVec.shiftLeft_zero] at first
  rw [← @bitOf_bytes _ _ _ 4 (by omega)]
  simp only [loadU32, BitVec.getLsbD_or, getLsbD_field _ _ inside, first]
  simp [orFields, List.range_succ, Bool.or_assoc]

/-- A word is determined by the bits it is loaded from. -/
theorem loadU32_eq_iff {value : Dword} :
    loadU32 bytes offset = value ↔
      ∀ bit < 32, bitOf bytes (offset * 8 + bit) = value.getLsbD bit := by
  constructor
  · rintro rfl bit inside
    exact (getLsbD_loadU32 inside).symm
  · intro agree
    apply BitVec.eq_of_getLsbD_eq
    intro bit inside
    rw [getLsbD_loadU32 inside, agree bit inside]

end Loads

section Stores

variable {data : List Byte} {offset position : ℕ} {value : Dword}

theorem byteAt_set {place : ℕ} {byte : Byte} (inside : offset < data.length) :
    byteAt (data.set offset byte) place = if offset = place then byte else byteAt data place := by
  rw [byteAt, byteAt, List.getD_eq_getElem?_getD, List.getD_eq_getElem?_getD, List.getElem?_set]
  by_cases same : offset = place
  · subst same
    simp [inside]
  · simp [same]

@[simp] theorem length_storeU32 : (storeU32 data offset value).length = data.length := by
  simp [storeU32]

theorem byteAt_storeU32 {place : ℕ} (inside : offset + 4 ≤ data.length) :
    byteAt (storeU32 data offset value) place =
      if offset ≤ place ∧ place < offset + 4 then (value >>> ((place - offset) * 8)).setWidth 8
      else byteAt data place := by
  rw [storeU32, byteAt_set (by simp; omega), byteAt_set (by simp; omega),
    byteAt_set (by simp; omega), byteAt_set (by omega)]
  by_cases covered : offset ≤ place ∧ place < offset + 4
  · rw [if_pos covered]
    obtain ⟨step, rfl⟩ := Nat.exists_eq_add_of_le covered.1
    have small : step < 4 := by omega
    obtain rfl | rfl | rfl | rfl : step = 0 ∨ step = 1 ∨ step = 2 ∨ step = 3 := by omega
    · simp
    · simp
    · simp
    · simp
  · rw [if_neg (show offset + 3 ≠ place by omega), if_neg (show offset + 2 ≠ place by omega),
      if_neg (show offset + 1 ≠ place by omega), if_neg (show offset ≠ place by omega),
      if_neg covered]

/-- A store: where, and what. -/
abbrev Store := ℕ × Dword

/-- A dword as a patch on the bits of a buffer. -/
def dwordPatch (store : Store) : Patch Bool :=
  ⟨store.1 * 8, (List.range 32).map store.2.getLsbD⟩

theorem covers_dwordPatch {store : Store} :
    (dwordPatch store).covers position ↔ store.1 * 8 ≤ position ∧ position < store.1 * 8 + 32 := by
  simp [Patch.covers, dwordPatch]

theorem bitOf_storeU32 (inside : offset + 4 ≤ data.length) :
    bitOf (byteAt (storeU32 data offset value)) =
      (dwordPatch (offset, value)).apply (bitOf (byteAt data)) := by
  funext position
  rw [bitOf, byteAt_storeU32 inside]
  by_cases covered : offset ≤ position / 8 ∧ position / 8 < offset + 4
  · have here : (dwordPatch (offset, value)).covers position := covers_dwordPatch.mpr (by
      dsimp only
      omega)
    have within : position - offset * 8 < (dwordPatch (offset, value)).values.length := by
      simp [dwordPatch]
      omega
    have place : (position / 8 - offset) * 8 + position % 8 = position - offset * 8 := by omega
    have small : position % 8 < 8 := by omega
    rw [if_pos covered, @Patch.apply_of_covers _ _ _ _ within here.1]
    simp [dwordPatch, place, small]
  · have outside : ¬ (dwordPatch (offset, value)).covers position := fun here => by
      have := covers_dwordPatch.mp here
      dsimp only at this
      omega
    rw [if_neg covered, Patch.apply_of_not_covers outside, bitOf]

end Stores

section Lists

def storeAll (stores : List Store) (output : List Byte) : List Byte :=
  stores.foldl (fun output store => storeU32 output store.1 store.2) output

/-- The dwords lie in a buffer, and no two of them meet. -/
def Spread (size : ℕ) (offsets : List ℕ) : Prop :=
  offsets.all (fun offset => decide (offset + 4 ≤ size)) = true ∧
    offsets.Pairwise fun left right => left + 4 ≤ right ∨ right + 4 ≤ left

instance (size : ℕ) (offsets : List ℕ) : Decidable (Spread size offsets) :=
  inferInstanceAs (Decidable (_ ∧ List.Pairwise _ _))

variable {stores : List Store} {store : Store} {output : List Byte} {bit position : ℕ}

@[simp] theorem length_storeAll : (storeAll stores output).length = output.length := by
  induction stores generalizing output with
  | nil => rfl
  | cons store rest ih =>
    have later := @ih (storeU32 output store.1 store.2)
    rw [length_storeU32] at later
    exact later

theorem Spread.inside (spread : Spread output.length (stores.map Prod.fst))
    (member : store ∈ stores) : store.1 + 4 ≤ output.length :=
  of_decide_eq_true (List.all_eq_true.mp spread.1 store.1 (List.mem_map_of_mem member))

theorem bitOf_storeAll_eq (inside : ∀ store ∈ stores, store.1 + 4 ≤ output.length) :
    bitOf (byteAt (storeAll stores output)) =
      Patch.applyAll (stores.map dwordPatch) (bitOf (byteAt output)) := by
  induction stores generalizing output with
  | nil => rfl
  | cons store rest ih =>
    rw [storeAll, List.foldl_cons, List.map_cons, Patch.applyAll_cons,
      ← bitOf_storeU32 (inside store List.mem_cons_self)]
    apply ih
    intro other member
    rw [length_storeU32]
    exact inside other (List.mem_cons_of_mem _ member)

/-- Stores that do not meet can be read back. -/
theorem bitOf_storeAll (spread : Spread output.length (stores.map Prod.fst))
    (member : store ∈ stores) (small : bit < 32) :
    bitOf (byteAt (storeAll stores output)) (store.1 * 8 + bit) = store.2.getLsbD bit := by
  have apart : (stores.map dwordPatch).Pairwise Patch.Apart := by
    have distant := spread.2
    rw [List.pairwise_map] at distant
    rw [List.pairwise_map]
    refine distant.imp ?_
    intro left right distant address here there
    rw [covers_dwordPatch] at here there
    omega
  have covered : (dwordPatch store).covers (store.1 * 8 + bit) := covers_dwordPatch.mpr (by omega)
  rw [bitOf_storeAll_eq fun _ there => spread.inside there,
    Patch.applyAll_of_mem apart (List.mem_map_of_mem member) covered]
  simp [Patch.apply, dwordPatch, small]

/-- Bytes outside all the stores keep their value. -/
theorem byteAt_storeAll_of_outside {place : ℕ}
    (inside : ∀ store ∈ stores, store.1 + 4 ≤ output.length)
    (outside : ∀ store ∈ stores, ¬ (store.1 ≤ place ∧ place < store.1 + 4)) :
    byteAt (storeAll stores output) place = byteAt output place := by
  induction stores generalizing output with
  | nil => rfl
  | cons store rest ih =>
    have spared := outside store List.mem_cons_self
    have here := @byteAt_storeU32 _ _ store.2 place (inside store List.mem_cons_self)
    rw [if_neg spared] at here
    rw [← here]
    refine ih ?_ fun other member => outside other (List.mem_cons_of_mem _ member)
    intro other member
    rw [length_storeU32]
    exact inside other (List.mem_cons_of_mem _ member)

end Lists

end GemSim.Vega
