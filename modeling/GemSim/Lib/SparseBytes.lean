import GemSim.Lib.Words
import Mathlib.Data.List.Range
import Mathlib.Data.Nat.Digits.Defs
import Mathlib.Logic.Function.Basic

/-!
# Sparse byte maps

A byte map over the whole 64-bit address space in which an absent entry reads as
zero. A transfer walks the addresses `base`, `base + 1`, ... with wrapping
addition, one byte at a time.

## Main definitions

* `SparseBytes` — the byte at every address, zero where nothing was stored
* `touched` — the addresses a transfer walks
* `storeBytes`, `loadBytes` — the store loop and the load loop
* `storeWord`, `loadWord` — eight bytes in little-endian order

## Main results

* `storeBytes_frame` — a store changes only the touched addresses
* `storeBytes_at` — and leaves the source bytes there
* `touched_bounds` — without wrapping, the touched addresses are an interval
* `loadWord_storeWord` — a stored word reads back
-/

namespace GemSim.Lib

/-- The byte at every address; an absent entry is zero. -/
abbrev SparseBytes := UInt64 → UInt8

/-- The addresses a transfer of `count` bytes from `base` walks. -/
def touched (base : UInt64) (count : ℕ) : List UInt64 :=
  (List.range count).map fun index => base + UInt64.ofNat index

/-- Store `count` bytes of the source, one address after the other. -/
def storeBytes (bytes : SparseBytes) (base : UInt64) (count : ℕ) (source : ℕ → UInt8) :
    SparseBytes :=
  (List.range count).foldl
    (fun current index => Function.update current (base + UInt64.ofNat index) (source index)) bytes

/-- Load `count` bytes, one address after the other. -/
def loadBytes (bytes : SparseBytes) (base : UInt64) (count : ℕ) : List UInt8 :=
  (touched base count).map bytes

@[simp] theorem storeBytes_zero (bytes : SparseBytes) (base : UInt64) (source : ℕ → UInt8) :
    storeBytes bytes base 0 source = bytes := rfl

theorem storeBytes_succ (bytes : SparseBytes) (base : UInt64) (count : ℕ) (source : ℕ → UInt8) :
    storeBytes bytes base (count + 1) source =
      Function.update (storeBytes bytes base count source) (base + UInt64.ofNat count)
        (source count) := by
  simp [storeBytes, List.range_succ]

theorem mem_touched {base address : UInt64} {count : ℕ} :
    address ∈ touched base count ↔ ∃ index < count, base + UInt64.ofNat index = address := by
  simp [touched]

@[simp] theorem length_loadBytes (bytes : SparseBytes) (base : UInt64) (count : ℕ) :
    (loadBytes bytes base count).length = count := by
  simp [loadBytes, touched]

/-- A store changes nothing outside the addresses it walks. -/
theorem storeBytes_frame (bytes : SparseBytes) (base : UInt64) (count : ℕ) (source : ℕ → UInt8)
    {address : UInt64} (outside : address ∉ touched base count) :
    storeBytes bytes base count source address = bytes address := by
  induction count with
  | zero => rfl
  | succ count ih =>
    rw [mem_touched] at outside
    push Not at outside
    rw [storeBytes_succ, Function.update_of_ne (Ne.symm (outside count (Nat.lt_succ_self count)))]
    refine ih fun inside => ?_
    obtain ⟨index, below, same⟩ := mem_touched.mp inside
    exact outside index (below.trans (Nat.lt_succ_self count)) same

theorem add_ofNat_inj {base : UInt64} {first second : ℕ} (firstFits : first < 2 ^ 64)
    (secondFits : second < 2 ^ 64) :
    base + UInt64.ofNat first = base + UInt64.ofNat second ↔ first = second := by
  rw [UInt64.add_right_inj, ← UInt64.toNat_inj, UInt64.toNat_ofNat', UInt64.toNat_ofNat',
    Nat.mod_eq_of_lt firstFits, Nat.mod_eq_of_lt secondFits]

/-- A store of at most the whole address space leaves the source bytes. -/
theorem storeBytes_at (bytes : SparseBytes) (base : UInt64) {count : ℕ} (source : ℕ → UInt8)
    (fits : count ≤ 2 ^ 64) {index : ℕ} (below : index < count) :
    storeBytes bytes base count source (base + UInt64.ofNat index) = source index := by
  induction count with
  | zero => omega
  | succ count ih =>
    rw [storeBytes_succ]
    by_cases same : index = count
    · rw [same, Function.update_self]
    · have ne : base + UInt64.ofNat index ≠ base + UInt64.ofNat count := by
        rw [ne_eq, add_ofNat_inj (by omega) (by omega)]
        exact same
      rw [Function.update_of_ne ne]
      exact ih (by omega) (by omega)

/-- Loads see a byte map only at the addresses they walk. -/
theorem loadBytes_congr {first second : SparseBytes} {base : UInt64} {count : ℕ}
    (agree : ∀ address ∈ touched base count, first address = second address) :
    loadBytes first base count = loadBytes second base count :=
  List.map_congr_left agree

/-- What a store wrote, a load of the same range reads back. -/
theorem loadBytes_storeBytes (bytes : SparseBytes) (base : UInt64) {count : ℕ}
    (source : ℕ → UInt8) (fits : count ≤ 2 ^ 64) :
    loadBytes (storeBytes bytes base count source) base count =
      (List.range count).map source := by
  rw [loadBytes, touched, List.map_map]
  refine List.map_congr_left fun index member => ?_
  exact storeBytes_at bytes base source fits (List.mem_range.mp member)

/-- A transfer that does not wrap touches exactly the interval `[base, base + count)`. -/
theorem touched_bounds {base address : UInt64} {count : ℕ} (fits : base.toNat + count ≤ 2 ^ 64) :
    address ∈ touched base count ↔
      base.toNat ≤ address.toNat ∧ address.toNat < base.toNat + count := by
  rw [mem_touched]
  constructor
  · rintro ⟨index, below, rfl⟩
    rw [UInt64.toNat_add, UInt64.toNat_ofNat', Nat.mod_eq_of_lt (by omega : index < 2 ^ 64),
      Nat.mod_eq_of_lt (by omega)]
    omega
  · rintro ⟨above, below⟩
    refine ⟨address.toNat - base.toNat, by omega, ?_⟩
    have bound := address.toNat_lt
    rw [← UInt64.toNat_inj, UInt64.toNat_add, UInt64.toNat_ofNat',
      Nat.mod_eq_of_lt (by omega : address.toNat - base.toNat < 2 ^ 64),
      Nat.mod_eq_of_lt (by omega)]
    omega

section Words

/-- Byte `index` of a word, in little-endian order. -/
def wordByte (word : UInt64) (index : ℕ) : UInt8 := UInt8.ofNat (word.toNat / 256 ^ index)

/-- Store a word, eight bytes in little-endian order. -/
def storeWord (bytes : SparseBytes) (address word : UInt64) : SparseBytes :=
  storeBytes bytes address 8 (wordByte word)

/-- Load a word, eight bytes in little-endian order. -/
def loadWord (bytes : SparseBytes) (address : UInt64) : UInt64 :=
  UInt64.ofNat (Nat.ofDigits 256 ((loadBytes bytes address 8).map UInt8.toNat))

/-- The bytes of a word are its digits. -/
theorem ofDigits_wordByte (word : UInt64) :
    Nat.ofDigits 256 (((List.range 8).map (wordByte word)).map UInt8.toNat) = word.toNat := by
  have bound := word.toNat_lt
  simp only [List.range, List.range.loop, List.map_cons, List.map_nil, Nat.ofDigits_cons,
    Nat.ofDigits_nil, wordByte, UInt8.toNat_ofNat', Nat.pow_zero, Nat.div_one]
  omega

@[simp] theorem loadWord_storeWord (bytes : SparseBytes) (address word : UInt64) :
    loadWord (storeWord bytes address word) address = word := by
  rw [loadWord, storeWord, loadBytes_storeBytes _ _ _ (by decide), ofDigits_wordByte,
    UInt64.ofNat_toNat]

theorem loadWord_congr {first second : SparseBytes} {address : UInt64}
    (agree : ∀ byte ∈ touched address 8, first byte = second byte) :
    loadWord first address = loadWord second address := by
  rw [loadWord, loadWord, loadBytes_congr agree]

/-- A store that touches no byte of a word keeps it. -/
theorem loadWord_storeBytes (bytes : SparseBytes) (base : UInt64) (count : ℕ)
    (source : ℕ → UInt8) {address : UInt64}
    (apart : ∀ byte ∈ touched address 8, byte ∉ touched base count) :
    loadWord (storeBytes bytes base count source) address = loadWord bytes address :=
  loadWord_congr fun byte inside => storeBytes_frame bytes base count source (apart byte inside)

end Words

end GemSim.Lib
