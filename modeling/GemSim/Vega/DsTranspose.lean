import Mathlib.Data.Finset.Prod
import GemSim.Vega.Buffers

/-!
# Transposing loads of the local data share

A transposing load answers with the elements of a wave relocated between its lanes. Elements
have 4, 6, 8 or 16 bits; the response is a buffer of bytes that holds two dwords for each lane,
or three. Each loop gathers a packed dword from several lanes and stores it in one.

## Main definitions

* `Kind`, `transposeCdna4` — the element width, and the transposition
* `relocate` — where an element of a lane goes
* `Relocated` — a buffer is another one with its elements relocated

## Main results

* `relocate_bijOn` — no element is lost, and none comes twice
* `transposeCdna4_relocates` — the transposition relocates every element
-/

namespace GemSim.Vega

open GemSim.Lib

inductive Kind where
  | b4
  | b6
  | b8
  | b16
  deriving DecidableEq

def dwordsPerLane : Kind → ℕ
  | .b6 => 3
  | _ => 2

section Words

/-- Six bits of consecutive words, which may lie in two of them. -/
def readB6 (words : ℕ → Dword) (bit : ℕ) : Dword :=
  let dword := bit / 32
  let shift := bit % 32
  let value := (words dword).setWidth 64
  let value := if shift > 26 then value ||| (words (dword + 1)).setWidth 64 <<< 32 else value
  ((value >>> shift) &&& 0x3f).setWidth 32

def writeB6 (words : ℕ → Dword) (bit : ℕ) (value : Dword) : ℕ → Dword :=
  let dword := bit / 32
  let shift := bit % 32
  let value := value &&& 0x3f
  let words := Function.update words dword (words dword ||| value <<< shift)
  if shift > 26 then
    Function.update words (dword + 1) (words (dword + 1) ||| value >>> (32 - shift))
  else words

end Words

section Loops

def LanesPerHalf : ℕ := 32

/-- The multiples of a step below a bound. -/
def steps (bound step : ℕ) : List ℕ := (List.range (bound / step)).map (· * step)

def packedB4 (input : List Byte) (base nibble : ℕ) : Dword :=
  let sourceByte := nibble / 2
  let sourceShift := nibble % 2 * 4
  (List.range 8).foldl (fun packed lane =>
    let value := ((byteAt input ((base + lane) * 8 + sourceByte)).setWidth 32 >>> sourceShift) &&&
      0xf
    packed ||| value <<< (lane * 4)) 0

def transposeB4 (input output : List Byte) (waveSize : ℕ) : List Byte :=
  (List.range (waveSize / LanesPerHalf)).foldl (fun output half =>
    (steps LanesPerHalf 8).foldl (fun output group =>
      (List.range 16).foldl (fun output nibble =>
        let laneBase := half * LanesPerHalf
        let packed := packedB4 input (laneBase + group) nibble
        let destVgpr := group / 16 % 2
        let destLane := laneBase + group / 8 % 2 * 16 + nibble
        storeU32 output (destLane * 8 + destVgpr * 4) packed) output) output) output

def packedB8 (input : List Byte) (base byte : ℕ) : Dword :=
  (List.range 4).foldl (fun packed lane =>
    packed ||| (byteAt input ((base + lane) * 8 + byte)).setWidth 32 <<< (lane * 8)) 0

def transposeB8 (input output : List Byte) (waveSize : ℕ) : List Byte :=
  (List.range (waveSize / LanesPerHalf)).foldl (fun output half =>
    (steps LanesPerHalf 4).foldl (fun output group =>
      (List.range 8).foldl (fun output byte =>
        let laneBase := half * LanesPerHalf
        let packed := packedB8 input (laneBase + group) byte
        let destVgpr := group % 16 / 8
        let destLane := laneBase + group / 16 * 16 + group / 4 % 2 * 8 + byte
        storeU32 output (destLane * 8 + destVgpr * 4) packed) output) output) output

def packedB16 (input : List Byte) (base lane halfword : ℕ) : Dword :=
  let sourceLo := base + lane
  let sourceHi := sourceLo + 4
  let lo := loadU16 (byteAt input) (sourceLo * 8 + halfword * 2)
  let hi := loadU16 (byteAt input) (sourceHi * 8 + halfword * 2)
  lo.setWidth 32 ||| hi.setWidth 32 <<< 16

def transposeB16 (input output : List Byte) (waveSize : ℕ) : List Byte :=
  (List.range (waveSize / LanesPerHalf)).foldl (fun output half =>
    (steps LanesPerHalf 8).foldl (fun output group =>
      (List.range 4).foldl (fun output lane =>
        (List.range 4).foldl (fun output halfword =>
          let laneBase := half * LanesPerHalf
          let packed := packedB16 input (laneBase + group) lane halfword
          let destVgpr := group / 8 % 2
          let destLane := laneBase + group / 16 * 16 + lane * 4 + halfword
          storeU32 output (destLane * 8 + destVgpr * 4) packed) output) output) output) output

/-- The three dwords of an output lane, each input lane filling six of their bits. -/
def packedB6 (input : List Byte) (laneBase pass outputLane : ℕ) : ℕ → Dword :=
  (List.range 16).foldl (fun packed inputLane =>
    let sourceLane := 8 * (inputLane / 4) + inputLane % 4 + pass * 4
    let source := fun dword => loadU32 (byteAt input) ((laneBase + sourceLane) * 12 + dword * 4)
    writeB6 packed (inputLane * 6) (readB6 source (outputLane * 6))) fun _ => 0

def transposeB6 (input output : List Byte) (waveSize : ℕ) : List Byte :=
  (List.range (waveSize / LanesPerHalf)).foldl (fun output half =>
    (List.range 2).foldl (fun output pass =>
      (List.range 16).foldl (fun output outputLane =>
        let laneBase := half * LanesPerHalf
        let packed := packedB6 input laneBase pass outputLane
        let destLane := laneBase + pass * 16 + outputLane
        (List.range 3).foldl (fun output dword =>
          storeU32 output (destLane * 12 + dword * 4) (packed dword)) output)
        output) output) output

/-- The response of a wave, transposed. The wave has 64 lanes, and the response is whole. -/
def transposeCdna4 (input : List Byte) (kind : Kind) (waveSize : ℕ) : Option (List Byte) :=
  let expectedSize := waveSize * dwordsPerLane kind * 4
  if waveSize ≠ 64 ∨ input.length ≠ expectedSize then none
  else
    let output := List.replicate expectedSize 0
    some (match kind with
      | .b4 => transposeB4 input output waveSize
      | .b6 => transposeB6 input output waveSize
      | .b8 => transposeB8 input output waveSize
      | .b16 => transposeB16 input output waveSize)

end Loops

section Bits

/-- The bits of consecutive words, by their position. -/
def bitOfWords (words : ℕ → Dword) (position : ℕ) : Bool :=
  (words (position / 32)).getLsbD (position % 32)

variable {offset position bit : ℕ} {value : Dword} {words : ℕ → Dword}

theorem bitOfWords_loadU32 {bytes : ℕ → Byte} :
    bitOfWords (fun dword => loadU32 bytes (offset + dword * 4)) position =
      bitOf bytes (offset * 8 + position) := by
  have place : (offset + position / 32 * 4) * 8 + position % 32 = offset * 8 + position := by omega
  rw [bitOfWords, getLsbD_loadU32 (Nat.mod_lt _ (by omega)), place]

/-- The low bits of a word, under a mask. -/
theorem getLsbD_and_low {wide mask count : ℕ} (word : BitVec wide)
    (low : ∀ bit, mask.testBit bit = decide (bit < count)) (inside : bit < wide) :
    (word &&& BitVec.ofNat wide mask).getLsbD bit = (decide (bit < count) && word.getLsbD bit) := by
  rw [BitVec.getLsbD_and, BitVec.getLsbD_ofNat, low, Bool.and_comm]
  simp [inside]

theorem testBit_sixBits (bit : ℕ) : (63 : ℕ).testBit bit = decide (bit < 6) :=
  Nat.testBit_two_pow_sub_one 6 bit

theorem testBit_nibble (bit : ℕ) : (15 : ℕ).testBit bit = decide (bit < 4) :=
  Nat.testBit_two_pow_sub_one 4 bit

theorem getLsbD_readB6 (inside : bit < 6) :
    (readB6 words position).getLsbD bit = bitOfWords words (position + bit) := by
  rw [readB6, bitOfWords, BitVec.getLsbD_setWidth]
  erw [getLsbD_and_low _ testBit_sixBits (by omega)]
  rw [BitVec.getLsbD_ushiftRight]
  have low : bit < 32 := by omega
  by_cases crossing : position % 32 > 26
  · rw [if_pos crossing, BitVec.getLsbD_or, BitVec.getLsbD_setWidth,
      getLsbD_field _ _ (by omega)]
    by_cases first : position % 32 + bit < 32
    · have place : (position + bit) / 32 = position / 32 := by omega
      have within : (position + bit) % 32 = position % 32 + bit := by omega
      have reached : position % 32 + bit < 64 := by omega
      have early : ¬ 32 ≤ position % 32 + bit := by omega
      simp [place, within, reached, early, low, inside]
    · have place : (position + bit) / 32 = position / 32 + 1 := by omega
      have within : (position + bit) % 32 = position % 32 + bit - 32 := by omega
      have reached : 32 ≤ position % 32 + bit ∧ position % 32 + bit < 32 + 32 := by omega
      simp [place, within, reached, low, inside]
  · have place : (position + bit) / 32 = position / 32 := by omega
    have within : (position + bit) % 32 = position % 32 + bit := by omega
    have reached : position % 32 + bit < 64 := by omega
    rw [if_neg crossing, BitVec.getLsbD_setWidth]
    simp [place, within, reached, low, inside]

theorem bitOfWords_update {dword : ℕ} {word : Dword} :
    bitOfWords (Function.update words dword (words dword ||| word)) position =
      (bitOfWords words position ||
        (decide (position / 32 = dword) && word.getLsbD (position % 32))) := by
  rw [bitOfWords, bitOfWords, Function.update_apply]
  by_cases here : position / 32 = dword
  · simp [here]
  · simp [here]

theorem bitOfWords_writeB6 {start : ℕ} :
    bitOfWords (writeB6 words start value) position = (bitOfWords words position ||
      (decide (start ≤ position ∧ position < start + 6) && value.getLsbD (position - start))) := by
  have small : position % 32 < 32 := Nat.mod_lt _ (by omega)
  -- the part of the value that the first word takes
  have first : (decide (position / 32 = start / 32) &&
      ((value &&& 0x3f) <<< (start % 32)).getLsbD (position % 32)) =
      (decide (start ≤ position ∧ position < start + 6 ∧ position / 32 = start / 32) &&
        value.getLsbD (position - start)) := by
    rw [BitVec.getLsbD_shiftLeft]
    by_cases here : position / 32 = start / 32
    · by_cases above : start ≤ position
      · have place : position % 32 - start % 32 = position - start := by omega
        have early : ¬ position % 32 < start % 32 := by omega
        have narrow : position - start < 6 ↔ position < start + 6 := by omega
        erw [getLsbD_and_low _ testBit_sixBits (by omega)]
        simp [here, above, place, early, narrow, small]
      · have early : position % 32 < start % 32 := by omega
        simp [above, early]
    · simp [here]
  rw [writeB6]
  by_cases crossing : start % 32 > 26
  · have second : (decide (position / 32 = start / 32 + 1) &&
        ((value &&& 0x3f) >>> (32 - start % 32)).getLsbD (position % 32)) =
        (decide (start ≤ position ∧ position < start + 6 ∧ position / 32 ≠ start / 32) &&
          value.getLsbD (position - start)) := by
      rw [BitVec.getLsbD_ushiftRight]
      by_cases here : position / 32 = start / 32 + 1
      · have place : 32 - start % 32 + position % 32 = position - start := by omega
        have above : start ≤ position := by omega
        have other : position / 32 ≠ start / 32 := by omega
        have narrow : position - start < 6 ↔ position < start + 6 := by omega
        rw [place]
        by_cases inside : position - start < 32
        · erw [getLsbD_and_low _ testBit_sixBits inside]
          simp [here, above, narrow]
        · have far : ¬ position < start + 6 := by omega
          rw [BitVec.getLsbD_of_ge _ _ (by omega)]
          simp [far]
      · have far : ¬ (start ≤ position ∧ position < start + 6 ∧ position / 32 ≠ start / 32) := by
          omega
        simp [here, far]
    rw [if_pos crossing, bitOfWords_update, bitOfWords_update, first, second, Bool.or_assoc,
      ← Bool.and_or_distrib_right]
    congr 2
    rw [← Bool.decide_or, decide_eq_decide]
    tauto
  · have whole : start ≤ position ∧ position < start + 6 → position / 32 = start / 32 := by omega
    rw [if_neg crossing, bitOfWords_update, first]
    congr 2
    rw [decide_eq_decide]
    tauto

end Bits

section Listed

variable {input output : List Byte}

def storesB4 (input : List Byte) : List Store :=
  (List.range 2).flatMap fun half => (steps LanesPerHalf 8).flatMap fun group =>
    (List.range 16).map fun nibble =>
      ((half * LanesPerHalf + group / 8 % 2 * 16 + nibble) * 8 + group / 16 % 2 * 4,
        packedB4 input (half * LanesPerHalf + group) nibble)

def storesB8 (input : List Byte) : List Store :=
  (List.range 2).flatMap fun half => (steps LanesPerHalf 4).flatMap fun group =>
    (List.range 8).map fun byte =>
      ((half * LanesPerHalf + group / 16 * 16 + group / 4 % 2 * 8 + byte) * 8 + group % 16 / 8 * 4,
        packedB8 input (half * LanesPerHalf + group) byte)

def storesB16 (input : List Byte) : List Store :=
  (List.range 2).flatMap fun half => (steps LanesPerHalf 8).flatMap fun group =>
    (List.range 4).flatMap fun lane => (List.range 4).map fun halfword =>
      ((half * LanesPerHalf + group / 16 * 16 + lane * 4 + halfword) * 8 + group / 8 % 2 * 4,
        packedB16 input (half * LanesPerHalf + group) lane halfword)

def storesB6 (input : List Byte) : List Store :=
  (List.range 2).flatMap fun half => (List.range 2).flatMap fun pass =>
    (List.range 16).flatMap fun outputLane => (List.range 3).map fun dword =>
      ((half * LanesPerHalf + pass * 16 + outputLane) * 12 + dword * 4,
        packedB6 input (half * LanesPerHalf) pass outputLane dword)

theorem transposeB4_eq : transposeB4 input output 64 = storeAll (storesB4 input) output := by
  simp only [storeAll, storesB4, List.foldl_flatMap, List.foldl_map]
  rfl

theorem transposeB8_eq : transposeB8 input output 64 = storeAll (storesB8 input) output := by
  simp only [storeAll, storesB8, List.foldl_flatMap, List.foldl_map]
  rfl

theorem transposeB16_eq : transposeB16 input output 64 = storeAll (storesB16 input) output := by
  simp only [storeAll, storesB16, List.foldl_flatMap, List.foldl_map]
  rfl

theorem transposeB6_eq : transposeB6 input output 64 = storeAll (storesB6 input) output := by
  simp only [storeAll, storesB6, List.foldl_flatMap, List.foldl_map]
  rfl

theorem spread_storesB4 : Spread 512 ((storesB4 input).map Prod.fst) := by
  simp only [storesB4, List.map_flatMap, List.map_map, Function.comp_def]
  decide +kernel

theorem spread_storesB8 : Spread 512 ((storesB8 input).map Prod.fst) := by
  simp only [storesB8, List.map_flatMap, List.map_map, Function.comp_def]
  decide +kernel

theorem spread_storesB16 : Spread 512 ((storesB16 input).map Prod.fst) := by
  simp only [storesB16, List.map_flatMap, List.map_map, Function.comp_def]
  decide +kernel

theorem spread_storesB6 : Spread 768 ((storesB6 input).map Prod.fst) := by
  simp only [storesB6, List.map_flatMap, List.map_map, Function.comp_def]
  decide +kernel

theorem mem_steps {bound step index : ℕ} (inside : index < bound / step) :
    index * step ∈ steps bound step :=
  List.mem_map_of_mem (List.mem_range.mpr inside)

variable {half group : ℕ}

theorem mem_storesB4 {nibble : ℕ} (first : half < 2) (second : group < 4) (third : nibble < 16) :
    ((half * LanesPerHalf + group % 2 * 16 + nibble) * 8 + group / 2 % 2 * 4,
      packedB4 input (half * LanesPerHalf + group * 8) nibble) ∈ storesB4 input := by
  have place : group * 8 / 8 = group := by omega
  have dword : group * 8 / 16 = group / 2 := by omega
  refine List.mem_flatMap.mpr ⟨half, List.mem_range.mpr first, ?_⟩
  refine List.mem_flatMap.mpr ⟨group * 8, mem_steps second, ?_⟩
  refine List.mem_map.mpr ⟨nibble, List.mem_range.mpr third, ?_⟩
  rw [place, dword]

theorem mem_storesB8 {byte : ℕ} (first : half < 2) (second : group < 8) (third : byte < 8) :
    ((half * LanesPerHalf + group / 4 * 16 + group % 2 * 8 + byte) * 8 + group % 4 / 2 * 4,
      packedB8 input (half * LanesPerHalf + group * 4) byte) ∈ storesB8 input := by
  have quad : group * 4 / 16 = group / 4 := by omega
  have place : group * 4 / 4 = group := by omega
  have dword : group * 4 % 16 / 8 = group % 4 / 2 := by omega
  refine List.mem_flatMap.mpr ⟨half, List.mem_range.mpr first, ?_⟩
  refine List.mem_flatMap.mpr ⟨group * 4, mem_steps second, ?_⟩
  refine List.mem_map.mpr ⟨byte, List.mem_range.mpr third, ?_⟩
  rw [quad, place, dword]

theorem mem_storesB16 {lane halfword : ℕ} (first : half < 2) (second : group < 4)
    (third : lane < 4) (fourth : halfword < 4) :
    ((half * LanesPerHalf + group / 2 * 16 + lane * 4 + halfword) * 8 + group % 2 * 4,
      packedB16 input (half * LanesPerHalf + group * 8) lane halfword) ∈ storesB16 input := by
  have pair : group * 8 / 16 = group / 2 := by omega
  have dword : group * 8 / 8 = group := by omega
  refine List.mem_flatMap.mpr ⟨half, List.mem_range.mpr first, ?_⟩
  refine List.mem_flatMap.mpr ⟨group * 8, mem_steps second, ?_⟩
  refine List.mem_flatMap.mpr ⟨lane, List.mem_range.mpr third, ?_⟩
  refine List.mem_map.mpr ⟨halfword, List.mem_range.mpr fourth, ?_⟩
  rw [pair, dword]

theorem mem_storesB6 {pass outputLane dword : ℕ} (first : half < 2) (second : pass < 2)
    (third : outputLane < 16) (fourth : dword < 3) :
    ((half * LanesPerHalf + pass * 16 + outputLane) * 12 + dword * 4,
      packedB6 input (half * LanesPerHalf) pass outputLane dword) ∈ storesB6 input := by
  refine List.mem_flatMap.mpr ⟨half, List.mem_range.mpr first, ?_⟩
  refine List.mem_flatMap.mpr ⟨pass, List.mem_range.mpr second, ?_⟩
  refine List.mem_flatMap.mpr ⟨outputLane, List.mem_range.mpr third, ?_⟩
  exact List.mem_map.mpr ⟨dword, List.mem_range.mpr fourth, rfl⟩

end Listed

section Packed

variable {input : List Byte} {base lane bit laneBase pass outputLane : ℕ}

theorem getLsbD_packedB4 {nibble : ℕ} (inside : lane < 8) (small : bit < 4) :
    (packedB4 input base nibble).getLsbD (lane * 4 + bit) =
      bitOf (byteAt input) ((base + lane) * 64 + nibble * 4 + bit) := by
  have fields : (packedB4 input base nibble).getLsbD (lane * 4 + bit) =
      orFields 4 8 (fun lane bit => bitOf (byteAt input) ((base + lane) * 64 + nibble * 4 + bit))
        (lane * 4 + bit) := by
    rw [packedB4]
    refine foldl_or_eq BitVec.getLsbD _ (· < 32) ?_ 0 (fun position _ => ?_) (by omega)
    · intro packed lane position within
      rw [BitVec.getLsbD_or, BitVec.getLsbD_shiftLeft]
      congr 1
      by_cases above : lane * 4 ≤ position
      · have early : ¬ position < lane * 4 := by omega
        have narrow : position - lane * 4 < 4 ↔ position < lane * 4 + 4 := by omega
        erw [getLsbD_and_low _ testBit_nibble (by omega)]
        rw [BitVec.getLsbD_ushiftRight, BitVec.getLsbD_setWidth]
        by_cases below : position < lane * 4 + 4
        · have place : ((base + lane) * 64 + nibble * 4 + (position - lane * 4)) / 8 =
            (base + lane) * 8 + nibble / 2 := by omega
          have bits : ((base + lane) * 64 + nibble * 4 + (position - lane * 4)) % 8 =
            nibble % 2 * 4 + (position - lane * 4) := by omega
          have reached : nibble % 2 * 4 + (position - lane * 4) < 32 := by omega
          simp [above, early, narrow, below, within, bitOf, place, bits, reached]
        · simp [narrow, below]
      · have early : position < lane * 4 := by omega
        simp [above, early]
    · exact BitVec.getLsbD_zero
  rw [fields, orFields_at inside small]

theorem getLsbD_packedB8 {byte : ℕ} (inside : lane < 4) (small : bit < 8) :
    (packedB8 input base byte).getLsbD (lane * 8 + bit) =
      bitOf (byteAt input) ((base + lane) * 64 + byte * 8 + bit) := by
  have fields : (packedB8 input base byte).getLsbD (lane * 8 + bit) =
      orFields 8 4 (fun lane bit => (byteAt input ((base + lane) * 8 + byte)).getLsbD bit)
        (lane * 8 + bit) := by
    rw [packedB8]
    refine foldl_or_eq BitVec.getLsbD _ (· < 32) ?_ 0 (fun position _ => ?_) (by omega)
    · intro packed lane position within
      rw [BitVec.getLsbD_or, getLsbD_field _ _ within]
    · exact BitVec.getLsbD_zero
  have place : ((base + lane) * 64 + byte * 8 + bit) / 8 = (base + lane) * 8 + byte := by omega
  have within : ((base + lane) * 64 + byte * 8 + bit) % 8 = bit := by omega
  rw [fields, orFields_at inside small, bitOf, place, within]

theorem getLsbD_packedB16 {high halfword : ℕ} (inside : high < 2) (small : bit < 16) :
    (packedB16 input base lane halfword).getLsbD (high * 16 + bit) =
      bitOf (byteAt input) ((base + high * 4 + lane) * 64 + halfword * 16 + bit) := by
  have fields : (packedB16 input base lane halfword).getLsbD (high * 16 + bit) =
      orFields 16 2
        (fun high => (loadU16 (byteAt input) ((base + high * 4 + lane) * 8 + halfword * 2)).getLsbD)
        (high * 16 + bit) := by
    have within : high * 16 + bit < 32 := by omega
    have first := getLsbD_field (loadU16 (byteAt input) ((base + lane) * 8 + halfword * 2)) 0 within
    rw [BitVec.shiftLeft_zero] at first
    simp only [packedB16, BitVec.getLsbD_or, getLsbD_field _ _ within, first]
    simp [orFields, List.range_succ, Nat.add_right_comm]
  have place : ((base + high * 4 + lane) * 8 + halfword * 2) * 8 + bit =
      (base + high * 4 + lane) * 64 + halfword * 16 + bit := by omega
  rw [fields, orFields_at inside small, getLsbD_loadU16 small, place]

theorem bitOfWords_packedB6 {inputLane : ℕ} (inside : inputLane < 16) (small : bit < 6) :
    bitOfWords (packedB6 input laneBase pass outputLane) (inputLane * 6 + bit) =
      bitOf (byteAt input) ((laneBase + (8 * (inputLane / 4) + inputLane % 4 + pass * 4)) * 96 +
        outputLane * 6 + bit) := by
  have fields : bitOfWords (packedB6 input laneBase pass outputLane) (inputLane * 6 + bit) =
      orFields 6 16 (fun inputLane bit => bitOf (byteAt input)
        ((laneBase + (8 * (inputLane / 4) + inputLane % 4 + pass * 4)) * 96 + outputLane * 6 + bit))
        (inputLane * 6 + bit) := by
    rw [packedB6]
    refine foldl_or_eq bitOfWords _ (fun _ => True) ?_ _ (fun position _ => ?_) trivial
    · intro packed inputLane position _
      rw [bitOfWords_writeB6]
      by_cases here : inputLane * 6 ≤ position ∧ position < inputLane * 6 + 6
      · have place (lane : ℕ) : lane * 12 * 8 + (outputLane * 6 + (position - inputLane * 6)) =
            lane * 96 + outputLane * 6 + (position - inputLane * 6) := by omega
        rw [getLsbD_readB6 (by omega), bitOfWords_loadU32, place]
      · simp [here]
    · exact BitVec.getLsbD_zero
  rw [fields, orFields_at inside small]

end Packed

section Relocation

/-- The bits of a lane in the response. -/
def laneBits (kind : Kind) : ℕ := dwordsPerLane kind * 32

def widthOf : Kind → ℕ
  | .b4 => 4
  | .b6 => 6
  | .b8 => 8
  | .b16 => 16

/-- The elements of a lane. -/
def elementsOf : Kind → ℕ
  | .b4 => 16
  | .b6 => 16
  | .b8 => 8
  | .b16 => 4

/-- A lane, and an element of it. -/
abbrev Cell := ℕ × ℕ

def cells (kind : Kind) : Set Cell := {cell | cell.1 < 64 ∧ cell.2 < elementsOf kind}

def Cell.bit (kind : Kind) (cell : Cell) (bit : ℕ) : ℕ :=
  cell.1 * laneBits kind + cell.2 * widthOf kind + bit

/-- Where an element goes: within its half of the wave, by the group of its lane, and by the
place of the lane in the group. -/
def relocate (kind : Kind) (cell : Cell) : Cell :=
  let first := cell.1 / 32 * 32
  let lane := cell.1 % 32
  let element := cell.2
  match kind with
  | .b16 =>
    let group := lane / 8
    let place := lane % 8
    (first + 16 * (group / 2) + 4 * (place % 4) + element, 2 * (group % 2) + place / 4)
  | .b8 =>
    let group := lane / 4
    let place := lane % 4
    (first + 16 * (group / 4) + 8 * (group % 2) + element, 4 * (group % 4 / 2) + place)
  | .b4 =>
    let group := lane / 8
    let place := lane % 8
    (first + 16 * (group % 2) + element, 8 * (group / 2) + place)
  | .b6 =>
    let pass := lane % 8 / 4
    let place := 4 * (lane / 8) + lane % 4
    (first + 16 * pass + element, place)

/-- Every element of a buffer stands in another one where it is relocated to. -/
def Relocated (kind : Kind) (input output : List Byte) : Prop :=
  ∀ cell ∈ cells kind, ∀ bit < widthOf kind,
    bitOf (byteAt output) ((relocate kind cell).bit kind bit) = bitOf (byteAt input) (cell.bit kind bit)

variable {input output : List Byte}

theorem mem_cells {kind : Kind} {cell : Cell} :
    cell ∈ cells kind ↔ cell.1 < 64 ∧ cell.2 < elementsOf kind := Iff.rfl

theorem cells_eq (kind : Kind) :
    cells kind =
      ((Finset.range 64 ×ˢ Finset.range (elementsOf kind) : Finset Cell) : Set Cell) := by
  ext cell
  simp [cells]

theorem relocated_transposeB4 (whole : output.length = 512) :
    Relocated .b4 input (transposeB4 input output 64) := by
  rintro ⟨lane, nibble⟩ member bit small
  rw [mem_cells] at member
  dsimp only [elementsOf, widthOf] at member small
  have stored := @mem_storesB4 input (lane / 32) (lane % 32 / 8) nibble (by omega) (by omega)
    member.2
  have read := @bitOf_storeAll (storesB4 input) _ output (lane % 8 * 4 + bit)
    (by rw [whole]; exact spread_storesB4) stored (by omega)
  dsimp only at read
  rw [← transposeB4_eq, getLsbD_packedB4 (by omega) small] at read
  convert read using 2
  · dsimp only [relocate, Cell.bit, laneBits, widthOf, dwordsPerLane, LanesPerHalf]
    omega
  · dsimp only [Cell.bit, laneBits, widthOf, dwordsPerLane, LanesPerHalf]
    omega

theorem relocated_transposeB8 (whole : output.length = 512) :
    Relocated .b8 input (transposeB8 input output 64) := by
  rintro ⟨lane, byte⟩ member bit small
  rw [mem_cells] at member
  dsimp only [elementsOf, widthOf] at member small
  have stored := @mem_storesB8 input (lane / 32) (lane % 32 / 4) byte (by omega) (by omega)
    member.2
  have read := @bitOf_storeAll (storesB8 input) _ output (lane % 4 * 8 + bit)
    (by rw [whole]; exact spread_storesB8) stored (by omega)
  dsimp only at read
  rw [← transposeB8_eq, getLsbD_packedB8 (by omega) small] at read
  convert read using 2
  · dsimp only [relocate, Cell.bit, laneBits, widthOf, dwordsPerLane, LanesPerHalf]
    omega
  · dsimp only [Cell.bit, laneBits, widthOf, dwordsPerLane, LanesPerHalf]
    omega

theorem relocated_transposeB16 (whole : output.length = 512) :
    Relocated .b16 input (transposeB16 input output 64) := by
  rintro ⟨lane, halfword⟩ member bit small
  rw [mem_cells] at member
  dsimp only [elementsOf, widthOf] at member small
  have stored := @mem_storesB16 input (lane / 32) (lane % 32 / 8) (lane % 32 % 8 % 4) halfword
    (by omega) (by omega) (by omega) member.2
  have read := @bitOf_storeAll (storesB16 input) _ output (lane % 32 % 8 / 4 * 16 + bit)
    (by rw [whole]; exact spread_storesB16) stored (by omega)
  dsimp only at read
  rw [← transposeB16_eq, getLsbD_packedB16 (by omega) small] at read
  convert read using 2
  · dsimp only [relocate, Cell.bit, laneBits, widthOf, dwordsPerLane, LanesPerHalf]
    omega
  · dsimp only [Cell.bit, laneBits, widthOf, dwordsPerLane, LanesPerHalf]
    omega

theorem relocated_transposeB6 (whole : output.length = 768) :
    Relocated .b6 input (transposeB6 input output 64) := by
  rintro ⟨lane, element⟩ member bit small
  rw [mem_cells] at member
  dsimp only [elementsOf, widthOf] at member small
  -- the place of the element's bit among the three dwords of the lane it goes to
  obtain ⟨place, placed⟩ : ∃ place, place = (4 * (lane % 32 / 8) + lane % 4) * 6 + bit := ⟨_, rfl⟩
  have stored := @mem_storesB6 input (lane / 32) (lane % 8 / 4) element (place / 32) (by omega)
    (by omega) member.2 (by omega)
  have read := @bitOf_storeAll (storesB6 input) _ output (place % 32)
    (by rw [whole]; exact spread_storesB6) stored (by omega)
  dsimp only at read
  rw [← transposeB6_eq] at read
  have packed := @bitOfWords_packedB6 input bit (lane / 32 * LanesPerHalf) (lane % 8 / 4) element
    (4 * (lane % 32 / 8) + lane % 4) (by omega) small
  rw [← placed] at packed
  rw [← bitOfWords, packed] at read
  convert read using 2
  · dsimp only [relocate, Cell.bit, laneBits, widthOf, dwordsPerLane, LanesPerHalf]
    omega
  · dsimp only [Cell.bit, laneBits, widthOf, dwordsPerLane, LanesPerHalf]
    omega

theorem relocate_mem {kind : Kind} {cell : Cell} (member : cell ∈ cells kind) :
    relocate kind cell ∈ cells kind := by
  rw [mem_cells] at member ⊢
  cases kind <;> dsimp only [relocate, elementsOf] at member ⊢ <;> omega

theorem relocate_injective {kind : Kind} {left right : Cell} (one : left ∈ cells kind)
    (other : right ∈ cells kind) (same : relocate kind left = relocate kind right) :
    left = right := by
  rw [mem_cells] at one other
  rw [Prod.ext_iff] at same ⊢
  cases kind <;> dsimp only [relocate, elementsOf] at one other same ⊢ <;> omega

/-- No element is lost, and none comes twice. -/
theorem relocate_bijOn (kind : Kind) : Set.BijOn (relocate kind) (cells kind) (cells kind) := by
  have inj : Set.InjOn (relocate kind) (cells kind) :=
    fun left one right other same => relocate_injective one other same
  have maps : Set.MapsTo (relocate kind) (cells kind) (cells kind) :=
    fun cell member => relocate_mem member
  refine ⟨maps, inj, ?_⟩
  rw [cells_eq] at inj maps ⊢
  exact Finset.surjOn_of_injOn_of_card_le _ maps inj le_rfl

end Relocation

/-- The transposition relocates every element of the response, and every element of its answer
comes from one. -/
theorem transposeCdna4_relocates (kind : Kind) {input : List Byte}
    (whole : input.length = 64 * dwordsPerLane kind * 4) :
    ∃ output, transposeCdna4 input kind 64 = some output ∧ Relocated kind input output ∧
      Set.BijOn (relocate kind) (cells kind) (cells kind) := by
  have accepted : ¬ (64 ≠ 64 ∨ input.length ≠ 64 * dwordsPerLane kind * 4) := by
    rintro (other | other)
    · exact other rfl
    · exact other whole
  rw [transposeCdna4, if_neg accepted]
  refine ⟨_, rfl, ?_, relocate_bijOn kind⟩
  cases kind with
  | b4 => exact relocated_transposeB4 List.length_replicate
  | b6 => exact relocated_transposeB6 List.length_replicate
  | b8 => exact relocated_transposeB8 List.length_replicate
  | b16 => exact relocated_transposeB16 List.length_replicate

/-- A response whose halfwords hold their own numbers. -/
def numberedResponse : List Byte :=
  (List.range 512).map fun place => if place % 2 = 0 then BitVec.ofNat 8 (place / 2) else 0

theorem transposeCdna4_relocates_numbered :
    numberedResponse.length = 64 * dwordsPerLane .b16 * 4 ∧
      transposeCdna4 numberedResponse .b16 64 ≠ some numberedResponse ∧
      ∃ output, transposeCdna4 numberedResponse .b16 64 = some output ∧
        Relocated .b16 numberedResponse output ∧
        Set.BijOn (relocate .b16) (cells .b16) (cells .b16) :=
  ⟨by decide +kernel, by decide +kernel, transposeCdna4_relocates .b16 (by decide +kernel)⟩

end GemSim.Vega
