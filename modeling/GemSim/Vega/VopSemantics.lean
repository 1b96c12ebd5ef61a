import GemSim.Vega.Operands

/-!
# What the encodings mean for one lane

Two encodings extend a vector instruction. One selects a field of each source, modifies it, and
places the result in a field of the destination. The other takes the first source from another
lane and masks the lanes that are written.

## Main definitions

* `sdwaExtendedSource`, `sdwaFloatModifiers`, `source` — a source
* `outputModifiers`, `sdwaDestMerge` — a result
* `dppLaneWriteEnabled`, `dppSourceLane` — the lanes of an instruction
* `selectedField`, `operand` — what a source reads as
* `Placed` — where a result goes

## Main results

* `source_eq_operand` — a source is its field, extended and modified
* `placed_sdwaDestMerge` — every bit of a merged destination
-/

namespace GemSim.Vega

section Sdwa

def sdwaSelectWidth (sel : BitVec 3) : ℕ :=
  if sel.toNat ≤ 3 then 8
  else if sel.toNat ≤ 5 then 16
  else 32

def sdwaSelectOffset (sel : BitVec 3) : ℕ :=
  if sel.toNat ≤ 3 then sel.toNat * 8
  else if sel.toNat ≤ 5 then (sel.toNat - 4) * 16
  else 0

def fieldMask (width : ℕ) : Dword := (1 <<< width) - 1

def sdwaExtendedSource (dword : Dword) (sel : BitVec 3) (sext : Bool) : Dword :=
  let width := sdwaSelectWidth sel
  if width = 32 then dword
  else
    let field := (dword >>> sdwaSelectOffset sel) &&& fieldMask width
    if sext && (field >>> (width - 1)) &&& 1 != 0 then field ||| ~~~fieldMask width else field

/-- The absolute value, and then the negation, of a float. -/
def sdwaFloatModifiers (bits : Dword) (opBits : ℕ) (abs neg : Bool) : Dword :=
  let signBit : Dword := 1 <<< (opBits - 1)
  let bits := if abs then bits &&& ~~~signBit else bits
  if neg then bits ^^^ signBit else bits

def sdwaOperandBits (T : ElemType) (bits : Dword) : T.Value := bits.setWidth T.bits

def sdwaResultBits (T : ElemType) (value : T.Value) : Dword := value.setWidth 32

def source (T : ElemType) (dword : Dword) (sel : BitVec 3) (sext neg abs : Bool) : T.Value :=
  let bits := sdwaExtendedSource dword sel sext
  let bits := if T.floating then sdwaFloatModifiers bits T.bits abs neg else bits
  sdwaOperandBits T bits

def applyOutputModifiers (host : Host) (value : Dword) (omod : BitVec 2) (clamp : Bool) : Dword :=
  let value := match omod.toNat with
    | 0 => value
    | 1 => host.multiply value 0x40000000
    | 2 => host.multiply value 0x40800000
    | _ => host.multiply value 0x3f000000
  if clamp then host.clamp value 0 0x3f800000 else value

/-- An integer result cannot be scaled. -/
def outputModifiers (host : Host) (T : ElemType) (value : T.Value) (omod : BitVec 2)
    (clamp : Bool) : Option T.Value :=
  if T.floating then
    some ((applyOutputModifiers host (value.setWidth 32) omod clamp).setWidth T.bits)
  else if omod ≠ 0 then none
  else some value

def SDWA_DST_UNUSED_SEXT : BitVec 2 := 1

def SDWA_DST_UNUSED_PRESERVE : BitVec 2 := 2

def sdwaDestMerge (result oldDst : Dword) (dstSel : BitVec 3) (dstUnused : BitVec 2) : Dword :=
  let width := sdwaSelectWidth dstSel
  if width = 32 then result
  else
    let offset := sdwaSelectOffset dstSel
    let placedMask := fieldMask width <<< offset
    let placed := (result &&& fieldMask width) <<< offset
    let fill :=
      if dstUnused = SDWA_DST_UNUSED_PRESERVE then oldDst &&& ~~~placedMask
      else if dstUnused = SDWA_DST_UNUSED_SEXT ∧ (result >>> (width - 1)) &&& 1 ≠ 0 then
        (~~~((1 : BitVec 64) <<< (offset + width) - 1)).setWidth 32
      else 0
    fill ||| placed

def sdwaDestIsReadModifyWrite (dstSel : BitVec 3) (dstUnused : BitVec 2) : Bool :=
  dstUnused = SDWA_DST_UNUSED_PRESERVE && sdwaSelectWidth dstSel ≠ 32

end Sdwa

section Dpp

def SQ_DPP_QUAD_PERM_MAX : ℕ := 0xff
def SQ_DPP_RESERVED : ℕ := 0x100
def SQ_DPP_ROW_SL1 : ℕ := 0x101
def SQ_DPP_ROW_SL15 : ℕ := 0x10f
def SQ_DPP_ROW_SR1 : ℕ := 0x111
def SQ_DPP_ROW_SR15 : ℕ := 0x11f
def SQ_DPP_ROW_RR1 : ℕ := 0x121
def SQ_DPP_ROW_RR15 : ℕ := 0x12f
def SQ_DPP_WF_SL1 : ℕ := 0x130
def SQ_DPP_WF_RL1 : ℕ := 0x134
def SQ_DPP_WF_SR1 : ℕ := 0x138
def SQ_DPP_WF_RR1 : ℕ := 0x13c
def SQ_DPP_ROW_MIRROR : ℕ := 0x140
def SQ_DPP_ROW_HALF_MIRROR : ℕ := 0x141
def SQ_DPP_ROW_BCAST15 : ℕ := 0x142
def SQ_DPP_ROW_BCAST31 : ℕ := 0x143

def DppRowSize : ℕ := 16
def DppBankSize : ℕ := 4

def dppLaneWriteEnabled (lane : ℕ) (rowMask bankMask : BitVec 4) : Bool :=
  let row := lane / DppRowSize
  let bank := lane % DppRowSize / DppBankSize
  rowMask.getLsbD row && bankMask.getLsbD bank

def dppRowMirrorLane (lane : ℕ) : ℕ := lane / 16 * 16 + (15 - lane % 16)

def dppRowHalfMirrorLane (lane : ℕ) : ℕ := lane / 8 * 8 + (7 - lane % 8)

/-- The lane that a control selects for a lane, if it selects any. Other controls abort. -/
def dppSourceLane (dppCtrl lane : ℕ) : Option (Option ℕ) :=
  if dppCtrl ≤ SQ_DPP_QUAD_PERM_MAX then
    some (some (lane / 4 * 4 + (dppCtrl >>> (2 * (lane % 4))) % 4))
  else if dppCtrl ≥ SQ_DPP_ROW_SL1 ∧ dppCtrl ≤ SQ_DPP_ROW_SL15 then
    let count := dppCtrl - SQ_DPP_ROW_SL1 + 1
    let offset := lane % DppRowSize + count
    some (if offset < DppRowSize then some (lane / DppRowSize * DppRowSize + offset) else none)
  else if dppCtrl ≥ SQ_DPP_ROW_SR1 ∧ dppCtrl ≤ SQ_DPP_ROW_SR15 then
    let count := dppCtrl - SQ_DPP_ROW_SR1 + 1
    some (if lane % DppRowSize ≥ count then
        some (lane / DppRowSize * DppRowSize + (lane % DppRowSize - count))
      else none)
  else if dppCtrl ≥ SQ_DPP_ROW_RR1 ∧ dppCtrl ≤ SQ_DPP_ROW_RR15 then
    let count := dppCtrl - SQ_DPP_ROW_RR1 + 1
    let offset := (lane % DppRowSize + DppRowSize - count) % DppRowSize
    some (some (lane / DppRowSize * DppRowSize + offset))
  else if dppCtrl = SQ_DPP_WF_SL1 then
    some (if lane + 1 < NumVecElemPerVecReg then some (lane + 1) else none)
  else if dppCtrl = SQ_DPP_WF_RL1 then
    some (some ((lane + 1) % NumVecElemPerVecReg))
  else if dppCtrl = SQ_DPP_WF_SR1 then
    some (if lane ≥ 1 then some (lane - 1) else none)
  else if dppCtrl = SQ_DPP_WF_RR1 then
    some (some ((lane + NumVecElemPerVecReg - 1) % NumVecElemPerVecReg))
  else if dppCtrl = SQ_DPP_ROW_MIRROR then
    some (some (dppRowMirrorLane lane))
  else if dppCtrl = SQ_DPP_ROW_HALF_MIRROR then
    some (some (dppRowHalfMirrorLane lane))
  else if dppCtrl = SQ_DPP_ROW_BCAST15 then
    some (if lane > 15 then some (lane / 16 % 4 * 16 - 1) else none)
  else if dppCtrl = SQ_DPP_ROW_BCAST31 then
    some (if lane > 31 then some (lane / 32 % 2 * 32 - 1) else none)
  else none

end Dpp

section Spec

/-- The bits of the byte, of the word or of the dword that a select is for: four bytes, then two
words, then the whole. -/
def SelectedBit (sel : BitVec 3) (bit : ℕ) : Prop :=
  sel.toNat < 4 ∧ bit / 8 = sel.toNat ∨
    4 ≤ sel.toNat ∧ sel.toNat < 6 ∧ bit / 16 + 4 = sel.toNat ∨
    6 ≤ sel.toNat ∧ bit < 32

/-- The field of a dword, extended with zeros or with its sign. -/
def selectedField (dword : Dword) (sel : BitVec 3) (sext : Bool) : Dword :=
  let selected := dword.extractLsb' (sdwaSelectOffset sel) (sdwaSelectWidth sel)
  if sext then selected.signExtend 32 else selected.setWidth 32

/-- What a source reads as: its field, and of a float the absolute value before the negation. -/
def operand (T : ElemType) (sel : BitVec 3) (sext neg abs : Bool) (dword : Dword) : T.Value :=
  let value := (selectedField dword sel sext).setWidth T.bits
  if T.floating then
    let value := if abs then value &&& ~~~BitVec.intMin T.bits else value
    if neg then value ^^^ BitVec.intMin T.bits else value
  else value

/-- What stands outside the field of a result. -/
def unusedBit (dstSel : BitVec 3) (dstUnused : BitVec 2) (result old : Dword) (bit : ℕ) : Bool :=
  match dstUnused.toNat with
  | 1 => decide (sdwaSelectOffset dstSel + sdwaSelectWidth dstSel ≤ bit) &&
      result.getLsbD (sdwaSelectWidth dstSel - 1)
  | 2 => old.getLsbD bit
  | _ => false

/-- A result in its field of the destination. -/
def Placed (dstSel : BitVec 3) (dstUnused : BitVec 2) (result old new : Dword) : Prop :=
  ∀ bit < 32, new.getLsbD bit =
    if sdwaSelectOffset dstSel ≤ bit ∧ bit < sdwaSelectOffset dstSel + sdwaSelectWidth dstSel then
      result.getLsbD (bit - sdwaSelectOffset dstSel)
    else unusedBit dstSel dstUnused result old bit

end Spec

section Fields

variable {dword old : Dword} {sel : BitVec 3} {sext : Bool} {bit : ℕ}

/-- The bits that a select names are those of its byte, of its word, or all. -/
theorem selectedBits_iff (sel : BitVec 3) (bit : ℕ) :
    (sdwaSelectOffset sel ≤ bit ∧ bit < sdwaSelectOffset sel + sdwaSelectWidth sel) ↔
      SelectedBit sel bit := by
  rw [sdwaSelectWidth, sdwaSelectOffset, SelectedBit]
  split
  · omega
  split
  · omega
  · omega

/-- A select names the whole dword, a byte of it or a word of it. -/
theorem sdwaSelect_cases (sel : BitVec 3) :
    sdwaSelectWidth sel = 32 ∧ sdwaSelectOffset sel = 0 ∨
      sdwaSelectWidth sel < 32 ∧ 0 < sdwaSelectWidth sel ∧
        (sdwaSelectOffset sel + sdwaSelectWidth sel = 8 ∨
          sdwaSelectOffset sel + sdwaSelectWidth sel = 16 ∨
          sdwaSelectOffset sel + sdwaSelectWidth sel = 24 ∨
          sdwaSelectOffset sel + sdwaSelectWidth sel = 32) ∧
        (sdwaSelectWidth sel = 8 ∨ sdwaSelectWidth sel = 16) := by
  rw [sdwaSelectWidth, sdwaSelectOffset]
  split
  · right
    omega
  split
  · right
    omega
  · exact .inl ⟨rfl, rfl⟩

theorem getLsbD_fieldMask {width : ℕ} (narrow : width = 8 ∨ width = 16) (inside : bit < 32) :
    (fieldMask width).getLsbD bit = decide (bit < width) := by
  rcases narrow with rfl | rfl
  · revert bit
    decide
  · revert bit
    decide

theorem getLsbD_above {above : ℕ} (end_ : above = 8 ∨ above = 16 ∨ above = 24 ∨ above = 32)
    (inside : bit < 32) :
    ((~~~((1 : BitVec 64) <<< above - 1)).setWidth 32).getLsbD bit = decide (above ≤ bit) := by
  rcases end_ with rfl | rfl | rfl | rfl
  · revert bit
    decide
  · revert bit
    decide
  · revert bit
    decide
  · revert bit
    decide

/-- The lowest bit of a dword. -/
theorem and_one_ne_zero (dword : Dword) : dword &&& 1 ≠ 0 ↔ dword.getLsbD 0 = true := by
  have lowest : dword &&& 1 = (BitVec.ofBool (dword.getLsbD 0)).setWidth 32 :=
    BitVec.and_one_eq_setWidth_ofBool_getLsbD
  rw [lowest]
  cases dword.getLsbD 0 with
  | false => simp
  | true => simp

theorem getLsbD_selectedField (inside : bit < 32) :
    (selectedField dword sel sext).getLsbD bit =
      if bit < sdwaSelectWidth sel then dword.getLsbD (sdwaSelectOffset sel + bit)
      else sext && dword.getLsbD (sdwaSelectOffset sel + (sdwaSelectWidth sel - 1)) := by
  have positive : 0 < sdwaSelectWidth sel := by
    rcases sdwaSelect_cases sel with ⟨whole, -⟩ | ⟨-, positive, -⟩
    · omega
    · exact positive
  cases sext with
  | false =>
    by_cases low : bit < sdwaSelectWidth sel
    · simp [selectedField, inside, low]
    · simp [selectedField, inside, low]
  | true =>
    dsimp only [selectedField]
    rw [if_pos rfl, BitVec.getLsbD_signExtend, BitVec.msb_eq_getLsbD_last]
    by_cases low : bit < sdwaSelectWidth sel
    · simp [inside, low]
    · have last : sdwaSelectWidth sel - 1 < sdwaSelectWidth sel := by omega
      simp [inside, low, last]

theorem sdwaExtendedSource_eq : sdwaExtendedSource dword sel sext = selectedField dword sel sext := by
  apply BitVec.eq_of_getLsbD_eq
  intro bit inside
  rw [getLsbD_selectedField inside]
  rcases sdwaSelect_cases sel with ⟨whole, first⟩ | ⟨narrow, positive, fits, sizes⟩
  · rw [sdwaExtendedSource, if_pos whole, whole, first, if_pos inside, Nat.zero_add]
  · -- the field in the low bits, before it is extended
    have selected (place : ℕ) (small : place < 32) :
        ((dword >>> sdwaSelectOffset sel) &&& fieldMask (sdwaSelectWidth sel)).getLsbD place =
          (decide (place < sdwaSelectWidth sel) && dword.getLsbD (sdwaSelectOffset sel + place)) := by
      rw [BitVec.getLsbD_and, BitVec.getLsbD_ushiftRight, getLsbD_fieldMask sizes small,
        Bool.and_comm]
    have sign : (((dword >>> sdwaSelectOffset sel) &&& fieldMask (sdwaSelectWidth sel)) >>>
        (sdwaSelectWidth sel - 1)) &&& 1 ≠ 0 ↔
          dword.getLsbD (sdwaSelectOffset sel + (sdwaSelectWidth sel - 1)) = true := by
      rw [and_one_ne_zero, BitVec.getLsbD_ushiftRight, Nat.add_zero, selected _ (by omega)]
      have last : sdwaSelectWidth sel - 1 < sdwaSelectWidth sel := by omega
      simp [last]
    rw [sdwaExtendedSource, if_neg (by omega)]
    dsimp only
    by_cases low : bit < sdwaSelectWidth sel
    · rw [if_pos low]
      split
      · rw [BitVec.getLsbD_or, selected bit inside, BitVec.getLsbD_not,
          getLsbD_fieldMask sizes inside]
        simp [low]
      · rw [selected bit inside]
        simp [low]
    · rw [if_neg low]
      split
      · rename_i negative
        rw [Bool.and_eq_true, bne_iff_ne, sign] at negative
        rw [BitVec.getLsbD_or, selected bit inside, BitVec.getLsbD_not,
          getLsbD_fieldMask sizes inside, negative.1, negative.2]
        simp [low, inside]
      · rename_i positive
        rw [Bool.and_eq_true, bne_iff_ne, sign, ← Bool.and_eq_true, Bool.not_eq_true] at positive
        rw [selected bit inside, positive]
        simp [low]

end Fields

section Sources

variable {T : ElemType} {dword : Dword} {sel : BitVec 3} {sext neg abs : Bool}

/-- A source is its field, extended and modified. -/
theorem source_eq_operand : source T dword sel sext neg abs = operand T sel sext neg abs dword := by
  rw [source, operand, sdwaExtendedSource_eq]
  by_cases floating : T.floating = true
  · obtain ⟨bits, kind, fits, single⟩ := T
    obtain rfl := single floating
    simp only [sdwaOperandBits, sdwaFloatModifiers, BitVec.setWidth_eq]
    rfl
  · simp [floating, sdwaOperandBits]

/-- A whole dword that is not modified is read as it is. -/
theorem operand_plain (whole : sdwaSelectWidth sel = 32) :
    operand T sel sext false false dword = dword.setWidth T.bits := by
  have first : sdwaSelectOffset sel = 0 := by
    rcases sdwaSelect_cases sel with ⟨-, first⟩ | ⟨narrow, -⟩
    · exact first
    · omega
  have same : selectedField dword sel sext = dword := by
    apply BitVec.eq_of_getLsbD_eq
    intro bit inside
    rw [getLsbD_selectedField inside, whole, first, if_pos inside, Nat.zero_add]
  simp [operand, same]

end Sources

section Results

variable {host : Host} {T : ElemType} {value : T.Value} {omod : BitVec 2} {clamp : Bool}

theorem outputModifiers_isSome (carried : T.floating = true ∨ omod = 0) :
    ∃ modified, outputModifiers host T value omod clamp = some modified := by
  rw [outputModifiers]
  by_cases floating : T.floating = true
  · exact ⟨_, if_pos floating⟩
  · rw [if_neg floating, if_neg (not_not.mpr (carried.resolve_left floating))]
    exact ⟨_, rfl⟩

theorem outputModifiers_plain : outputModifiers host T value 0 false = some value := by
  rw [outputModifiers]
  by_cases floating : T.floating = true
  · have whole : (value.setWidth 32).setWidth T.bits = value := by
      rw [BitVec.setWidth_setWidth_of_le _ T.fits, BitVec.setWidth_eq]
    rw [if_pos floating, applyOutputModifiers]
    exact congrArg some whole
  · rw [if_neg floating, if_neg (not_not.mpr rfl)]

/-- Every bit of a merged destination. -/
theorem placed_sdwaDestMerge {result old : Dword} {dstSel : BitVec 3} {dstUnused : BitVec 2}
    (narrow : sdwaSelectWidth dstSel ≠ 32) :
    Placed dstSel dstUnused result old (sdwaDestMerge result old dstSel dstUnused) := by
  intro bit inside
  rcases sdwaSelect_cases dstSel with ⟨whole, -⟩ | ⟨-, positive, ends, sizes⟩
  · exact absurd whole narrow
  have mask : (fieldMask (sdwaSelectWidth dstSel) <<< sdwaSelectOffset dstSel).getLsbD bit =
      decide (sdwaSelectOffset dstSel ≤ bit ∧
        bit < sdwaSelectOffset dstSel + sdwaSelectWidth dstSel) := by
    rw [BitVec.getLsbD_shiftLeft, getLsbD_fieldMask sizes (by omega)]
    by_cases above : sdwaSelectOffset dstSel ≤ bit
    · have early : ¬ bit < sdwaSelectOffset dstSel := by omega
      have below : bit - sdwaSelectOffset dstSel < sdwaSelectWidth dstSel ↔
          bit < sdwaSelectOffset dstSel + sdwaSelectWidth dstSel := by omega
      simp [inside, early, below, above]
    · have early : bit < sdwaSelectOffset dstSel := by omega
      simp [early, above]
  have placed : ((result &&& fieldMask (sdwaSelectWidth dstSel)) <<<
      sdwaSelectOffset dstSel).getLsbD bit =
        (decide (sdwaSelectOffset dstSel ≤ bit ∧
          bit < sdwaSelectOffset dstSel + sdwaSelectWidth dstSel) &&
            result.getLsbD (bit - sdwaSelectOffset dstSel)) := by
    rw [← mask, BitVec.getLsbD_shiftLeft, BitVec.getLsbD_shiftLeft, BitVec.getLsbD_and]
    cases result.getLsbD (bit - sdwaSelectOffset dstSel) with
    | false => simp
    | true => simp
  have sign : (result >>> (sdwaSelectWidth dstSel - 1)) &&& 1 ≠ 0 ↔
      result.getLsbD (sdwaSelectWidth dstSel - 1) = true := by
    rw [and_one_ne_zero, BitVec.getLsbD_ushiftRight, Nat.add_zero]
  have kinds : dstUnused = 0 ∨ dstUnused = 1 ∨ dstUnused = 2 ∨ dstUnused = 3 := by
    revert dstUnused
    decide
  rw [sdwaDestMerge, if_neg narrow]
  dsimp only
  rw [BitVec.getLsbD_or, placed]
  by_cases there : sdwaSelectOffset dstSel ≤ bit ∧
      bit < sdwaSelectOffset dstSel + sdwaSelectWidth dstSel
  · have here := decide_eq_true there
    rw [if_pos there, here, Bool.true_and]
    rcases kinds with rfl | rfl | rfl | rfl
    · simp [SDWA_DST_UNUSED_PRESERVE, SDWA_DST_UNUSED_SEXT]
    · have beyond : ¬ sdwaSelectOffset dstSel + sdwaSelectWidth dstSel ≤ bit := by omega
      rw [if_neg (by decide)]
      split
      · rw [getLsbD_above ends inside, decide_eq_false beyond, Bool.false_or]
      · simp
    · rw [if_pos (by decide), BitVec.getLsbD_and, BitVec.getLsbD_not, mask, here]
      simp
    · simp [SDWA_DST_UNUSED_PRESERVE, SDWA_DST_UNUSED_SEXT]
  · have outside := decide_eq_false there
    rw [if_neg there, outside, Bool.false_and, Bool.or_false]
    rcases kinds with rfl | rfl | rfl | rfl
    · simp [SDWA_DST_UNUSED_PRESERVE, SDWA_DST_UNUSED_SEXT, unusedBit]
    · rw [if_neg (by decide)]
      change _ = (decide _ && _)
      split
      · rename_i negative
        rw [getLsbD_above ends inside, sign.mp negative.2, Bool.and_true]
      · rename_i positive
        have clear : result.getLsbD (sdwaSelectWidth dstSel - 1) = false := by
          rw [← Bool.not_eq_true, ← sign]
          exact fun set => positive ⟨by decide, set⟩
        rw [clear, Bool.and_false]
        exact BitVec.getLsbD_zero
    · rw [if_pos (by decide), BitVec.getLsbD_and, BitVec.getLsbD_not, mask, outside]
      simp [unusedBit, inside]
    · simp [SDWA_DST_UNUSED_PRESERVE, SDWA_DST_UNUSED_SEXT, unusedBit]

end Results

end GemSim.Vega
