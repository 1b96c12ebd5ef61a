import Mathlib.Data.List.Range
import GemSim.Vega.Buffers

/-!
# Vector operands

A vector instruction reads its operands whole, computes a value for each lane, and commits the
values of the active lanes. Registers hold a dword a lane; an operand has the type of the
operation, which may be narrower, and then only the low bits of the register are read and
written. Values are raw bits, also those of a float.

The vector operands, the reading of a scalar operand and the arithmetic of floats belong to the
base simulator and the host; the model takes them as parameters.

## Main definitions

* `ElemType` — the type of an operand
* `Wave` — the registers of a wave
* `Host` — what the base simulator and the host provide
* `Wave.read`, `Host.readSrc`, `Wave.write` — the accesses of an operand
-/

namespace GemSim.Vega

def NumVecElemPerVecReg : ℕ := 64

/-- The type of an operand. There is one type of floats that a dword holds. -/
structure ElemType where
  bits : ℕ
  floating : Bool
  fits : bits ≤ 32
  single : floating = true → bits = 32

namespace ElemType

/-- The bits of a value. -/
abbrev Value (T : ElemType) := BitVec T.bits

abbrev u32 : ElemType where
  bits := 32
  floating := false
  fits := le_rfl
  single := fun _ => rfl

end ElemType

/-- The registers of a wave, by register and lane, and its masks, by lane. -/
structure Wave where
  vgprs : ℕ → ℕ → Dword
  exec : ℕ → Bool
  vcc : ℕ → Bool

/-- What the model takes from the base simulator and from the host. -/
structure Host where
  /-- What a scalar operand, or an inline constant, reads as. -/
  readScalar : (T : ElemType) → Wave → ℕ → T.Value
  /-- What an operand holds that has not been read. -/
  unread : (T : ElemType) → ℕ → T.Value
  unreadVcc : ℕ → Bool
  /-- What an operand is accessed as after the modifiers of its flags, negation and absolute
  value, have been asked of it. -/
  modified : (T : ElemType) → Bool → Bool → (ℕ → T.Value) → ℕ → T.Value
  /-- The product of two floats, and a float clamped between two others. -/
  multiply : Dword → Dword → Dword
  clamp : Dword → Dword → Dword → Dword

def REG_VGPR_MIN : ℕ := 256

section Accesses

/-- A vector register as an operand of a type. -/
def Wave.read (T : ElemType) (wave : Wave) (register : ℕ) : ℕ → T.Value := fun lane =>
  (wave.vgprs register lane).setWidth T.bits

/-- The register an operand selector names. -/
def Host.readSrc (host : Host) (T : ElemType) (wave : Wave) (selector : ℕ) : ℕ → T.Value :=
  if REG_VGPR_MIN ≤ selector then wave.read T (selector - REG_VGPR_MIN)
  else fun _ => host.readScalar T wave selector

/-- A register after a value has been copied to its low bits. -/
def commitBits (T : ElemType) (old : Dword) (value : T.Value) : Dword :=
  ((old >>> T.bits) <<< T.bits) ||| value.setWidth 32

/-- The active lanes of an operand are committed. -/
def Wave.write (T : ElemType) (register : ℕ) (vdst : ℕ → T.Value) (wave : Wave) : Wave :=
  { wave with
    vgprs := fun other lane =>
      if other = register ∧ lane < NumVecElemPerVecReg ∧ wave.exec lane = true then
        commitBits T (wave.vgprs other lane) (vdst lane)
      else wave.vgprs other lane }

end Accesses

section Facts

variable {T : ElemType} {wave : Wave} {register other lane : ℕ} {vdst : ℕ → T.Value}

@[simp] theorem exec_write : (wave.write T register vdst).exec = wave.exec := rfl

@[simp] theorem vcc_write : (wave.write T register vdst).vcc = wave.vcc := rfl

theorem vgprs_write_of_ne (different : other ≠ register) :
    (wave.write T register vdst).vgprs other = wave.vgprs other := by
  funext lane
  exact if_neg fun both => different both.1

theorem vgprs_write_of_inactive
    (inactive : ¬ (lane < NumVecElemPerVecReg ∧ wave.exec lane = true)) :
    (wave.write T register vdst).vgprs other lane = wave.vgprs other lane :=
  if_neg fun both => inactive both.2

theorem vgprs_write (inside : lane < NumVecElemPerVecReg) (active : wave.exec lane = true) :
    (wave.write T register vdst).vgprs register lane =
      commitBits T (wave.vgprs register lane) (vdst lane) :=
  if_pos ⟨rfl, inside, active⟩

theorem getLsbD_commitBits (old : Dword) (value : T.Value) {bit : ℕ} (inside : bit < 32) :
    (commitBits T old value).getLsbD bit =
      if bit < T.bits then value.getLsbD bit else old.getLsbD bit := by
  rw [commitBits, BitVec.getLsbD_or, BitVec.getLsbD_shiftLeft, BitVec.getLsbD_setWidth,
    BitVec.getLsbD_ushiftRight]
  by_cases low : bit < T.bits
  · simp [low, inside]
  · have place : T.bits + (bit - T.bits) = bit := by omega
    simp [low, inside, place, BitVec.getLsbD_of_ge value bit (by omega)]

/-- A whole dword is committed as it is. -/
theorem commitBits_u32 (old value : Dword) : commitBits .u32 old value = value := by
  apply BitVec.eq_of_getLsbD_eq
  intro bit inside
  rw [@getLsbD_commitBits .u32 old value bit inside]
  exact if_pos inside

/-- What was read is committed without a change. -/
theorem commitBits_self (old : Dword) : commitBits T old (old.setWidth T.bits) = old := by
  apply BitVec.eq_of_getLsbD_eq
  intro bit inside
  rw [getLsbD_commitBits old _ inside, BitVec.getLsbD_setWidth]
  by_cases low : bit < T.bits
  · simp [low]
  · simp [low]

end Facts

end GemSim.Vega
