import Mathlib.Algebra.Order.Ring.Nat
import GemSim.Vega.Vop

/-!
# Sources from other lanes

An instruction in the encoding that permutes lanes writes a lane under five gates: the lane is
active, its row and its bank are enabled, and its source is a lane that is active too, or else
is to be read as zero. Every other lane keeps its value, which is what reductions rest on: they
shift a row both ways into one destination, each under the mask of the lanes whose source stays
in the row.

## Main definitions

* `DppOpcode` — the instructions that come in the encoding
* `Implemented` — the controls of the encoding
* `Writes` — the gates of a lane
* `DppWritten` — a result in the lanes that are written
* `DppAgrees` — what an instruction does, and two that shift a row both ways
* `Reads` — the lanes of each control, by rows and places in them

## Main results

* `dppSourceLane_eq_some_iff` — a control selects the lane that it names
* `dppWritten_execute` — every opcode, for every function of a lane
* `butterfly` — every lane is written once
* `dppAgrees` — both of them
-/

namespace GemSim.Vega

open GemSim.Lib

/-- The instructions that come in the encoding. -/
inductive DppOpcode where
  | two (T : ElemType) (fOpImpl : T.Value → T.Value → T.Value)
  | accumulate (T DstT : ElemType) (fOpImpl : T.Value → T.Value → DstT.Value → DstT.Value)
  | mov

namespace DppOpcode

def execute (host : Host) (opcode : DppOpcode) (instData : InFmt_VOP) (dppInst : InFmt_VOP_DPP)
    (wave : Wave) : Option Wave :=
  match opcode with
  | two T fOpImpl => vop2DppHelper host T instData dppInst true fOpImpl wave
  | accumulate T DstT fOpImpl => accumulateDpp host T DstT instData dppInst fOpImpl wave
  | mov => v_mov_b32 host instData dppInst wave

def DstT : DppOpcode → ElemType
  | two T _ => T
  | accumulate _ DstT _ => DstT
  | mov => .u32

end DppOpcode

section Laws

/-- The controls that name a lane, or say that there is none. -/
def Implemented (dppCtrl : ℕ) : Prop :=
  dppCtrl ≤ SQ_DPP_QUAD_PERM_MAX ∨
    SQ_DPP_ROW_SL1 ≤ dppCtrl ∧ dppCtrl ≤ SQ_DPP_ROW_SL15 ∨
    SQ_DPP_ROW_SR1 ≤ dppCtrl ∧ dppCtrl ≤ SQ_DPP_ROW_SR15 ∨
    SQ_DPP_ROW_RR1 ≤ dppCtrl ∧ dppCtrl ≤ SQ_DPP_ROW_RR15 ∨
    dppCtrl ∈ [SQ_DPP_WF_SL1, SQ_DPP_WF_RL1, SQ_DPP_WF_SR1, SQ_DPP_WF_RR1, SQ_DPP_ROW_MIRROR,
      SQ_DPP_ROW_HALF_MIRROR, SQ_DPP_ROW_BCAST15, SQ_DPP_ROW_BCAST31]

structure NoModifiers (dppInst : InFmt_VOP_DPP) : Prop where
  neg0 : dppInst.SRC0_NEG = false
  abs0 : dppInst.SRC0_ABS = false
  neg1 : dppInst.SRC1_NEG = false
  abs1 : dppInst.SRC1_ABS = false

/-- The lane that a lane reads, if it reads an active one. -/
def sourceOf (dppInst : InFmt_VOP_DPP) (before : Wave) (lane : ℕ) : Option ℕ :=
  ((dppSourceLane dppInst.DPP_CTRL.toNat lane).getD none).filter before.exec

/-- The row and the bank of a lane are enabled. -/
def Enabled (dppInst : InFmt_VOP_DPP) (lane : ℕ) : Prop :=
  dppLaneWriteEnabled lane dppInst.ROW_MASK dppInst.BANK_MASK = true

/-- The gates of a lane. -/
structure Writes (dppInst : InFmt_VOP_DPP) (before : Wave) (lane : ℕ) : Prop where
  active : before.exec lane = true
  enabled : Enabled dppInst lane
  valid : (sourceOf dppInst before lane).isSome = true ∨ dppInst.BC = true

/-- What a lane reads: its source lane, or zero. -/
def sourceValue (T : ElemType) (dppInst : InFmt_VOP_DPP) (before : Wave) (lane : ℕ) : T.Value :=
  ((sourceOf dppInst before lane).map (before.read T dppInst.SRC0.toNat)).getD 0

def DppOpcode.result (opcode : DppOpcode) (instData : InFmt_VOP) (dppInst : InFmt_VOP_DPP)
    (before : Wave) (lane : ℕ) : opcode.DstT.Value :=
  match opcode with
  | .two T fOpImpl =>
    fOpImpl (sourceValue T dppInst before lane) (before.read T instData.VSRC1 lane)
  | .accumulate T DstT fOpImpl =>
    fOpImpl (sourceValue T dppInst before lane) (before.read T instData.VSRC1 lane)
      (before.read DstT instData.VDST lane)
  | .mov => sourceValue .u32 dppInst before lane

/-- The lanes that are written hold their result, and every other one its old value. -/
structure DppWritten (opcode : DppOpcode) (instData : InFmt_VOP) (dppInst : InFmt_VOP_DPP)
    (before after : Wave) : Prop where
  written : ∀ lane < NumVecElemPerVecReg, Writes dppInst before lane →
    after.vgprs instData.VDST lane =
      commitBits opcode.DstT (before.vgprs instData.VDST lane)
        (opcode.result instData dppInst before lane)
  kept : ∀ lane, ¬ (lane < NumVecElemPerVecReg ∧ Writes dppInst before lane) →
    after.vgprs instData.VDST lane = before.vgprs instData.VDST lane
  others : ∀ register, register ≠ instData.VDST → after.vgprs register = before.vgprs register
  exec : after.exec = before.exec

/-- A row shifted right by some lanes and left by as many, under masks that are each other's
complement, and each of which enables only lanes whose source stays in the row. -/
structure Butterfly (count : ℕ) (right left : InFmt_VOP_DPP) : Prop where
  positive : 1 ≤ count
  few : count ≤ 15
  shiftsRight : right.DPP_CTRL.toNat = SQ_DPP_ROW_SR1 + (count - 1)
  shiftsLeft : left.DPP_CTRL.toNat = SQ_DPP_ROW_SL1 + (count - 1)
  rowsRight : right.ROW_MASK = 15
  rowsLeft : left.ROW_MASK = 15
  banks : left.BANK_MASK = ~~~right.BANK_MASK
  staysRight : ∀ lane < NumVecElemPerVecReg, Enabled right lane → count ≤ lane % DppRowSize
  staysLeft : ∀ lane < NumVecElemPerVecReg, Enabled left lane →
    lane % DppRowSize + count < DppRowSize

variable (host : Host)

structure DppAgrees : Prop where
  one : ∀ (opcode : DppOpcode) (instData : InFmt_VOP) (dppInst : InFmt_VOP_DPP) (before : Wave),
    NoModifiers dppInst → Implemented dppInst.DPP_CTRL.toNat →
      ∃ after, opcode.execute host instData dppInst before = some after ∧
        DppWritten opcode instData dppInst before after
  both : ∀ (first second : DppOpcode) (instData instNext : InFmt_VOP)
    (right left : InFmt_VOP_DPP) (count : ℕ) (before : Wave),
    instNext.VDST = instData.VDST → NoModifiers right → NoModifiers left →
    Butterfly count right left → (∀ lane < NumVecElemPerVecReg, before.exec lane = true) →
      ∃ between after, first.execute host instData right before = some between ∧
        second.execute host instNext left between = some after ∧
        ∀ lane < NumVecElemPerVecReg,
          (Writes right before lane ∧ ¬ Writes left between lane ∧
            sourceOf right before lane = some (lane - count) ∧
            after.vgprs instData.VDST lane =
              commitBits first.DstT (before.vgprs instData.VDST lane)
                (first.result instData right before lane)) ∨
          (¬ Writes right before lane ∧ Writes left between lane ∧
            sourceOf left between lane = some (lane + count) ∧
            between.vgprs instData.VDST lane = before.vgprs instData.VDST lane ∧
            after.vgprs instData.VDST lane =
              commitBits second.DstT (before.vgprs instData.VDST lane)
                (second.result instNext left between lane))

end Laws

section Process

variable {host : Host} {T : ElemType} {dppInst : InFmt_VOP_DPP} {before : Wave} {dppCtrl : ℕ}

theorem branch_eq_none {branch : Prop} [Decidable branch] {srcLane : Option ℕ}
    {rest : Option (Option ℕ)} :
    (if branch then some srcLane else rest) = none ↔ ¬ branch ∧ rest = none := by
  by_cases taken : branch
  · simp [taken]
  · simp [taken]

theorem dppSourceLane_of_implemented (implemented : Implemented dppCtrl) (lane : ℕ) :
    ∃ srcLane, dppSourceLane dppCtrl lane = some srcLane := by
  rw [← Option.ne_none_iff_exists']
  intro aborts
  -- none of the branches has been taken
  simp only [dppSourceLane, branch_eq_none] at aborts
  simp only [Implemented, List.mem_cons, List.not_mem_nil, or_false] at implemented
  tauto

theorem not_reserved (implemented : Implemented dppCtrl) : dppCtrl ≠ SQ_DPP_RESERVED := by
  rintro rfl
  revert implemented
  simp [Implemented, SQ_DPP_RESERVED, SQ_DPP_QUAD_PERM_MAX, SQ_DPP_ROW_SL1, SQ_DPP_ROW_SR1,
    SQ_DPP_ROW_RR1, SQ_DPP_WF_SL1, SQ_DPP_WF_RL1, SQ_DPP_WF_SR1, SQ_DPP_WF_RR1,
    SQ_DPP_ROW_MIRROR, SQ_DPP_ROW_HALF_MIRROR, SQ_DPP_ROW_BCAST15, SQ_DPP_ROW_BCAST31]

/-- A source that has not been modified. -/
theorem dppModified_none (src : ℕ → T.Value) : dppModified host T false false src = src := rfl

/-- What the permutation leaves in a lane, and whether the lane is written. -/
def permuted (T : ElemType) (dppInst : InFmt_VOP_DPP) (before : Wave) (src0 : ℕ → T.Value)
    (lane : ℕ) : T.Value × Bool :=
  if (sourceOf dppInst before lane).isSome || dppInst.BC then
    (((sourceOf dppInst before lane).map src0).getD 0, true)
  else (src0 lane, false)

theorem processDPP_eq (implemented : Implemented dppInst.DPP_CTRL.toNat)
    (neg : dppInst.SRC0_NEG = false) (abs : dppInst.SRC0_ABS = false) (src0 : ℕ → T.Value) :
    processDPP host T dppInst before src0 =
      some fun lane =>
        if lane < NumVecElemPerVecReg ∧
          dppLaneWriteEnabled lane dppInst.ROW_MASK dppInst.BANK_MASK = true then
          permuted T dppInst before src0 lane
        else (src0 lane, false) := by
  rw [processDPP, if_neg (not_reserved implemented), neg, abs, dppModified_none]
  dsimp only
  apply forLanes_eq_some
  intro lane inside enabled
  obtain ⟨srcLane, selected⟩ := dppSourceLane_of_implemented implemented lane
  rw [permuted, sourceOf, selected, Option.map_some, Option.getD_some]
  cases srcLane with
  | none => simp
  | some source =>
    by_cases active : before.exec source = true
    · simp [Option.filter_some_pos active, active]
    · rw [Bool.not_eq_true] at active
      simp [Option.filter_some_neg active, active]

end Process

section Execute

variable {host : Host} {T DstT : ElemType} {opcode : DppOpcode} {instData : InFmt_VOP}
  {dppInst : InFmt_VOP_DPP} {before : Wave} {lane : ℕ}

/-- A lane is written where the instruction is active and the permutation has written it. -/
theorem writes_iff (inside : lane < NumVecElemPerVecReg) (src0 : ℕ → T.Value) :
    (before.exec lane && (if lane < NumVecElemPerVecReg ∧
        dppLaneWriteEnabled lane dppInst.ROW_MASK dppInst.BANK_MASK = true then
        permuted T dppInst before src0 lane
      else (src0 lane, false)).2) = true ↔ Writes dppInst before lane := by
  rw [Bool.and_eq_true]
  by_cases enabled : dppLaneWriteEnabled lane dppInst.ROW_MASK dppInst.BANK_MASK = true
  · rw [if_pos ⟨inside, enabled⟩, permuted]
    by_cases valid : ((sourceOf dppInst before lane).isSome || dppInst.BC) = true
    · rw [if_pos valid]
      exact ⟨fun both => ⟨both.1, enabled, by rwa [Bool.or_eq_true] at valid⟩,
        fun writes => ⟨writes.active, rfl⟩⟩
    · rw [if_neg valid]
      refine ⟨fun both => absurd both.2 Bool.false_ne_true, fun writes => absurd ?_ valid⟩
      rw [Bool.or_eq_true]
      exact writes.valid
  · rw [if_neg fun both => enabled both.2]
    exact ⟨fun both => absurd both.2 Bool.false_ne_true,
      fun writes => absurd writes.enabled enabled⟩

/-- What a lane reads that is written. -/
theorem permuted_fst (writes : Writes dppInst before lane) :
    (permuted T dppInst before (before.read T dppInst.SRC0.toNat) lane).1 =
      sourceValue T dppInst before lane := by
  rw [permuted, if_pos (by rw [Bool.or_eq_true]; exact writes.valid), sourceValue]

/-- A loop over the lanes that the permutation has written. -/
theorem dppWritten_forLanes (new : ℕ → T.Value × Bool → opcode.DstT.Value → opcode.DstT.Value)
    (computes : ∀ lane, Writes dppInst before lane →
      new lane (permuted T dppInst before (before.read T dppInst.SRC0.toNat) lane)
        (before.read opcode.DstT instData.VDST lane) =
        opcode.result instData dppInst before lane)
    (implemented : Implemented dppInst.DPP_CTRL.toNat) (neg : dppInst.SRC0_NEG = false)
    (abs : dppInst.SRC0_ABS = false) :
    ∃ after, (processDPP host T dppInst before (before.read T dppInst.SRC0.toNat)).bind
        (fun src0Dpp => (forLanes NumVecElemPerVecReg
          (fun lane => before.exec lane && (src0Dpp lane).2)
          (fun lane old => some (new lane (src0Dpp lane) old))
          (before.read opcode.DstT instData.VDST)).map
            fun vdst => before.write opcode.DstT instData.VDST vdst) = some after ∧
      DppWritten opcode instData dppInst before after := by
  rw [processDPP_eq implemented neg abs, Option.bind_some, forLanes_some, Option.map_some]
  refine ⟨_, rfl, ?_, ?_, fun register different => vgprs_write_of_ne different, rfl⟩
  · intro lane inside writes
    have written := (writes_iff inside (before.read T dppInst.SRC0.toNat)).mpr writes
    rw [vgprs_write inside writes.active, if_pos ⟨inside, written⟩]
    dsimp only
    rw [if_pos ⟨inside, writes.enabled⟩, computes lane writes]
  · intro lane spared
    by_cases active : lane < NumVecElemPerVecReg ∧ before.exec lane = true
    · have unwritten := (writes_iff active.1 (before.read T dppInst.SRC0.toNat)).not.mpr
        fun writes => spared ⟨active.1, writes⟩
      rw [vgprs_write active.1 active.2, if_neg fun both => unwritten both.2]
      exact commitBits_self _
    · exact vgprs_write_of_inactive active

/-- Every opcode of the encoding, for every function of a lane. -/
theorem dppWritten_execute (opcode : DppOpcode) (instData : InFmt_VOP) {dppInst : InFmt_VOP_DPP}
    (before : Wave) (none : NoModifiers dppInst) (implemented : Implemented dppInst.DPP_CTRL.toNat) :
    ∃ after, opcode.execute host instData dppInst before = some after ∧
      DppWritten opcode instData dppInst before after := by
  cases opcode with
  | two T fOpImpl =>
    rw [DppOpcode.execute, vop2DppHelper, none.neg1, none.abs1]
    refine @dppWritten_forLanes host T (.two T fOpImpl) instData dppInst before
      (fun lane source _ => fOpImpl source.1 (before.read T instData.VSRC1 lane)) ?_ implemented
      none.neg0 none.abs0
    intro lane writes
    rw [permuted_fst writes]
    rfl
  | accumulate T DstT fOpImpl =>
    rw [DppOpcode.execute, accumulateDpp, none.neg1, none.abs1]
    refine @dppWritten_forLanes host T (.accumulate T DstT fOpImpl) instData dppInst before
      (fun lane source old => fOpImpl source.1 (before.read T instData.VSRC1 lane) old) ?_
      implemented none.neg0 none.abs0
    intro lane writes
    rw [permuted_fst writes]
    rfl
  | mov =>
    rw [DppOpcode.execute, v_mov_b32, none.neg1, none.abs1]
    refine @dppWritten_forLanes host .u32 .mov instData dppInst before
      (fun lane source _ => source.1) ?_ implemented none.neg0 none.abs0
    intro lane writes
    exact permuted_fst writes

end Execute

section Controls

/-- The lane that a control names for a lane: another of its four, one a few places further in
its row, or back, or around in it, a neighbour in the wave, its mirror image, or the last lane
of the row or of the half before. -/
inductive Reads : ℕ → ℕ → ℕ → Prop
  | quadPerm {dppCtrl lane srcLane : ℕ} (control : dppCtrl ≤ 0xff)
      (quad : srcLane / 4 = lane / 4)
      (place : srcLane % 4 = dppCtrl / 4 ^ (lane % 4) % 4) : Reads dppCtrl lane srcLane
  | rowShiftLeft {count lane : ℕ} (positive : 1 ≤ count) (few : count ≤ 15)
      (row : (lane + count) / 16 = lane / 16) : Reads (0x100 + count) lane (lane + count)
  | rowShiftRight {count srcLane : ℕ} (positive : 1 ≤ count) (few : count ≤ 15)
      (row : srcLane / 16 = (srcLane + count) / 16) :
      Reads (0x110 + count) (srcLane + count) srcLane
  | rowRotateRight {count lane srcLane : ℕ} (positive : 1 ≤ count) (few : count ≤ 15)
      (row : srcLane / 16 = lane / 16) (turned : (srcLane + count) % 16 = lane % 16) :
      Reads (0x120 + count) lane srcLane
  | waveShiftLeft {lane : ℕ} (inside : lane + 1 < 64) : Reads 0x130 lane (lane + 1)
  | waveRotateLeft {lane srcLane : ℕ} (inside : srcLane < 64)
      (turned : srcLane = (lane + 1) % 64) : Reads 0x134 lane srcLane
  | waveShiftRight {srcLane : ℕ} : Reads 0x138 (srcLane + 1) srcLane
  | waveRotateRight {lane srcLane : ℕ} (inside : srcLane < 64)
      (turned : (srcLane + 1) % 64 = lane) : Reads 0x13c lane srcLane
  | rowMirror {lane srcLane : ℕ} (row : srcLane / 16 = lane / 16)
      (mirrored : srcLane % 16 + lane % 16 = 15) : Reads 0x140 lane srcLane
  | rowHalfMirror {lane srcLane : ℕ} (half : srcLane / 8 = lane / 8)
      (mirrored : srcLane % 8 + lane % 8 = 7) : Reads 0x141 lane srcLane
  | rowBroadcast15 {lane srcLane : ℕ} (last : srcLane % 16 = 15)
      (before : srcLane / 16 + 1 = lane / 16) : Reads 0x142 lane srcLane
  | rowBroadcast31 {lane : ℕ} (second : 32 ≤ lane) : Reads 0x143 lane 31

variable {dppCtrl lane srcLane count : ℕ}

theorem dppSourceLane_shiftRight (positive : 1 ≤ count) (few : count ≤ 15)
    (inside : count ≤ lane % DppRowSize) :
    dppSourceLane (SQ_DPP_ROW_SR1 + (count - 1)) lane = some (some (lane - count)) := by
  have row : lane / DppRowSize * DppRowSize + lane % DppRowSize = lane :=
    Nat.div_add_mod' lane DppRowSize
  have shifts : SQ_DPP_ROW_SR1 + (count - 1) - SQ_DPP_ROW_SR1 + 1 = count := by omega
  rw [dppSourceLane, if_neg, if_neg, if_pos]
  · dsimp only
    rw [shifts, if_pos inside, ← Nat.add_sub_assoc inside, row]
  · simp only [SQ_DPP_ROW_SR1, SQ_DPP_ROW_SR15]
    omega
  · simp only [SQ_DPP_ROW_SR1, SQ_DPP_ROW_SL15]
    omega
  · simp only [SQ_DPP_ROW_SR1, SQ_DPP_QUAD_PERM_MAX]
    omega

theorem dppSourceLane_shiftLeft (positive : 1 ≤ count) (few : count ≤ 15)
    (inside : lane % DppRowSize + count < DppRowSize) :
    dppSourceLane (SQ_DPP_ROW_SL1 + (count - 1)) lane = some (some (lane + count)) := by
  have row : lane / DppRowSize * DppRowSize + lane % DppRowSize = lane :=
    Nat.div_add_mod' lane DppRowSize
  have shifts : SQ_DPP_ROW_SL1 + (count - 1) - SQ_DPP_ROW_SL1 + 1 = count := by omega
  rw [dppSourceLane, if_neg, if_pos]
  · dsimp only
    rw [shifts, if_pos inside, ← Nat.add_assoc, row]
  · simp only [SQ_DPP_ROW_SL1, SQ_DPP_ROW_SL15]
    omega
  · simp only [SQ_DPP_ROW_SL1, SQ_DPP_QUAD_PERM_MAX]
    omega

theorem dppSourceLane_rotateRight (positive : 1 ≤ count) (few : count ≤ 15) :
    dppSourceLane (SQ_DPP_ROW_RR1 + (count - 1)) lane =
      some (some (lane / DppRowSize * DppRowSize +
        (lane % DppRowSize + DppRowSize - count) % DppRowSize)) := by
  have shifts : SQ_DPP_ROW_RR1 + (count - 1) - SQ_DPP_ROW_RR1 + 1 = count := by omega
  rw [dppSourceLane, if_neg, if_neg, if_neg, if_pos]
  · dsimp only
    rw [shifts]
  · simp only [SQ_DPP_ROW_RR1, SQ_DPP_ROW_RR15]
    omega
  · simp only [SQ_DPP_ROW_RR1, SQ_DPP_ROW_SR15]
    omega
  · simp only [SQ_DPP_ROW_RR1, SQ_DPP_ROW_SL15]
    omega
  · simp only [SQ_DPP_ROW_RR1, SQ_DPP_QUAD_PERM_MAX]
    omega

theorem quadPlace_eq (dppCtrl lane : ℕ) :
    (dppCtrl >>> (2 * (lane % 4))) % 4 = dppCtrl / 4 ^ (lane % 4) % 4 := by
  rw [Nat.shiftRight_eq_div_pow, Nat.pow_mul]

/-- A lane that is selected is named by the control. -/
theorem reads_of_dppSourceLane (inside : lane < NumVecElemPerVecReg)
    (selected : dppSourceLane dppCtrl lane = some (some srcLane)) : Reads dppCtrl lane srcLane := by
  have place := quadPlace_eq dppCtrl lane
  rw [NumVecElemPerVecReg] at inside
  unfold dppSourceLane at selected
  -- the conditions are taken in the order of the source
  rcases ite_eq_iff.mp selected with ⟨control, selected⟩ | ⟨-, selected⟩
  · obtain rfl := Option.some.inj (Option.some.inj selected)
    exact .quadPerm control (by omega) (by omega)
  rcases ite_eq_iff.mp selected with ⟨control, selected⟩ | ⟨-, selected⟩
  · simp only [SQ_DPP_ROW_SL1, SQ_DPP_ROW_SL15] at control
    obtain ⟨count, rfl⟩ : ∃ count, dppCtrl = 0x100 + count := ⟨dppCtrl - 0x100, by omega⟩
    have shifts : 0x100 + count - SQ_DPP_ROW_SL1 + 1 = count := by
      rw [SQ_DPP_ROW_SL1]
      omega
    obtain ⟨row, same⟩ := Option.ite_none_right_eq_some.mp (Option.some.inj selected)
    have same := Option.some.inj same
    rw [shifts, DppRowSize] at row same
    have moved : srcLane = lane + count := by omega
    rw [moved]
    exact .rowShiftLeft (by omega) (by omega) (by omega)
  rcases ite_eq_iff.mp selected with ⟨control, selected⟩ | ⟨-, selected⟩
  · simp only [SQ_DPP_ROW_SR1, SQ_DPP_ROW_SR15] at control
    obtain ⟨count, rfl⟩ : ∃ count, dppCtrl = 0x110 + count := ⟨dppCtrl - 0x110, by omega⟩
    have shifts : 0x110 + count - SQ_DPP_ROW_SR1 + 1 = count := by
      rw [SQ_DPP_ROW_SR1]
      omega
    obtain ⟨row, same⟩ := Option.ite_none_right_eq_some.mp (Option.some.inj selected)
    have same := Option.some.inj same
    rw [shifts, DppRowSize] at row same
    have moved : lane = srcLane + count := by omega
    rw [moved]
    exact .rowShiftRight (by omega) (by omega) (by omega)
  rcases ite_eq_iff.mp selected with ⟨control, selected⟩ | ⟨-, selected⟩
  · simp only [SQ_DPP_ROW_RR1, SQ_DPP_ROW_RR15] at control
    obtain ⟨count, rfl⟩ : ∃ count, dppCtrl = 0x120 + count := ⟨dppCtrl - 0x120, by omega⟩
    have shifts : 0x120 + count - SQ_DPP_ROW_RR1 + 1 = count := by
      rw [SQ_DPP_ROW_RR1]
      omega
    have same := Option.some.inj (Option.some.inj selected)
    rw [shifts, DppRowSize] at same
    exact .rowRotateRight (by omega) (by omega) (by omega) (by omega)
  rcases ite_eq_iff.mp selected with ⟨control, selected⟩ | ⟨-, selected⟩
  · obtain ⟨within, same⟩ := Option.ite_none_right_eq_some.mp (Option.some.inj selected)
    rw [control, ← Option.some.inj same]
    exact .waveShiftLeft within
  rcases ite_eq_iff.mp selected with ⟨control, selected⟩ | ⟨-, selected⟩
  · obtain rfl := Option.some.inj (Option.some.inj selected)
    rw [control]
    exact .waveRotateLeft (Nat.mod_lt _ (by decide)) rfl
  rcases ite_eq_iff.mp selected with ⟨control, selected⟩ | ⟨-, selected⟩
  · obtain ⟨within, same⟩ := Option.ite_none_right_eq_some.mp (Option.some.inj selected)
    have same := Option.some.inj same
    have moved : lane = srcLane + 1 := by omega
    rw [control, moved]
    exact .waveShiftRight
  rcases ite_eq_iff.mp selected with ⟨control, selected⟩ | ⟨-, selected⟩
  · have same := Option.some.inj (Option.some.inj selected)
    rw [NumVecElemPerVecReg] at same
    rw [control]
    exact .waveRotateRight (by omega) (by omega)
  rcases ite_eq_iff.mp selected with ⟨control, selected⟩ | ⟨-, selected⟩
  · have same := Option.some.inj (Option.some.inj selected)
    rw [dppRowMirrorLane] at same
    rw [control]
    exact .rowMirror (by omega) (by omega)
  rcases ite_eq_iff.mp selected with ⟨control, selected⟩ | ⟨-, selected⟩
  · have same := Option.some.inj (Option.some.inj selected)
    rw [dppRowHalfMirrorLane] at same
    rw [control]
    exact .rowHalfMirror (by omega) (by omega)
  rcases ite_eq_iff.mp selected with ⟨control, selected⟩ | ⟨-, selected⟩
  · obtain ⟨within, same⟩ := Option.ite_none_right_eq_some.mp (Option.some.inj selected)
    have same := Option.some.inj same
    rw [control]
    exact .rowBroadcast15 (by omega) (by omega)
  rcases ite_eq_iff.mp selected with ⟨control, selected⟩ | ⟨-, selected⟩
  · obtain ⟨within, same⟩ := Option.ite_none_right_eq_some.mp (Option.some.inj selected)
    have same := Option.some.inj same
    have last : srcLane = 31 := by omega
    rw [control, last]
    exact .rowBroadcast31 (by omega)
  cases selected

/-- A lane that the control names is selected. -/
theorem dppSourceLane_of_reads (inside : lane < NumVecElemPerVecReg)
    (reads : Reads dppCtrl lane srcLane) :
    dppSourceLane dppCtrl lane = some (some srcLane) := by
  have place := quadPlace_eq dppCtrl lane
  rw [NumVecElemPerVecReg] at inside
  cases reads with
  | quadPerm control quad within =>
    refine (if_pos control).trans (congrArg (fun lane => some (some lane)) ?_)
    omega
  | @rowShiftLeft count _ positive few row =>
    have control : 0x100 + count = SQ_DPP_ROW_SL1 + (count - 1) := by
      rw [SQ_DPP_ROW_SL1]
      omega
    rw [control, dppSourceLane_shiftLeft positive few (by rw [DppRowSize]; omega)]
  | @rowShiftRight count _ positive few row =>
    have control : 0x110 + count = SQ_DPP_ROW_SR1 + (count - 1) := by
      rw [SQ_DPP_ROW_SR1]
      omega
    rw [control, dppSourceLane_shiftRight positive few (by rw [DppRowSize]; omega),
      Nat.add_sub_cancel]
  | @rowRotateRight count _ _ positive few row turned =>
    have control : 0x120 + count = SQ_DPP_ROW_RR1 + (count - 1) := by
      rw [SQ_DPP_ROW_RR1]
      omega
    rw [control, dppSourceLane_rotateRight positive few]
    refine congrArg (fun lane => some (some lane)) ?_
    rw [DppRowSize]
    omega
  | waveShiftLeft within => exact congrArg some (if_pos within)
  | waveRotateLeft _ turned => exact congrArg (fun lane => some (some lane)) turned.symm
  | waveShiftRight => exact congrArg some (if_pos (Nat.le_add_left _ _))
  | waveRotateRight within turned =>
    refine congrArg (fun lane => some (some lane)) ?_
    rw [NumVecElemPerVecReg]
    omega
  | rowMirror row mirrored =>
    refine congrArg (fun lane => some (some lane)) ?_
    rw [dppRowMirrorLane]
    omega
  | rowHalfMirror half mirrored =>
    refine congrArg (fun lane => some (some lane)) ?_
    rw [dppRowHalfMirrorLane]
    omega
  | rowBroadcast15 last before =>
    refine congrArg some ((if_pos (by omega)).trans (congrArg some ?_))
    omega
  | rowBroadcast31 second =>
    refine congrArg some ((if_pos (by omega)).trans (congrArg some ?_))
    omega

/-- A control selects a lane exactly if it names it. -/
theorem dppSourceLane_eq_some_iff (inside : lane < NumVecElemPerVecReg) :
    dppSourceLane dppCtrl lane = some (some srcLane) ↔ Reads dppCtrl lane srcLane :=
  ⟨reads_of_dppSourceLane inside, dppSourceLane_of_reads inside⟩

/-- The source of a lane is the lane its control names, if that is active. -/
theorem sourceOf_eq_some_iff {dppInst : InFmt_VOP_DPP} {before : Wave}
    (inside : lane < NumVecElemPerVecReg) :
    sourceOf dppInst before lane = some srcLane ↔
      Reads dppInst.DPP_CTRL.toNat lane srcLane ∧ before.exec srcLane = true := by
  rw [sourceOf, Option.filter_eq_some_iff, ← dppSourceLane_eq_some_iff inside]
  refine and_congr_left fun _ => ?_
  cases dppSourceLane dppInst.DPP_CTRL.toNat lane with
  | none => simp
  | some selected => simp

end Controls

section Butterflies

variable {count lane : ℕ} {right left : InFmt_VOP_DPP} {before between : Wave}

theorem implemented_right (butterfly : Butterfly count right left) :
    Implemented right.DPP_CTRL.toNat := by
  have positive := butterfly.positive
  have few := butterfly.few
  refine .inr (.inr (.inl ?_))
  rw [butterfly.shiftsRight]
  simp only [SQ_DPP_ROW_SR1, SQ_DPP_ROW_SR15]
  omega

theorem implemented_left (butterfly : Butterfly count right left) :
    Implemented left.DPP_CTRL.toNat := by
  have positive := butterfly.positive
  have few := butterfly.few
  refine .inr (.inl ?_)
  rw [butterfly.shiftsLeft]
  simp only [SQ_DPP_ROW_SL1, SQ_DPP_ROW_SL15]
  omega

/-- A row shifted right. -/
theorem sourceOf_right (butterfly : Butterfly count right left)
    (inside : count ≤ lane % DppRowSize) (active : before.exec (lane - count) = true) :
    sourceOf right before lane = some (lane - count) := by
  rw [sourceOf, butterfly.shiftsRight,
    dppSourceLane_shiftRight butterfly.positive butterfly.few inside, Option.getD_some,
    Option.filter_some_pos active]

/-- A row shifted left. -/
theorem sourceOf_left (butterfly : Butterfly count right left)
    (inside : lane % DppRowSize + count < DppRowSize)
    (active : before.exec (lane + count) = true) :
    sourceOf left before lane = some (lane + count) := by
  rw [sourceOf, butterfly.shiftsLeft,
    dppSourceLane_shiftLeft butterfly.positive butterfly.few inside, Option.getD_some,
    Option.filter_some_pos active]

/-- The two masks enable every lane once. -/
theorem enabled_left_iff (butterfly : Butterfly count right left)
    (inside : lane < NumVecElemPerVecReg) : Enabled left lane ↔ ¬ Enabled right lane := by
  have rows (row : ℕ) (small : row < 4) : (15 : BitVec 4).getLsbD row = true := by
    revert row
    decide
  have row : lane / 16 < 4 := by
    rw [NumVecElemPerVecReg] at inside
    omega
  have bank : lane % 16 / 4 < 4 := by omega
  simp only [Enabled, dppLaneWriteEnabled, butterfly.rowsRight, butterfly.rowsLeft,
    butterfly.banks, DppRowSize, DppBankSize, rows _ row, Bool.true_and, BitVec.getLsbD_not]
  simp [bank]

/-- The right shift writes the lanes its mask enables. -/
theorem writes_right_iff (butterfly : Butterfly count right left)
    (full : ∀ lane < NumVecElemPerVecReg, before.exec lane = true)
    (inside : lane < NumVecElemPerVecReg) : Writes right before lane ↔ Enabled right lane := by
  refine ⟨Writes.enabled, fun enabled => ⟨full lane inside, enabled, .inl ?_⟩⟩
  rw [sourceOf_right butterfly (butterfly.staysRight lane inside enabled) (full _ (by omega))]
  rfl

theorem writes_left_iff (butterfly : Butterfly count right left)
    (full : ∀ lane < NumVecElemPerVecReg, before.exec lane = true)
    (inside : lane < NumVecElemPerVecReg) : Writes left before lane ↔ Enabled left lane := by
  refine ⟨Writes.enabled, fun enabled => ⟨full lane inside, enabled, .inl ?_⟩⟩
  have stays := butterfly.staysLeft lane inside enabled
  have wave : lane + count < NumVecElemPerVecReg := by
    rw [DppRowSize] at stays
    rw [NumVecElemPerVecReg] at inside ⊢
    omega
  rw [sourceOf_left butterfly stays (full _ wave)]
  rfl

end Butterflies

/-- Every instruction of the encoding writes the lanes its gates let through, and two that shift
a row both ways write every lane once. -/
theorem dppAgrees (host : Host) : DppAgrees host where
  one opcode instData _ before none implemented :=
    dppWritten_execute opcode instData before none implemented
  both first second instData instNext right left count before same none others butterfly full := by
    obtain ⟨between, one, shifted⟩ := @dppWritten_execute host first instData right before none
      (implemented_right butterfly)
    have active : ∀ lane < NumVecElemPerVecReg, between.exec lane = true := by
      rw [shifted.exec]
      exact full
    obtain ⟨after, two, back⟩ := @dppWritten_execute host second instNext left between others
      (implemented_left butterfly)
    refine ⟨between, after, one, two, ?_⟩
    intro lane inside
    have back' := back.written lane inside
    have kept := back.kept lane
    rw [same] at back' kept
    by_cases enabled : Enabled right lane
    · -- the second instruction does not disturb the lane
      have writes := (writes_right_iff butterfly full inside).mpr enabled
      have spared : ¬ Writes left between lane := fun writes =>
        (enabled_left_iff butterfly inside).mp writes.enabled enabled
      refine .inl ⟨writes, spared, sourceOf_right butterfly
        (butterfly.staysRight lane inside enabled) (full _ (by omega)), ?_⟩
      rw [kept fun both => spared both.2, shifted.written lane inside writes]
    · have spared : ¬ Writes right before lane := fun writes => enabled writes.enabled
      have there := (enabled_left_iff butterfly inside).mpr enabled
      have writes := (writes_left_iff butterfly active inside).mpr there
      have before_ := shifted.kept lane fun both => spared both.2
      have stays := butterfly.staysLeft lane inside there
      have wave : lane + count < NumVecElemPerVecReg := by
        rw [DppRowSize] at stays
        rw [NumVecElemPerVecReg] at inside ⊢
        omega
      refine .inr ⟨spared, writes, sourceOf_left butterfly stays (active _ wave), before_, ?_⟩
      rw [back' writes, before_]

section HalfRow

/-- A host that modifies nothing. -/
def plainHost : Host where
  readScalar := fun _ _ _ => 0
  unread := fun _ _ => 0
  unreadVcc := fun _ => false
  modified := fun _ _ _ src => src
  multiply := fun value _ => value
  clamp := fun value _ _ => value

/-- Register 3 from registers 1 and 2. -/
def registers : InFmt_VOP where
  SRC0 := 0
  VSRC1 := 2
  VDST := 3

/-- A shift of register 1 by half a row. -/
def halfRow (dppCtrl : BitVec 9) (bankMask : BitVec 4) : InFmt_VOP_DPP where
  SRC0 := 1
  DPP_CTRL := dppCtrl
  BC := false
  SRC0_NEG := false
  SRC0_ABS := false
  SRC1_NEG := false
  SRC1_ABS := false
  BANK_MASK := bankMask
  ROW_MASK := 15

/-- Every lane holds its own number. -/
def numbered : Wave where
  vgprs := fun _ lane => BitVec.ofNat 32 lane
  exec := fun _ => true
  vcc := fun _ => false

/-- The upper half of each row is shifted right, and the lower half is shifted left. -/
theorem butterfly_halfRow : Butterfly 8 (halfRow 0x118 0xc) (halfRow 0x108 0x3) where
  positive := by decide
  few := by decide
  shiftsRight := rfl
  shiftsLeft := rfl
  rowsRight := rfl
  rowsLeft := rfl
  banks := rfl
  staysRight := by
    have stays : ∀ lane < NumVecElemPerVecReg, dppLaneWriteEnabled lane 15 0xc = true →
        8 ≤ lane % DppRowSize := by decide
    exact stays
  staysLeft := by
    have stays : ∀ lane < NumVecElemPerVecReg, dppLaneWriteEnabled lane 15 0x3 = true →
        lane % DppRowSize + 8 < DppRowSize := by decide
    exact stays

/-- Two additions that exchange the halves of each row: each lane is written by one of them. -/
theorem dppAgrees_halfRow :
    ∃ between after,
      (DppOpcode.two .u32 (· + ·)).execute plainHost registers (halfRow 0x118 0xc) numbered =
        some between ∧
      (DppOpcode.two .u32 (· + ·)).execute plainHost registers (halfRow 0x108 0x3) between =
        some after ∧
      ∀ lane < NumVecElemPerVecReg,
        Writes (halfRow 0x118 0xc) numbered lane ∨ Writes (halfRow 0x108 0x3) between lane := by
  obtain ⟨between, after, first, second, lanes⟩ := (dppAgrees plainHost).both
    (.two .u32 (· + ·)) (.two .u32 (· + ·)) registers registers (halfRow 0x118 0xc)
    (halfRow 0x108 0x3) 8 numbered rfl ⟨rfl, rfl, rfl, rfl⟩ ⟨rfl, rfl, rfl, rfl⟩ butterfly_halfRow
    fun _ _ => rfl
  refine ⟨between, after, first, second, fun lane inside => ?_⟩
  exact (lanes lane inside).imp And.left fun written => written.2.1

end HalfRow

end GemSim.Vega
