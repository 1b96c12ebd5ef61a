import GemSim.Vega.Vop

/-!
# Fields of sources and destinations

An instruction in the encoding that selects fields computes the function of the plain one, on
the selected sources, and puts the result in a field of the destination. All it reads it reads
before it writes, so its registers may be the same. Where it selects whole dwords and modifies
nothing, it is the plain instruction.

## Main definitions

* `Carried` — the encodings that an opcode can carry
* `Unmodified` — the encodings that say what the plain one says
* `Committed` — a result in the field of the destination
* `SdwaAgrees` — what the three helpers of the encoding do

## Main results

* `sdwaAgrees` — they do it for every function of a lane
-/

namespace GemSim.Vega

open GemSim.Lib

section Laws

/-- Only the result of a float can be scaled. -/
def Carried (T : ElemType) (sdwaInst : InFmt_VOP_SDWA) : Prop :=
  T.floating = true ∨ sdwaInst.OMOD = 0

/-- An instruction of one source has no second one to modify. -/
def OneSource (sdwaInst : InFmt_VOP_SDWA) : Prop :=
  sdwaInst.SRC1_SEXT = false ∧ sdwaInst.SRC1_NEG = false ∧ sdwaInst.SRC1_ABS = false

/-- Whole dwords of vector registers, with no modifier. -/
structure Unmodified (sdwaInst : InFmt_VOP_SDWA) : Prop where
  dst : sdwaSelectWidth sdwaInst.DST_SEL = 32
  src0 : sdwaSelectWidth sdwaInst.SRC0_SEL = 32
  src1 : sdwaSelectWidth sdwaInst.SRC1_SEL = 32
  vector0 : sdwaInst.S0 = false
  vector1 : sdwaInst.S1 = false
  sext0 : sdwaInst.SRC0_SEXT = false
  neg0 : sdwaInst.SRC0_NEG = false
  abs0 : sdwaInst.SRC0_ABS = false
  sext1 : sdwaInst.SRC1_SEXT = false
  neg1 : sdwaInst.SRC1_NEG = false
  abs1 : sdwaInst.SRC1_ABS = false
  omod : sdwaInst.OMOD = 0
  clmp : sdwaInst.CLMP = false

/-- The plain instruction with the same registers. -/
def plain (instData : InFmt_VOP) (sdwaInst : InFmt_VOP_SDWA) : InFmt_VOP :=
  { instData with SRC0 := REG_VGPR_MIN + sdwaInst.SRC0.toNat }

variable (host : Host)

/-- The first source of a lane, as the register or the scalar stood before. -/
def operand0 (T : ElemType) (sdwaInst : InFmt_VOP_SDWA) (before : Wave) (lane : ℕ) : T.Value :=
  operand T sdwaInst.SRC0_SEL sdwaInst.SRC0_SEXT sdwaInst.SRC0_NEG sdwaInst.SRC0_ABS
    (host.readSrc .u32 before (sdwaSrc0Idx sdwaInst) lane)

def operand1 (T : ElemType) (instData : InFmt_VOP) (sdwaInst : InFmt_VOP_SDWA) (before : Wave)
    (lane : ℕ) : T.Value :=
  operand T sdwaInst.SRC1_SEL sdwaInst.SRC1_SEXT sdwaInst.SRC1_NEG sdwaInst.SRC1_ABS
    (host.readSrc .u32 before (sdwaSrc1Idx instData sdwaInst) lane)

/-- The bits of a result, scaled and clamped. -/
def resultBits (T : ElemType) (sdwaInst : InFmt_VOP_SDWA) (result : T.Value) : Dword :=
  sdwaResultBits T
    ((outputModifiers host T result sdwaInst.OMOD sdwaInst.CLMP).getD result)

/-- Every active lane has its result in the field of the destination, and nothing else has
changed. -/
structure Committed (instData : InFmt_VOP) (sdwaInst : InFmt_VOP_SDWA) (result : ℕ → Dword)
    (before after : Wave) : Prop where
  active : ∀ lane < NumVecElemPerVecReg, before.exec lane = true →
    Placed sdwaInst.DST_SEL sdwaInst.DST_U (result lane) (before.vgprs instData.VDST lane)
      (after.vgprs instData.VDST lane)
  inactive : ∀ lane, ¬ (lane < NumVecElemPerVecReg ∧ before.exec lane = true) →
    ∀ register, after.vgprs register lane = before.vgprs register lane
  others : ∀ register, register ≠ instData.VDST → after.vgprs register = before.vgprs register

/-- What the helpers of the encoding do, for every function of a lane. -/
structure SdwaAgrees : Prop where
  one : ∀ (DstT SrcT : ElemType) (instData : InFmt_VOP) (sdwaInst : InFmt_VOP_SDWA)
    (fOpImpl : SrcT.Value → DstT.Value) (before : Wave),
    OneSource sdwaInst → Carried DstT sdwaInst → sdwaSelectWidth sdwaInst.DST_SEL ≠ 32 →
      ∃ after, vop1SdwaHelper host DstT SrcT instData sdwaInst fOpImpl before = some after ∧
        Committed instData sdwaInst (fun lane => resultBits host DstT sdwaInst
          (fOpImpl (operand0 host SrcT sdwaInst before lane))) before after
  two : ∀ (DstT Src0T Src1T : ElemType) (instData : InFmt_VOP) (sdwaInst : InFmt_VOP_SDWA)
    (fOpImpl : Src0T.Value → Src1T.Value → DstT.Value) (before : Wave),
    Carried DstT sdwaInst → sdwaSelectWidth sdwaInst.DST_SEL ≠ 32 →
      ∃ after, vop2SdwaHelper host DstT Src0T Src1T instData sdwaInst fOpImpl before = some after ∧
        Committed instData sdwaInst (fun lane => resultBits host DstT sdwaInst
          (fOpImpl (operand0 host Src0T sdwaInst before lane)
            (operand1 host Src1T instData sdwaInst before lane))) before after
  carrying : ∀ (flags : CarryFlags) (instData : InFmt_VOP) (sdwaInst : InFmt_VOP_SDWA)
    (fOpImpl : Dword → Dword → Bool → Dword × Bool) (before : Wave),
    Carried .u32 sdwaInst → sdwaSelectWidth sdwaInst.DST_SEL ≠ 32 →
      ∃ after, vop2VccSdwaHelper host flags instData sdwaInst fOpImpl before = some after ∧
        Committed instData sdwaInst (fun lane => resultBits host .u32 sdwaInst
          (fOpImpl (operand0 host .u32 sdwaInst before lane)
            (operand1 host .u32 instData sdwaInst before lane)
            (carryIns flags before lane)).1) before after
  /-- The carry does not depend on where the result goes. -/
  carry : ∀ (flags : CarryFlags) (instData : InFmt_VOP) (sdwaInst : InFmt_VOP_SDWA)
    (fOpImpl : Dword → Dword → Bool → Dword × Bool) (before : Wave) (dstSel : BitVec 3)
    (dstUnused : BitVec 2),
    (vop2VccSdwaHelper host flags instData { sdwaInst with DST_SEL := dstSel, DST_U := dstUnused }
        fOpImpl before).map Wave.vcc =
      (vop2VccSdwaHelper host flags instData sdwaInst fOpImpl before).map Wave.vcc
  plainOne : ∀ (DstT SrcT : ElemType) (instData : InFmt_VOP) (sdwaInst : InFmt_VOP_SDWA)
    (fOpImpl : SrcT.Value → DstT.Value) (before : Wave), Unmodified sdwaInst →
      vop1SdwaHelper host DstT SrcT instData sdwaInst fOpImpl before =
        vop1Helper host DstT SrcT (plain instData sdwaInst) fOpImpl before
  plainTwo : ∀ (DstT Src0T Src1T : ElemType) (instData : InFmt_VOP) (sdwaInst : InFmt_VOP_SDWA)
    (fOpImpl : Src0T.Value → Src1T.Value → DstT.Value) (before : Wave), Unmodified sdwaInst →
      vop2SdwaHelper host DstT Src0T Src1T instData sdwaInst fOpImpl before =
        vop2Helper host DstT Src0T Src1T (plain instData sdwaInst) fOpImpl before
  plainCarrying : ∀ (flags : CarryFlags) (instData : InFmt_VOP) (sdwaInst : InFmt_VOP_SDWA)
    (fOpImpl : Dword → Dword → Bool → Dword × Bool) (before : Wave), Unmodified sdwaInst →
      vop2VccSdwaHelper host flags instData sdwaInst fOpImpl before =
        vop2VccHelper host flags (plain instData sdwaInst) fOpImpl before

end Laws

section Commits

variable {host : Host} {instData : InFmt_VOP} {sdwaInst : InFmt_VOP_SDWA} {before : Wave}

/-- Bits that are not preserved do not depend on the former destination. -/
theorem sdwaDestMerge_origVdst (narrow : sdwaSelectWidth sdwaInst.DST_SEL ≠ 32) (result : Dword)
    (lane : ℕ) :
    sdwaDestMerge result (origVdst host instData sdwaInst before lane) sdwaInst.DST_SEL
        sdwaInst.DST_U =
      sdwaDestMerge result (before.vgprs instData.VDST lane) sdwaInst.DST_SEL sdwaInst.DST_U := by
  rw [origVdst]
  by_cases preserved : sdwaInst.DST_U = SDWA_DST_UNUSED_PRESERVE
  · have reads : sdwaDestIsReadModifyWrite sdwaInst.DST_SEL sdwaInst.DST_U = true := by
      simp [sdwaDestIsReadModifyWrite, preserved, narrow]
    rw [if_pos reads, Wave.read]
    exact congrArg (fun old => sdwaDestMerge result old sdwaInst.DST_SEL sdwaInst.DST_U)
      (BitVec.setWidth_eq _)
  · rw [sdwaDestMerge, sdwaDestMerge, if_neg narrow, if_neg narrow]
    dsimp only
    rw [if_neg preserved, if_neg preserved]

theorem sdwaCommit_eq (T : ElemType) (carried : Carried T sdwaInst)
    (narrow : sdwaSelectWidth sdwaInst.DST_SEL ≠ 32) (result : T.Value) (lane : ℕ) :
    sdwaCommit host T sdwaInst result (origVdst host instData sdwaInst before lane) =
      some (sdwaDestMerge (resultBits host T sdwaInst result) (before.vgprs instData.VDST lane)
        sdwaInst.DST_SEL sdwaInst.DST_U) := by
  obtain ⟨modified, scaled⟩ :=
    @outputModifiers_isSome host T result sdwaInst.OMOD sdwaInst.CLMP carried
  rw [sdwaCommit, scaled, Option.map_some, resultBits, scaled, Option.getD_some,
    sdwaDestMerge_origVdst narrow]

/-- A destination of merged dwords. -/
theorem committed_write (narrow : sdwaSelectWidth sdwaInst.DST_SEL ≠ 32) {result vdst : ℕ → Dword}
    (merged : ∀ lane < NumVecElemPerVecReg, before.exec lane = true → vdst lane =
      sdwaDestMerge (result lane) (before.vgprs instData.VDST lane) sdwaInst.DST_SEL
        sdwaInst.DST_U) :
    Committed instData sdwaInst result before (before.write .u32 instData.VDST vdst) where
  active lane inside here := by
    rw [vgprs_write inside here, commitBits_u32, merged lane inside here]
    exact placed_sdwaDestMerge narrow
  inactive lane inactive register := vgprs_write_of_inactive inactive
  others register different := vgprs_write_of_ne different

end Commits

section Sources

variable {host : Host} {instData : InFmt_VOP} {sdwaInst : InFmt_VOP_SDWA} {before : Wave}
  {T : ElemType} {lane : ℕ}

theorem sdwaSrc0_eq :
    sdwaSrc0 T sdwaInst (host.readSrc .u32 before (sdwaSrc0Idx sdwaInst) lane) =
      operand0 host T sdwaInst before lane := source_eq_operand

theorem sdwaSrc1_eq :
    sdwaSrc1 T sdwaInst (host.readSrc .u32 before (sdwaSrc1Idx instData sdwaInst) lane) =
      operand1 host T instData sdwaInst before lane := source_eq_operand

theorem readSrc_vgpr (register : ℕ) :
    host.readSrc T before (REG_VGPR_MIN + register) = before.read T register := by
  rw [Host.readSrc, if_pos (Nat.le_add_right _ _), Nat.add_sub_cancel_left]

/-- A source that is not modified is the register in the type of the operation. -/
theorem operand0_unmodified (instData : InFmt_VOP) (unmodified : Unmodified sdwaInst) :
    operand0 host T sdwaInst before lane =
      host.readSrc T before (plain instData sdwaInst).SRC0 lane := by
  have index : sdwaSrc0Idx sdwaInst = REG_VGPR_MIN + sdwaInst.SRC0.toNat := by
    rw [sdwaSrc0Idx, srcIdx, unmodified.vector0, Nat.add_comm]
    rfl
  rw [operand0, unmodified.neg0, unmodified.abs0, operand_plain unmodified.src0, index,
    readSrc_vgpr, plain, readSrc_vgpr, Wave.read, Wave.read]
  exact congrArg (BitVec.setWidth T.bits) (BitVec.setWidth_eq _)

theorem operand1_unmodified (unmodified : Unmodified sdwaInst) :
    operand1 host T instData sdwaInst before lane = before.read T instData.VSRC1 lane := by
  have index : sdwaSrc1Idx instData sdwaInst = REG_VGPR_MIN + instData.VSRC1 := by
    rw [sdwaSrc1Idx, srcIdx, unmodified.vector1, Nat.add_comm]
    rfl
  rw [operand1, unmodified.neg1, unmodified.abs1, operand_plain unmodified.src1, index,
    readSrc_vgpr, Wave.read, Wave.read]
  exact congrArg (BitVec.setWidth T.bits) (BitVec.setWidth_eq _)

end Sources

section Helpers

variable {host : Host} {DstT Src0T Src1T : ElemType} {instData : InFmt_VOP}
  {sdwaInst : InFmt_VOP_SDWA} {before : Wave} {flags : CarryFlags}

/-- A loop that commits a result in every active lane. -/
theorem committed_forLanes {T : ElemType} (carried : Carried T sdwaInst)
    (narrow : sdwaSelectWidth sdwaInst.DST_SEL ≠ 32) (result : ℕ → T.Value) :
    ∃ after, (forLanes NumVecElemPerVecReg before.exec (fun lane _ =>
        sdwaCommit host T sdwaInst (result lane) (origVdst host instData sdwaInst before lane))
        (host.unread .u32)).map (fun vdst => before.write .u32 instData.VDST vdst) = some after ∧
      Committed instData sdwaInst (fun lane => resultBits host T sdwaInst (result lane)) before
        after := by
  have loop := @forLanes_eq_some _ NumVecElemPerVecReg before.exec
    (fun lane _ => sdwaCommit host T sdwaInst (result lane)
      (origVdst host instData sdwaInst before lane)) (host.unread .u32) _
    fun lane _ _ => sdwaCommit_eq T carried narrow (result lane) lane
  rw [loop, Option.map_some]
  exact ⟨_, rfl, committed_write narrow fun lane inside here => if_pos ⟨inside, here⟩⟩

theorem vop1Sdwa_committed (fOpImpl : Src0T.Value → DstT.Value) (one : OneSource sdwaInst)
    (carried : Carried DstT sdwaInst) (narrow : sdwaSelectWidth sdwaInst.DST_SEL ≠ 32) :
    ∃ after, vop1SdwaHelper host DstT Src0T instData sdwaInst fOpImpl before = some after ∧
      Committed instData sdwaInst (fun lane => resultBits host DstT sdwaInst
        (fOpImpl (operand0 host Src0T sdwaInst before lane))) before after := by
  have accepted : ¬ (sdwaInst.SRC1_SEXT || sdwaInst.SRC1_NEG || sdwaInst.SRC1_ABS) = true := by
    simp [one.1, one.2.1, one.2.2]
  rw [vop1SdwaHelper, if_neg accepted]
  dsimp only
  simp only [if_neg narrow, sdwaSrc0_eq]
  exact committed_forLanes carried narrow fun lane =>
    fOpImpl (operand0 host Src0T sdwaInst before lane)

theorem vop2Sdwa_committed (fOpImpl : Src0T.Value → Src1T.Value → DstT.Value)
    (carried : Carried DstT sdwaInst) (narrow : sdwaSelectWidth sdwaInst.DST_SEL ≠ 32) :
    ∃ after, vop2SdwaHelper host DstT Src0T Src1T instData sdwaInst fOpImpl before = some after ∧
      Committed instData sdwaInst (fun lane => resultBits host DstT sdwaInst
        (fOpImpl (operand0 host Src0T sdwaInst before lane)
          (operand1 host Src1T instData sdwaInst before lane))) before after := by
  rw [vop2SdwaHelper]
  dsimp only
  simp only [if_neg narrow, sdwaSrc0_eq, sdwaSrc1_eq]
  exact committed_forLanes carried narrow fun lane =>
    fOpImpl (operand0 host Src0T sdwaInst before lane)
      (operand1 host Src1T instData sdwaInst before lane)

end Helpers

section Carrying

variable {host : Host} {instData : InFmt_VOP} {sdwaInst : InFmt_VOP_SDWA} {before : Wave}
  {flags : CarryFlags}

theorem vgprs_writeCarry {wave : Wave} {out : ℕ → Dword × Bool} :
    (writeCarry flags instData wave out).vgprs =
      (wave.write .u32 instData.VDST fun lane => (out lane).1).vgprs := by
  rw [writeCarry]
  by_cases writes : flags.writesVCC = true
  · rw [if_pos writes]
  · rw [if_neg writes]

theorem vcc_writeCarry {wave : Wave} {out : ℕ → Dword × Bool} :
    (writeCarry flags instData wave out).vcc =
      if flags.writesVCC then fun lane => (out lane).2 else wave.vcc := by
  rw [writeCarry]
  by_cases writes : flags.writesVCC = true
  · rw [if_pos writes, if_pos writes]
  · rw [if_neg writes, if_neg writes, vcc_write]

/-- The registers alone say where results have gone. -/
theorem Committed.congr {result : ℕ → Dword} {after other : Wave}
    (committed : Committed instData sdwaInst result before after)
    (same : other.vgprs = after.vgprs) : Committed instData sdwaInst result before other := by
  refine ⟨?_, ?_, ?_⟩
  · rw [same]
    exact committed.active
  · rw [same]
    exact committed.inactive
  · rw [same]
    exact committed.others

/-- What the function gives in a lane. -/
def carryResult (host : Host) (flags : CarryFlags) (instData : InFmt_VOP)
    (sdwaInst : InFmt_VOP_SDWA) (fOpImpl : Dword → Dword → Bool → Dword × Bool) (before : Wave)
    (lane : ℕ) : Dword × Bool :=
  fOpImpl (operand0 host .u32 sdwaInst before lane)
    (operand1 host .u32 instData sdwaInst before lane) (carryIns flags before lane)

/-- A result goes to its field, or it is the whole dword. -/
theorem carryCommit_eq (carried : Carried .u32 sdwaInst) (result : Dword) (lane : ℕ) :
    (if decide (sdwaSelectWidth sdwaInst.DST_SEL = 32) = true then
        (outputModifiers host .u32 result sdwaInst.OMOD sdwaInst.CLMP).map (sdwaResultBits .u32)
      else sdwaCommit host .u32 sdwaInst result (origVdst host instData sdwaInst before lane)) =
      some (sdwaDestMerge (resultBits host .u32 sdwaInst result)
        (before.vgprs instData.VDST lane) sdwaInst.DST_SEL sdwaInst.DST_U) := by
  by_cases whole : sdwaSelectWidth sdwaInst.DST_SEL = 32
  · obtain ⟨modified, scaled⟩ :=
      @outputModifiers_isSome host .u32 result sdwaInst.OMOD sdwaInst.CLMP carried
    rw [decide_eq_true whole, if_pos rfl, scaled, Option.map_some, resultBits, scaled,
      Option.getD_some, sdwaDestMerge, if_pos whole]
  · rw [decide_eq_false whole, if_neg Bool.false_ne_true]
    exact sdwaCommit_eq .u32 carried whole result lane

/-- What a carrying instruction leaves in its destination and in the carry. -/
theorem vop2VccSdwa_eq (fOpImpl : Dword → Dword → Bool → Dword × Bool)
    (carried : Carried .u32 sdwaInst) :
    vop2VccSdwaHelper host flags instData sdwaInst fOpImpl before =
      some (writeCarry flags instData before fun lane =>
        if lane < NumVecElemPerVecReg ∧ before.exec lane = true then
          (sdwaDestMerge (resultBits host .u32 sdwaInst
              (carryResult host flags instData sdwaInst fOpImpl before lane).1)
            (before.vgprs instData.VDST lane) sdwaInst.DST_SEL sdwaInst.DST_U,
          if flags.writesVCC then (carryResult host flags instData sdwaInst fOpImpl before lane).2
          else vccOperand host flags before lane)
        else (host.unread .u32 lane, vccOperand host flags before lane)) := by
  rw [vop2VccSdwaHelper]
  dsimp only
  simp only [sdwaSrc0_eq, sdwaSrc1_eq, carryCommit_eq carried, Option.map_some]
  rw [forLanes_some]
  rfl

theorem vop2VccSdwa_idle (fOpImpl : Dword → Dword → Bool → Dword × Bool)
    (idle : ∀ lane < NumVecElemPerVecReg, ¬ before.exec lane = true) :
    vop2VccSdwaHelper host flags instData sdwaInst fOpImpl before =
      some (writeCarry flags instData before fun lane =>
        (host.unread .u32 lane, vccOperand host flags before lane)) := by
  rw [vop2VccSdwaHelper]
  dsimp only
  rw [forLanes_eq_some_iff.mpr ⟨fun lane inside here => absurd here (idle lane inside),
    fun _ _ => rfl⟩]
  rfl

/-- A result that cannot be scaled stops the instruction. -/
theorem vop2VccSdwa_refused (fOpImpl : Dword → Dword → Bool → Dword × Bool)
    (refused : ¬ Carried .u32 sdwaInst) {lane : ℕ} (inside : lane < NumVecElemPerVecReg)
    (here : before.exec lane = true) :
    vop2VccSdwaHelper host flags instData sdwaInst fOpImpl before = none := by
  have fails (result : Dword) :
      outputModifiers host .u32 result sdwaInst.OMOD sdwaInst.CLMP = none := by
    have scaled : sdwaInst.OMOD ≠ 0 := fun zero => refused (.inr zero)
    rw [outputModifiers, if_neg (by decide), if_pos scaled]
  rw [vop2VccSdwaHelper]
  dsimp only
  rw [forLanes_eq_none_iff.mpr ⟨lane, inside, here, ?_⟩, Option.map_none]
  by_cases whole : sdwaSelectWidth sdwaInst.DST_SEL = 32
  · rw [decide_eq_true whole, if_pos rfl, fails, Option.map_none, Option.map_none]
  · rw [decide_eq_false whole, if_neg Bool.false_ne_true, sdwaCommit, fails, Option.map_none,
      Option.map_none]

theorem carry_eq (fOpImpl : Dword → Dword → Bool → Dword × Bool) (dstSel : BitVec 3)
    (dstUnused : BitVec 2) :
    (vop2VccSdwaHelper host flags instData { sdwaInst with DST_SEL := dstSel, DST_U := dstUnused }
        fOpImpl before).map Wave.vcc =
      (vop2VccSdwaHelper host flags instData sdwaInst fOpImpl before).map Wave.vcc := by
  by_cases carried : Carried .u32 sdwaInst
  · rw [vop2VccSdwa_eq fOpImpl carried, @vop2VccSdwa_eq _ _
      { sdwaInst with DST_SEL := dstSel, DST_U := dstUnused } _ _ fOpImpl carried,
      Option.map_some, Option.map_some, vcc_writeCarry, vcc_writeCarry]
    by_cases writes : flags.writesVCC = true
    · rw [if_pos writes, if_pos writes]
      refine congrArg some (funext fun lane => ?_)
      by_cases here : lane < NumVecElemPerVecReg ∧ before.exec lane = true
      · rw [if_pos here, if_pos here]
        rfl
      · rw [if_neg here, if_neg here]
    · rw [if_neg writes, if_neg writes]
  · by_cases idle : ∀ lane < NumVecElemPerVecReg, ¬ before.exec lane = true
    · rw [vop2VccSdwa_idle fOpImpl idle, vop2VccSdwa_idle fOpImpl idle]
    · push Not at idle
      obtain ⟨lane, inside, here⟩ := idle
      rw [vop2VccSdwa_refused fOpImpl carried inside here, @vop2VccSdwa_refused _ _
        { sdwaInst with DST_SEL := dstSel, DST_U := dstUnused } _ _ fOpImpl carried lane inside
        here]

end Carrying

section Plain

variable {host : Host} {DstT Src0T Src1T : ElemType} {instData : InFmt_VOP}
  {sdwaInst : InFmt_VOP_SDWA} {before : Wave} {flags : CarryFlags}

theorem vop1Sdwa_plain (fOpImpl : Src0T.Value → DstT.Value) (unmodified : Unmodified sdwaInst) :
    vop1SdwaHelper host DstT Src0T instData sdwaInst fOpImpl before =
      vop1Helper host DstT Src0T (plain instData sdwaInst) fOpImpl before := by
  have accepted : ¬ (sdwaInst.SRC1_SEXT || sdwaInst.SRC1_NEG || sdwaInst.SRC1_ABS) = true := by
    simp [unmodified.sext1, unmodified.neg1, unmodified.abs1]
  rw [vop1SdwaHelper, if_neg accepted, vop1Helper]
  dsimp only
  simp only [if_pos unmodified.dst, sdwaSrc0_eq, operand0_unmodified instData unmodified,
    unmodified.omod, unmodified.clmp, outputModifiers_plain]
  rfl

theorem vop2Sdwa_plain (fOpImpl : Src0T.Value → Src1T.Value → DstT.Value)
    (unmodified : Unmodified sdwaInst) :
    vop2SdwaHelper host DstT Src0T Src1T instData sdwaInst fOpImpl before =
      vop2Helper host DstT Src0T Src1T (plain instData sdwaInst) fOpImpl before := by
  rw [vop2SdwaHelper, vop2Helper]
  dsimp only
  simp only [if_pos unmodified.dst, sdwaSrc0_eq, sdwaSrc1_eq, operand0_unmodified instData unmodified,
    operand1_unmodified unmodified, unmodified.omod, unmodified.clmp, outputModifiers_plain]
  rfl

theorem vop2VccSdwa_plain (fOpImpl : Dword → Dword → Bool → Dword × Bool)
    (unmodified : Unmodified sdwaInst) :
    vop2VccSdwaHelper host flags instData sdwaInst fOpImpl before =
      vop2VccHelper host flags (plain instData sdwaInst) fOpImpl before := by
  rw [vop2VccSdwaHelper, vop2VccHelper]
  dsimp only
  simp only [if_pos (decide_eq_true unmodified.dst), sdwaSrc0_eq, sdwaSrc1_eq,
    operand0_unmodified instData unmodified, operand1_unmodified unmodified, unmodified.omod,
    unmodified.clmp, outputModifiers_plain, Option.map_some, sdwaResultBits, BitVec.setWidth_eq]
  rfl

end Plain

/-- The encoding computes the function of a lane on the fields it selects, and agrees with the
plain one where it selects whole dwords. -/
theorem sdwaAgrees (host : Host) : SdwaAgrees host where
  one _ _ _ _ fOpImpl _ one carried narrow := vop1Sdwa_committed fOpImpl one carried narrow
  two _ _ _ _ _ fOpImpl _ carried narrow := vop2Sdwa_committed fOpImpl carried narrow
  carrying flags instData sdwaInst fOpImpl before carried narrow := by
    refine ⟨_, vop2VccSdwa_eq fOpImpl carried, ?_⟩
    refine (committed_write narrow ?_).congr vgprs_writeCarry
    intro lane inside here
    rw [if_pos ⟨inside, here⟩]
    rfl
  carry _ _ _ fOpImpl _ dstSel dstUnused := carry_eq fOpImpl dstSel dstUnused
  plainOne _ _ _ _ fOpImpl _ unmodified := vop1Sdwa_plain fOpImpl unmodified
  plainTwo _ _ _ _ _ fOpImpl _ unmodified := vop2Sdwa_plain fOpImpl unmodified
  plainCarrying _ _ _ fOpImpl _ unmodified := vop2VccSdwa_plain fOpImpl unmodified

end GemSim.Vega
