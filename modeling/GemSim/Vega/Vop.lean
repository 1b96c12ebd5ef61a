import GemSim.Lib.Lanes
import GemSim.Vega.VopSemantics

/-!
# Instructions of one and two sources

An instruction comes plain or in one of the two extended encodings, and all of them take the
same function of a lane. The helpers read the sources, compute the active lanes, and write the
destination at the end; where the encoding needs the former destination, they read it first.

## Main definitions

* `InFmt_VOP`, `InFmt_VOP_SDWA`, `InFmt_VOP_DPP` — the encodings
* `vop1Helper`, `vop1SdwaHelper` — one source
* `vop2Helper`, `vop2SdwaHelper`, `vop2DppHelper` — two sources
* `vop2VccHelper`, `vop2VccSdwaHelper` — two sources and a carry
* `processDPP` — the first source from other lanes, and the lanes that are written
-/

namespace GemSim.Vega

open GemSim.Lib

/-- The registers of the first dword. The first source is an operand selector. -/
structure InFmt_VOP where
  SRC0 : ℕ
  VSRC1 : ℕ
  VDST : ℕ

structure InFmt_VOP_SDWA where
  SRC0 : BitVec 8
  DST_SEL : BitVec 3
  DST_U : BitVec 2
  CLMP : Bool
  OMOD : BitVec 2
  SRC0_SEL : BitVec 3
  SRC0_SEXT : Bool
  SRC0_NEG : Bool
  SRC0_ABS : Bool
  S0 : Bool
  SRC1_SEL : BitVec 3
  SRC1_SEXT : Bool
  SRC1_NEG : Bool
  SRC1_ABS : Bool
  S1 : Bool

structure InFmt_VOP_DPP where
  SRC0 : BitVec 8
  DPP_CTRL : BitVec 9
  BC : Bool
  SRC0_NEG : Bool
  SRC0_ABS : Bool
  SRC1_NEG : Bool
  SRC1_ABS : Bool
  BANK_MASK : BitVec 4
  ROW_MASK : BitVec 4

section Sources

/-- The operand selector of a source field. -/
def srcIdx (field : ℕ) (scalar : Bool) : ℕ := field + if scalar then 0 else REG_VGPR_MIN

def sdwaSrc0Idx (sdwaInst : InFmt_VOP_SDWA) : ℕ := srcIdx sdwaInst.SRC0.toNat sdwaInst.S0

def sdwaSrc1Idx (instData : InFmt_VOP) (sdwaInst : InFmt_VOP_SDWA) : ℕ :=
  srcIdx instData.VSRC1 sdwaInst.S1

def sdwaSrc0 (T : ElemType) (sdwaInst : InFmt_VOP_SDWA) (dword : Dword) : T.Value :=
  source T dword sdwaInst.SRC0_SEL sdwaInst.SRC0_SEXT sdwaInst.SRC0_NEG sdwaInst.SRC0_ABS

def sdwaSrc1 (T : ElemType) (sdwaInst : InFmt_VOP_SDWA) (dword : Dword) : T.Value :=
  source T dword sdwaInst.SRC1_SEL sdwaInst.SRC1_SEXT sdwaInst.SRC1_NEG sdwaInst.SRC1_ABS

/-- What the destination held, where the encoding preserves some of it. -/
def origVdst (host : Host) (instData : InFmt_VOP) (sdwaInst : InFmt_VOP_SDWA) (wave : Wave) :
    ℕ → Dword :=
  if sdwaDestIsReadModifyWrite sdwaInst.DST_SEL sdwaInst.DST_U then wave.read .u32 instData.VDST
  else host.unread .u32

/-- The dword of a lane's result. -/
def sdwaCommit (host : Host) (T : ElemType) (sdwaInst : InFmt_VOP_SDWA) (result : T.Value)
    (old : Dword) : Option Dword :=
  (outputModifiers host T result sdwaInst.OMOD sdwaInst.CLMP).map fun modified =>
    sdwaDestMerge (sdwaResultBits T modified) old sdwaInst.DST_SEL sdwaInst.DST_U

end Sources

section OneSource

variable (host : Host) (DstT SrcT : ElemType)

def vop1SdwaHelper (instData : InFmt_VOP) (sdwaInst : InFmt_VOP_SDWA)
    (fOpImpl : SrcT.Value → DstT.Value) (wave : Wave) : Option Wave :=
  if sdwaInst.SRC1_SEXT || sdwaInst.SRC1_NEG || sdwaInst.SRC1_ABS then none
  else
    let src0 := host.readSrc .u32 wave (sdwaSrc0Idx sdwaInst)
    if sdwaSelectWidth sdwaInst.DST_SEL = 32 then
      (forLanes NumVecElemPerVecReg wave.exec (fun lane _ =>
        outputModifiers host DstT (fOpImpl (sdwaSrc0 SrcT sdwaInst (src0 lane))) sdwaInst.OMOD
          sdwaInst.CLMP) (host.unread DstT)).map
        fun vdst => wave.write DstT instData.VDST vdst
    else
      let origVdst := origVdst host instData sdwaInst wave
      (forLanes NumVecElemPerVecReg wave.exec (fun lane _ =>
        sdwaCommit host DstT sdwaInst (fOpImpl (sdwaSrc0 SrcT sdwaInst (src0 lane)))
          (origVdst lane)) (host.unread .u32)).map
        fun vdst => wave.write .u32 instData.VDST vdst

/-- The plain encoding. -/
def vop1Helper (instData : InFmt_VOP) (fOpImpl : SrcT.Value → DstT.Value) (wave : Wave) :
    Option Wave :=
  let src := host.readSrc SrcT wave instData.SRC0
  (forLanes NumVecElemPerVecReg wave.exec (fun lane _ => some (fOpImpl (src lane)))
    (host.unread DstT)).map fun vdst => wave.write DstT instData.VDST vdst

end OneSource

section TwoSources

variable (host : Host) (DstT Src0T Src1T : ElemType)

def vop2SdwaHelper (instData : InFmt_VOP) (sdwaInst : InFmt_VOP_SDWA)
    (fOpImpl : Src0T.Value → Src1T.Value → DstT.Value) (wave : Wave) : Option Wave :=
  let src0 := host.readSrc .u32 wave (sdwaSrc0Idx sdwaInst)
  let src1 := host.readSrc .u32 wave (sdwaSrc1Idx instData sdwaInst)
  if sdwaSelectWidth sdwaInst.DST_SEL = 32 then
    (forLanes NumVecElemPerVecReg wave.exec (fun lane _ =>
      outputModifiers host DstT
        (fOpImpl (sdwaSrc0 Src0T sdwaInst (src0 lane)) (sdwaSrc1 Src1T sdwaInst (src1 lane)))
        sdwaInst.OMOD sdwaInst.CLMP) (host.unread DstT)).map
      fun vdst => wave.write DstT instData.VDST vdst
  else
    let origVdst := origVdst host instData sdwaInst wave
    (forLanes NumVecElemPerVecReg wave.exec (fun lane _ =>
      sdwaCommit host DstT sdwaInst
        (fOpImpl (sdwaSrc0 Src0T sdwaInst (src0 lane)) (sdwaSrc1 Src1T sdwaInst (src1 lane)))
        (origVdst lane)) (host.unread .u32)).map
      fun vdst => wave.write .u32 instData.VDST vdst

/-- The plain encoding. -/
def vop2Helper (instData : InFmt_VOP) (fOpImpl : Src0T.Value → Src1T.Value → DstT.Value)
    (wave : Wave) : Option Wave :=
  let src0 := host.readSrc Src0T wave instData.SRC0
  let src1 := wave.read Src1T instData.VSRC1
  (forLanes NumVecElemPerVecReg wave.exec (fun lane _ => some (fOpImpl (src0 lane) (src1 lane)))
    (host.unread DstT)).map fun vdst => wave.write DstT instData.VDST vdst

end TwoSources

section Carry

/-- Whether an opcode reads the carry, and whether it writes it. -/
structure CarryFlags where
  readsVCC : Bool
  writesVCC : Bool

variable (host : Host) (flags : CarryFlags)

/-- The carry register, as the instruction has it before its first lane. -/
def vccOperand (wave : Wave) : ℕ → Bool :=
  if flags.readsVCC then wave.vcc else host.unreadVcc

def carryIns (wave : Wave) : ℕ → Bool := if flags.readsVCC then wave.vcc else fun _ => false

/-- A destination is written, and the carry with it. -/
def writeCarry (instData : InFmt_VOP) (wave : Wave) (out : ℕ → Dword × Bool) : Wave :=
  let written := wave.write .u32 instData.VDST fun lane => (out lane).1
  if flags.writesVCC then { written with vcc := fun lane => (out lane).2 } else written

/-- The function of a lane takes a carry, and gives one. Its operands are dwords. -/
def vop2VccSdwaHelper (instData : InFmt_VOP) (sdwaInst : InFmt_VOP_SDWA)
    (fOpImpl : Dword → Dword → Bool → Dword × Bool) (wave : Wave) : Option Wave :=
  let src0 := host.readSrc .u32 wave (sdwaSrc0Idx sdwaInst)
  let src1 := host.readSrc .u32 wave (sdwaSrc1Idx instData sdwaInst)
  let origVdst := origVdst host instData sdwaInst wave
  let wholeDword : Bool := sdwaSelectWidth sdwaInst.DST_SEL = 32
  (forLanes NumVecElemPerVecReg wave.exec (fun lane old =>
    let result := fOpImpl (sdwaSrc0 .u32 sdwaInst (src0 lane))
      (sdwaSrc1 .u32 sdwaInst (src1 lane)) (carryIns flags wave lane)
    let committed :=
      if wholeDword then
        (outputModifiers host .u32 result.1 sdwaInst.OMOD sdwaInst.CLMP).map
          (sdwaResultBits .u32)
      else sdwaCommit host .u32 sdwaInst result.1 (origVdst lane)
    committed.map fun dword => (dword, if flags.writesVCC then result.2 else old.2))
    (fun lane => (host.unread .u32 lane, vccOperand host flags wave lane))).map
    (writeCarry flags instData wave)

/-- The plain encoding. -/
def vop2VccHelper (instData : InFmt_VOP) (fOpImpl : Dword → Dword → Bool → Dword × Bool)
    (wave : Wave) : Option Wave :=
  let src0 := host.readSrc .u32 wave instData.SRC0
  let src1 := wave.read .u32 instData.VSRC1
  (forLanes NumVecElemPerVecReg wave.exec (fun lane old =>
    let result := fOpImpl (src0 lane) (src1 lane) (carryIns flags wave lane)
    some (result.1, if flags.writesVCC then result.2 else old.2))
    (fun lane => (host.unread .u32 lane, vccOperand host flags wave lane))).map
    (writeCarry flags instData wave)

end Carry

section Dpp

variable (host : Host) (T : ElemType)

/-- A source after its modifiers. Without a flag none is asked of it. -/
def dppModified (neg abs : Bool) (src : ℕ → T.Value) : ℕ → T.Value :=
  if neg || abs then host.modified T neg abs src else src

/-- The first source from the lanes the control selects, and the lanes that are written. -/
def processDPP (dppInst : InFmt_VOP_DPP) (wave : Wave) (src0 : ℕ → T.Value) :
    Option (ℕ → T.Value × Bool) :=
  let dppCtrl := dppInst.DPP_CTRL.toNat
  if dppCtrl = SQ_DPP_RESERVED then none
  else
    let src0Copy := dppModified host T dppInst.SRC0_NEG dppInst.SRC0_ABS src0
    forLanes NumVecElemPerVecReg
      (fun lane => dppLaneWriteEnabled lane dppInst.ROW_MASK dppInst.BANK_MASK)
      (fun lane old => (dppSourceLane dppCtrl lane).map fun srcLane =>
        if srcLane.any wave.exec then (src0Copy (srcLane.getD 0), true)
        else if dppInst.BC then (0, true)
        else old)
      (fun lane => (src0Copy lane, false))

/-- An instruction of two sources whose operands all have one type. -/
def vop2DppHelper (instData : InFmt_VOP) (dppInst : InFmt_VOP_DPP) (allowDpp : Bool)
    (fOpImpl : T.Value → T.Value → T.Value) (wave : Wave) : Option Wave :=
  if !allowDpp then none
  else
    let src1 := dppModified host T dppInst.SRC1_NEG dppInst.SRC1_ABS (wave.read T instData.VSRC1)
    (processDPP host T dppInst wave (wave.read T dppInst.SRC0.toNat)).bind fun src0Dpp =>
      (forLanes NumVecElemPerVecReg (fun lane => wave.exec lane && (src0Dpp lane).2)
        (fun lane _ => some (fOpImpl (src0Dpp lane).1 (src1 lane)))
        (wave.read T instData.VDST)).map fun vdst => wave.write T instData.VDST vdst

/-- An instruction that accumulates into its destination, which may have another type. -/
def accumulateDpp (DstT : ElemType) (instData : InFmt_VOP) (dppInst : InFmt_VOP_DPP)
    (fOpImpl : T.Value → T.Value → DstT.Value → DstT.Value) (wave : Wave) : Option Wave :=
  let src1 := dppModified host T dppInst.SRC1_NEG dppInst.SRC1_ABS (wave.read T instData.VSRC1)
  (processDPP host T dppInst wave (wave.read T dppInst.SRC0.toNat)).bind fun src0Dpp =>
    (forLanes NumVecElemPerVecReg (fun lane => wave.exec lane && (src0Dpp lane).2)
      (fun lane old => some (fOpImpl (src0Dpp lane).1 (src1 lane) old))
      (wave.read DstT instData.VDST)).map fun vdst => wave.write DstT instData.VDST vdst

/-- There is no second source to modify. -/
def v_mov_b32 (instData : InFmt_VOP) (dppInst : InFmt_VOP_DPP) (wave : Wave) : Option Wave :=
  if dppInst.SRC1_ABS || dppInst.SRC1_NEG then none
  else
    (processDPP host .u32 dppInst wave (wave.read .u32 dppInst.SRC0.toNat)).bind fun srcDpp =>
      (forLanes NumVecElemPerVecReg (fun lane => wave.exec lane && (srcDpp lane).2)
        (fun lane _ => some (srcDpp lane).1) (wave.read .u32 instData.VDST)).map
        fun vdst => wave.write .u32 instData.VDST vdst

end Dpp

end GemSim.Vega
