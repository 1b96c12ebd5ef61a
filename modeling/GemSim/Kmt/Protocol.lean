import GemSim.Lib.Words
import Mathlib.Data.List.FinRange
import Mathlib.Data.Vector.Basic

/-!
# KMT records

The fixed-width request and response of the KMT operation envelope, with the
operation, provider-status and wire-status enumerations and the CRC-32C that
covers copied bytes. Field names, defaults and numeric codes are those of the
wire contract.
-/

namespace GemSim.Kmt

/-- Bytes of the copied buffer carried by a request or a response. -/
abbrev KmtCopiedBufferBytes : ℕ := 128

/-- Argument words of a request and result words of a response. -/
abbrev KmtArgumentWordCount : ℕ := 8

instance : NeZero KmtArgumentWordCount := ⟨Nat.succ_ne_zero 7⟩

abbrev Words := Vector UInt32 KmtArgumentWordCount

abbrev Buffer := Vector UInt8 KmtCopiedBufferBytes

def KmtSharedBackingAlignmentBytes : UInt64 := 4096
def KmtSharedBackingDoorbellRegionBytes : UInt64 := 8192
def KmtSharedBackingDoorbellRegionBaseBytes : UInt64 := 0
def KmtSharedBackingDoorbellSlotBytes : UInt64 := 8
def KmtSharedBackingMaximumDoorbellSlots : ℕ := 128
def KmtSharedBackingCompletionRegionBaseBytes : UInt64 := 1024
def KmtSharedBackingCompletionSlotBytes : UInt64 := 8
def KmtSharedBackingUserptrMemoryFlagMask : UInt32 := 4
def KmtSharedBackingDoorbellMemoryFlagMask : UInt32 := 8
def KmtClockFrequencyHz : UInt64 := 1000000000

/-- The operations of the envelope. -/
inductive KmtOperation
  | openKfd | closeKfd | getVersion | topologySnapshot | allocateMemory | freeMemory
  | copyMemory | queueCreate | queueDestroy | queueDoorbell | eventCreate | eventDestroy
  | eventSet | eventReset | eventQuery | eventWait | pointerInfo | modelDrmCall
  | processApertures | acquireVm | setMemoryPolicy | allocateMemoryOfGpu | freeMemoryOfGpu
  | mapMemoryToGpu | unmapMemoryFromGpu | setScratchBackingVa | exportBacking
  | getClockCounters
  deriving DecidableEq, Repr

/-- Provider statuses. -/
inductive KmtStatus
  | success | error | driverMismatch | invalidParameter | invalidHandle | invalidNodeUnit
  | noMemory | bufferTooSmall | notImplemented | notSupported | unavailable | outOfResources
  | kernelIoChannelNotOpened | kernelCommunicationError | kernelAlreadyOpened
  | hsammuUnavailable | waitFailure | waitTimeout | memoryAlreadyRegistered
  | memoryNotRegistered | memoryAlignment
  deriving DecidableEq, Repr

/-- Wire statuses. -/
inductive Status
  | ok | malformed | unsupportedVersion | unsupportedCapability | instanceMismatch
  | topologyMismatch | unauthorized | busy | resourceExhausted | protocolState | internal
  deriving DecidableEq, Repr

/-- The wire code of a status, as the response carries it. -/
def Status.code : Status → Int32
  | .ok => 0
  | .malformed => 1
  | .unsupportedVersion => 2
  | .unsupportedCapability => 3
  | .instanceMismatch => 4
  | .topologyMismatch => 5
  | .unauthorized => 6
  | .busy => 7
  | .resourceExhausted => 8
  | .protocolState => 9
  | .internal => 10

/-- The part of the record header that the KMT state reads. -/
structure Header where
  jobEpoch : UInt64 := 0
  deriving DecidableEq, Repr

/-- Fixed-width KFD/DRM operation request. -/
structure KmtRequest where
  operation : KmtOperation := .openKfd
  flags : UInt16 := 0
  operationSequence : UInt64 := 0
  ownerId : UInt64 := 0
  ownerGeneration : UInt64 := 0
  objectId : UInt64 := 0
  objectGeneration : UInt64 := 0
  auxId : UInt64 := 0
  auxGeneration : UInt64 := 0
  argumentWords : Words := Vector.replicate _ 0
  copiedBytes : UInt32 := 0
  copiedCrc32c : UInt32 := 0
  copiedBuffer : Buffer := Vector.replicate _ 0
  deriving DecidableEq

/-- Canonical KMT response with separate provider and wire status. -/
structure KmtResponse where
  operation : KmtOperation := .openKfd
  flags : UInt16 := 0
  status : KmtStatus := .success
  wireStatus : Int32 := Status.ok.code
  operationSequence : UInt64 := 0
  ownerId : UInt64 := 0
  ownerGeneration : UInt64 := 0
  objectId : UInt64 := 0
  objectGeneration : UInt64 := 0
  auxId : UInt64 := 0
  auxGeneration : UInt64 := 0
  resultWords : Words := Vector.replicate _ 0
  resultBytes : UInt32 := 0
  resultCrc32c : UInt32 := 0
  copiedResult : Buffer := Vector.replicate _ 0
  deriving DecidableEq

/-- One bit of the reflected CRC-32C. -/
def crc32cBit (crc : UInt32) : UInt32 :=
  let mask := 0 - (crc &&& 1)
  (crc >>> 1) ^^^ (0x82f63b78 &&& mask)

/-- One byte of the reflected CRC-32C. -/
def crc32cByte (crc : UInt32) (byte : UInt8) : UInt32 :=
  crc32cBit <| crc32cBit <| crc32cBit <| crc32cBit <|
    crc32cBit <| crc32cBit <| crc32cBit <| crc32cBit (crc ^^^ byte.toUInt32)

/-- CRC-32C of a byte sequence. -/
def crc32c (data : List UInt8) : UInt32 :=
  data.foldl crc32cByte 0xffffffff ^^^ 0xffffffff

/-- The leading bytes of a copied buffer. -/
def Buffer.leading (buffer : Buffer) (bytes : UInt64) : List UInt8 :=
  buffer.toList.take bytes.toNat

def wordAt (words : Words) (index : Fin KmtArgumentWordCount) : UInt32 := words[index]

def setWord (words : Words) (index : Fin KmtArgumentWordCount) (value : UInt32) : Words :=
  words.set index value

def splitWords (words : Words) (high low : Fin KmtArgumentWordCount) : UInt64 :=
  (words[high].toUInt64 <<< 32) ||| words[low].toUInt64

def setWords (words : Words) (high low : Fin KmtArgumentWordCount) (value : UInt64) : Words :=
  (words.set high (value >>> 32).toUInt32).set low (value &&& 0xffffffff).toUInt32

/-- Every argument word outside the used ones is zero. -/
def noWordsExcept (words : Words) (used : List (Fin KmtArgumentWordCount)) : Bool :=
  (List.finRange KmtArgumentWordCount).all fun index => used.contains index || words[index] == 0

def store16 (buffer : Buffer) (offset : ℕ) (value : UInt16) : Buffer :=
  (buffer.setIfInBounds offset (value >>> 8).toUInt8).setIfInBounds (offset + 1) value.toUInt8

def store32 (buffer : Buffer) (offset : ℕ) (value : UInt32) : Buffer :=
  (List.range 4).foldl (fun out index =>
    out.setIfInBounds (offset + index) (value >>> (24 - 8 * index.toUInt32)).toUInt8) buffer

def store64 (buffer : Buffer) (offset : ℕ) (value : UInt64) : Buffer :=
  (List.range 8).foldl (fun out index =>
    out.setIfInBounds (offset + index) (value >>> (56 - 8 * index.toUInt64)).toUInt8) buffer

def load64 (buffer : Buffer) (offset : ℕ) : UInt64 :=
  (List.range 8).foldl (fun value index =>
    (value <<< 8) ||| (buffer[offset + index]?.getD 0).toUInt64) 0

/-- The big-endian 32-bit word at `offset`, as the GPU-id lists are copied. -/
def load32 (buffer : Buffer) (offset : ℕ) : UInt32 :=
  (List.range 4).foldl (fun value index =>
    (value <<< 8) ||| (buffer[offset + index]?.getD 0).toUInt32) 0

end GemSim.Kmt
