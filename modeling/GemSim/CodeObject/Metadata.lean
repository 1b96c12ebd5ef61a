import GemSim.Domain.CodeObject
import GemSim.Lib.Words

/-!
# Checking the declared identity of a code object

A code object is checked against fixed bounds, against the one target that is modelled,
and against itself: its segments lie in the image and do not overlap, one of them holds
the code and another one the kernel's descriptor.

## Main definitions

* `rangeEnd`, `rangeWithin`, `rangesOverlap` — ranges of 64-bit values
* `checkSegments` — the loop over the segments
* `validateCodeObjectMetadata` — the check
-/

namespace GemSim.CodeObject

open GemSim.Lib GemSim.Domain

def AmdgpuMachine : UInt16 := 224
def AmdgpuHsaOsabi : UInt8 := 64
def MaximumCodeObjectImageBytes : UInt64 := (64 : UInt64) <<< 20

def powerOfTwoOrZero (value : UInt64) : Bool := value == 0 || value &&& (value - 1) == 0

/-- The end of a range, if it is a 64-bit value. -/
def rangeEnd (start length : UInt64) : Option UInt64 :=
  if length > u64Max - start then none else some (start + length)

def rangeWithin (start length containerStart containerLength : UInt64) : Bool :=
  match rangeEnd start length, rangeEnd containerStart containerLength with
  | some stop, some containerEnd => start ≥ containerStart && stop ≤ containerEnd
  | _, _ => false

/-- Two ranges share a value, or one of them has no end. -/
def rangesOverlap (leftStart leftLength rightStart rightLength : UInt64) : Bool :=
  match rangeEnd leftStart leftLength, rangeEnd rightStart rightLength with
  | some leftEnd, some rightEnd => leftStart < rightEnd && rightStart < leftEnd
  | _, _ => true

theorem rangeEnd_eq_some {start length stop : UInt64} :
    rangeEnd start length = some stop ↔
      start.toNat + length.toNat < 2 ^ 64 ∧ stop.toNat = start.toNat + length.toNat := by
  rw [rangeEnd]
  by_cases beyond : length > u64Max - start
  · rw [if_pos beyond]
    rw [gt_iff_lt, max_sub_lt_iff] at beyond
    exact ⟨nofun, fun fits => by omega⟩
  · rw [if_neg beyond]
    rw [gt_iff_lt, UInt64.not_lt, le_max_sub_iff] at beyond
    have sum : (start + length).toNat = start.toNat + length.toNat := toNat_add_exact (by omega)
    rw [Option.some_inj, ← UInt64.toNat_inj, sum]
    exact ⟨fun same => ⟨by omega, same.symm⟩, fun same => same.2.symm⟩

/-- Ranges that do not overlap have ends, and one of them ends before the other begins. -/
theorem apart_of_rangesOverlap {leftStart leftLength rightStart rightLength : UInt64}
    (apart : rangesOverlap leftStart leftLength rightStart rightLength = false) :
    rightStart.toNat + rightLength.toNat ≤ leftStart.toNat ∨
      leftStart.toNat + leftLength.toNat ≤ rightStart.toNat := by
  have opened : rangesOverlap = fun leftStart leftLength rightStart rightLength =>
      match rangeEnd leftStart leftLength, rangeEnd rightStart rightLength with
      | some leftEnd, some rightEnd => leftStart < rightEnd && rightStart < leftEnd
      | _, _ => true := rfl
  have leftStops := @rangeEnd_eq_some leftStart leftLength
  have rightStops := @rangeEnd_eq_some rightStart rightLength
  rw [opened] at apart
  dsimp only at apart
  generalize rangeEnd leftStart leftLength = leftEnd at *
  generalize rangeEnd rightStart rightLength = rightEnd at *
  cases leftEnd with
  | none => cases apart
  | some leftEnd =>
    cases rightEnd with
    | none => cases apart
    | some rightEnd =>
      have left := (leftStops.mp rfl).2
      have right := (rightStops.mp rfl).2
      simp only [Bool.and_eq_false_iff, decide_eq_false_iff_not, UInt64.lt_iff_toNat_lt] at apart
      omega

/-- The code starts at the signed offset from the descriptor. -/
def signedEntryRelationValid (metadata : CodeObjectMetadata) : Bool :=
  let offset := metadata.kernelEntryOffset
  if offset ≥ 0 then
    let positive := offset.toUInt64
    metadata.descriptorVirtualAddress ≤ u64Max - positive &&
      metadata.descriptorVirtualAddress + positive == metadata.codeVirtualAddress
  else
    let magnitude := (-(offset + 1)).toUInt64 + 1
    magnitude ≤ metadata.descriptorVirtualAddress &&
      metadata.descriptorVirtualAddress - magnitude == metadata.codeVirtualAddress

def validIdentityString (value : ByteString) : Bool :=
  !value.isEmpty && value.all fun byte => byte != 0 && byte < 0x80

/-- A segment is well formed and lies in the image. -/
def segmentValid (metadata : CodeObjectMetadata) (segment : LoadSegment) : Bool :=
  segment.type == 1 && segment.memorySize ≥ segment.fileSize &&
    powerOfTwoOrZero segment.alignment &&
    (segment.flags == 4 || segment.flags == 5 || segment.flags == 6) &&
    rangeWithin segment.fileOffset segment.fileSize 0 metadata.imageSize &&
    (rangeEnd segment.virtualAddress segment.memorySize).isSome

/-- A segment is executable and holds the code. -/
def holdsCode (metadata : CodeObjectMetadata) (segment : LoadSegment) : Bool :=
  segment.flags == 5 &&
    rangeWithin metadata.codeFileOffset metadata.codeSize segment.fileOffset segment.fileSize &&
    rangeWithin metadata.codeVirtualAddress metadata.codeSize segment.virtualAddress
      segment.memorySize

/-- A segment is read-only and holds the descriptor. -/
def holdsDescriptor (metadata : CodeObjectMetadata) (segment : LoadSegment) : Bool :=
  segment.flags == 4 &&
    rangeWithin metadata.descriptorFileOffset (UInt64.ofNat KernelDescriptorBytes)
      segment.fileOffset segment.fileSize &&
    rangeWithin metadata.descriptorVirtualAddress (UInt64.ofNat KernelDescriptorBytes)
      segment.virtualAddress segment.memorySize

def segmentsOverlap (segment right : LoadSegment) : Bool :=
  rangesOverlap segment.fileOffset segment.fileSize right.fileOffset right.fileSize ||
    rangesOverlap segment.virtualAddress segment.memorySize right.virtualAddress right.memorySize

/-- The loop over the segments: whether code and descriptor were found, or nothing if a
segment is malformed or overlaps a later one. -/
def checkSegments (metadata : CodeObjectMetadata) :
    List LoadSegment → Bool → Bool → Option (Bool × Bool)
  | [], executableCodeRange, readOnlyDescriptorRange =>
    some (executableCodeRange, readOnlyDescriptorRange)
  | segment :: rest, executableCodeRange, readOnlyDescriptorRange =>
    if !segmentValid metadata segment || rest.any (segmentsOverlap segment) then none
    else
      checkSegments metadata rest (executableCodeRange || holdsCode metadata segment)
        (readOnlyDescriptorRange || holdsDescriptor metadata segment)

def validateCodeObjectMetadata (metadata : CodeObjectMetadata) : Result Unit :=
  if metadata.imageSize = 0 ∨ metadata.imageSize > MaximumCodeObjectImageBytes ∨
      metadata.segments = [] ∨ metadata.segments.length > MaximumLoadSegments ∨
      !validIdentityString metadata.kernel.name ∨
      !validIdentityString metadata.descriptorSymbol ∨
      metadata.kernel.imageSha256.toList.all (fun byte => byte == 0) ∨
      metadata.kernargAlignment = 0 ∨ !powerOfTwoOrZero metadata.kernargAlignment.toUInt64 ∨
      metadata.maximumWorkgroupSize = 0 ∨ metadata.descriptorVirtualAddress &&& 63 ≠ 0 ∨
      metadata.codeSize = 0 ∨ !signedEntryRelationValid metadata then
    .failure .invalidArgument .invalidRequest
  else if metadata.elfMachine ≠ AmdgpuMachine ∨ metadata.elfType ≠ 3 ∨
      metadata.elfOsabi ≠ AmdgpuHsaOsabi ∨ metadata.elfFlags &&& 0xff ≠ 0x4f ∨
      metadata.elfAbiVersion < 2 ∨ metadata.elfAbiVersion > 4 ∨
      metadata.codeObjectVersion < 4 ∨ metadata.codeObjectVersion > 6 ∨
      metadata.metadataMajor ≠ 1 ∨
      (metadata.metadataMinor ≠ 1 ∧ metadata.metadataMinor ≠ 2) then
    .failure .unsupportedFormat .invalidRequest
  else if metadata.gfxTarget ≠ 950 then .failure .targetMismatch .invalidRequest
  else if metadata.relocationCount ≠ 0 ∨ metadata.wavefrontSize ≠ 64 ∨
      metadata.usesDynamicStack then
    .failure .unsupportedFeature .invalidRequest
  else
    match checkSegments metadata metadata.segments false false with
    | none => .failure .invalidArgument .invalidRequest
    | some (executableCodeRange, readOnlyDescriptorRange) =>
      if !executableCodeRange || !readOnlyDescriptorRange then
        .failure .invalidArgument .invalidRequest
      else .success ()

end GemSim.CodeObject
