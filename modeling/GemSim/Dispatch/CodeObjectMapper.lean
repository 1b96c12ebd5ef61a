import GemSim.CodeObject.Metadata
import GemSim.CodeObject.Sha256
import GemSim.Dispatch.MemoryContext

/-!
# Materializing a code object

The loadable segments of a validated image are copied into one allocation, whose pages are
leased for as long as the mapping lives. What fails on the way is rolled back, allocation and
lease, unless it is the copy of file bytes into a transfer: that failure nobody catches. An
unmap checks first that nobody else uses the allocation, and gives lease and allocation back
only then. The parse of the image and the layout of the kernel descriptor come from other code
and are parameters; the segment list is reserved before it is filled, so only the reservation
can fail.

## Main definitions

* `Mapping` — a materialized code object
* `validateSegments` — the checks of the segments, and the span of their addresses
* `mapCodeObject`, `unmapCodeObject` — materialize a code object and release it
-/

namespace GemSim.Dispatch

open GemSim.Lib GemSim.Domain GemSim.Memory GemSim.CodeObject

/-- What the layers above the memory take from code outside of them. -/
structure Layout where
  validateCodeObjectImage : List UInt8 → CodeObjectMetadata → Bool
  /-- The preload length and offset in the bytes of a kernel descriptor. -/
  kernargPreloadSpec : List UInt8 → UInt32 × UInt32
  kernargPreloadPktSize : UInt64
  /-- The completion signal and the kernarg address in the bytes of a packet. -/
  completionSignal : List UInt8 → UInt64
  kernargAddress : List UInt8 → UInt64

inductive MapFailure where
  | none
  | invalidPageSize
  | malformedManifest
  | unsupportedVersion
  | topologyMismatch
  | imageMismatch
  | invalidImage
  | invalidSegment
  | rangeOverflow
  | busy
  | allocation
  | pageMap
  | copy
  deriving DecidableEq

structure SegmentMapping where
  segment : LoadSegment
  mappedAddress : UInt64
  deriving DecidableEq

structure Mapping where
  allocation : AllocationInfo := {}
  lease : PageLease := {}
  imageVirtualBase : UInt64 := 0
  imageVirtualEnd : UInt64 := 0
  mappedBytes : UInt64 := 0
  descriptorGpuVa : UInt64 := 0
  codeGpuVa : UInt64 := 0
  entryGpuVa : UInt64 := 0
  segmentCount : UInt32 := 0
  segments : List SegmentMapping := []
  deriving DecidableEq

def Mapping.valid (mapping : Mapping) : Bool :=
  mapping.allocation.allocation.id != 0 && mapping.lease.valid && mapping.mappedBytes != 0 &&
    mapping.segmentCount != 0 && mapping.segments.length == mapping.segmentCount.toNat

/-- How a map ends that makes no mapping: with a failure of its own, or with that of an allocation
which nothing has caught. -/
inductive MapEnd where
  | failed (failure : MapFailure)
  | badAlloc
  deriving DecidableEq

/-- How the allocations of host memory of a map end; those of a copy by its address. -/
structure MapEnv where
  digests : Bool := true
  allocates : Bool := true
  emplaces : Bool := true
  reserves : Bool := true
  writes : UInt64 → WriteEnv := fun _ => {}
  zeros : UInt64 → Bool := fun _ => true

def powerOfTwo (value : UInt64) : Bool := value != 0 && value &&& (value - 1) == 0

/-- The entry at the signed offset from the descriptor, if it is where the code is. -/
def signedRelation (descriptor : UInt64) (offset : Int64) (code : UInt64) : Option UInt64 :=
  if offset ≥ 0 then
    let positive := offset.toUInt64
    if descriptor > u64Max - positive then none
    else if descriptor + positive = code then some (descriptor + positive) else none
  else
    let magnitude := (-(offset + 1)).toUInt64 + 1
    if descriptor < magnitude then none
    else if descriptor - magnitude = code then some (descriptor - magnitude) else none

def loadSegmentValid (image : List UInt8) (segment : LoadSegment) : Bool :=
  segment.type == 1 && segment.memorySize != 0 && segment.memorySize ≥ segment.fileSize &&
    (segment.flags == 4 || segment.flags == 5 || segment.flags == 6) &&
    powerOfTwo segment.alignment &&
    decide (segment.fileOffset.toNat + segment.fileSize.toNat ≤ image.length) &&
    segment.fileOffset % segment.alignment == segment.virtualAddress % segment.alignment

/-- The loop over the segments, with the span of the addresses seen so far. -/
def spanSegments (image : List UInt8) :
    List LoadSegment → UInt64 → UInt64 → Except MapFailure (UInt64 × UInt64)
  | [], imageVirtualBase, imageVirtualEnd => .ok (imageVirtualBase, imageVirtualEnd)
  | segment :: rest, imageVirtualBase, imageVirtualEnd =>
    if !loadSegmentValid image segment then .error .invalidSegment
    else
      match rangeEnd segment.virtualAddress segment.memorySize with
      | none => .error .rangeOverflow
      | some virtualEnd =>
        if rest.any (segmentsOverlap segment) then .error .invalidSegment
        else
          spanSegments image rest (min imageVirtualBase segment.virtualAddress)
            (max imageVirtualEnd virtualEnd)

/-- One round of the loop. The rest of it stays closed while the round is opened, since the
end of a range is not to be computed there. -/
theorem spanSegments_cons (image : List UInt8) (segment : LoadSegment) (rest : List LoadSegment)
    (imageVirtualBase imageVirtualEnd : UInt64) :
    spanSegments image (segment :: rest) imageVirtualBase imageVirtualEnd =
      if !loadSegmentValid image segment then .error .invalidSegment
      else
        match rangeEnd segment.virtualAddress segment.memorySize with
        | none => .error .rangeOverflow
        | some virtualEnd =>
          if rest.any (segmentsOverlap segment) then .error .invalidSegment
          else
            spanSegments image rest (min imageVirtualBase segment.virtualAddress)
              (max imageVirtualEnd virtualEnd) := by
  have opened : ∃ others, others = spanSegments image rest ∧
      spanSegments image (segment :: rest) imageVirtualBase imageVirtualEnd =
        if !loadSegmentValid image segment then .error .invalidSegment
        else
          match rangeEnd segment.virtualAddress segment.memorySize with
          | none => .error .rangeOverflow
          | some virtualEnd =>
            if rest.any (segmentsOverlap segment) then .error .invalidSegment
            else
              others (min imageVirtualBase segment.virtualAddress)
                (max imageVirtualEnd virtualEnd) := by
    refine ⟨?others, ?same, ?unfolded⟩
    case unfolded =>
      delta spanSegments
      exact Eq.refl _
    case same =>
      delta spanSegments
      exact Eq.refl _
  obtain ⟨others, rfl, unfolded⟩ := opened
  exact unfolded

def validateSegments (image : List UInt8) (metadata : CodeObjectMetadata) :
    Except MapFailure (UInt64 × UInt64) :=
  if metadata.segments = [] ∨ metadata.segments.length > MaximumLoadSegments then
    .error .invalidSegment
  else
    match spanSegments image metadata.segments u64Max 0 with
    | .error failure => .error failure
    | .ok (imageVirtualBase, imageVirtualEnd) =>
      if imageVirtualBase = u64Max ∨ imageVirtualEnd ≤ imageVirtualBase then .error .invalidSegment
      else
        match signedRelation metadata.descriptorVirtualAddress metadata.kernelEntryOffset
          metadata.codeVirtualAddress with
        | none => .error .invalidSegment
        | some _ => .ok (imageVirtualBase, imageVirtualEnd)

section Copies

/-- The pieces of a range, each at most as large as one transfer: offset and length. -/
def transferPieces (bytes : ℕ) : List (ℕ × ℕ) :=
  let largest := MaximumTransferBytes.toNat
  (List.range ((bytes + largest - 1) / largest)).map fun index =>
    (index * largest, min largest (bytes - index * largest))

/-- Write the pieces of a range, one after the other, until one fails. -/
def writePieces (env : UInt64 → WriteEnv) (address : UInt64) (source : ℕ → ℕ → List UInt8) :
    List (ℕ × ℕ) → HostNativeMemoryContext → WriteEnd × HostNativeMemoryContext
  | [], context => (.written, context)
  | (copied, count) :: rest, context =>
    if address > u64Max - UInt64.ofNat copied then (.refused, context)
    else
      let target := address + UInt64.ofNat copied
      match context.functionalWrite target (source copied count) 0 (env target) with
      | (.written, context) => writePieces env address source rest context
      | (ended, context) => (ended, context)

def writeRange (env : MapEnv) (address : UInt64) (source : List UInt8)
    (context : HostNativeMemoryContext) : WriteEnd × HostNativeMemoryContext :=
  writePieces env.writes address (fun copied count => (source.drop copied).take count)
    (transferPieces source.length) context

/-- Clear a range. The failure of an allocation on the way is caught here. -/
def zeroRange (env : MapEnv) (address bytes : UInt64) (context : HostNativeMemoryContext) :
    Bool × HostNativeMemoryContext :=
  if bytes = 0 then (true, context)
  else if !env.zeros address then (false, context)
  else
    let (ended, context) := writePieces env.writes address (fun _ count => List.replicate count 0)
      (transferPieces bytes.toNat) context
    (ended == .written, context)

/-- Copy one segment into the allocation, and clear what the file does not hold of it. -/
def copySegment (env : MapEnv) (image : List UInt8) (gpuVa mappedBase mappedBytes : UInt64)
    (segment : LoadSegment) (context : HostNativeMemoryContext) :
    Except MapEnd SegmentMapping × HostNativeMemoryContext :=
  let relative := segment.virtualAddress - mappedBase
  if relative > mappedBytes ∨ segment.memorySize > mappedBytes - relative ∨
      gpuVa > u64Max - relative then
    (.error (.failed .rangeOverflow), context)
  else
    let mappedAddress := gpuVa + relative
    let bytes := (image.drop segment.fileOffset.toNat).take segment.fileSize.toNat
    match writeRange env mappedAddress bytes context with
    | (.badAlloc, context) => (.error .badAlloc, context)
    | (.refused, context) => (.error (.failed .copy), context)
    | (.written, context) =>
      let (cleared, context) := zeroRange env (mappedAddress + segment.fileSize)
        (segment.memorySize - segment.fileSize) context
      if !cleared then (.error (.failed .copy), context)
      else (.ok { segment := segment, mappedAddress := mappedAddress }, context)

/-- Copy the segments into the allocation, one after the other, until one fails. -/
def copySegments (env : MapEnv) (image : List UInt8) (gpuVa mappedBase mappedBytes : UInt64) :
    List LoadSegment → HostNativeMemoryContext →
      Except MapEnd (List SegmentMapping) × HostNativeMemoryContext
  | [], context => (.ok [], context)
  | segment :: rest, context =>
    match copySegment env image gpuVa mappedBase mappedBytes segment context with
    | (.error ended, context) => (.error ended, context)
    | (.ok mapped, context) =>
      let (others, context) := copySegments env image gpuVa mappedBase mappedBytes rest context
      (others.map (mapped :: ·), context)

end Copies

/-- Nobody but the one lease of a mapping uses its allocation. -/
def solelyLeased (context : HostNativeMemoryContext) (owner : OwnerKey)
    (handle : AllocationHandle) : Bool :=
  context.memory.functionalPageLeaseCount owner handle == 1 &&
    !context.memory.pinnedDispatchAllocationBusy owner handle

def freeAllocation (context : HostNativeMemoryContext) (owner : OwnerKey)
    (handle : AllocationHandle) : Bool × HostNativeMemoryContext :=
  let (result, memory) := context.memory.free owner handle
  (result.ok, { context with memory := memory })

/-- Give back what a failed map had taken. -/
def rollback (owner : OwnerKey) (context : HostNativeMemoryContext) (lease : Option PageLease)
    (handle : AllocationHandle) : HostNativeMemoryContext :=
  let (leaseReleased, context) :=
    match lease with
    | none => (true, context)
    | some lease =>
      if !lease.valid then (true, context)
      else if solelyLeased context owner handle then context.unmap lease
      else (false, context)
  if leaseReleased && context.memory.functionalPageLeaseCount owner handle == 0 &&
      !context.memory.pinnedDispatchAllocationBusy owner handle then
    (freeAllocation context owner handle).2
  else context

variable (layout : Layout)

/-- The checks of a map, and the span of pages to be mapped. -/
def validateMap (context : HostNativeMemoryContext) (image : List UInt8)
    (metadata : CodeObjectMetadata) (env : MapEnv) : Except MapFailure (UInt64 × UInt64) :=
  let pageBytes := context.pageSize
  let validation := validateCodeObjectMetadata metadata
  if pageBytes ≠ 4096 ∧ pageBytes ≠ 65536 then .error .invalidPageSize
  else if !validation.ok then
    .error (match validation.status with
      | .unsupportedFormat => .unsupportedVersion
      | .targetMismatch => .topologyMismatch
      | _ => .malformedManifest)
  else if image = [] ∨ image.length ≠ metadata.imageSize.toNat ∨
      image.length > MaximumAllocationBytes.toNat then
    .error .imageMismatch
  else if !env.digests ∨ sha256 image ≠ metadata.kernel.imageSha256 then .error .imageMismatch
  else if !layout.validateCodeObjectImage image metadata then .error .invalidImage
  else
    match validateSegments image metadata with
    | .error failure => .error failure
    | .ok (imageVirtualBase, imageVirtualEnd) =>
      if imageVirtualEnd > u64Max - (pageBytes - 1) then .error .rangeOverflow
      else
        let mappedBase := pageOf pageBytes imageVirtualBase
        let mappedEnd := pageOf pageBytes (imageVirtualEnd + pageBytes - 1)
        if mappedEnd ≤ mappedBase ∨ mappedEnd - mappedBase > MaximumAllocationBytes then
          .error .rangeOverflow
        else .ok (mappedBase, mappedEnd)

/-- Where descriptor, code and entry of a mapped code object are. -/
def locateEntry (metadata : CodeObjectMetadata) (gpuVa mappedBase mappedBytes : UInt64) :
    Except MapFailure (UInt64 × UInt64 × UInt64) :=
  let descriptorRelative := metadata.descriptorVirtualAddress - mappedBase
  let codeRelative := metadata.codeVirtualAddress - mappedBase
  if descriptorRelative > mappedBytes ∨ codeRelative > mappedBytes ∨
      gpuVa > u64Max - descriptorRelative ∨ gpuVa > u64Max - codeRelative then
    .error .rangeOverflow
  else
    let descriptorGpuVa := gpuVa + descriptorRelative
    let codeGpuVa := gpuVa + codeRelative
    match signedRelation descriptorGpuVa metadata.kernelEntryOffset codeGpuVa with
    | none => .error .invalidSegment
    | some entryVirtual =>
      let (preloadLength, _) := layout.kernargPreloadSpec metadata.descriptor.toList
      if preloadLength.toNat > MaximumDescriptorPreloadDwords ∨
          (preloadLength ≠ 0 ∧ (metadata.codeSize ≤ layout.kernargPreloadPktSize ∨
            entryVirtual > u64Max - layout.kernargPreloadPktSize)) then
        .error .invalidSegment
      else
        .ok (descriptorGpuVa, codeGpuVa,
          if preloadLength = 0 then entryVirtual else entryVirtual + layout.kernargPreloadPktSize)

def mapCodeObject (owner : OwnerKey) (context : HostNativeMemoryContext) (image : List UInt8)
    (metadata : CodeObjectMetadata) (env : MapEnv) :
    Except MapEnd Mapping × HostNativeMemoryContext :=
  match validateMap layout context image metadata env with
  | .error failure => (.error (.failed failure), context)
  | .ok (mappedBase, mappedEnd) =>
    let mappedBytes := mappedEnd - mappedBase
    let (allocation, memory) := context.memory.allocate owner
      { size := mappedBytes, alignment := context.pageSize } env.allocates
    let context := { context with memory := memory }
    if !allocation.ok then (.error (.failed .allocation), context)
    else
      let handle := allocation.value.allocation
      let gpuVa := allocation.value.gpuVa
      match context.map gpuVa mappedBytes env.emplaces with
      | (none, context) => (.error (.failed .pageMap), rollback owner context none handle)
      | (some lease, context) =>
        if !env.reserves then
          (.error (.failed .allocation), rollback owner context (some lease) handle)
        else
          match copySegments env image gpuVa mappedBase mappedBytes metadata.segments context with
          -- the failure of an allocation leaves the map past its rollback
          | (.error .badAlloc, context) => (.error .badAlloc, context)
          | (.error (.failed failure), context) =>
            (.error (.failed failure), rollback owner context (some lease) handle)
          | (.ok segments, context) =>
            match locateEntry layout metadata gpuVa mappedBase mappedBytes with
            | .error failure =>
              (.error (.failed failure), rollback owner context (some lease) handle)
            | .ok (descriptorGpuVa, codeGpuVa, entryGpuVa) =>
              (.ok
                { allocation := allocation.value
                  lease := lease
                  imageVirtualBase := mappedBase
                  imageVirtualEnd := mappedEnd
                  mappedBytes := mappedBytes
                  descriptorGpuVa := descriptorGpuVa
                  codeGpuVa := codeGpuVa
                  entryGpuVa := entryGpuVa
                  segmentCount := UInt32.ofNat metadata.segments.length
                  segments := segments },
                context)

/-- Release a mapping that nobody else uses. -/
def unmapCodeObject (owner : OwnerKey) (context : HostNativeMemoryContext) (mapping : Mapping) :
    Except MapFailure Unit × HostNativeMemoryContext :=
  if !mapping.valid then (.error .pageMap, context)
  else if mapping.lease.allocation ≠ mapping.allocation.allocation ∨
      !solelyLeased context owner mapping.allocation.allocation then
    (.error .busy, context)
  else
    match context.unmap mapping.lease with
    | (false, context) => (.error .pageMap, context)
    | (true, context) =>
      match freeAllocation context owner mapping.allocation.allocation with
      | (false, context) => (.error .allocation, context)
      | (true, context) => (.ok (), context)

end GemSim.Dispatch
