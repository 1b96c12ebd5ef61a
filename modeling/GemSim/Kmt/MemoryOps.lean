import GemSim.Kmt.Call

/-!
# Memory operations

Allocation on the two paths (legacy and of-GPU), free, GPU mapping, copies and
pointer queries. The legacy path derives the VA from the slot; the of-GPU path takes
a requested VA and a backing offset and checks both for overlap.

## Main definitions

* `allocateMemory`, `allocateMemoryOfGpu` — the two allocation paths
* `virtualOverlap`, `backingOverlap` — the overlap tests of the of-GPU path
* `freeMemory`, `freeMemoryOfGpu`, `mapMemoryToGpu`, `unmapMemoryFromGpu`
* `copyMemory`, `pointerInfo`, `modelDrmCall`
-/

namespace GemSim.Kmt

open GemSim.Lib HostGPUKmtState

variable (state : HostGPUKmtState) (call : Call)

/-- The size and alignment `AllocateMemory` admits, given the legacy bytes in use. -/
def legacySizeValid (legacyTotalBytes size alignment : UInt64) : Bool :=
  !(size == 0 || size > MaximumAllocationBytes || alignment == 0 || alignment > ((1 : UInt64) <<< 30) ||
    (alignment &&& (alignment - 1)) != 0 || size > MaximumTotalBytes - legacyTotalBytes)

/-- The VA of a legacy allocation follows from its slot. -/
def legacyVirtualAddress (slot : Fin MaximumAllocations) : UInt64 :=
  VirtualAddressBase + UInt64.ofNat slot * VirtualAddressStride

def legacyAllocation (session : Session) (generation size alignment : UInt64)
    (slot : Fin MaximumAllocations) : Allocation where
  ownerId := session.ownerId
  ownerGeneration := session.ownerGeneration
  generation := generation
  gpuAllocation := false
  size := size
  alignment := alignment
  virtualAddress := legacyVirtualAddress slot
  mmapOffset := 0
  gpuId := 0
  memoryFlags := 0

/-- The words `AllocateMemory` admits. -/
def legacyShapeValid (request : KmtRequest) : Bool :=
  shapeValid request false 0 [0, 1, 2, 3, 4, 5, 6] && wordAt request.argumentWords 0 == 1 &&
    wordAt request.argumentWords 5 == 0 && wordAt request.argumentWords 6 == 0

def allocateMemory : Submitted :=
  if !legacyShapeValid call.request then malformed state call
  else
    let size := splitWords call.request.argumentWords 1 2
    let alignment := splitWords call.request.argumentWords 3 4
    if !legacySizeValid state.legacyTotalBytes size alignment then
      refuse state call .outOfResources
    else
      match state.allocations.firstFree with
      | none => refuse state call .outOfResources
      | some slot =>
        let taken := state.take .allocation call.session.jobEpoch
        let state := state.withNext .allocation taken.2
        if taken.1 = 0 then refuse state call .outOfResources
        else if call.env.badAlloc then
          { refuse state call .noMemory with issued := some (.allocation, taken.1) }
        else
          { state := state.addAllocation slot
              (legacyAllocation call.session taken.1 size alignment slot)
            decision := call.succeed fun response => { response with
              objectId := makeId AllocationPrefix slot
              objectGeneration := taken.1
              resultWords := setWords (setWords (setWords response.resultWords 1 2 size)
                3 4 alignment) 5 6 (legacyVirtualAddress slot) }
            issued := some (.allocation, taken.1) }

def isUserptr (memoryFlags : UInt32) : Bool :=
  (memoryFlags &&& KmtSharedBackingUserptrMemoryFlagMask) != 0

def isDoorbell (memoryFlags : UInt32) : Bool :=
  (memoryFlags &&& KmtSharedBackingDoorbellMemoryFlagMask) != 0

/-- Bytes of the backing an allocation occupies: the doorbell region, or the size
rounded up to the backing alignment. -/
def backingSpan (doorbell : Bool) (size : UInt64) : UInt64 :=
  if doorbell then KmtSharedBackingDoorbellRegionBytes
  else (size + KmtSharedBackingAlignmentBytes - 1) &&& ~~~(KmtSharedBackingAlignmentBytes - 1)

/-- The address arithmetic `AllocateMemoryOfGpu` checks before anything else. -/
def gpuRequestValid (session : Session) (virtualAddress size inputMmapOffset : UInt64)
    (gpuId memoryFlags : UInt32) : Bool :=
  !(session.acquiredGpuId != gpuId || size == 0 || virtualAddress > u64Max - size ||
    (virtualAddress != 0 && (virtualAddress &&& 0xfff) != 0) ||
    (inputMmapOffset != 0 && (inputMmapOffset &&& (KmtSharedBackingAlignmentBytes - 1)) != 0) ||
    (isUserptr memoryFlags && inputMmapOffset > u64Max - size) ||
    (isUserptr memoryFlags && isDoorbell memoryFlags))

/-- The wrapped half-open ranges `[base, finish)` and `[otherBase, otherFinish)` meet. -/
def rangesOverlap (base finish otherBase otherFinish : UInt64) : Bool :=
  base < otherFinish && otherBase < finish

/-- Some live allocation of the session overlaps the VA range. -/
def virtualOverlap (allocations : SlotTable MaximumAllocations Allocation) (session : Session)
    (virtualAddress size : UInt64) : Bool :=
  allocations.holds fun existing => session.owns existing.toIdentity &&
    rangesOverlap virtualAddress (virtualAddress + size) existing.virtualAddress
      (existing.virtualAddress + existing.size)

/-- Some live allocation of the session that is not userptr overlaps the backing span. -/
def backingOverlap (allocations : SlotTable MaximumAllocations Allocation) (session : Session)
    (mmapOffset span : UInt64) : Bool :=
  allocations.holds fun existing => session.owns existing.toIdentity &&
    !isUserptr existing.memoryFlags &&
    rangesOverlap mmapOffset (mmapOffset + span) existing.mmapOffset
      (existing.mmapOffset + backingSpan (isDoorbell existing.memoryFlags) existing.size)

/-- The placement checks of an allocation in the shared backing: the status that
refuses it, if one does. -/
def backingRefusal (session : Session) (size inputMmapOffset : UInt64) (doorbell : Bool)
    (allocations : SlotTable MaximumAllocations Allocation) : Option KmtStatus :=
  let ordinaryBytes := session.sharedBackingBytes - KmtSharedBackingDoorbellRegionBytes
  if !session.sharedBackingExported then some .invalidParameter
  else if doorbell &&
      (size != KmtSharedBackingDoorbellRegionBytes || inputMmapOffset != ordinaryBytes) then
    some .invalidParameter
  else if !doorbell && (size > u64Max - (KmtSharedBackingAlignmentBytes - 1)) then
    some .invalidParameter
  else if !doorbell && (inputMmapOffset > ordinaryBytes ||
      backingSpan false size > ordinaryBytes - inputMmapOffset) then
    some .invalidParameter
  else if backingOverlap allocations session inputMmapOffset (backingSpan doorbell size) then
    some .memoryAlreadyRegistered
  else none

def gpuAllocation (session : Session) (generation size virtualAddress mmapOffset : UInt64)
    (gpuId memoryFlags : UInt32) : Allocation where
  ownerId := session.ownerId
  ownerGeneration := session.ownerGeneration
  generation := generation
  gpuAllocation := true
  size := size
  alignment := 4096
  virtualAddress := virtualAddress
  mmapOffset := mmapOffset
  gpuId := gpuId
  memoryFlags := memoryFlags

/-- Place a checked allocation in the lowest free slot. -/
def placeGpuAllocation (virtualAddress size mmapOffset : UInt64) (gpuId memoryFlags : UInt32) :
    Submitted :=
  match state.allocations.firstFree with
  | none => refuse state call .outOfResources
  | some slot =>
    let taken := state.take .allocation call.session.jobEpoch
    let state := state.withNext .allocation taken.2
    if taken.1 = 0 then refuse state call .outOfResources
    else if call.env.badAlloc then
      { refuse state call .noMemory with issued := some (.allocation, taken.1) }
    else
      { state := state.addAllocation slot
          (gpuAllocation call.session taken.1 size virtualAddress mmapOffset gpuId memoryFlags)
        decision := call.succeed fun response => { response with
          objectId := makeId AllocationPrefix slot
          objectGeneration := taken.1
          resultWords := setWords response.resultWords 0 1 mmapOffset }
        issued := some (.allocation, taken.1) }

def allocateMemoryOfGpu : Submitted :=
  if !shapeValid call.request false 0 [0, 1, 2, 3, 4, 5, 6, 7] then malformed state call
  else
    let virtualAddress := splitWords call.request.argumentWords 0 1
    let size := splitWords call.request.argumentWords 2 3
    let inputMmapOffset := splitWords call.request.argumentWords 4 5
    let gpuId := wordAt call.request.argumentWords 6
    let memoryFlags := wordAt call.request.argumentWords 7
    if !gpuRequestValid call.session virtualAddress size inputMmapOffset gpuId memoryFlags then
      malformed state call
    else if size > u64Max - state.totalBytes then refuse state call .outOfResources
    else if virtualOverlap state.allocations call.session virtualAddress size then
      refuse state call .memoryAlreadyRegistered
    else if isUserptr memoryFlags then
      placeGpuAllocation state call virtualAddress size inputMmapOffset gpuId memoryFlags
    else
      match backingRefusal call.session size inputMmapOffset (isDoorbell memoryFlags)
          state.allocations with
      | some status => refuse state call status
      | none => placeGpuAllocation state call virtualAddress size inputMmapOffset gpuId memoryFlags

/-- Free an allocation of one flavour. -/
def freeAllocation (gpu : Bool) : Submitted :=
  if !shapeValid call.request true 0 [] then malformed state call
  else
    match state.resolveAllocation call.session call.request with
    | none => refuse state call .invalidHandle
    | some (slot, allocation) =>
      if allocation.gpuAllocation != gpu then refuse state call .invalidHandle
      else if allocation.dispatchPins ≠ ∅ then refuse state call .unavailable
      else { state := state.releaseAllocation slot allocation, decision := call.decision }

def freeMemory : Submitted := freeAllocation state call false

def freeMemoryOfGpu : Submitted := freeAllocation state call true

/-- Add a GPU id to the mapped list unless it is there or the list is full. -/
def mapGpuId (mapped : List UInt32) (gpuId : UInt32) : List UInt32 :=
  if mapped.contains gpuId then mapped
  else if mapped.length < 16 then mapped ++ [gpuId]
  else mapped

/-- Take a GPU id off the mapped list, closing the gap. -/
def unmapGpuId (mapped : List UInt32) (gpuId : UInt32) : List UInt32 := mapped.erase gpuId

/-- The shape of a map or unmap request. -/
def remapShapeValid (request : KmtRequest) : Bool :=
  !(!pairPresent request.objectId request.objectGeneration ||
    !pairAbsent request.auxId request.auxGeneration || request.flags != 0 ||
    wordAt request.argumentWords 0 == 0 || wordAt request.argumentWords 0 > 16 ||
    wordAt request.argumentWords 1 != 0 || request.copiedBytes != wordAt request.argumentWords 0 * 4 ||
    request.copiedBytes.toNat > KmtCopiedBufferBytes ||
    request.copiedCrc32c != crc32c (request.copiedBuffer.leading request.copiedBytes.toUInt64))

/-- The GPU ids copied into a map or unmap request. -/
def requestGpuIds (request : KmtRequest) : List UInt32 :=
  (List.range (wordAt request.argumentWords 0).toNat).map fun index =>
    load32 request.copiedBuffer (index * 4)

def gpuIdKnown (gpuId : UInt32) : Bool := !(gpuId < VisibleGpuId || gpuId >= VisibleGpuId + 16)

/-- Change the GPU mappings of an allocation, one copied id after the other. -/
def remapMemory (change : List UInt32 → UInt32 → List UInt32) : Submitted :=
  if !remapShapeValid call.request then malformed state call
  else
    match state.resolveAllocation call.session call.request with
    | none => refuse state call .invalidHandle
    | some (slot, allocation) =>
      if !allocation.gpuAllocation then refuse state call .invalidHandle
      else if allocation.dispatchPins ≠ ∅ then refuse state call .unavailable
      else if !(requestGpuIds call.request).all gpuIdKnown then malformed state call
      else
        { state := state.withAllocation slot { allocation with
            mappedGpuIds := (requestGpuIds call.request).foldl change allocation.mappedGpuIds }
          decision := call.succeed fun response => { response with
            resultWords := setWord response.resultWords 0 (wordAt call.request.argumentWords 0) } }

def mapMemoryToGpu : Submitted := remapMemory state call mapGpuId

def unmapMemoryFromGpu : Submitted := remapMemory state call unmapGpuId

/-- The shape of a copy request, before its allocation is resolved. -/
def copyShapeValid (request : KmtRequest) : Bool :=
  pairPresent request.objectId request.objectGeneration &&
    pairAbsent request.auxId request.auxGeneration && request.flags == 0 &&
    noWordsExcept request.argumentWords [0, 1, 2, 3, 4]

/-- The direction and range of a copy request against the size of its allocation. -/
def copyRangeValid (direction : UInt32) (offset count size : UInt64) : Bool :=
  !((direction != 1 && direction != 2) || count == 0 || count > MaximumTransferBytes ||
    offset > size || count > size - offset)

/-- Copy bytes into the allocation (direction 1) or out of it (direction 2). -/
def copyMemory : Submitted :=
  if !copyShapeValid call.request then malformed state call
  else
    match state.resolveAllocation call.session call.request with
    | none => refuse state call .invalidHandle
    | some (slot, allocation) =>
      if allocation.dispatchPins ≠ ∅ then refuse state call .unavailable
      else
        let direction := wordAt call.request.argumentWords 0
        let offset := splitWords call.request.argumentWords 1 2
        let count := splitWords call.request.argumentWords 3 4
        if !copyRangeValid direction offset count allocation.size then malformed state call
        else if direction == 1 then
          if call.request.copiedBytes.toUInt64 != count ||
              crc32c (call.request.copiedBuffer.leading count) != call.request.copiedCrc32c then
            malformed state call
          else
            { state := state.withAllocation slot { allocation with
                bytes := storeBytes allocation.bytes offset count.toNat fun index =>
                  call.request.copiedBuffer[index]?.getD 0 }
              decision := call.decision }
        else if call.request.copiedBytes != 0 || call.request.copiedCrc32c != 0 then
          malformed state call
        else
          let copied := (loadBytes allocation.bytes offset count.toNat)
          answer state call fun response => { response with
            copiedResult := copied.zipIdx.foldl (fun buffer entry =>
              buffer.setIfInBounds entry.2 entry.1) response.copiedResult
            resultBytes := count.toUInt32
            resultCrc32c := crc32c copied }

def pointerInfo : Submitted :=
  if !shapeValid call.request true 0 [] then malformed state call
  else
    match state.resolveAllocation call.session call.request with
    | none => refuse state call .invalidHandle
    | some (_, allocation) =>
      answer state call fun response => { response with
        resultWords := setWords (setWords response.resultWords 1 2 0) 3 4 allocation.size }

/-- Argument bytes of the modelled DRM commands. -/
def drmArgumentBytes (command : UInt32) : UInt32 :=
  [48, 8, 16, 24, 16, 16, 16, 32, 16, 4, 32, 8, 16, 16, 16].getD command.toNat 0

def modelDrmCall : Submitted :=
  if !shapeValid call.request false call.request.copiedBytes.toUInt64 [0, 1] ||
      wordAt call.request.argumentWords 0 > 14 ||
      (wordAt call.request.argumentWords 1).toNat > KmtCopiedBufferBytes ||
      call.request.copiedBytes != drmArgumentBytes (wordAt call.request.argumentWords 0) then
    malformed state call
  else refuse state call .notSupported

end GemSim.Kmt
