import GemSim.Domain.Types
import GemSim.Lib.Chunks
import GemSim.Lib.Handles
import Mathlib.Data.Finset.Basic
import Mathlib.Data.UInt

/-!
# Bridge-owned functional memory

Allocations live in a fixed table of slots and are named by handles. The bytes of an
allocation are kept in chunks that are created when they are first written. An allocation
can be pinned by one dispatch and leased page by page under tokens; neither lets it be
freed. Whether an allocation of host memory succeeds is an argument of the operation. A
size always fits the host's own size type, so the checks against its bound are left out.

## Main definitions

* `HostGPUMemoryState` — the table, the counter of generations and the live counters
* `resolve` — the allocation a handle names for an owner
* `allocate`, `free`, `copyFromHost`, `copyToHost`, `readBytes`, … — its methods
* `Call`, `Reply`, `run`, `step` — the store as a machine
-/

namespace GemSim.Memory

open GemSim.Lib GemSim.Domain

abbrev MaximumAllocations : ℕ := 1024
def MaximumAllocationBytes : UInt64 := (2 : UInt64) <<< 30
def MaximumTotalBytes : UInt64 := (4 : UInt64) <<< 30
def ChunkBytes : ℕ := 64 * 2 ^ 10
def VirtualAddressBase : UInt64 := 0x0000100000000000
def VirtualAddressStride : UInt64 := (2 : UInt64) <<< 30

instance : NeZero ChunkBytes := ⟨by decide⟩

structure Allocation where
  owner : OwnerKey
  generation : UInt64
  size : UInt64
  alignment : UInt64
  dispatchRequestId : UInt64 := 0
  chunks : ChunkMap UInt8 := fun _ => none
  functionalPageTokens : Finset UInt64 := ∅

structure HostGPUMemoryState where
  allocations : SlotTable MaximumAllocations Allocation := SlotTable.empty
  generations : IssueCounter := {}
  liveAllocations : UInt64 := 0
  liveBytes : UInt64 := 0

def virtualAddress (slot : Fin MaximumAllocations) : UInt64 :=
  VirtualAddressBase + UInt64.ofNat slot * VirtualAddressStride

/-- An allocation may be freed when no dispatch pins it and no page of it is leased. -/
def Allocation.idle (allocation : Allocation) : Bool :=
  allocation.dispatchRequestId == 0 && decide (allocation.functionalPageTokens = ∅)

def rangeValid (allocation : Allocation) (range : MemoryRange) : Bool :=
  range.offset ≤ allocation.size && range.bytes ≤ allocation.size - range.offset

def validOwner (owner : OwnerKey) : Bool := owner.scope != 0 && owner.generation != 0

def validHandle (handle : AllocationHandle) : Bool := handle.id != 0 && handle.generation != 0

/-- What the owner of a handle is told of its allocation. -/
def infoOf (slot : Fin MaximumAllocations) (generation size alignment : UInt64) : AllocationInfo :=
  { allocation := { id := idOfSlot slot, generation := generation }
    gpuVa := virtualAddress slot
    size := size
    alignment := alignment }

namespace HostGPUMemoryState

/-- The allocation a handle names for an owner, with its slot. -/
def resolve (memory : HostGPUMemoryState) (owner : OwnerKey) (handle : AllocationHandle) :
    Option (Fin MaximumAllocations × Allocation) :=
  match slotOfId MaximumAllocations handle.id with
  | none => none
  | some slot =>
    match memory.allocations slot with
    | none => none
    | some allocation =>
      if allocation.owner = owner ∧ allocation.generation = handle.generation then
        some (slot, allocation)
      else none

/-- Put back an allocation that was changed in its slot. -/
def withAllocation (memory : HostGPUMemoryState) (slot : Fin MaximumAllocations)
    (allocation : Allocation) : HostGPUMemoryState :=
  { memory with allocations := memory.allocations.put slot allocation }

/-- Empty a slot, with its counters. -/
def release (memory : HostGPUMemoryState) (slot : Fin MaximumAllocations)
    (allocation : Allocation) : HostGPUMemoryState :=
  { memory with
    allocations := memory.allocations.drop slot
    liveAllocations := memory.liveAllocations - 1
    liveBytes := memory.liveBytes - allocation.size }

def allocate (memory : HostGPUMemoryState) (owner : OwnerKey) (request : AllocationRequest)
    (allocates : Bool) : Result AllocationInfo × HostGPUMemoryState :=
  if !validOwner owner then (.failure .invalidArgument .invalidOwner, memory)
  else if request.size = 0 ∨ (request.alignment ≠ 4096 ∧ request.alignment ≠ 65536) then
    (.failure .invalidArgument .invalidRequest, memory)
  else if request.size > MaximumAllocationBytes ∨
      request.size > MaximumTotalBytes - memory.liveBytes ∨
      memory.liveAllocations ≥ UInt64.ofNat MaximumAllocations then
    (.failure .resourceExhausted .allocation, memory)
  else
    match memory.allocations.firstFree with
    | none => (.failure .resourceExhausted .allocation, memory)
    | some slot =>
      match memory.generations.take with
      | none => (.failure .resourceExhausted .allocation, memory)
      | some (generation, generations) =>
        let memory := { memory with generations := generations }
        if !allocates then (.failure .internal .allocation, memory)
        else
          (.success (infoOf slot generation request.size request.alignment),
            { memory with
              allocations := memory.allocations.put slot
                { owner := owner
                  generation := generation
                  size := request.size
                  alignment := request.alignment }
              liveAllocations := memory.liveAllocations + 1
              liveBytes := memory.liveBytes + request.size })

def free (memory : HostGPUMemoryState) (owner : OwnerKey) (handle : AllocationHandle) :
    Result Unit × HostGPUMemoryState :=
  if !validOwner owner then (.failure .invalidArgument .invalidOwner, memory)
  else if !validHandle handle then (.failure .invalidArgument .invalidRequest, memory)
  else
    match memory.resolve owner handle with
    | none => (.failure .staleState .state, memory)
    | some (slot, allocation) =>
      if !allocation.idle then (.failure .busy .busy, memory)
      else (.success (), memory.release slot allocation)

def validateCopy (memory : HostGPUMemoryState) (owner : OwnerKey) (range : MemoryRange)
    (dispatchRequestId : UInt64) : Result Unit :=
  if !validOwner owner then .failure .invalidArgument .invalidOwner
  else if !validHandle range.allocation then .failure .invalidArgument .invalidRequest
  else if range.bytes = 0 ∨ range.offset > u64Max - range.bytes then
    .failure .invalidArgument .invalidRequest
  else
    match memory.resolve owner range.allocation with
    | none => .failure .staleState .state
    | some (_, allocation) =>
      if !rangeValid allocation range then .failure .invalidArgument .invalidRequest
      else if allocation.dispatchRequestId ≠ 0 ∧
          allocation.dispatchRequestId ≠ dispatchRequestId then
        .failure .busy .busy
      else if range.bytes > MaximumTransferBytes then .failure .resourceExhausted .overflow
      else .success ()

/-- Copy into an allocation. An allocation of host memory may throw after some of the
missing chunks were inserted; these are then erased again. -/
def copyFromHost (memory : HostGPUMemoryState) (owner : OwnerKey) (transfer : Transfer)
    (dispatchRequestId : UInt64) (throwsAfter : Option ℕ) : Result Unit × HostGPUMemoryState :=
  let range := transfer.range
  let validated := memory.validateCopy owner range dispatchRequestId
  if !validated.ok then (validated, memory)
  else if transfer.bytes.length ≠ range.bytes.toNat then
    (.failure .invalidArgument .invalidRequest, memory)
  else
    match memory.resolve owner range.allocation with
    | none => (.failure .staleState .state, memory)
    | some (slot, allocation) =>
      let prepared := ChunkMap.missingChunks ChunkBytes allocation.chunks range.offset.toNat
        range.bytes.toNat
      match throwsAfter with
      | some count =>
        let inserted := prepared.take count
        let chunks := ChunkMap.insertChunks allocation.chunks inserted
        (.failure .internal .allocation, memory.withAllocation slot
          { allocation with chunks := ChunkMap.eraseChunks chunks inserted })
      | none =>
        let chunks := ChunkMap.insertChunks allocation.chunks prepared
        (.success (), memory.withAllocation slot
          { allocation with
            chunks := ChunkMap.writeLoop ChunkBytes (fun index => transfer.bytes.getD index 0)
              range.offset.toNat range.bytes.toNat 0 chunks })

def functionalWriteBytes := copyFromHost

/-- The bytes of a range of an allocation. -/
def bytesOf (allocation : Allocation) (range : MemoryRange) : List UInt8 :=
  ChunkMap.readLoop ChunkBytes allocation.chunks range.offset.toNat range.bytes.toNat 0

def copyToHost (memory : HostGPUMemoryState) (owner : OwnerKey) (range : MemoryRange)
    (dispatchRequestId : UInt64) (allocates : Bool) : Result Transfer :=
  let validated := memory.validateCopy owner range dispatchRequestId
  if !validated.ok then
    { status := validated.status, reason := validated.reason, value := { range := range } }
  else if !allocates then
    { status := .internal, reason := .allocation, value := { range := range } }
  else
    match memory.resolve owner range.allocation with
    | none => { status := .staleState, reason := .state, value := { range := range } }
    | some (_, allocation) => .success { range := range, bytes := bytesOf allocation range }

/-- Read a range without regard to pins. -/
def readBytes (memory : HostGPUMemoryState) (owner : OwnerKey) (range : MemoryRange)
    (allocates : Bool) : Option (List UInt8) :=
  match memory.resolve owner range.allocation with
  | none => none
  | some (_, allocation) =>
    if range.bytes = 0 ∨ !rangeValid allocation range ∨ !allocates then none
    else some (bytesOf allocation range)

def validatePinnedDispatchAllocationIdentity (memory : HostGPUMemoryState) (owner : OwnerKey)
    (handle : AllocationHandle) (minimumBytes : UInt64) : Result Unit :=
  if !validOwner owner then .failure .invalidArgument .invalidOwner
  else if !validHandle handle ∨ minimumBytes = 0 then .failure .invalidArgument .invalidRequest
  else
    match memory.resolve owner handle with
    | none => .failure .staleState .state
    | some (_, allocation) =>
      if allocation.size < minimumBytes then .failure .staleState .state else .success ()

def pinnedDispatchAllocationBusy (memory : HostGPUMemoryState) (owner : OwnerKey)
    (handle : AllocationHandle) : Bool :=
  match memory.resolve owner handle with
  | none => true
  | some (_, allocation) => allocation.dispatchRequestId != 0

def validatePinnedDispatchAllocation (memory : HostGPUMemoryState) (owner : OwnerKey)
    (handle : AllocationHandle) (minimumBytes : UInt64) : Result Unit :=
  let identity := memory.validatePinnedDispatchAllocationIdentity owner handle minimumBytes
  if !identity.ok then identity
  else if memory.pinnedDispatchAllocationBusy owner handle then .failure .busy .busy
  else .success ()

def pinPinnedDispatchAllocation (memory : HostGPUMemoryState) (owner : OwnerKey)
    (handle : AllocationHandle) (requestId : UInt64) : Bool × HostGPUMemoryState :=
  if requestId = 0 ∨ !(memory.validatePinnedDispatchAllocation owner handle 1).ok then
    (false, memory)
  else
    match memory.resolve owner handle with
    | none => (false, memory)
    | some (slot, allocation) =>
      (true, memory.withAllocation slot { allocation with dispatchRequestId := requestId })

def releasePinnedDispatchAllocation (memory : HostGPUMemoryState) (owner : OwnerKey)
    (handle : AllocationHandle) (requestId : UInt64) : Bool × HostGPUMemoryState :=
  match memory.resolve owner handle with
  | none => (false, memory)
  | some (slot, allocation) =>
    if requestId = 0 ∨ allocation.dispatchRequestId ≠ requestId then (false, memory)
    else (true, memory.withAllocation slot { allocation with dispatchRequestId := 0 })

def retainFunctionalPage (memory : HostGPUMemoryState) (owner : OwnerKey)
    (handle : AllocationHandle) (token : UInt64) : Bool × HostGPUMemoryState :=
  if token = 0 then (false, memory)
  else
    match memory.resolve owner handle with
    | none => (false, memory)
    | some (slot, allocation) =>
      if token ∈ allocation.functionalPageTokens then (false, memory)
      else
        (true, memory.withAllocation slot
          { allocation with functionalPageTokens := insert token allocation.functionalPageTokens })

def releaseFunctionalPage (memory : HostGPUMemoryState) (owner : OwnerKey)
    (handle : AllocationHandle) (token : UInt64) : Bool × HostGPUMemoryState :=
  match memory.resolve owner handle with
  | none => (false, memory)
  | some (slot, allocation) =>
    if token = 0 ∨ token ∉ allocation.functionalPageTokens then (false, memory)
    else
      (true, memory.withAllocation slot
        { allocation with functionalPageTokens := allocation.functionalPageTokens.erase token })

def functionalPageLeaseCount (memory : HostGPUMemoryState) (owner : OwnerKey)
    (handle : AllocationHandle) : ℕ :=
  match memory.resolve owner handle with
  | none => 0
  | some (_, allocation) => allocation.functionalPageTokens.card

def allocationView (memory : HostGPUMemoryState) (owner : OwnerKey)
    (handle : AllocationHandle) : Option AllocationInfo :=
  (memory.resolve owner handle).map fun (slot, allocation) =>
    { infoOf slot handle.generation allocation.size allocation.alignment with allocation := handle }

/-- The allocation of an owner that holds a range of addresses. -/
def allocationViewContaining (memory : HostGPUMemoryState) (owner : OwnerKey)
    (gpuVa byteCount : UInt64) : Option AllocationInfo :=
  if byteCount = 0 ∨ gpuVa < VirtualAddressBase then none
  else
    let relative := gpuVa - VirtualAddressBase
    let index := (relative / VirtualAddressStride).toNat
    if inside : index < MaximumAllocations then
      match memory.allocations ⟨index, inside⟩ with
      | none => none
      | some allocation =>
        let offset := relative % VirtualAddressStride
        if allocation.owner ≠ owner ∨ offset > allocation.size ∨
            byteCount > allocation.size - offset then none
        else
          some (infoOf ⟨index, inside⟩ allocation.generation allocation.size allocation.alignment)
    else none

/-- Release the allocations of a leaving owner that are not in use. -/
def disconnect (memory : HostGPUMemoryState) (owner : OwnerKey) : HostGPUMemoryState :=
  SlotTable.sweep allocations (fun allocation => allocation.owner == owner && allocation.idle)
    (fun slot allocation memory => memory.release slot allocation) memory

def clear (memory : HostGPUMemoryState) : HostGPUMemoryState :=
  { memory with allocations := SlotTable.empty, liveAllocations := 0, liveBytes := 0 }

end HostGPUMemoryState

/-- A call of a method, with the outcome of its allocations of host memory. -/
inductive Call where
  | allocate (owner : OwnerKey) (request : AllocationRequest) (allocates : Bool)
  | free (owner : OwnerKey) (handle : AllocationHandle)
  | copyFromHost (owner : OwnerKey) (transfer : Transfer) (dispatchRequestId : UInt64)
      (throwsAfter : Option ℕ)
  | functionalWriteBytes (owner : OwnerKey) (transfer : Transfer) (dispatchRequestId : UInt64)
      (throwsAfter : Option ℕ)
  | copyToHost (owner : OwnerKey) (range : MemoryRange) (dispatchRequestId : UInt64)
      (allocates : Bool)
  | readBytes (owner : OwnerKey) (range : MemoryRange) (allocates : Bool)
  | pinPinnedDispatchAllocation (owner : OwnerKey) (handle : AllocationHandle) (requestId : UInt64)
  | releasePinnedDispatchAllocation (owner : OwnerKey) (handle : AllocationHandle)
      (requestId : UInt64)
  | retainFunctionalPage (owner : OwnerKey) (handle : AllocationHandle) (token : UInt64)
  | releaseFunctionalPage (owner : OwnerKey) (handle : AllocationHandle) (token : UInt64)
  | disconnect (owner : OwnerKey)
  | clear

/-- What a call returns. -/
inductive Reply where
  | allocated (result : Result AllocationInfo)
  | done (result : Result Unit)
  | transferred (result : Result Transfer)
  | read (destination : Option (List UInt8))
  | returned (flag : Bool)
  | nothing

namespace HostGPUMemoryState

def run (memory : HostGPUMemoryState) : Call → Reply × HostGPUMemoryState
  | .allocate owner request allocates =>
    let (result, after) := memory.allocate owner request allocates
    (.allocated result, after)
  | .free owner handle =>
    let (result, after) := memory.free owner handle
    (.done result, after)
  | .copyFromHost owner transfer dispatchRequestId throwsAfter =>
    let (result, after) := memory.copyFromHost owner transfer dispatchRequestId throwsAfter
    (.done result, after)
  | .functionalWriteBytes owner transfer dispatchRequestId throwsAfter =>
    let (result, after) := memory.functionalWriteBytes owner transfer dispatchRequestId throwsAfter
    (.done result, after)
  | .copyToHost owner range dispatchRequestId allocates =>
    (.transferred (memory.copyToHost owner range dispatchRequestId allocates), memory)
  | .readBytes owner range allocates => (.read (memory.readBytes owner range allocates), memory)
  | .pinPinnedDispatchAllocation owner handle requestId =>
    let (flag, after) := memory.pinPinnedDispatchAllocation owner handle requestId
    (.returned flag, after)
  | .releasePinnedDispatchAllocation owner handle requestId =>
    let (flag, after) := memory.releasePinnedDispatchAllocation owner handle requestId
    (.returned flag, after)
  | .retainFunctionalPage owner handle token =>
    let (flag, after) := memory.retainFunctionalPage owner handle token
    (.returned flag, after)
  | .releaseFunctionalPage owner handle token =>
    let (flag, after) := memory.releaseFunctionalPage owner handle token
    (.returned flag, after)
  | .disconnect owner => (.nothing, memory.disconnect owner)
  | .clear => (.nothing, memory.clear)

def step (memory : HostGPUMemoryState) (call : Call) : HostGPUMemoryState := (memory.run call).2

def reply (memory : HostGPUMemoryState) (call : Call) : Reply := (memory.run call).1

/-- A freshly constructed store. -/
def boot : HostGPUMemoryState := {}

end HostGPUMemoryState

end GemSim.Memory
