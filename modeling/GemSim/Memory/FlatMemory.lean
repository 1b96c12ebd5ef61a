import GemSim.Memory.MemoryState

/-!
# Flat memory

What the memory store is for: every live allocation is one contiguous array of bytes,
zero when it is allocated. A read returns a slice of the array, a write replaces one, and
the bytes and the allocations in use are what the table holds.

## Main definitions

* `FlatAllocation`, `FlatMemory` — the arrays and the table of them
* `slice`, `splice` — reading and replacing a range of an array
* `FlatMemory.run` — the operations of the store on the arrays
-/

namespace GemSim.Memory

open GemSim.Lib GemSim.Domain

structure FlatAllocation where
  owner : OwnerKey
  generation : UInt64
  alignment : UInt64
  dispatchRequestId : UInt64 := 0
  functionalPageTokens : Finset UInt64 := ∅
  bytes : List UInt8

structure FlatMemory where
  allocations : SlotTable MaximumAllocations FlatAllocation := SlotTable.empty
  generations : IssueCounter := {}

/-- A range of an array. -/
def slice (bytes : List UInt8) (offset count : ℕ) : List UInt8 := (bytes.drop offset).take count

/-- An array with a range of it replaced. -/
def splice (bytes : List UInt8) (offset : ℕ) (source : List UInt8) : List UInt8 :=
  bytes.take offset ++ source ++ bytes.drop (offset + source.length)

theorem getElem?_splice {bytes source : List UInt8} {offset : ℕ}
    (inside : offset + source.length ≤ bytes.length) (index : ℕ) :
    (splice bytes offset source)[index]? =
      if offset ≤ index ∧ index < offset + source.length then source[index - offset]?
      else bytes[index]? := by
  have start : (bytes.take offset).length = offset := by
    rw [List.length_take]
    omega
  rw [splice, List.append_assoc, List.getElem?_append, start]
  by_cases before : index < offset
  · rw [if_pos before, if_neg (by omega), List.getElem?_take_of_lt before]
  · rw [if_neg before, List.getElem?_append]
    by_cases inner : index - offset < source.length
    · rw [if_pos inner, if_pos (by omega)]
    · rw [if_neg inner, if_neg (by omega), List.getElem?_drop]
      congr 1
      omega

def FlatAllocation.idle (allocation : FlatAllocation) : Bool :=
  allocation.dispatchRequestId == 0 && decide (allocation.functionalPageTokens = ∅)

/-- A range lies in the array. -/
def FlatAllocation.inside (allocation : FlatAllocation) (range : MemoryRange) : Bool :=
  range.offset.toNat + range.bytes.toNat ≤ allocation.bytes.length

def FlatAllocation.read (allocation : FlatAllocation) (range : MemoryRange) : List UInt8 :=
  slice allocation.bytes range.offset.toNat range.bytes.toNat

namespace FlatMemory

def resolve (memory : FlatMemory) (owner : OwnerKey) (handle : AllocationHandle) :
    Option (Fin MaximumAllocations × FlatAllocation) :=
  match slotOfId MaximumAllocations handle.id with
  | none => none
  | some slot =>
    match memory.allocations slot with
    | none => none
    | some allocation =>
      if allocation.owner = owner ∧ allocation.generation = handle.generation then
        some (slot, allocation)
      else none

/-- The bytes in use. -/
def liveBytes (memory : FlatMemory) : ℕ :=
  memory.allocations.total fun allocation => allocation.bytes.length

/-- The allocations in use. -/
def liveAllocations (memory : FlatMemory) : ℕ := memory.allocations.live

def withAllocation (memory : FlatMemory) (slot : Fin MaximumAllocations)
    (allocation : FlatAllocation) : FlatMemory :=
  { memory with allocations := memory.allocations.put slot allocation }

def allocate (memory : FlatMemory) (owner : OwnerKey) (request : AllocationRequest)
    (allocates : Bool) : Result AllocationInfo × FlatMemory :=
  if !validOwner owner then (.failure .invalidArgument .invalidOwner, memory)
  else if request.size = 0 ∨ (request.alignment ≠ 4096 ∧ request.alignment ≠ 65536) then
    (.failure .invalidArgument .invalidRequest, memory)
  else if MaximumAllocationBytes.toNat < request.size.toNat ∨
      MaximumTotalBytes.toNat < memory.liveBytes + request.size.toNat ∨
      MaximumAllocations ≤ memory.liveAllocations then
    (.failure .resourceExhausted .allocation, memory)
  else
    match memory.allocations.firstFree with
    | none => (.failure .resourceExhausted .allocation, memory)
    | some slot =>
      match memory.generations.take with
      | none => (.failure .resourceExhausted .allocation, memory)
      | some (generation, generations) =>
        let memory := { memory with generations := generations }
        if !allocates then (.failure .internal .allocation, memory)
        else
          (.success (infoOf slot generation request.size request.alignment),
            memory.withAllocation slot
              { owner := owner
                generation := generation
                alignment := request.alignment
                bytes := List.replicate request.size.toNat 0 })

def free (memory : FlatMemory) (owner : OwnerKey) (handle : AllocationHandle) :
    Result Unit × FlatMemory :=
  if !validOwner owner then (.failure .invalidArgument .invalidOwner, memory)
  else if !validHandle handle then (.failure .invalidArgument .invalidRequest, memory)
  else
    match memory.resolve owner handle with
    | none => (.failure .staleState .state, memory)
    | some (slot, allocation) =>
      if !allocation.idle then (.failure .busy .busy, memory)
      else (.success (), { memory with allocations := memory.allocations.drop slot })

def validateCopy (memory : FlatMemory) (owner : OwnerKey) (range : MemoryRange)
    (dispatchRequestId : UInt64) : Result Unit :=
  if !validOwner owner then .failure .invalidArgument .invalidOwner
  else if !validHandle range.allocation then .failure .invalidArgument .invalidRequest
  else if range.bytes = 0 ∨ 2 ^ 64 ≤ range.offset.toNat + range.bytes.toNat then
    .failure .invalidArgument .invalidRequest
  else
    match memory.resolve owner range.allocation with
    | none => .failure .staleState .state
    | some (_, allocation) =>
      if !allocation.inside range then .failure .invalidArgument .invalidRequest
      else if allocation.dispatchRequestId ≠ 0 ∧
          allocation.dispatchRequestId ≠ dispatchRequestId then
        .failure .busy .busy
      else if range.bytes > MaximumTransferBytes then .failure .resourceExhausted .overflow
      else .success ()

/-- Replace a range, or change nothing. -/
def copyFromHost (memory : FlatMemory) (owner : OwnerKey) (transfer : Transfer)
    (dispatchRequestId : UInt64) (throws : Bool) : Result Unit × FlatMemory :=
  let range := transfer.range
  let validated := memory.validateCopy owner range dispatchRequestId
  if !validated.ok then (validated, memory)
  else if transfer.bytes.length ≠ range.bytes.toNat then
    (.failure .invalidArgument .invalidRequest, memory)
  else
    match memory.resolve owner range.allocation with
    | none => (.failure .staleState .state, memory)
    | some (slot, allocation) =>
      if throws then (.failure .internal .allocation, memory)
      else
        (.success (), memory.withAllocation slot
          { allocation with
            bytes := splice allocation.bytes range.offset.toNat transfer.bytes })

def copyToHost (memory : FlatMemory) (owner : OwnerKey) (range : MemoryRange)
    (dispatchRequestId : UInt64) (allocates : Bool) : Result Transfer :=
  let validated := memory.validateCopy owner range dispatchRequestId
  if !validated.ok then
    { status := validated.status, reason := validated.reason, value := { range := range } }
  else if !allocates then
    { status := .internal, reason := .allocation, value := { range := range } }
  else
    match memory.resolve owner range.allocation with
    | none => { status := .staleState, reason := .state, value := { range := range } }
    | some (_, allocation) => .success { range := range, bytes := allocation.read range }

def readBytes (memory : FlatMemory) (owner : OwnerKey) (range : MemoryRange) (allocates : Bool) :
    Option (List UInt8) :=
  match memory.resolve owner range.allocation with
  | none => none
  | some (_, allocation) =>
    if range.bytes = 0 ∨ !allocation.inside range ∨ !allocates then none
    else some (allocation.read range)

def pinPinnedDispatchAllocation (memory : FlatMemory) (owner : OwnerKey)
    (handle : AllocationHandle) (requestId : UInt64) : Bool × FlatMemory :=
  match memory.resolve owner handle with
  | none => (false, memory)
  | some (slot, allocation) =>
    if requestId = 0 ∨ !validOwner owner ∨ !validHandle handle ∨ allocation.bytes = [] ∨
        allocation.dispatchRequestId ≠ 0 then
      (false, memory)
    else (true, memory.withAllocation slot { allocation with dispatchRequestId := requestId })

def releasePinnedDispatchAllocation (memory : FlatMemory) (owner : OwnerKey)
    (handle : AllocationHandle) (requestId : UInt64) : Bool × FlatMemory :=
  match memory.resolve owner handle with
  | none => (false, memory)
  | some (slot, allocation) =>
    if requestId = 0 ∨ allocation.dispatchRequestId ≠ requestId then (false, memory)
    else (true, memory.withAllocation slot { allocation with dispatchRequestId := 0 })

def retainFunctionalPage (memory : FlatMemory) (owner : OwnerKey) (handle : AllocationHandle)
    (token : UInt64) : Bool × FlatMemory :=
  match memory.resolve owner handle with
  | none => (false, memory)
  | some (slot, allocation) =>
    if token = 0 ∨ token ∈ allocation.functionalPageTokens then (false, memory)
    else
      (true, memory.withAllocation slot
        { allocation with functionalPageTokens := insert token allocation.functionalPageTokens })

def releaseFunctionalPage (memory : FlatMemory) (owner : OwnerKey) (handle : AllocationHandle)
    (token : UInt64) : Bool × FlatMemory :=
  match memory.resolve owner handle with
  | none => (false, memory)
  | some (slot, allocation) =>
    if token = 0 ∨ token ∉ allocation.functionalPageTokens then (false, memory)
    else
      (true, memory.withAllocation slot
        { allocation with functionalPageTokens := allocation.functionalPageTokens.erase token })

/-- A leaving owner keeps only the allocations that are in use. -/
def disconnect (memory : FlatMemory) (owner : OwnerKey) : FlatMemory :=
  { memory with allocations := memory.allocations.keep fun allocation =>
      !(allocation.owner == owner && allocation.idle) }

def run (memory : FlatMemory) : Call → Reply × FlatMemory
  | .allocate owner request allocates =>
    let (result, after) := memory.allocate owner request allocates
    (.allocated result, after)
  | .free owner handle =>
    let (result, after) := memory.free owner handle
    (.done result, after)
  | .copyFromHost owner transfer dispatchRequestId throwsAfter
  | .functionalWriteBytes owner transfer dispatchRequestId throwsAfter =>
    let (result, after) := memory.copyFromHost owner transfer dispatchRequestId throwsAfter.isSome
    (.done result, after)
  | .copyToHost owner range dispatchRequestId allocates =>
    (.transferred (memory.copyToHost owner range dispatchRequestId allocates), memory)
  | .readBytes owner range allocates => (.read (memory.readBytes owner range allocates), memory)
  | .pinPinnedDispatchAllocation owner handle requestId =>
    let (flag, after) := memory.pinPinnedDispatchAllocation owner handle requestId
    (.returned flag, after)
  | .releasePinnedDispatchAllocation owner handle requestId =>
    let (flag, after) := memory.releasePinnedDispatchAllocation owner handle requestId
    (.returned flag, after)
  | .retainFunctionalPage owner handle token =>
    let (flag, after) := memory.retainFunctionalPage owner handle token
    (.returned flag, after)
  | .releaseFunctionalPage owner handle token =>
    let (flag, after) := memory.releaseFunctionalPage owner handle token
    (.returned flag, after)
  | .disconnect owner => (.nothing, memory.disconnect owner)
  | .clear => (.nothing, { memory with allocations := SlotTable.empty })

def step (memory : FlatMemory) (call : Call) : FlatMemory := (memory.run call).2

def reply (memory : FlatMemory) (call : Call) : Reply := (memory.run call).1

def boot : FlatMemory := {}

end FlatMemory

end GemSim.Memory
