import GemSim.Kmt.Submit

/-!
# Dispatch pins

A dispatch ticket pins its queue, and then the allocations its packet refers to.
The queue counts, for each ticket, the allocations pinned under it; release checks
that count before it takes any pin off.

## Main definitions

* `pinDispatch` — pin the queue of a dispatch
* `pinDispatchResources` — add allocations to a pinned dispatch, all or none
* `releaseDispatch` — take the pins of a ticket off
-/

namespace GemSim.Kmt

open GemSim.Lib HostGPUKmtState

/-- The owner-scoped handle of a dispatch on a queue. -/
structure DispatchRef where
  transportOwner : Owner
  ownerId : UInt64
  ownerGeneration : UInt64
  queueObjectId : UInt64
  queueGeneration : UInt64
  requestId : UInt64
  deriving DecidableEq

/-- Stable owner-scoped identity of one allocation resource. -/
structure AllocationRef where
  objectId : UInt64 := 0
  objectGeneration : UInt64 := 0
  deriving DecidableEq, Repr

/-- Where pinning resources runs out of memory: reserving the list of new pins, or
the insertion after a number of new pins. -/
structure PinFaults where
  reserve : Bool := false
  insert : ℕ → Bool := fun _ => false

variable (state : HostGPUKmtState) (dispatch : DispatchRef)

/-- The queue of a dispatch reference, when its session is open and its ticket is not zero. -/
def dispatchQueue : Option (Fin MaximumQueues × Queue) :=
  match state.findSessionAs dispatch.transportOwner dispatch.ownerId dispatch.ownerGeneration with
  | none => none
  | some _ =>
    if dispatch.requestId = 0 then none
    else
      resolveIn Queue.toIdentity QueuePrefix state.queues dispatch.ownerId
        dispatch.ownerGeneration dispatch.queueObjectId dispatch.queueGeneration

def pinDispatch (badAlloc : Bool) : Bool × HostGPUKmtState :=
  match dispatchQueue state dispatch with
  | none => (false, state)
  | some (slot, queue) =>
    match queue.dispatchPins.lookup dispatch.requestId with
    | some _ => (false, state)
    | none =>
      if badAlloc then (false, state)
      else
        (true, state.withQueue slot
          { queue with dispatchPins := queue.dispatchPins.insert dispatch.requestId 0 })

def Allocation.unpin (allocation : Allocation) (ticket : UInt64) : Allocation :=
  { allocation with dispatchPins := allocation.dispatchPins.erase ticket }

def Allocation.pin (allocation : Allocation) (ticket : UInt64) : Allocation :=
  { allocation with dispatchPins := insert ticket allocation.dispatchPins }

/-- Take a ticket off the allocation in a slot. -/
def unpinSlot (ticket : UInt64) (allocations : SlotTable MaximumAllocations Allocation)
    (slot : Fin MaximumAllocations) : SlotTable MaximumAllocations Allocation :=
  match allocations slot with
  | none => allocations
  | some allocation => allocations.put slot (allocation.unpin ticket)

/-- Undo the new pins of a ticket. -/
def unpinNew (ticket : UInt64) (allocations : SlotTable MaximumAllocations Allocation)
    (newlyPinned : List (Fin MaximumAllocations)) : SlotTable MaximumAllocations Allocation :=
  newlyPinned.foldl (unpinSlot ticket) allocations

/-- The pin loop: the table with every resource pinned and the slots newly pinned, or
the table after the new pins were undone. -/
def pinResources (ownerId ownerGeneration ticket : UInt64) (insertFails : ℕ → Bool) :
    List AllocationRef → SlotTable MaximumAllocations Allocation →
      List (Fin MaximumAllocations) →
      Except (SlotTable MaximumAllocations Allocation)
        (SlotTable MaximumAllocations Allocation × List (Fin MaximumAllocations))
  | [], allocations, newlyPinned => .ok (allocations, newlyPinned)
  | resource :: rest, allocations, newlyPinned =>
    if resource.objectGeneration = 0 then .error (unpinNew ticket allocations newlyPinned)
    else
      match resolveIn Allocation.toIdentity AllocationPrefix allocations ownerId ownerGeneration
          resource.objectId resource.objectGeneration with
      | none => .error (unpinNew ticket allocations newlyPinned)
      | some (slot, allocation) =>
        if ticket ∈ allocation.dispatchPins then
          pinResources ownerId ownerGeneration ticket insertFails rest allocations newlyPinned
        else if insertFails newlyPinned.length then
          .error (unpinNew ticket allocations newlyPinned)
        else
          pinResources ownerId ownerGeneration ticket insertFails rest
            (allocations.put slot (allocation.pin ticket)) (newlyPinned ++ [slot])

def pinDispatchResources (resources : List AllocationRef) (faults : PinFaults) :
    Bool × HostGPUKmtState :=
  match dispatchQueue state dispatch with
  | none => (false, state)
  | some (slot, queue) =>
    match queue.dispatchPins.lookup dispatch.requestId with
    | none => (false, state)
    | some pinned =>
      if faults.reserve then (false, state)
      else
        match pinResources dispatch.ownerId dispatch.ownerGeneration dispatch.requestId
            faults.insert resources state.allocations [] with
        | .error allocations => (false, { state with allocations := allocations })
        | .ok (allocations, newlyPinned) =>
          -- The sizes are `size_t`: a count that would wrap undoes the pins.
          if newlyPinned.length > (u64Max - pinned).toNat then
            (false, { state with
              allocations := unpinNew dispatch.requestId allocations newlyPinned })
          else
            (true, { state.withQueue slot { queue with
                dispatchPins := queue.dispatchPins.insert dispatch.requestId
                  (pinned + UInt64.ofNat newlyPinned.length) } with
              allocations := allocations })

/-- The allocation belongs to an owner generation. -/
def Allocation.ownedBy (allocation : Allocation) (ownerId ownerGeneration : UInt64) : Bool :=
  allocation.ownerId == ownerId && allocation.ownerGeneration == ownerGeneration

/-- The number of an owner's allocations pinned under a ticket. -/
def pinnedCount (allocations : SlotTable MaximumAllocations Allocation)
    (ownerId ownerGeneration ticket : UInt64) : ℕ :=
  allocations.total fun allocation =>
    if allocation.ownedBy ownerId ownerGeneration ∧ ticket ∈ allocation.dispatchPins then 1 else 0

def releaseDispatch : Bool × HostGPUKmtState :=
  match dispatchQueue state dispatch with
  | none => (false, state)
  | some (slot, queue) =>
    match queue.dispatchPins.lookup dispatch.requestId with
    | none => (false, state)
    | some expected =>
      if UInt64.ofNat (pinnedCount state.allocations dispatch.ownerId dispatch.ownerGeneration
          dispatch.requestId) ≠ expected then (false, state)
      else
        (true, { state.withQueue slot
            { queue with dispatchPins := queue.dispatchPins.erase dispatch.requestId } with
          allocations := state.allocations.modify fun allocation =>
            if allocation.ownedBy dispatch.ownerId dispatch.ownerGeneration then
              allocation.unpin dispatch.requestId
            else allocation })

end GemSim.Kmt
