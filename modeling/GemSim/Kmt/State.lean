import GemSim.Kmt.Protocol
import GemSim.Lib.SlotTable
import GemSim.Lib.SparseBytes
import Mathlib.Data.Finmap
import Mathlib.Data.Finset.Basic

/-!
# KMT state

The daemon-owned state behind the KMT envelope: sessions, allocations, queues and
events in fixed slot tables, one generation counter for each kind of object, and
the live counters. Every object handle is a slot id under a kind prefix together
with the generation the slot was filled with.

## Main definitions

* `HostGPUKmtState` — the whole state, `construct` its constructor
* `makeId`, `idHasPrefix`, `idSlot` — slot ids under a kind prefix
* `takeGeneration` — the next generation of a kind
* `findSession`, `findSessionAs`, `resolveIn` — handle resolution
* `addAllocation`, `releaseAllocation` and their like — one slot filled or freed with
  its counters
* `memoryInfo`, `readMemory`, `writeMemory` — functional access by GPU VA

## Main results

* `idSlot_makeId`, `makeId_inj` — slot ids name their slot
* `resolveIn_eq_some` — what a resolved handle says about the table
* `takeGeneration_cases` — a counter moves forward and never past its range
-/

namespace GemSim.Kmt

open GemSim.Lib

abbrev MaximumOwners : ℕ := 64
abbrev MaximumAllocations : ℕ := 1024
abbrev MaximumQueues : ℕ := 8
abbrev MaximumEvents : ℕ := 1024
def MaximumAllocationBytes : UInt64 := (2 : UInt64) <<< 30
def MaximumTotalBytes : UInt64 := (4 : UInt64) <<< 30
def MaximumTransferBytes : UInt64 := 128
def ClockFrequencyHz : UInt64 := KmtClockFrequencyHz
def VirtualAddressBase : UInt64 := 0x0000200000000000
def VirtualAddressStride : UInt64 := (2 : UInt64) <<< 30
def VisibleGpuId : UInt32 := 38144
def ProcessAperturesPerPage : UInt32 := 2
def LdsBase : UInt64 := 0x0001000000000000
def LdsLimit : UInt64 := LdsBase + 0xffffffff
def ScratchBase : UInt64 := 0x0002000000000000
def ScratchLimit : UInt64 := ScratchBase + 0xffffffff
def GpuvmBase : UInt64 := 0x0000000000010000
def GpuvmLimit : UInt64 := 0x00007fffffffffff

def OwnerPrefix : UInt64 := 0x4b4d540000000000
def AllocationPrefix : UInt64 := 0x4d454d0000000000
def QueuePrefix : UInt64 := 0x5155450000000000
def EventPrefix : UInt64 := 0x45564e0000000000
def SlotMask : UInt64 := 0x000000ffffffffff

/-- A transport connection, as the bridge names it. -/
structure Owner where
  fd : Int32 := -1
  clientGeneration : UInt64 := 0
  deriving DecidableEq, Repr

/-- The response of one submission, and whether it used up its sequence number. -/
structure Decision where
  response : KmtResponse := {}
  sequenceConsumed : Bool := false
  deriving DecidableEq

/-- One open KFD connection. -/
structure Session where
  transportOwner : Owner
  ownerId : UInt64
  ownerGeneration : UInt64
  lastSequence : UInt64
  jobEpoch : UInt64
  acquiredGpuId : UInt32 := 0
  acquiredRenderMinor : UInt32 := 0
  memoryPolicySet : Bool := false
  memoryPolicyGpuId : UInt32 := 0
  memoryPolicyDefault : UInt32 := 0
  memoryPolicyAlternate : UInt32 := 0
  memoryPolicyMisc : UInt32 := 0
  memoryPolicyBase : UInt64 := 0
  memoryPolicySize : UInt64 := 0
  scratchBackingSet : Bool := false
  scratchBackingGpuId : UInt32 := 0
  scratchBackingVa : UInt64 := 0
  sharedBackingExported : Bool := false
  sharedBackingBytes : UInt64 := 0
  sharedBackingPageBytes : UInt32 := 0
  deriving DecidableEq

/-- What every object records about its owner and its own slot's generation. -/
structure Identity where
  ownerId : UInt64
  ownerGeneration : UInt64
  generation : UInt64
  deriving DecidableEq

/-- A memory allocation. The mapped GPU ids are the leading `mappedGpuCount`
entries of the source's array. -/
structure Allocation extends Identity where
  gpuAllocation : Bool
  size : UInt64
  alignment : UInt64
  virtualAddress : UInt64
  mmapOffset : UInt64
  gpuId : UInt32
  memoryFlags : UInt32
  mappedGpuIds : List UInt32 := []
  bytes : SparseBytes := fun _ => 0
  dispatchPins : Finset UInt64 := ∅

/-- A compute queue. `dispatchPins` maps a ticket to the number of allocations
pinned under it. -/
structure Queue extends Identity where
  clientQueueId : UInt32
  registeredIndex : UInt32
  ringBase : UInt64
  ringBytes : UInt64
  readPointer : UInt64
  writePointer : UInt64
  depth : UInt32
  queueType : UInt32
  doorbellOffset : UInt64
  completionOffset : UInt64
  lastDoorbell : UInt64 := 0
  dispatchPins : Finmap (fun _ : UInt64 => UInt64) := ∅

/-- The part of a queue the bridge reads. -/
structure QueueInfo where
  clientQueueId : UInt32
  registeredIndex : UInt32
  generation : UInt64
  ringBase : UInt64
  ringBytes : UInt64
  readPointer : UInt64
  writePointer : UInt64
  depth : UInt32
  queueType : UInt32
  doorbellOffset : UInt64
  completionOffset : UInt64
  lastDoorbell : UInt64
  deriving DecidableEq

def Queue.info (queue : Queue) : QueueInfo where
  clientQueueId := queue.clientQueueId
  registeredIndex := queue.registeredIndex
  generation := queue.generation
  ringBase := queue.ringBase
  ringBytes := queue.ringBytes
  readPointer := queue.readPointer
  writePointer := queue.writePointer
  depth := queue.depth
  queueType := queue.queueType
  doorbellOffset := queue.doorbellOffset
  completionOffset := queue.completionOffset
  lastDoorbell := queue.lastDoorbell

/-- A host event. -/
structure Event extends Identity where
  value : UInt64
  sequence : UInt64 := 0
  deriving DecidableEq

/-- The KMT state. -/
structure HostGPUKmtState where
  sessions : SlotTable MaximumOwners Session := SlotTable.empty
  allocations : SlotTable MaximumAllocations Allocation := SlotTable.empty
  queues : SlotTable MaximumQueues Queue := SlotTable.empty
  events : SlotTable MaximumEvents Event := SlotTable.empty
  nextOwnerGeneration : UInt64 := 0
  nextAllocationGeneration : UInt64 := 0
  nextQueueGeneration : UInt64 := 0
  nextEventGeneration : UInt64 := 0
  initialEpoch : UInt64 := 1
  clockTicksPerNanosecond : UInt64 := 1000
  lastClockNanoseconds : UInt64 := 0
  liveOwners : UInt64 := 0
  liveAllocations : UInt64 := 0
  liveQueues : UInt64 := 0
  liveEvents : UInt64 := 0
  legacyTotalBytes : UInt64 := 0
  totalBytes : UInt64 := 0

namespace HostGPUKmtState

/-- The constructor; a zero clock scale is an invalid argument. -/
def construct (epoch ticksPerNanosecond : UInt64) : Option HostGPUKmtState :=
  if ticksPerNanosecond = 0 then none
  else some
    { initialEpoch := if epoch = 0 then 1 else epoch
      clockTicksPerNanosecond := ticksPerNanosecond }

theorem eq_of_construct {epoch ticksPerNanosecond : UInt64} {start : HostGPUKmtState}
    (constructed : construct epoch ticksPerNanosecond = some start) :
    start =
      { initialEpoch := if epoch = 0 then 1 else epoch
        clockTicksPerNanosecond := ticksPerNanosecond } := by
  unfold construct at constructed
  split at constructed
  · cases constructed
  · exact (Option.some.inj constructed).symm

/-- Sample the daemon-global synthetic HSA clock in nanoseconds. -/
def sampleClockNanoseconds (state : HostGPUKmtState) (curTick : UInt64) :
    UInt64 × HostGPUKmtState :=
  let sample := curTick / state.clockTicksPerNanosecond
  let sample := if sample ≠ u64Max then sample + 1 else sample
  let sample :=
    if sample ≤ state.lastClockNanoseconds ∧ state.lastClockNanoseconds ≠ u64Max then
      state.lastClockNanoseconds + 1
    else sample
  (sample, { state with lastClockNanoseconds := sample })

end HostGPUKmtState

section Identifiers

def pairPresent (id generation : UInt64) : Bool := id != 0 && generation != 0

def pairAbsent (id generation : UInt64) : Bool := id == 0 && generation == 0

def makeId (idPrefix : UInt64) (slot : ℕ) : UInt64 := idPrefix ||| UInt64.ofNat (slot + 1)

def idHasPrefix (id idPrefix : UInt64) : Bool :=
  (id &&& ~~~SlotMask) == idPrefix && (id &&& SlotMask) != 0

def idSlot (id : UInt64) : ℕ := ((id &&& SlotMask) - 1).toNat

/-- The next generation of a kind of object and the counter after it. A job epoch
pulls the counter forward; a counter at the end of its range gives out nothing. -/
def takeGeneration (initialEpoch counter preferred : UInt64) : UInt64 × UInt64 :=
  let preferred := if preferred = 0 then initialEpoch else preferred
  let counter := if counter = 0 then preferred else counter
  let counter := if counter < preferred then preferred else counter
  if counter = 0 ∨ counter = u64Max then (0, counter) else (counter, counter + 1)

/-- The session owns the object. -/
def Session.owns (session : Session) (identity : Identity) : Bool :=
  identity.ownerId == session.ownerId && identity.ownerGeneration == session.ownerGeneration

/-- Resolve a handle in a slot table: the prefix names the kind, the slot must be
taken, and owner, owner generation and generation must all match. -/
def resolveIn {n : ℕ} {α : Type*} (identity : α → Identity) (idPrefix : UInt64)
    (table : SlotTable n α) (ownerId ownerGeneration objectId objectGeneration : UInt64) :
    Option (Fin n × α) :=
  if idHasPrefix objectId idPrefix then
    if inside : idSlot objectId < n then
      match table ⟨idSlot objectId, inside⟩ with
      | none => none
      | some object =>
        if (identity object).ownerId = ownerId ∧
            (identity object).ownerGeneration = ownerGeneration ∧
            (identity object).generation = objectGeneration then
          some (⟨idSlot objectId, inside⟩, object)
        else none
    else none
  else none

@[simp] theorem toNat_SlotMask : SlotMask.toNat = 2 ^ 40 - 1 := rfl

theorem ofNat_and_SlotMask {slot : ℕ} (small : slot < 2 ^ 40) :
    UInt64.ofNat slot &&& SlotMask = UInt64.ofNat slot := by
  rw [← UInt64.toNat_inj, toNat_and_mask _ _ toNat_SlotMask, UInt64.toNat_ofNat',
    Nat.mod_eq_of_lt (by omega : slot < 2 ^ 64), Nat.mod_eq_of_lt small]

theorem makeId_and_SlotMask {idPrefix : UInt64} {slot : ℕ} (clear : idPrefix &&& SlotMask = 0)
    (small : slot + 1 < 2 ^ 40) : makeId idPrefix slot &&& SlotMask = UInt64.ofNat (slot + 1) := by
  rw [makeId, or_and_distrib, clear, ofNat_and_SlotMask small, UInt64.zero_or]

theorem idSlot_makeId {idPrefix : UInt64} {slot : ℕ} (clear : idPrefix &&& SlotMask = 0)
    (small : slot + 1 < 2 ^ 40) : idSlot (makeId idPrefix slot) = slot := by
  have value : (UInt64.ofNat (slot + 1)).toNat = slot + 1 := by
    rw [UInt64.toNat_ofNat', Nat.mod_eq_of_lt (by omega)]
  rw [idSlot, makeId_and_SlotMask clear small, toNat_sub_exact (by rw [value, UInt64.toNat_one]; omega), value,
    UInt64.toNat_one, Nat.add_sub_cancel]

theorem makeId_inj {idPrefix : UInt64} {first second : ℕ} (clear : idPrefix &&& SlotMask = 0)
    (firstSmall : first + 1 < 2 ^ 40) (secondSmall : second + 1 < 2 ^ 40) :
    makeId idPrefix first = makeId idPrefix second ↔ first = second := by
  constructor
  · intro same
    rw [← idSlot_makeId clear firstSmall, same, idSlot_makeId clear secondSmall]
  · rintro rfl
    rfl

theorem resolveIn_eq_some {n : ℕ} {α : Type*} {identity : α → Identity} {idPrefix : UInt64}
    {table : SlotTable n α} {ownerId ownerGeneration objectId objectGeneration : UInt64}
    {slot : Fin n} {object : α} :
    resolveIn identity idPrefix table ownerId ownerGeneration objectId objectGeneration =
        some (slot, object) ↔
      idHasPrefix objectId idPrefix = true ∧ idSlot objectId = slot ∧ table slot = some object ∧
        (identity object).ownerId = ownerId ∧
        (identity object).ownerGeneration = ownerGeneration ∧
        (identity object).generation = objectGeneration := by
  unfold resolveIn
  constructor
  · intro resolved
    split at resolved <;> try contradiction
    split at resolved <;> try contradiction
    split at resolved <;> try contradiction
    split at resolved <;> try contradiction
    obtain ⟨rfl, rfl⟩ := Prod.mk.inj (Option.some.inj resolved)
    exact ⟨‹_›, rfl, ‹_›, ‹_›⟩
  · rintro ⟨isKind, isSlot, taken, matched⟩
    have inside : idSlot objectId < n := isSlot ▸ slot.isLt
    have same : (⟨idSlot objectId, inside⟩ : Fin n) = slot := Fin.ext isSlot
    simp [isKind, inside, same, taken, matched]

/-- Either nothing is given out and the counter only moved forward, or the result
lies at or above the old counter and the new counter is its exact successor. -/
theorem takeGeneration_cases (initialEpoch counter preferred : UInt64) :
    ((takeGeneration initialEpoch counter preferred).1 = 0 ∧
      counter.toNat ≤ (takeGeneration initialEpoch counter preferred).2.toNat) ∨
    ((takeGeneration initialEpoch counter preferred).1 ≠ 0 ∧
      counter.toNat ≤ (takeGeneration initialEpoch counter preferred).1.toNat ∧
      (takeGeneration initialEpoch counter preferred).2.toNat =
        (takeGeneration initialEpoch counter preferred).1.toNat + 1) := by
  unfold takeGeneration
  generalize (if preferred = 0 then initialEpoch else preferred) = epoch
  dsimp only
  set started := if counter = 0 then epoch else counter with hstarted
  set pulled := if started < epoch then epoch else started with hpulled
  have startedLe : counter.toNat ≤ started.toNat := by
    rw [hstarted]
    split
    · simp [*]
    · exact le_rfl
  have pulledLe : started.toNat ≤ pulled.toNat := by
    rw [hpulled]
    split
    · exact (UInt64.lt_iff_toNat_lt.mp ‹_›).le
    · exact le_rfl
  split
  · exact Or.inl ⟨rfl, startedLe.trans pulledLe⟩
  · rename_i usable
    push Not at usable
    exact Or.inr ⟨usable.1, startedLe.trans pulledLe, toNat_succ usable.2⟩

end Identifiers

/-- The kinds of objects with a generation counter. -/
inductive GenerationKind
  | owner | allocation | queue | event
  deriving DecidableEq, Repr

namespace HostGPUKmtState

variable (state : HostGPUKmtState)

section Updates

/-- The generation counter of a kind. -/
def nextGeneration : GenerationKind → UInt64
  | .owner => state.nextOwnerGeneration
  | .allocation => state.nextAllocationGeneration
  | .queue => state.nextQueueGeneration
  | .event => state.nextEventGeneration

/-- Set the generation counter of a kind. -/
def withNext (kind : GenerationKind) (counter : UInt64) : HostGPUKmtState :=
  match kind with
  | .owner => { state with nextOwnerGeneration := counter }
  | .allocation => { state with nextAllocationGeneration := counter }
  | .queue => { state with nextQueueGeneration := counter }
  | .event => { state with nextEventGeneration := counter }

/-- The generation a kind gives out under a job epoch, and its counter afterwards. -/
def take (kind : GenerationKind) (jobEpoch : UInt64) : UInt64 × UInt64 :=
  takeGeneration state.initialEpoch (state.nextGeneration kind) jobEpoch

/-- Replace the session in a slot. -/
def withSession (slot : Fin MaximumOwners) (session : Session) : HostGPUKmtState :=
  { state with sessions := state.sessions.put slot session }

def addSession (slot : Fin MaximumOwners) (session : Session) : HostGPUKmtState :=
  { state with
    sessions := state.sessions.put slot session
    liveOwners := state.liveOwners + 1 }

def releaseSession (slot : Fin MaximumOwners) : HostGPUKmtState :=
  { state with
    sessions := state.sessions.drop slot
    liveOwners := state.liveOwners - 1 }

/-- Fill an allocation slot; only legacy bytes count towards the legacy total. -/
def addAllocation (slot : Fin MaximumAllocations) (allocation : Allocation) : HostGPUKmtState :=
  { state with
    allocations := state.allocations.put slot allocation
    liveAllocations := state.liveAllocations + 1
    legacyTotalBytes :=
      if allocation.gpuAllocation then state.legacyTotalBytes
      else state.legacyTotalBytes + allocation.size
    totalBytes := state.totalBytes + allocation.size }

def releaseAllocation (slot : Fin MaximumAllocations) (allocation : Allocation) :
    HostGPUKmtState :=
  { state with
    allocations := state.allocations.drop slot
    liveAllocations := state.liveAllocations - 1
    legacyTotalBytes :=
      if allocation.gpuAllocation then state.legacyTotalBytes
      else state.legacyTotalBytes - allocation.size
    totalBytes := state.totalBytes - allocation.size }

/-- Replace the record of an allocation. -/
def withAllocation (slot : Fin MaximumAllocations) (allocation : Allocation) : HostGPUKmtState :=
  { state with allocations := state.allocations.put slot allocation }

def addQueue (slot : Fin MaximumQueues) (queue : Queue) : HostGPUKmtState :=
  { state with
    queues := state.queues.put slot queue
    liveQueues := state.liveQueues + 1 }

def releaseQueue (slot : Fin MaximumQueues) (_ : Queue) : HostGPUKmtState :=
  { state with
    queues := state.queues.drop slot
    liveQueues := state.liveQueues - 1 }

/-- Replace the record of a queue. -/
def withQueue (slot : Fin MaximumQueues) (queue : Queue) : HostGPUKmtState :=
  { state with queues := state.queues.put slot queue }

def addEvent (slot : Fin MaximumEvents) (event : Event) : HostGPUKmtState :=
  { state with
    events := state.events.put slot event
    liveEvents := state.liveEvents + 1 }

def releaseEvent (slot : Fin MaximumEvents) (_ : Event) : HostGPUKmtState :=
  { state with
    events := state.events.drop slot
    liveEvents := state.liveEvents - 1 }

/-- Replace the record of an event. -/
def withEvent (slot : Fin MaximumEvents) (event : Event) : HostGPUKmtState :=
  { state with events := state.events.put slot event }

end Updates

section Lookup

/-- The session of a transport owner. -/
def findSession (transportOwner : Owner) : Option (Fin MaximumOwners × Session) :=
  state.sessions.findSlot fun session => session.transportOwner == transportOwner

/-- The session of a transport owner, when it has the given owner id and generation. -/
def findSessionAs (transportOwner : Owner) (ownerId ownerGeneration : UInt64) :
    Option (Fin MaximumOwners × Session) :=
  (state.findSession transportOwner).filter fun found =>
    found.2.ownerId == ownerId && found.2.ownerGeneration == ownerGeneration

theorem findSession_spec {state : HostGPUKmtState} {transportOwner : Owner}
    {slot : Fin MaximumOwners} {session : Session}
    (found : state.findSession transportOwner = some (slot, session)) :
    state.sessions slot = some session ∧ session.transportOwner = transportOwner := by
  obtain ⟨present, accepted⟩ := SlotTable.findSlot_spec found
  exact ⟨present, beq_iff_eq.mp accepted⟩

theorem findSession_eq_none {state : HostGPUKmtState} {transportOwner : Owner} :
    state.findSession transportOwner = none ↔
      ∀ slot session, state.sessions slot = some session →
        session.transportOwner ≠ transportOwner := by
  simp [findSession, SlotTable.findSlot_eq_none]

theorem findSessionAs_spec {state : HostGPUKmtState} {transportOwner : Owner}
    {ownerId ownerGeneration : UInt64} {slot : Fin MaximumOwners} {session : Session}
    (found : state.findSessionAs transportOwner ownerId ownerGeneration = some (slot, session)) :
    state.sessions slot = some session ∧ session.transportOwner = transportOwner ∧
      session.ownerId = ownerId ∧ session.ownerGeneration = ownerGeneration := by
  obtain ⟨present, accepted⟩ := Option.filter_eq_some_iff.mp found
  obtain ⟨taken, sameTransport⟩ := findSession_spec present
  simp only [Bool.and_eq_true, beq_iff_eq] at accepted
  exact ⟨taken, sameTransport, accepted.1, accepted.2⟩

def resolveAllocation (session : Session) (request : KmtRequest) :
    Option (Fin MaximumAllocations × Allocation) :=
  resolveIn Allocation.toIdentity AllocationPrefix state.allocations session.ownerId
    session.ownerGeneration request.objectId request.objectGeneration

def resolveQueue (session : Session) (request : KmtRequest) : Option (Fin MaximumQueues × Queue) :=
  resolveIn Queue.toIdentity QueuePrefix state.queues session.ownerId session.ownerGeneration
    request.objectId request.objectGeneration

def resolveEvent (session : Session) (request : KmtRequest) : Option (Fin MaximumEvents × Event) :=
  resolveIn Event.toIdentity EventPrefix state.events session.ownerId session.ownerGeneration
    request.objectId request.objectGeneration

/-- The queue behind a handle, as the bridge sees it. -/
def queueInfo (transportOwner : Owner)
    (ownerId ownerGeneration objectId objectGeneration : UInt64) : Option QueueInfo :=
  match state.findSessionAs transportOwner ownerId ownerGeneration with
  | none => none
  | some (_, session) =>
    match resolveIn Queue.toIdentity QueuePrefix state.queues session.ownerId
        session.ownerGeneration objectId objectGeneration with
    | none => none
    | some (_, queue) => some queue.info

/-- Some object of the session is live. -/
def holdsObjects (session : Session) : Bool :=
  state.allocations.holds (fun allocation => session.owns allocation.toIdentity) ||
    state.queues.holds (fun queue => session.owns queue.toIdentity) ||
    state.events.holds (fun event => session.owns event.toIdentity)

/-- Some allocation or queue of the transport owner's session is pinned. -/
def ownerHasDispatchPins (transportOwner : Owner) : Bool :=
  match state.findSession transportOwner with
  | none => false
  | some (_, session) =>
    state.allocations.holds (fun allocation =>
      session.owns allocation.toIdentity && allocation.dispatchPins ≠ ∅) ||
    state.queues.holds (fun queue =>
      session.owns queue.toIdentity && queue.dispatchPins ≠ ∅)

end Lookup

end HostGPUKmtState

section MemoryAccess

/-- What a GPU VA range resolves to. -/
structure MemoryInfo where
  objectId : UInt64
  objectGeneration : UInt64
  gpuVa : UInt64
  size : UInt64
  mmapOffset : UInt64
  gpuId : UInt32
  flags : UInt32
  mappedToVisibleGpu : Bool
  deriving DecidableEq

def infoFor (slot : Fin MaximumAllocations) (allocation : Allocation) : MemoryInfo where
  objectId := makeId AllocationPrefix slot
  objectGeneration := allocation.generation
  gpuVa := allocation.virtualAddress
  size := allocation.size
  mmapOffset := allocation.mmapOffset
  gpuId := allocation.gpuId
  flags := allocation.memoryFlags
  mappedToVisibleGpu := allocation.mappedGpuIds.contains VisibleGpuId

/-- The tests of the lookup loop: an allocation of the session, at a nonzero VA
whose end does not wrap, with `[gpuVa, accessEnd)` between its ends. The access
end is the wrapped sum. -/
def lookupAccepts (session : Session) (gpuVa accessEnd : UInt64) (allocation : Allocation) : Bool :=
  !(allocation.ownerId != session.ownerId || allocation.ownerGeneration != session.ownerGeneration
    || allocation.virtualAddress == 0 || allocation.virtualAddress > u64Max - allocation.size)
  && !(gpuVa < allocation.virtualAddress || accessEnd > allocation.virtualAddress + allocation.size)

/-- The lookup loop: a second hit makes the lookup ambiguous and ends it. -/
def lookupFrom (allocations : SlotTable MaximumAllocations Allocation) (session : Session)
    (gpuVa accessEnd : UInt64) :
    List (Fin MaximumAllocations) → Option MemoryInfo → Option MemoryInfo
  | [], result => result
  | slot :: rest, result =>
    match allocations slot with
    | none => lookupFrom allocations session gpuVa accessEnd rest result
    | some allocation =>
      if lookupAccepts session gpuVa accessEnd allocation then
        match result with
        | some _ => none
        | none =>
          lookupFrom allocations session gpuVa accessEnd rest (some (infoFor slot allocation))
      else lookupFrom allocations session gpuVa accessEnd rest result

namespace HostGPUKmtState

variable (state : HostGPUKmtState)

def memoryInfo (transportOwner : Owner) (ownerId ownerGeneration gpuVa byteCount : UInt64) :
    Option MemoryInfo :=
  match state.findSessionAs transportOwner ownerId ownerGeneration with
  | none => none
  | some (_, session) =>
    if byteCount = 0 ∨ gpuVa > u64Max - (byteCount - 1) then none
    else
      lookupFrom state.allocations session gpuVa (gpuVa + byteCount)
        (List.finRange MaximumAllocations) none

/-- The allocation an info record names, by slot and generation. -/
def allocationOf (info : MemoryInfo) : Option (Fin MaximumAllocations × Allocation) :=
  if inside : idSlot info.objectId < MaximumAllocations then
    match state.allocations ⟨idSlot info.objectId, inside⟩ with
    | none => none
    | some allocation =>
      if allocation.generation = info.objectGeneration then
        some (⟨idSlot info.objectId, inside⟩, allocation)
      else none
  else none

theorem allocationOf_spec {state : HostGPUKmtState} {info : MemoryInfo}
    {slot : Fin MaximumAllocations} {allocation : Allocation}
    (found : state.allocationOf info = some (slot, allocation)) :
    state.allocations slot = some allocation ∧ idSlot info.objectId = slot ∧
      allocation.generation = info.objectGeneration := by
  unfold allocationOf at found
  split at found <;> try contradiction
  split at found <;> try contradiction
  split at found <;> try contradiction
  obtain ⟨rfl, rfl⟩ := Prod.mk.inj (Option.some.inj found)
  exact ⟨‹_›, rfl, ‹_›⟩

/-- The bytes a read returns, or `none` when it fails. -/
def readMemory (transportOwner : Owner) (ownerId ownerGeneration gpuVa byteCount : UInt64) :
    Option (List UInt8) :=
  if byteCount = 0 then none
  else
    match state.memoryInfo transportOwner ownerId ownerGeneration gpuVa byteCount with
    | none => none
    | some info =>
      match state.allocationOf info with
      | none => none
      | some (_, allocation) =>
        some (loadBytes allocation.bytes (gpuVa - info.gpuVa) byteCount.toNat)

/-- Write the source bytes; a failing write leaves the state alone. -/
def writeMemory (transportOwner : Owner) (ownerId ownerGeneration gpuVa : UInt64)
    (source : ℕ → UInt8) (byteCount : UInt64) : Bool × HostGPUKmtState :=
  if byteCount = 0 then (false, state)
  else
    match state.memoryInfo transportOwner ownerId ownerGeneration gpuVa byteCount with
    | none => (false, state)
    | some info =>
      match state.allocationOf info with
      | none => (false, state)
      | some (slot, allocation) =>
        (true, state.withAllocation slot { allocation with
          bytes := storeBytes allocation.bytes (gpuVa - info.gpuVa) byteCount.toNat source })

end HostGPUKmtState

end MemoryAccess

end GemSim.Kmt
