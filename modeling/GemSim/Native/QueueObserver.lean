import GemSim.Kmt.State
import GemSim.Native.QueueCore

/-!
# Observing a queue of the KMT interface

A client writes packets into a ring of its own, moves a write index, and stores the last index
into a doorbell. The doorbell stands in a file that client and bridge share, and so does the index
up to which packets are completed: a queue sees it at the address of its read index. The observer
polls the doorbell and hands complete batches of packets to the queue. Whether an access to the
memory or to the file fails is an argument of the operation; the request ids are left out.

## Main definitions

* `KmtMemory`, `HostKmtQueueMemory` — the bytes of a client, and how its queue sees them
* `HostKmtAqlQueueObserver` — the observer
* `initializeQueue`, `poll`, `abandon` — its methods
-/

namespace GemSim.Native

open GemSim.Lib
open GemSim.Kmt (QueueInfo)

def KmtSharedBackingDoorbellInitialValue : UInt64 := 18446744073709551615

/-- The bytes at the GPU addresses of a client, and those of the file it shares. -/
structure KmtMemory where
  memory : SparseBytes
  backing : SparseBytes

/-- How a queue sees the memory: its read index stands in the shared file. -/
structure HostKmtQueueMemory where
  readIndexAddress : UInt64
  completionOffset : UInt64

namespace HostKmtQueueMemory

variable (queue : HostKmtQueueMemory)

def overlapsReadIndex (address : UInt64) (byteCount : ℕ) : Bool :=
  if byteCount = 0 ∨ queue.readIndexAddress = 0 ∨ queue.readIndexAddress > u64Max - 8 ∨
      address > u64Max - UInt64.ofNat (byteCount - 1) then false
  else
    let last := address + UInt64.ofNat byteCount - 1
    let readIndexLast := queue.readIndexAddress + 8 - 1
    decide (address ≤ readIndexLast ∧ queue.readIndexAddress ≤ last)

/-- An access is one to the read index as a whole, or to none of its bytes. -/
def accessible (address : UInt64) (byteCount : ℕ) : Bool :=
  if queue.readIndexAddress = 0 ∨ queue.readIndexAddress > u64Max - 8 then false
  else if queue.overlapsReadIndex address byteCount then
    address == queue.readIndexAddress && byteCount == 8
  else true

def read (store : KmtMemory) (address : UInt64) (byteCount : ℕ) : Option (List UInt8) :=
  if !queue.accessible address byteCount then none
  else if queue.overlapsReadIndex address byteCount then
    some (loadBytes store.backing queue.completionOffset byteCount)
  else some (loadBytes store.memory address byteCount)

def write (store : KmtMemory) (address : UInt64) (byteCount : ℕ) (source : ℕ → UInt8) :
    Option KmtMemory :=
  if !queue.accessible address byteCount then none
  else if queue.overlapsReadIndex address byteCount then
    some { store with
      backing := storeBytes store.backing queue.completionOffset byteCount source }
  else some { store with memory := storeBytes store.memory address byteCount source }

/-- The address space that the queue sees. -/
def view (store : KmtMemory) : SparseBytes := fun address =>
  if queue.readIndexAddress ≤ address ∧ address ≤ queue.readIndexAddress + 7 then
    store.backing (queue.completionOffset + (address - queue.readIndexAddress))
  else store.memory address

end HostKmtQueueMemory

structure HostKmtAqlQueueObserver where
  queueInfo : QueueInfo
  queueCore : HostNativeQueueCore
  failureReason : String := "none"
  initialized : Bool := false
  observedDoorbell : Bool := false

inductive PollStatus where
  | idle
  | advanced
  | failed
  deriving DecidableEq

/-- How the accesses of an operation to the memory end. -/
structure AccessEnv where
  doorbellReads : Bool := true
  readIndexReads : Bool := true
  writeIndexReads : Bool := true
  packetReads : UInt64 → Bool := fun _ => true
  allocates : Bool := true

namespace HostKmtAqlQueueObserver

/-- An observer of a queue, over memory that it reads from now on. -/
def construct (queueInfo : QueueInfo) (context : SparseBytes) : HostKmtAqlQueueObserver where
  queueInfo := queueInfo
  queueCore := .boot context

variable (observer : HostKmtAqlQueueObserver)

def queueMemory : HostKmtQueueMemory where
  readIndexAddress := observer.queueInfo.readPointer
  completionOffset := observer.queueInfo.completionOffset

/-- The queue over the bytes as they are now. -/
def coreOver (store : KmtMemory) : HostNativeQueueCore :=
  { observer.queueCore with context := observer.queueMemory.view store }

def fail (reason : String) : PollStatus × HostKmtAqlQueueObserver :=
  (.failed, { observer with failureReason := reason })

/-- A read of the queue ends as the access of its own memory does, where it is one at all. -/
def packetReads (core : HostNativeQueueCore) (env : AccessEnv) (index : UInt64) : Bool :=
  env.packetReads index && (core.slotAddress index).any fun packetVa =>
    observer.queueMemory.accessible packetVa PacketBytes

/-- What the queue is registered with. -/
def registration (readIndex : UInt64) : Config :=
  let queueInfo := observer.queueInfo
  { baseVa := queueInfo.ringBase
    hostReadIndexVa := queueInfo.readPointer
    activeQueueId := queueInfo.clientQueueId.toUInt64
    generation := queueInfo.generation
    registeredIndex := queueInfo.registeredIndex
    queueBytes := queueInfo.ringBytes.toUInt32
    doorbellBytes := 8
    readIndex := readIndex }

def initializeQueue (store : KmtMemory) (env : AccessEnv) : Bool × HostKmtAqlQueueObserver :=
  let queueInfo := observer.queueInfo
  let observer := { observer with failureReason := "none" }
  if observer.initialized ∨ queueInfo.clientQueueId = 0 ∨
      queueInfo.clientQueueId.toNat ≥ MaxQueueId ∨ queueInfo.registeredIndex.toNat ≥ MaxQueueId ∨
      queueInfo.ringBytes = 0 ∨ queueInfo.ringBytes.toNat ≥ UInt32.size ∨
      queueInfo.ringBytes ≠ queueInfo.depth.toUInt64 * 64 ∨ queueInfo.readPointer = 0 ∨
      queueInfo.writePointer = 0 then
    (false, { observer with failureReason := "invalid KMT queue observation metadata" })
  else if !(observer.queueMemory.accessible queueInfo.readPointer 8 && env.readIndexReads) ∨
      !env.writeIndexReads ∨ !env.doorbellReads then
    (false, { observer with failureReason := "KMT queue initial state read" })
  else
    let readIndex := loadWord (observer.queueMemory.view store) queueInfo.readPointer
    let writeIndex := loadWord store.memory queueInfo.writePointer
    let doorbell := loadWord store.backing queueInfo.doorbellOffset
    if readIndex ≠ writeIndex ∨ doorbell ≠ KmtSharedBackingDoorbellInitialValue then
      (false, { observer with failureReason := "KMT queue is not initially empty" })
    else
      let registered := (observer.coreOver store).registerQueue (observer.registration readIndex)
        { baseReads := observer.queueMemory.accessible queueInfo.ringBase PacketBytes
          allocates := env.allocates }
      let observer := { observer with queueCore := registered.after }
      if !registered.returned then
        (false, { observer with failureReason := registered.after.failureReason })
      else (true, { observer with initialized := true, observedDoorbell := false })

def poll (store : KmtMemory) (env : AccessEnv) : PollStatus × HostKmtAqlQueueObserver :=
  let queueInfo := observer.queueInfo
  let observer := { observer with failureReason := "none" }
  if !observer.initialized then observer.fail "KMT queue observer is not initialized"
  else if !env.doorbellReads then observer.fail "KMT queue doorbell read"
  else
    let doorbell := loadWord store.backing queueInfo.doorbellOffset
    if doorbell = KmtSharedBackingDoorbellInitialValue then
      if observer.observedDoorbell then
        observer.fail "KMT queue doorbell returned to its initial value"
      else (.idle, observer)
    else
      let newWriteIndex := doorbell + 1
      if !env.writeIndexReads then observer.fail "KMT queue write-index read"
      else if loadWord store.memory queueInfo.writePointer < newWriteIndex then
        observer.fail "KMT doorbell precedes the published write index"
      else
        let core := observer.coreOver store
        let previous := core.writeIdx
        let observed := core.observe newWriteIndex
          { allocates := env.allocates, reads := observer.packetReads core env }
        let observer := { observer with queueCore := observed.after }
        if !observed.returned then observer.fail observed.after.failureReason
        else if observed.registeredIndex ≠ queueInfo.registeredIndex then
          observer.fail "KMT queue registration identity changed"
        else
          (if observed.after.writeIdx = previous then .idle else .advanced,
            { observer with observedDoorbell := true })

def abandon : HostKmtAqlQueueObserver :=
  { observer with
    queueCore := observer.queueCore.abandonQueue.after
    initialized := false
    observedDoorbell := false
    failureReason := "none" }

end HostKmtAqlQueueObserver

end GemSim.Native
