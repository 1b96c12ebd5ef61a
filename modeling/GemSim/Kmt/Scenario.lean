import GemSim.Kmt.Machine

/-!
# Client requests

Requests of one client as it would send them, for the concrete runs that accompany
the general results: opening the connection, exporting a backing, allocating on both
paths and creating a queue.
-/

namespace GemSim.Kmt

open GemSim.Lib HostGPUKmtState

/-- The state a daemon starts from. -/
def bootState : HostGPUKmtState := { initialEpoch := 1, clockTicksPerNanosecond := 1000 }

theorem construct_bootState : construct 1 1000 = some bootState := rfl

/-- The states that runs from the boot state reach are reachable. -/
theorem reachable_boot (ops : List Op) : KmtReachable (runFrom step bootState ops) :=
  ⟨1, 1000, bootState, construct_bootState, ops, rfl⟩

def clientOwner : Owner := { fd := 3, clientGeneration := 1 }

/-- The owner id of the first connection; its owner generation is the job epoch. -/
def clientOwnerId : UInt64 := makeId OwnerPrefix 0

def clientHeader : Header := { jobEpoch := 1 }

def openRequest : KmtRequest := { operation := .openKfd, operationSequence := 1 }

def clientRequest (operation : KmtOperation) (operationSequence : UInt64)
    (argumentWords : Words) : KmtRequest where
  operation := operation
  operationSequence := operationSequence
  ownerId := clientOwnerId
  ownerGeneration := 1
  argumentWords := argumentWords

/-- A client's submission without memory exhaustion. -/
def clientSubmit (request : KmtRequest) : Op := .submit {} clientOwner clientHeader request

def zeroWords : Words := Vector.replicate _ 0

def acquireWords : Words := setWord (setWord zeroWords 0 VisibleGpuId) 1 128

def legacyWords (size alignment : UInt64) : Words :=
  setWords (setWords (setWord zeroWords 0 1) 1 2 size) 3 4 alignment

def gpuWords (virtualAddress size mmapOffset : UInt64) (memoryFlags : UInt32) : Words :=
  setWord (setWord (setWords (setWords (setWords zeroWords 0 1 virtualAddress) 2 3 size) 4 5
    mmapOffset) 6 VisibleGpuId) 7 memoryFlags

def backingWords (bytes : UInt64) (pageBytes : UInt32) : Words :=
  setWord (setWords zeroWords 0 1 bytes) 2 pageBytes

/-- Open the connection and acquire the VM of the visible GPU. -/
def acquireRun : List Op :=
  [clientSubmit openRequest, clientSubmit (clientRequest .acquireVm 2 acquireWords)]

/-- Acquire, then allocate `size` userptr bytes at a VA. -/
def userptrRun (virtualAddress size : UInt64) : List Op :=
  acquireRun ++
    [clientSubmit (clientRequest .allocateMemoryOfGpu 3 (gpuWords virtualAddress size 0 4))]

/-- The copied bytes of a queue request: ring size, read and write pointer. -/
def queueBuffer (ringBytes readPointer writePointer : UInt64) : Buffer :=
  store64 (store64 (store64 (Vector.replicate _ 0) 0 ringBytes) 8 readPointer) 16 writePointer

def queueRequest (operationSequence : UInt64) (depth : UInt32)
    (ringBase readPointer writePointer : UInt64) : KmtRequest :=
  let buffer := queueBuffer (depth.toUInt64 * 64) readPointer writePointer
  { clientRequest .queueCreate operationSequence
      (setWords (setWord (setWord zeroWords 0 1) 2 depth) 3 4 ringBase) with
    copiedBytes := 24
    copiedBuffer := buffer
    copiedCrc32c := crc32c (buffer.leading 24) }

end GemSim.Kmt
