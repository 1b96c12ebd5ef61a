import GemSim.Native.QueueObserver

/-!
# Publishing packets through a doorbell

A client and the bridge work on one queue at the same time. For each packet in order the client
waits until its slot is free, writes the bytes one by one, moves the write index, and rings the
doorbell. The bridge polls, fetches, accepts, gives back and retires, in any order and at any time.
The client sees the completed packets only in the file it shares, where the queue has its read
index. No access to the memory fails, and the indices stay below `2 ^ 63`.

## Main definitions

* `Producer`, `Phase` — where the client stands
* `AqlStep`, `step` — the two parties as one machine
* `acceptedBy` — the packet that a step hands over
-/

namespace GemSim.Native

open GemSim.Lib

/-- What the client does with the slot of its index. -/
inductive Phase where
  | idle
  | writing (count : ℕ)
  | indexed
  deriving DecidableEq

structure Producer where
  index : ℕ
  phase : Phase := .idle

structure AqlSystem where
  observer : HostKmtAqlQueueObserver
  store : KmtMemory
  producer : Producer

inductive AqlStep where
  | startPacket
  | writeByte
  | publishIndex
  | ringDoorbell
  | poll
  | fetch
  | acceptDispatch (ticket : UInt64)
  | cancelFetch (ticket : UInt64)
  | retire (queueIndex : UInt64)

namespace AqlSystem

variable (packets : ℕ → ℕ → UInt8) (system : AqlSystem)

def core : HostNativeQueueCore := system.observer.coreOver system.store

/-- The address of a slot of the ring, as the client computes it. -/
def slotVa (index : ℕ) : UInt64 :=
  system.observer.queueInfo.ringBase +
    UInt64.ofNat (index % system.observer.queueInfo.depth.toNat * PacketBytes)

/-- The client takes a slot that it sees is free. -/
def startPacket : AqlSystem :=
  let completed := loadWord system.store.backing system.observer.queueInfo.completionOffset
  if system.producer.phase = .idle ∧ system.producer.index < 2 ^ 63 ∧
      system.producer.index < completed.toNat + system.observer.queueInfo.depth.toNat then
    { system with producer := { system.producer with phase := .writing 0 } }
  else system

def writeByte : AqlSystem :=
  match system.producer.phase with
  | .writing count =>
    if count < PacketBytes then
      { system with
        store := { system.store with
          memory := Function.update system.store.memory
            (system.slotVa system.producer.index + UInt64.ofNat count)
            (packets system.producer.index count) }
        producer := { system.producer with phase := .writing (count + 1) } }
    else system
  | _ => system

def publishIndex : AqlSystem :=
  if system.producer.phase = .writing PacketBytes then
    { system with
      store := { system.store with
        memory := storeWord system.store.memory system.observer.queueInfo.writePointer
          (UInt64.ofNat (system.producer.index + 1)) }
      producer := { system.producer with phase := .indexed } }
  else system

def ringDoorbell : AqlSystem :=
  if system.producer.phase = .indexed then
    { system with
      store := { system.store with
        backing := storeWord system.store.backing system.observer.queueInfo.doorbellOffset
          (UInt64.ofNat system.producer.index) }
      producer := { index := system.producer.index + 1 } }
  else system

/-- The system after a call on its queue. -/
def withCore (core : HostNativeQueueCore) : AqlSystem :=
  { system with observer := { system.observer with queueCore := core } }

def poll : PollStatus × AqlSystem :=
  let polled := system.observer.poll system.store {}
  (polled.1, { system with observer := polled.2 })

def fetch : Reply :=
  let core := system.core
  core.fetch ((core.slotAddress core.fetchIdx).any fun packetVa =>
    system.observer.queueMemory.accessible packetVa PacketBytes)

def retire (queueIndex : UInt64) : Reply × AqlSystem :=
  let core := system.core
  let readIndexVa := core.queueConfig.hostReadIndexVa
  let reply := core.retire queueIndex (system.observer.queueMemory.accessible readIndexVa 8)
  let store :=
    if reply.returned then
      (system.observer.queueMemory.write system.store readIndexVa 8
        (wordByte reply.after.readIdx)).getD system.store
    else system.store
  (reply, { system.withCore reply.after with store := store })

def step (system : AqlSystem) : AqlStep → AqlSystem
  | .startPacket => system.startPacket
  | .writeByte => system.writeByte packets
  | .publishIndex => system.publishIndex
  | .ringDoorbell => system.ringDoorbell
  | .poll => system.poll.2
  | .fetch => system.withCore system.fetch.after
  | .acceptDispatch ticket => system.withCore (system.core.acceptDispatch ticket).after
  | .cancelFetch ticket => system.withCore (system.core.cancelFetch ticket).after
  | .retire queueIndex => (system.retire queueIndex).2

/-- The packet that a step hands over to the dispatcher. -/
def acceptedBy (system : AqlSystem) : AqlStep → List FetchedPacket
  | .acceptDispatch ticket =>
    if (system.core.acceptDispatch ticket).returned then system.core.pending.toList else []
  | _ => []

/-- A step, with the packets that were accepted so far. -/
def recordStep (recorded : AqlSystem × List FetchedPacket) (input : AqlStep) :
    AqlSystem × List FetchedPacket :=
  (recorded.1.step packets input, recorded.2 ++ recorded.1.acceptedBy input)

end AqlSystem

end GemSim.Native
