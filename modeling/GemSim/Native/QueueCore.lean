import GemSim.Lib.Ring
import GemSim.Lib.SparseBytes

/-!
# The host-native packet queue

A ring of 64-byte packet slots between a producer that publishes packets and rings, and
a consumer that fetches them under a ticket, accepts or cancels the fetch, and retires
them in order. Packets and the read-index word live in the address space the queue
borrows. Each access to it may fail, a failed write leaves it as it was, and whether an
access fails is an argument of the call. The listener told of a fetch is left out, and
so are the request ids, which are only handed on to the address space.

## Main definitions

* `HostNativeQueueCore` — the queue with its address space
* `registerQueue`, `publishAt`, `ring`, `observe`, `fetch`, `acceptDispatch`, `retire`,
  `cancelFetch`, `unregisterQueue`, `abandonQueue` — its methods
* `Call`, `run`, `step` — the queue as a machine
-/

namespace GemSim.Native

open GemSim.Lib

def PacketBytes : ℕ := 64

def MaxQueueId : ℕ := 4096 / 8

structure Config where
  baseVa : UInt64 := 0
  hostReadIndexVa : UInt64 := 0
  activeQueueId : UInt64 := 0
  generation : UInt64 := 0
  registeredIndex : UInt32 := 0
  queueBytes : UInt32 := 0
  doorbellBytes : UInt32 := 0
  readIndex : UInt64 := 0

/-- A fetched packet copy whose bytes remain valid for the caller. -/
structure FetchedPacket where
  ticket : UInt64 := 0
  queueIndex : UInt64 := 0
  hostPacketVa : UInt64 := 0
  activeQueueId : UInt64 := 0
  queueGeneration : UInt64 := 0
  registeredIndex : UInt32 := 0
  bytes : List UInt8 := List.replicate PacketBytes 0

structure Slot where
  bytes : List UInt8 := List.replicate PacketBytes 0
  hostPacketVa : UInt64 := 0
  published : Bool := false
  fetched : Bool := false

instance : Inhabited Slot := ⟨{}⟩

structure HostNativeQueueCore where
  context : SparseBytes
  queueConfig : Config := {}
  slots : List Slot := []
  pending : Option FetchedPacket := none
  failureReason : String := "none"
  writeIdx : UInt64 := 0
  fetchIdx : UInt64 := 0
  readIdx : UInt64 := 0
  dispatchIdx : UInt64 := 0
  nextTicket : UInt64 := 1
  regdIndex : UInt32 := 0
  registered : Bool := false
  readIndexWritten : Bool := false

/-- What a method returns, its out-parameters, and the queue it leaves. -/
structure Reply where
  returned : Bool
  after : HostNativeQueueCore
  registeredIndex : UInt32 := 0
  packet : FetchedPacket := {}

/-- How the steps of a registration outside the queue end. -/
structure RegisterEnv where
  baseReads : Bool := true
  indexReads : Bool := true
  allocates : Bool := true

/-- How staging the observed packets ends, packet by packet. -/
structure ObserveEnv where
  allocates : Bool := true
  reads : UInt64 → Bool := fun _ => true

/-- The address of the slot of an index, if it does not wrap. -/
def packetAddress (baseVa index : UInt64) (depth : UInt32) : Option UInt64 :=
  if baseVa = 0 ∨ depth = 0 then none
  else
    let slot := index % depth.toUInt64
    if slot > u64Max / 64 then none
    else
      let offset := slot * 64
      if baseVa > u64Max - offset then none
      else some (baseVa + offset)

def validRegistration (candidate : Config) : Bool :=
  if candidate.baseVa = 0 ∨ candidate.hostReadIndexVa = 0 ∨ candidate.generation = 0 ∨
      candidate.activeQueueId.toNat ≥ MaxQueueId ∨ candidate.registeredIndex.toNat ≥ MaxQueueId ∨
      candidate.queueBytes.toNat < PacketBytes ∨ candidate.queueBytes.toNat % PacketBytes ≠ 0 ∨
      (candidate.doorbellBytes ≠ 4 ∧ candidate.doorbellBytes ≠ 8) ∨
      candidate.activeQueueId > u64Max / candidate.doorbellBytes.toUInt64 ∨
      candidate.readIndex = u64Max then
    false
  else decide (candidate.queueBytes.toNat / PacketBytes ≠ 0)

/-- The next index, unless the indices are exhausted. -/
def nextIndex (value : UInt64) : Option UInt64 :=
  if value = u64Max then none else some (value + 1)

/-- The indices a loop from `first` up to `last` visits. -/
def indexRange (first last : UInt64) : List UInt64 :=
  (List.range (last - first).toNat).map fun offset => first + UInt64.ofNat offset

namespace HostNativeQueueCore

/-- The slot of an index. -/
def slotAt (core : HostNativeQueueCore) (index : UInt64) : Slot := ringGet core.slots index.toNat

def setSlot (core : HostNativeQueueCore) (index : UInt64) (slot : Slot) : HostNativeQueueCore :=
  { core with slots := ringSet core.slots index.toNat slot }

/-- The address of the slot of an index in the registered ring. -/
def slotAddress (core : HostNativeQueueCore) (index : UInt64) : Option UInt64 :=
  packetAddress core.queueConfig.baseVa index (UInt32.ofNat core.slots.length)

def fail (core : HostNativeQueueCore) (reason : String) : Reply :=
  { returned := false, after := { core with failureReason := reason } }

/-- The queue with its failure text cleared, as every method begins. -/
def cleared (core : HostNativeQueueCore) : HostNativeQueueCore :=
  { core with failureReason := "none" }

def queueHasSpace (core : HostNativeQueueCore) (candidateWrite : UInt64) : Bool :=
  if candidateWrite < core.readIdx ∨ core.slots = [] then false
  else decide ((candidateWrite - core.readIdx).toNat ≤ core.slots.length)

def reset (core : HostNativeQueueCore) : HostNativeQueueCore :=
  { context := core.context, failureReason := core.failureReason }

def registerQueue (core : HostNativeQueueCore) (newConfig : Config) (env : RegisterEnv) : Reply :=
  let core := core.cleared
  if core.registered then core.fail "queue already registered"
  else if !validRegistration newConfig then core.fail "invalid queue registration"
  else if !env.baseReads then core.fail "queue base address translation"
  else if !env.indexReads then core.fail "queue read-index address translation"
  else if !env.allocates then core.fail "queue ring allocation"
  else
    let depth := newConfig.queueBytes.toNat / PacketBytes
    { returned := true
      after := { core with
        slots := core.slots.takeD depth {}
        queueConfig := newConfig
        writeIdx := newConfig.readIndex
        fetchIdx := newConfig.readIndex
        readIdx := newConfig.readIndex
        dispatchIdx := newConfig.readIndex
        regdIndex := newConfig.registeredIndex
        registered := true
        readIndexWritten := false } }

/-- Write a packet into the slot of an index. The bytes are a pointer, which may be null. -/
def publishAt (core : HostNativeQueueCore) (queueIndex packetVa : UInt64)
    (bytes : Option (ℕ → UInt8)) (byteCount : UInt64) (writes : Bool) : Reply :=
  let core := core.cleared
  if !core.registered then core.fail "queue is not registered"
  else
    match bytes with
    | none => core.fail "invalid AQL packet size"
    | some source =>
      if byteCount ≠ 64 then core.fail "invalid AQL packet size"
      else if queueIndex < core.writeIdx ∨ queueIndex < core.readIdx ∨
          (queueIndex - core.readIdx).toNat ≥ core.slots.length ∨
          (queueIndex - core.writeIdx).toNat > core.slots.length then
        core.fail "queue publication index is outside window"
      else if core.slotAddress queueIndex ≠ some packetVa then
        core.fail "packet address is outside queue slot"
      else if (core.slotAt queueIndex).published ∨ (core.slotAt queueIndex).fetched then
        core.fail "queue slot is busy"
      else if !writes then core.fail "AQL packet functional write"
      else
        let written := { core with context := storeBytes core.context packetVa PacketBytes source }
        { returned := true
          after := written.setSlot queueIndex { written.slotAt queueIndex with
            bytes := (List.range PacketBytes).map source
            hostPacketVa := packetVa
            published := true } }

def publish (core : HostNativeQueueCore) (packetVa : UInt64) (bytes : Option (ℕ → UInt8))
    (byteCount : UInt64) (writes : Bool) : Reply :=
  core.publishAt core.writeIdx packetVa bytes byteCount writes

/-- Move the write index over packets that are published already. -/
def ring (core : HostNativeQueueCore) (newWriteIndex : UInt64) : Reply :=
  let core := core.cleared
  if !core.registered then core.fail "queue is not registered"
  else if newWriteIndex < core.writeIdx then core.fail "queue ring index is not monotonic"
  -- a doorbell may repeat the last write index
  else if newWriteIndex = core.writeIdx then
    { returned := true, after := core, registeredIndex := core.regdIndex }
  else if !core.queueHasSpace newWriteIndex then core.fail "queue ring is full"
  else if (indexRange core.writeIdx newWriteIndex).any fun index =>
      !(core.slotAt index).published || (core.slotAt index).hostPacketVa == 0 then
    core.fail "queue ring has an unpublished packet"
  else
    { returned := true
      after := { core with writeIdx := newWriteIndex }
      registeredIndex := core.regdIndex }

/-- The first loop of `observe`: read every new packet before any slot changes. -/
def stageObserved (core : HostNativeQueueCore) (reads : UInt64 → Bool) :
    List UInt64 → Except String (List (UInt64 × List UInt8))
  | [] => .ok []
  | index :: rest =>
    match core.slotAddress index with
    | none => .error "observed packet address overflow"
    | some packetVa =>
      if (core.slotAt index).published ∨ (core.slotAt index).fetched then
        .error "observed queue slot is busy"
      else if !reads index then .error "observed AQL packet functional read"
      else
        (core.stageObserved reads rest).map fun observed =>
          (index, loadBytes core.context packetVa PacketBytes) :: observed

/-- The second loop of `observe`: publish what was staged. -/
def publishObserved : HostNativeQueueCore → List (UInt64 × List UInt8) → Reply
  | core, [] => { returned := true, after := core }
  | core, (index, bytes) :: rest =>
    match core.slotAddress index with
    | none => core.fail "observed packet address changed"
    | some packetVa =>
      (core.setSlot index { core.slotAt index with
        bytes := bytes
        hostPacketVa := packetVa
        published := true }).publishObserved rest

/-- Publish packets the producer wrote into the ring itself, and move the write index. -/
def observe (core : HostNativeQueueCore) (newWriteIndex : UInt64) (env : ObserveEnv) : Reply :=
  let core := core.cleared
  if !core.registered then core.fail "queue is not registered"
  else if newWriteIndex < core.writeIdx then core.fail "queue observed index is not monotonic"
  else if newWriteIndex = core.writeIdx then
    { returned := true, after := core, registeredIndex := core.regdIndex }
  else if !core.queueHasSpace newWriteIndex then core.fail "queue observed ring is full"
  else if !env.allocates then core.fail "observed queue packet staging allocation"
  else
    match core.stageObserved env.reads (indexRange core.writeIdx newWriteIndex) with
    | .error reason => core.fail reason
    | .ok observed =>
      let reply := core.publishObserved observed
      if !reply.returned then reply
      else
        { returned := true
          after := { reply.after with writeIdx := newWriteIndex }
          registeredIndex := reply.after.regdIndex }

/-- The copy of the packet at the fetch index, under the next ticket. -/
def packetCopy (core : HostNativeQueueCore) (packetVa : UInt64) : FetchedPacket where
  ticket := core.nextTicket
  queueIndex := core.fetchIdx
  hostPacketVa := packetVa
  activeQueueId := core.queueConfig.activeQueueId
  queueGeneration := core.queueConfig.generation
  registeredIndex := core.queueConfig.registeredIndex
  bytes := loadBytes core.context packetVa PacketBytes

/-- Take the packet at the fetch index under a new ticket. -/
def fetch (core : HostNativeQueueCore) (reads : Bool) : Reply :=
  let core := core.cleared
  if !core.registered then core.fail "queue is not registered"
  else if core.pending.isSome then core.fail "queue fetch already pending"
  else if core.fetchIdx ≥ core.writeIdx then core.fail "queue has no pending packet"
  else
    match core.slotAddress core.fetchIdx with
    | none => core.fail "queue packet address overflow"
    | some packetVa =>
      let slot := core.slotAt core.fetchIdx
      if ¬ slot.published ∨ slot.fetched ∨ slot.hostPacketVa ≠ packetVa then
        core.fail "queue slot publication state"
      else if !reads then core.fail "AQL packet functional read"
      else if core.nextTicket = 0 then core.fail "queue fetch ticket exhausted"
      else
        let packet := core.packetCopy packetVa
        let ticketed := { core with nextTicket := core.nextTicket + 1 }
        let taken := { ticketed with pending := some packet }.setSlot core.fetchIdx
          { slot with fetched := true }
        match nextIndex core.fetchIdx with
        | none =>
          ({ taken with pending := none }.setSlot core.fetchIdx
            { slot with fetched := false }).fail "queue fetch index exhausted"
        | some next =>
          { returned := true, after := { taken with fetchIdx := next }, packet := packet }

def ownsPending (core : HostNativeQueueCore) (packet : FetchedPacket) : Bool :=
  core.registered &&
    match core.pending with
    | none => false
    | some pending =>
      decide (packet.ticket ≠ 0 ∧ packet.hostPacketVa ≠ 0 ∧ packet.queueGeneration ≠ 0) &&
        pending.ticket == packet.ticket && pending.queueIndex == packet.queueIndex &&
        pending.hostPacketVa == packet.hostPacketVa &&
        pending.activeQueueId == packet.activeQueueId &&
        pending.queueGeneration == packet.queueGeneration &&
        pending.registeredIndex == packet.registeredIndex && pending.bytes == packet.bytes

def acceptDispatch (core : HostNativeQueueCore) (ticket : UInt64) : Reply :=
  let core := core.cleared
  if !core.registered then core.fail "unknown queue fetch ticket"
  else
    match core.pending with
    | none => core.fail "unknown queue fetch ticket"
    | some pending =>
      if pending.ticket ≠ ticket then core.fail "unknown queue fetch ticket"
      else if pending.queueIndex ≠ core.dispatchIdx then
        core.fail "queue dispatch index changed"
      else
        match nextIndex core.dispatchIdx with
        | none => core.fail "queue dispatch index exhausted"
        | some next =>
          { returned := true, after := { core with dispatchIdx := next, pending := none } }

def ownsRetirement (core : HostNativeQueueCore) (queueIndex : UInt64) : Bool :=
  core.registered && queueIndex == core.readIdx && decide (core.readIdx < core.dispatchIdx)

/-- Free the slot at the read index and publish the next read index in memory. -/
def retire (core : HostNativeQueueCore) (queueIndex : UInt64) (writes : Bool) : Reply :=
  let core := core.cleared
  if !core.ownsRetirement queueIndex then core.fail "queue retirement is out of order"
  else
    let slot : Slot := core.slotAt core.readIdx
    if ¬ slot.published ∨ ¬ slot.fetched ∨ slot.hostPacketVa = 0 then
      core.fail "queue retirement slot state"
    else
      match nextIndex core.readIdx with
      | none => core.fail "queue read index exhausted"
      | some next =>
        if !writes then core.fail "queue read-index functional write"
        else
          let written := { core with
            context := storeWord core.context core.queueConfig.hostReadIndexVa next }
          { returned := true
            after := { written.setSlot core.readIdx {} with
              readIdx := next
              readIndexWritten := true } }

/-- Give the fetched packet back to the ring. -/
def cancelFetch (core : HostNativeQueueCore) (ticket : UInt64) : Reply :=
  let core := core.cleared
  if !core.registered then core.fail "unknown queue fetch ticket"
  else
    match core.pending with
    | none => core.fail "unknown queue fetch ticket"
    | some pending =>
      if pending.ticket ≠ ticket then core.fail "unknown queue fetch ticket"
      else if core.fetchIdx = 0 ∨ pending.queueIndex + 1 ≠ core.fetchIdx then
        core.fail "queue fetch index changed"
      else
        { returned := true
          after := { core.setSlot pending.queueIndex
              { core.slotAt pending.queueIndex with fetched := false } with
            fetchIdx := pending.queueIndex
            pending := none } }

def unregisterQueue (core : HostNativeQueueCore) : Reply :=
  let core := core.cleared
  if !core.registered then core.fail "queue is not registered"
  else if core.pending.isSome ∨ core.readIdx ≠ core.writeIdx then
    core.fail "queue has in-flight packets"
  else { returned := true, after := core.reset }

/-- Drop everything, whatever is in flight. The method returns nothing. -/
def abandonQueue (core : HostNativeQueueCore) : Reply :=
  { returned := true, after := core.reset.cleared }

end HostNativeQueueCore

/-- A method call with its arguments and the outcomes of its memory accesses. -/
inductive Call where
  | registerQueue (newConfig : Config) (env : RegisterEnv)
  | publish (packetVa : UInt64) (bytes : Option (ℕ → UInt8)) (byteCount : UInt64) (writes : Bool)
  | publishAt (queueIndex packetVa : UInt64) (bytes : Option (ℕ → UInt8)) (byteCount : UInt64)
      (writes : Bool)
  | ring (newWriteIndex : UInt64)
  | observe (newWriteIndex : UInt64) (env : ObserveEnv)
  | fetch (reads : Bool)
  | acceptDispatch (ticket : UInt64)
  | retire (queueIndex : UInt64) (writes : Bool)
  | cancelFetch (ticket : UInt64)
  | unregisterQueue
  | abandonQueue

namespace HostNativeQueueCore

def run (core : HostNativeQueueCore) : Call → Reply
  | .registerQueue newConfig env => core.registerQueue newConfig env
  | .publish packetVa bytes byteCount writes => core.publish packetVa bytes byteCount writes
  | .publishAt queueIndex packetVa bytes byteCount writes =>
    core.publishAt queueIndex packetVa bytes byteCount writes
  | .ring newWriteIndex => core.ring newWriteIndex
  | .observe newWriteIndex env => core.observe newWriteIndex env
  | .fetch reads => core.fetch reads
  | .acceptDispatch ticket => core.acceptDispatch ticket
  | .retire queueIndex writes => core.retire queueIndex writes
  | .cancelFetch ticket => core.cancelFetch ticket
  | .unregisterQueue => core.unregisterQueue
  | .abandonQueue => core.abandonQueue

def step (core : HostNativeQueueCore) (call : Call) : HostNativeQueueCore := (core.run call).after

/-- A queue over an address space, before any call. -/
def boot (context : SparseBytes) : HostNativeQueueCore := { context := context }

end HostNativeQueueCore

end GemSim.Native
