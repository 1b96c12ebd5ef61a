import GemSim.Native.Maintenance
import GemSim.Native.QueueCore

/-!
# Control packets

Packets of a queue that launch no kernel are processed where they are found: barriers wait for the
signals that they depend on, maintenance packets are checked, and then the packet is retired and
its completion signal counted down. A packet that has to wait, or is not for this routine, goes
back into the queue as if it had not been fetched.

The queue has a view of its own of the memory that packets name. What its retirement leaves of
that memory is an argument of the call, and so is whether an access fails.

## Main definitions

* `ControlEnv` — how the steps outside of the routine end
* `standardBarrierReady`, `amdBarrierValueReady` — whether a barrier has to wait
* `prepareCompletionSignal`, `commitCompletionSignal` — the signal of a packet
* `process` — one packet
-/

namespace GemSim.Native

open GemSim.Lib

section Definitions

def VendorSpecific : UInt8 := 0
def InvalidPacket : UInt8 := 1
def KernelDispatch : UInt8 := 2
def BarrierAnd : UInt8 := 3
def AgentDispatch : UInt8 := 4
def BarrierOr : UInt8 := 5

def AmdBarrierValue : UInt8 := 2
def AmdExtendedKernelDispatch : UInt8 := 3

def SignalBytes : UInt64 := 64
def SignalValueOffset : UInt64 := 8
def SignalTimestampOffset : UInt64 := 32
def CompletionSignalOffset : ℕ := 56
def AMD_SIGNAL_KIND_USER : UInt64 := 1

/-- The least signed value, by its bits. -/
def leastValue : UInt64 := 0x8000000000000000

inductive ControlStatus where
  | NotControl
  | Blocked
  | Completed
  | Failed
  deriving DecidableEq

structure ControlResult where
  status : ControlStatus := .Failed
  packetType : UInt8 := 0xff
  queueIndex : UInt64 := 0
  completionSignal : UInt64 := 0

/-- The steps outside of the routine. A clock is sampled twice, if there is one. -/
structure ControlEnv where
  fetches : Bool := true
  signalReads : ℕ → Bool := fun _ => true
  allocates : Bool := true
  bufferReads : Bool := true
  snapshotReads : Bool := true
  clock : Option (UInt64 × UInt64) := some (1, 2)
  stampWrites : Bool := true
  stampReads : Bool := true
  retireWrites : Bool := true
  /-- The memory after the queue has published its read index. -/
  publishes : SparseBytes → SparseBytes := id
  signalWrites : Bool := true

structure ControlReply where
  result : ControlResult := {}
  queue : HostNativeQueueCore
  memory : SparseBytes
  failureReason : String := "none"

def packetByte (packet : List UInt8) (index : ℕ) : UInt8 := packet.getD index 0

def validHeader (header : UInt16) (expectedType : UInt8) : Bool :=
  let type := (header &&& 0xff).toUInt8
  let acquire := (header >>> 9 &&& 0x3).toUInt8
  let release := (header >>> 11 &&& 0x3).toUInt8
  type = expectedType && acquire ≤ 2 && release ≤ 2 && header &&& 0xe000 = 0

/-- The value of a signal. -/
def readSignal (memory : SparseBytes) (handle : UInt64) (reads : Bool) : Except String UInt64 :=
  if handle = 0 then .ok 0
  else if handle > u64Max - SignalValueOffset || !reads then
    .error "AQL signal value is outside owner memory"
  else .ok (loadWord memory (handle + SignalValueOffset))

/-- The signal that a barrier depends on in one of five places. -/
def dependency (packet : List UInt8) (index : ℕ) : UInt64 := load64 packet (8 + index * 8)

/-- A dependency of a barrier: whether it is ready so far, and whether it has had one. -/
def dependencyStep (packet : List UInt8) (packetType : UInt8) (memory : SparseBytes)
    (reads : ℕ → Bool) (seen : Bool × Bool) (index : ℕ) : Except String (Bool × Bool) :=
  if dependency packet index = 0 then .ok seen
  else do
    let value ← readSignal memory (dependency packet index) (reads index)
    let ready := if packetType = BarrierAnd ∧ value ≠ 0 then false else seen.1
    let ready := if packetType = BarrierOr ∧ value = 0 then true else ready
    return (ready, true)

def standardBarrierReady (packet : List UInt8) (packetType : UInt8) (memory : SparseBytes)
    (reads : ℕ → Bool) : Except String Bool := do
  if !validHeader (load16 packet 0) packetType || !allZero packet 2 8 || !allZero packet 48 56 then
    .error "malformed standard AQL barrier packet"
  else
    let seen ← (List.range 5).foldlM (dependencyStep packet packetType memory reads)
      (decide (packetType = BarrierAnd), false)
    return if seen.2 then seen.1 else true

/-- The condition of a barrier on a masked value. The last two are signed. -/
def conditionHolds (condition : UInt32) (value expected : UInt64) : Bool :=
  if condition = 0 then value = expected
  else if condition = 1 then value ≠ expected
  else if condition = 2 then value.toInt64 < expected.toInt64
  else value.toInt64 ≥ expected.toInt64

def amdBarrierValueReady (packet : List UInt8) (memory : SparseBytes) (reads : ℕ → Bool) :
    Except String Bool := do
  let signal := load64 packet 8
  let expected := load64 packet 16
  let mask := load64 packet 24
  let condition := load32 packet 32
  if !validHeader (load16 packet 0) VendorSpecific || packetByte packet 2 ≠ AmdBarrierValue ||
      packetByte packet 3 ≠ 0 || !allZero packet 4 8 || !allZero packet 36 56 || condition > 3 then
    .error "malformed AMD barrier-value packet"
  else if signal = 0 then .ok true
  else
    let value ← readSignal memory signal (reads 0)
    return conditionHolds condition (value &&& mask) expected

/-- The check of a maintenance packet, with as many passes as it may need. -/
def maintenanceChecked (packet : List UInt8) (memory : SparseBytes) (allocates reads : Bool) :
    Except String Unit :=
  match maintenancePm4IbValid packet memory allocates reads (ibDwords packet + 1) with
  | .finished outcome => outcome
  | .overran | .running => .error "none"

/-- Whether a control packet has to wait. -/
def controlReady (packet : List UInt8) (memory : SparseBytes) (env : ControlEnv) :
    Except String Bool :=
  let packetType := packetByte packet 0
  let format := packetByte packet 2
  if packetType = BarrierAnd ∨ packetType = BarrierOr then
    standardBarrierReady packet packetType memory env.signalReads
  else if packetType = VendorSpecific ∧ format.toUInt16 = AmdPm4Ib then
    if !validHeader (load16 packet 0) VendorSpecific then
      .error "malformed AMD PM4 maintenance header"
    else do
      maintenanceChecked packet memory env.allocates env.bufferReads
      return true
  else if packetType = VendorSpecific ∧ format = AmdBarrierValue then
    amdBarrierValueReady packet memory env.signalReads
  else .error "unsupported AQL control packet type or format"

/-- Two timestamps, one after the other. -/
def stamps (first second : UInt64) (index : ℕ) : UInt8 :=
  if index < 8 then wordByte first index else wordByte second (index - 8)

/-- The value of the completion signal, whose timestamps are written. -/
def prepareCompletionSignal (memory : SparseBytes) (handle : UInt64) (env : ControlEnv) :
    Except String UInt64 × SparseBytes :=
  if handle = 0 then (.ok 0, memory)
  else if handle % SignalBytes ≠ 0 then
    (.error "AQL completion signal is not 64-byte aligned", memory)
  else if handle > u64Max - (SignalBytes - 1) || !env.snapshotReads then
    (.error "AQL completion signal is outside owner memory", memory)
  else if loadWord memory handle ≠ AMD_SIGNAL_KIND_USER then
    (.error "AQL completion signal kind is not user", memory)
  else
    let value := loadWord memory (handle + SignalValueOffset)
    if value = leastValue then
      (.error "AQL completion signal value cannot be decremented", memory)
    else
      match env.clock with
      | none => (.error "AQL completion signal timestamp is unavailable", memory)
      | some (start_ts, end_ts) =>
        if start_ts = 0 || end_ts ≤ start_ts || !env.stampWrites then
          (.error "AQL completion signal timestamp write failed", memory)
        else
          let stamped := storeBytes memory (handle + SignalTimestampOffset) 16
            (stamps start_ts end_ts)
          if !env.stampReads ||
              loadWord stamped (handle + SignalTimestampOffset) ≠ start_ts ||
              loadWord stamped (handle + SignalTimestampOffset + 8) ≠ end_ts then
            (.error "AQL completion signal timestamp readback failed", stamped)
          else (.ok value, stamped)

/-- The signal is counted down. -/
def commitCompletionSignal (memory : SparseBytes) (handle value : UInt64) (writes : Bool) :
    Except String SparseBytes :=
  if handle = 0 then .ok memory
  else if value = leastValue then .error "AQL completion signal value cannot be decremented"
  else if handle > u64Max - SignalValueOffset || !writes then
    .error "AQL completion signal final write failed after retirement"
  else .ok (storeWord memory (handle + SignalValueOffset) (value - 1))

def failFetched (queue : HostNativeQueueCore) (packet : FetchedPacket) (memory : SparseBytes)
    (reason : String) : ControlReply :=
  let cancelled := queue.cancelFetch packet.ticket
  { result := { packetType := packetByte packet.bytes 0, queueIndex := packet.queueIndex }
    queue := cancelled.after
    memory := memory
    failureReason :=
      if cancelled.returned then reason else reason ++ "; queue fetch rollback failed" }

/-- The packet goes back into the queue. -/
def giveBack (queue : HostNativeQueueCore) (packet : FetchedPacket) (memory : SparseBytes)
    (status : ControlStatus) (reason : String) : ControlReply :=
  let cancelled := queue.cancelFetch packet.ticket
  { result := {
      status := if cancelled.returned then status else .Failed
      packetType := packetByte packet.bytes 0
      queueIndex := packet.queueIndex }
    queue := cancelled.after
    memory := memory
    failureReason := if cancelled.returned then "none" else reason }

/-- A packet that need not wait is retired, and its signal counted down. A signal that cannot be
counted down after the retirement stays as it is. -/
def complete (queue : HostNativeQueueCore) (packet : FetchedPacket) (memory : SparseBytes)
    (env : ControlEnv) : ControlReply :=
  let signal := load64 packet.bytes CompletionSignalOffset
  let result (status : ControlStatus) : ControlResult :=
    ⟨status, packetByte packet.bytes 0, packet.queueIndex, signal⟩
  match prepareCompletionSignal memory signal env with
  | (.error reason, stamped) => failFetched queue packet stamped reason
  | (.ok value, stamped) =>
    let accepted := queue.acceptDispatch packet.ticket
    if !accepted.returned then
      ⟨result .Failed, accepted.after, stamped, accepted.after.failureReason⟩
    else
      let retired := accepted.after.retire packet.queueIndex env.retireWrites
      if !retired.returned then
        ⟨result .Failed, retired.after, stamped, retired.after.failureReason⟩
      else
        let published := env.publishes stamped
        match commitCompletionSignal published signal value env.signalWrites with
        | .error reason => ⟨result .Failed, retired.after, published, reason⟩
        | .ok final => ⟨result .Completed, retired.after, final, "none"⟩

def processFetched (queue : HostNativeQueueCore) (packet : FetchedPacket) (memory : SparseBytes)
    (env : ControlEnv) : ControlReply :=
  let packetType := packetByte packet.bytes 0
  if packetType = KernelDispatch ∨ packetType = AgentDispatch ∨
      (packetType = VendorSpecific ∧ packetByte packet.bytes 2 = AmdExtendedKernelDispatch) then
    giveBack queue packet memory .NotControl "AQL dispatch packet fetch rollback failed"
  else if packetType = InvalidPacket then
    giveBack queue packet memory .Blocked "invalid AQL packet fetch rollback failed"
  else
    match controlReady packet.bytes memory env with
    | .error reason => failFetched queue packet memory reason
    | .ok false => giveBack queue packet memory .Blocked "blocked AQL control fetch rollback failed"
    | .ok true => complete queue packet memory env

/-- The packet at the fetch index is processed, if it is a control packet and need not wait. -/
def process (queue : HostNativeQueueCore) (memory : SparseBytes) (requestId : UInt64)
    (env : ControlEnv) : ControlReply :=
  if requestId = 0 then
    { queue := queue, memory := memory,
      failureReason := "invalid AQL control request identity" }
  else
    let fetched := queue.fetch env.fetches
    if !fetched.returned then
      { queue := fetched.after, memory := memory, failureReason := fetched.after.failureReason }
    else processFetched fetched.after fetched.packet memory env

end Definitions

end GemSim.Native
