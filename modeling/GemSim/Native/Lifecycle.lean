import GemSim.Native.QueueCore

/-!
# The execution lifecycle of one dispatch

A source arms the lifecycle with the identity of one packet. The listener callbacks then
check, in order, that the packet is fetched, submitted, started, worked off group by
group, completed and retired. Completion decrements the signal word of the dispatch in
memory; a callback whose guard fails panics. Ticks and the void callbacks of the source
are left out, and so are the pointers to the queue, which no method reads again, and the
arguments that are only handed on.

## Main definitions

* `HostNativeExecutionLifecycle` — the fields of the lifecycle
* `LifecycleSystem` — the lifecycle with the memory it writes, and a ledger of what it did
* `LifecycleEvent`, `LifecycleSystem.run` — its methods, one call at a time
* `LifecycleSystem.observed` — what an onlooker of the memory adds to the ledger after a call
* `LifecycleSystem.step` — the machine
-/

namespace GemSim.Native

open GemSim.Lib

/-- What the lifecycle reads of a queue entry. -/
structure HSAQueueEntry where
  dispatchId : Int32
  queueId : UInt32
  hostDispPktAddr : UInt64
  completionSignal : UInt64
  codeAddr : UInt64
  kernargAddr : UInt64
  numWgTotal : Int32
  numWgCompleted : Int32
  gridSize : Fin 3 → Int32
  wgSize : Fin 3 → Int32

structure HostNativeExecutionLifecycle.Config where
  dispatchId : Int32 := 0
  requestId : UInt64 := 0
  queueIndex : UInt64 := 0
  hostPacketVa : UInt64 := 0
  registeredQueueId : UInt32 := 0
  queueGeneration : UInt64 := 0
  /-- Signal handle stored in the AQL packet. -/
  completionSignalHandle : Option UInt64 := none
  /-- Address of the signed 64-bit value decremented on completion. -/
  completionSignalValueVa : Option UInt64 := none
  expectedSignalValue : Option Int64 := none

structure TaskIdentity where
  completionSignal : UInt64 := 0
  code : UInt64 := 0
  kernarg : UInt64 := 0
  grid : Fin 3 → Int32 := fun _ => 0
  workgroup : Fin 3 → Int32 := fun _ => 0
  totalWorkgroups : Int32 := 0
  valid : Bool := false

structure HostNativeExecutionLifecycle where
  identity : HostNativeExecutionLifecycle.Config := {}
  taskIdentity : TaskIdentity := {}
  completedWorkgroups : List Int32 := []
  failureReason : String := "none"
  packetFetches : UInt64 := 0
  cpSubmissions : UInt64 := 0
  dispatcherStarts : UInt64 := 0
  workgroupCompletions : UInt64 := 0
  completionSignalBefore : Int64 := 0
  completionSignalAfter : Int64 := 0
  isArmed : Bool := false
  dispatchActive : Bool := false
  dispatchStarted : Bool := false
  kernelCompleted : Bool := false
  packetRetired : Bool := false

/-- A change of the signal word in memory. -/
structure SignalWrite where
  before : Int64
  now : Int64
  deriving DecidableEq

/-- What was done for the armed dispatch, as seen from the outside: the changes of the
signal word in memory, the calls of the source's retire callback, and the groups whose
completion was reported and admitted. No field of the program. -/
structure Ledger where
  signalWrites : List SignalWrite := []
  retireCalls : ℕ := 0
  counted : List Int32 := []

/-- The lifecycle, the memory it was armed with, and whether a guard has panicked. -/
structure LifecycleSystem where
  lifecycle : HostNativeExecutionLifecycle := {}
  memory : SparseBytes
  panicked : Bool := false
  ledger : Ledger := {}

/-- How the calls of a completion end: the validation of the source, the read of the
signal, its write, and the read that confirms it. -/
structure CompletionEnv where
  validates : Bool := true
  reads : Bool := true
  writes : Bool := true
  readsBack : Bool := true

namespace HostNativeExecutionLifecycle

def validSignalBinding (config : Config) : Bool :=
  config.completionSignalHandle.isSome == config.completionSignalValueVa.isSome &&
    (!config.completionSignalHandle.isSome ||
      (config.completionSignalHandle != some 0 && config.completionSignalValueVa != some 0)) &&
    (!config.expectedSignalValue.isSome || config.completionSignalValueVa.isSome)

def taskMatches (lifecycle : HostNativeExecutionLifecycle) (task : HSAQueueEntry) : Bool :=
  lifecycle.isArmed && lifecycle.taskIdentity.valid &&
    task.dispatchId == lifecycle.identity.dispatchId &&
    task.queueId == lifecycle.identity.registeredQueueId &&
    task.hostDispPktAddr == lifecycle.identity.hostPacketVa &&
    task.completionSignal == lifecycle.taskIdentity.completionSignal &&
    task.codeAddr == lifecycle.taskIdentity.code &&
    task.kernargAddr == lifecycle.taskIdentity.kernarg &&
    task.numWgTotal == lifecycle.taskIdentity.totalWorkgroups &&
    decide (∀ dimension : Fin 3,
      task.gridSize dimension = lifecycle.taskIdentity.grid dimension ∧
        task.wgSize dimension = lifecycle.taskIdentity.workgroup dimension)

/-- The guard of a completion. -/
def completionMatches (lifecycle : HostNativeExecutionLifecycle) (task : HSAQueueEntry) : Bool :=
  lifecycle.taskMatches task && lifecycle.dispatchStarted && lifecycle.dispatchActive &&
    !lifecycle.kernelCompleted && !lifecycle.packetRetired && lifecycle.packetFetches == 1 &&
    lifecycle.cpSubmissions == 1 && lifecycle.dispatcherStarts == 1 &&
    task.numWgCompleted == task.numWgTotal &&
    lifecycle.workgroupCompletions == task.numWgTotal.toInt64.toUInt64 &&
    UInt64.ofNat lifecycle.completedWorkgroups.length == task.numWgTotal.toInt64.toUInt64

end HostNativeExecutionLifecycle

namespace LifecycleSystem

open HostNativeExecutionLifecycle (validSignalBinding)

/-- Set the failure text and return false. -/
def fail (system : LifecycleSystem) (reason : String) : Bool × LifecycleSystem :=
  (false, { system with lifecycle := { system.lifecycle with failureReason := reason } })

def panic (system : LifecycleSystem) : LifecycleSystem := { system with panicked := true }

/-- Forget the dispatch; a cleared lifecycle has an empty ledger. -/
def clear (system : LifecycleSystem) : LifecycleSystem :=
  { system with lifecycle := {}, ledger := {} }

def arm (system : LifecycleSystem) (config : HostNativeExecutionLifecycle.Config)
    (queue : HostNativeQueueCore) : Bool × LifecycleSystem :=
  let system := { system with lifecycle := { system.lifecycle with failureReason := "none" } }
  if system.lifecycle.isArmed then system.fail "execution lifecycle is already armed"
  else if !queue.registered || config.dispatchId ≤ 0 || config.requestId = 0 ||
      config.queueGeneration = 0 || config.queueIndex ≠ queue.dispatchIdx ||
      config.registeredQueueId ≠ queue.regdIndex ||
      config.queueGeneration ≠ queue.queueConfig.generation then
    system.fail "invalid execution lifecycle identity"
  else if packetAddress queue.queueConfig.baseVa config.queueIndex
      (queue.queueConfig.queueBytes / 64) ≠ some config.hostPacketVa then
    system.fail "execution lifecycle packet identity"
  else if !validSignalBinding config then system.fail "invalid completion signal binding"
  else
    (true, { system with lifecycle := { system.lifecycle with
      identity := config
      isArmed := true } })

/-- Bind a fetched packet's completion object before it is submitted. -/
def bindCompletionSignal (system : LifecycleSystem) (handle valueAddress : Option UInt64)
    (expectedValue : Option Int64) : Bool × LifecycleSystem :=
  let lifecycle := system.lifecycle
  let candidate := { lifecycle.identity with
    completionSignalHandle := handle
    completionSignalValueVa := valueAddress
    expectedSignalValue := expectedValue }
  if !lifecycle.isArmed || lifecycle.packetFetches ≠ 1 || lifecycle.cpSubmissions ≠ 0 ||
      lifecycle.taskIdentity.valid || lifecycle.identity.completionSignalHandle.isSome ||
      lifecycle.identity.completionSignalValueVa.isSome ||
      lifecycle.identity.expectedSignalValue.isSome || !validSignalBinding candidate then
    system.fail "invalid fetched completion signal binding"
  else (true, { system with lifecycle := { lifecycle with identity := candidate } })

/-- Clear a pre-dispatch arm after the source has rolled back its queue. -/
def cancel (system : LifecycleSystem) : Bool × LifecycleSystem :=
  let lifecycle := system.lifecycle
  if !lifecycle.isArmed then (true, system)
  else if lifecycle.dispatchStarted || lifecycle.dispatchActive || lifecycle.kernelCompleted ||
      lifecycle.packetRetired then
    system.fail "cannot cancel an executing lifecycle"
  else (true, system.clear)

/-- Reuse is legal only after a fully retired task. -/
def reset (system : LifecycleSystem) : Bool × LifecycleSystem :=
  let lifecycle := system.lifecycle
  if !lifecycle.isArmed || !lifecycle.kernelCompleted || !lifecycle.packetRetired ||
      lifecycle.dispatchActive then
    system.fail "execution lifecycle is not reusable"
  else (true, system.clear)

def hsaPacketFetched (system : LifecycleSystem) (hostPacketAddr : UInt64) (queueId : UInt32) :
    LifecycleSystem :=
  let lifecycle := system.lifecycle
  if !lifecycle.isArmed || hostPacketAddr ≠ lifecycle.identity.hostPacketVa ||
      queueId ≠ lifecycle.identity.registeredQueueId || lifecycle.packetFetches ≠ 0 ||
      lifecycle.cpSubmissions ≠ 0 then
    system.panic
  else
    { system with lifecycle := { lifecycle with packetFetches := lifecycle.packetFetches + 1 } }

def commandProcessorSubmitted (system : LifecycleSystem) (task : HSAQueueEntry) :
    LifecycleSystem :=
  let lifecycle := system.lifecycle
  if !lifecycle.isArmed || lifecycle.packetFetches ≠ 1 || lifecycle.cpSubmissions ≠ 0 ||
      task.dispatchId ≠ lifecycle.identity.dispatchId ||
      task.queueId ≠ lifecycle.identity.registeredQueueId ||
      task.hostDispPktAddr ≠ lifecycle.identity.hostPacketVa || task.numWgTotal ≤ 0 ||
      task.completionSignal ≠ lifecycle.identity.completionSignalHandle.getD 0 then
    system.panic
  else
    { system with lifecycle := { lifecycle with
      taskIdentity :=
        { completionSignal := task.completionSignal
          code := task.codeAddr
          kernarg := task.kernargAddr
          grid := task.gridSize
          workgroup := task.wgSize
          totalWorkgroups := task.numWgTotal
          valid := true }
      cpSubmissions := lifecycle.cpSubmissions + 1 } }

def gpuDispatcherStarted (system : LifecycleSystem) (task : HSAQueueEntry) : LifecycleSystem :=
  let lifecycle := system.lifecycle
  if !lifecycle.taskMatches task || lifecycle.packetFetches ≠ 1 || lifecycle.cpSubmissions ≠ 1 ||
      lifecycle.dispatchStarted || lifecycle.dispatcherStarts ≠ 0 then
    system.panic
  else
    { system with lifecycle := { lifecycle with
      dispatchStarted := true
      dispatchActive := true
      dispatcherStarts := lifecycle.dispatcherStarts + 1 } }

/-- A report of a compute unit at work; it only checks that the dispatch is active. -/
def cuReport (system : LifecycleSystem) (task : HSAQueueEntry) : LifecycleSystem :=
  if !system.lifecycle.taskMatches task || !system.lifecycle.dispatchActive then system.panic
  else system

def cuWaveStarted := cuReport

def cuInstructionStarted := cuReport

def cuGlobalStoreCompleted := cuReport

def gpuWorkgroupCompleted (system : LifecycleSystem) (task : HSAQueueEntry)
    (workgroupId : Int32) : LifecycleSystem :=
  let lifecycle := system.lifecycle
  if !lifecycle.taskMatches task || !lifecycle.dispatchActive || workgroupId < 0 ||
      workgroupId ≥ task.numWgTotal || lifecycle.completedWorkgroups.contains workgroupId then
    system.panic
  else
    { system with lifecycle := { lifecycle with
      completedWorkgroups := workgroupId :: lifecycle.completedWorkgroups
      workgroupCompletions := lifecycle.workgroupCompletions + 1 } }

/-- Read the signal word, write it back decremented, and read it again. -/
def commitSignal (system : LifecycleSystem) (task : HSAQueueEntry) (env : CompletionEnv) :
    Bool × LifecycleSystem :=
  let identity := system.lifecycle.identity
  if task.completionSignal = 0 then
    if identity.expectedSignalValue.isSome then system.fail "missing expected completion signal"
    else
      (true, { system with lifecycle := { system.lifecycle with
        completionSignalBefore := 0
        completionSignalAfter := 0 } })
  else
    match identity.completionSignalValueVa with
    | none => system.fail "missing completion signal value address"
    | some signalValue =>
      let before := (loadWord system.memory signalValue).toInt64
      if !env.reads then system.fail "completion signal read failed"
      else if (identity.expectedSignalValue.isSome &&
          identity.expectedSignalValue ≠ some before) || before = Int64.minValue then
        system.fail "completion signal value mismatch"
      else
        let after := before - 1
        if !env.writes then system.fail "completion signal write failed"
        else
          let written := { system with
            memory := storeWord system.memory signalValue after.toUInt64 }
          if !env.readsBack || (loadWord written.memory signalValue).toInt64 ≠ after then
            written.fail "completion signal readback failed"
          else
            (true, { written with lifecycle := { written.lifecycle with
              completionSignalBefore := before
              completionSignalAfter := after } })

def completeKernel (system : LifecycleSystem) (task : HSAQueueEntry) (env : CompletionEnv) :
    Bool × LifecycleSystem :=
  if !system.lifecycle.completionMatches task then
    system.fail "execution completion state mismatch"
  else if !env.validates then system.fail "source completion validation failed"
  else
    let (committed, after) := system.commitSignal task env
    if !committed then (false, after)
    else
      (true, { after with lifecycle := { after.lifecycle with
        dispatchActive := false
        kernelCompleted := true } })

/-- Retire the packet through the source; a refusal of the source panics as well. -/
def hsaPacketRetired (system : LifecycleSystem) (task : HSAQueueEntry) (retires : Bool) :
    LifecycleSystem :=
  let lifecycle := system.lifecycle
  if !lifecycle.taskMatches task || lifecycle.dispatchActive || !lifecycle.kernelCompleted ||
      lifecycle.packetRetired then
    system.panic
  else
    let called := { system with
      ledger := { system.ledger with retireCalls := system.ledger.retireCalls + 1 } }
    if !retires then called.panic
    else { called with lifecycle := { lifecycle with packetRetired := true } }

end LifecycleSystem

/-- A call of a method, or a write of anyone else to the memory. -/
inductive LifecycleEvent where
  | arm (config : HostNativeExecutionLifecycle.Config) (queue : HostNativeQueueCore)
  | bindCompletionSignal (handle valueAddress : Option UInt64) (expectedValue : Option Int64)
  | cancel
  | reset
  | hsaPacketFetched (hostPacketAddr : UInt64) (queueId : UInt32)
  | commandProcessorSubmitted (task : HSAQueueEntry)
  | gpuDispatcherStarted (task : HSAQueueEntry)
  | cuWaveStarted (task : HSAQueueEntry)
  | cuInstructionStarted (task : HSAQueueEntry)
  | cuGlobalStoreCompleted (task : HSAQueueEntry)
  | gpuWorkgroupCompleted (task : HSAQueueEntry) (workgroupId : Int32)
  | completeKernel (task : HSAQueueEntry) (env : CompletionEnv)
  | hsaPacketRetired (task : HSAQueueEntry) (retires : Bool)
  | others (memory : SparseBytes)

namespace LifecycleSystem

/-- What a call returns, true where it returns nothing, and the system it leaves. -/
def run (system : LifecycleSystem) : LifecycleEvent → Bool × LifecycleSystem
  | .arm config queue => system.arm config queue
  | .bindCompletionSignal handle valueAddress expectedValue =>
    system.bindCompletionSignal handle valueAddress expectedValue
  | .cancel => system.cancel
  | .reset => system.reset
  | .hsaPacketFetched hostPacketAddr queueId =>
    (true, system.hsaPacketFetched hostPacketAddr queueId)
  | .commandProcessorSubmitted task => (true, system.commandProcessorSubmitted task)
  | .gpuDispatcherStarted task => (true, system.gpuDispatcherStarted task)
  | .cuWaveStarted task => (true, system.cuWaveStarted task)
  | .cuInstructionStarted task => (true, system.cuInstructionStarted task)
  | .cuGlobalStoreCompleted task => (true, system.cuGlobalStoreCompleted task)
  | .gpuWorkgroupCompleted task workgroupId =>
    (true, system.gpuWorkgroupCompleted task workgroupId)
  | .completeKernel task env => system.completeKernel task env
  | .hsaPacketRetired task retires => (true, system.hsaPacketRetired task retires)
  | .others memory => (true, { system with memory := memory })

/-- How a call changed the word at the signal address of its dispatch. -/
def signalChange (system after : LifecycleSystem) : List SignalWrite :=
  match system.lifecycle.identity.completionSignalValueVa with
  | none => []
  | some valueVa =>
    let before := (loadWord system.memory valueVa).toInt64
    let now := (loadWord after.memory valueVa).toInt64
    if before = now then [] else [⟨before, now⟩]

/-- The system after a call, with what the memory and the event show of it added to the
ledger. A write of anyone else is not the lifecycle's. -/
def observed (system after : LifecycleSystem) : LifecycleEvent → LifecycleSystem
  | .others _ => after
  | .gpuWorkgroupCompleted _ workgroupId =>
    { after with ledger := { after.ledger with
      signalWrites := signalChange system after ++ after.ledger.signalWrites
      counted :=
        if after.panicked then after.ledger.counted else workgroupId :: after.ledger.counted } }
  | _ =>
    { after with ledger := { after.ledger with
      signalWrites := signalChange system after ++ after.ledger.signalWrites } }

/-- One event; a system that has panicked is dead. -/
def step (system : LifecycleSystem) (event : LifecycleEvent) : LifecycleSystem :=
  if system.panicked then system else observed system (system.run event).2 event

def boot (memory : SparseBytes) : LifecycleSystem := { memory := memory }

end LifecycleSystem

end GemSim.Native
