import GemSim.Collective.Segments

/-!
# The allreduce engine of one rank

An engine owns a live rank and a carrier, and runs one allreduce after the other until it is
closed, aborted or destroyed. A collective that fails aborts the engine for good and releases
what it owns. Every call takes the lock of the engine, and is checked to come from the process
that made it. What a callee outside of the engine raises is an argument of the call. The records
sent to the peers, the abort reports and the observations are left out, as are the tensors but
for their shape.

## Main definitions

* `AllReduceEngine` — an engine, with a log of the releases it attempted
* `checkProcess`, `acquire` — what every call begins with
* `allReduce`, `abort`, `close`, `destroy` — its public calls, once they have the lock
* `EngineCall`, `run`, `step` — the engine as a machine
-/

namespace GemSim.Collective

inductive EngineState where
  | ready
  | active
  | closing
  | aborted
  | closed
  deriving DecidableEq

inductive Resource where
  | carrier
  | liveRank
  deriving DecidableEq

/-- A call that releases a resource, and whether it returned. -/
structure Release where
  resource : Resource
  succeeded : Bool
  deriving DecidableEq

structure AllReduceEngine where
  rank : ℕ
  worldSize : ℕ
  singleton : Bool
  state : EngineState := .ready
  nextSequence : ℕ := 1
  carrier : Bool
  liveRank : Bool
  lastError : Option EngineFailure := none
  /-- The process that made the engine. -/
  ownerPid : ℕ
  callLock : Bool := false
  /-- Every release so far, the latest one last. -/
  releases : List Release := []

/-- The tensor argument, as far as it is inspected: none if it is no tensor. -/
structure TensorArgument where
  device : String
  dtype : DType
  contiguous : Bool
  elements : ℕ
  elementSize : ℕ

/-- How the releases of what the engine owns end. -/
structure ReleaseEnv where
  carrierCloses : Bool := true
  liveRankDestroys : Bool := true

/-- What the callees of an allreduce raise. -/
structure CollectiveEnv where
  reads : Option EngineFailure := none
  deadline : Option EngineFailure := none
  starts : Option EngineFailure := none
  segments : ℕ → Option EngineFailure := fun _ => none
  commits : Option EngineFailure := none
  release : ReleaseEnv := {}

structure AbortEnv where
  deadline : Option EngineFailure := none
  release : ReleaseEnv := {}

structure CloseEnv where
  deadline : Option EngineFailure := none
  liveRank : Option EngineFailure := none
  carrier : Option EngineFailure := none
  release : ReleaseEnv := {}

/-- How a call ends. -/
inductive Outcome where
  | result
  | done
  | raised (failure : EngineFailure)
  deriving DecidableEq

/-- How a call ends, the engine it leaves, and the sequence numbers it has used. -/
structure EngineReply where
  outcome : Outcome
  after : AllReduceEngine
  used : List ℕ := []

/-- The statuses a group may be aborted with. -/
def validAbortStatuses : List ℤ := [3, 4, 5, 6, 7, 8, 9, 10, 14, 13, 15, 17]

namespace AllReduceEngine

/-- Any other process than the one that made the engine aborts it, and releases nothing. -/
def checkProcess (engine : AllReduceEngine) (observed : ℕ) :
    Except EngineFailure Unit × AllReduceEngine :=
  if observed ≠ engine.ownerPid then
    (.error .forkError, { engine with lastError := some .forkError, state := .aborted })
  else (.ok (), engine)

/-- Take the lock, unless a call is under way. The process is checked before and after. -/
def acquire (engine : AllReduceEngine) (observed : ℕ) :
    Except EngineFailure Unit × AllReduceEngine :=
  match engine.checkProcess observed with
  | (.error failure, engine) => (.error failure, engine)
  | (.ok (), engine) =>
    if engine.callLock then (.error .stateError, engine)
    else
      match { engine with callLock := true }.checkProcess observed with
      | (.error failure, engine) => (.error failure, { engine with callLock := false })
      | (.ok (), engine) => (.ok (), engine)

/-- Drop both resources, whatever their release raises. -/
def releaseResources (engine : AllReduceEngine) (env : ReleaseEnv) : AllReduceEngine :=
  { engine with
    carrier := false
    liveRank := false
    releases := engine.releases ++
      (if engine.carrier then [{ resource := .carrier, succeeded := env.carrierCloses }] else []) ++
      (if engine.liveRank then [{ resource := .liveRank, succeeded := env.liveRankDestroys }]
        else []) }

/-- A collective has failed: the engine is aborted and releases what it owns. -/
def failCollective (engine : AllReduceEngine) (failure : EngineFailure) (env : ReleaseEnv) :
    AllReduceEngine :=
  { engine with lastError := some failure, state := .aborted }.releaseResources env

/-- The deadline of a call: the timeout is to be a positive 64-bit integer. -/
def deadline (timeoutNs : Option Argument) (default : ℤ) (native : Option EngineFailure) :
    Except EngineFailure Unit := do
  let _ ← exactInteger (timeoutNs.getD (some default)) 1 Uint64Max
  match native with
  | some failure => .error failure
  | none => .ok ()

/-- The elements and the data type of a tensor the engine accepts. -/
def validateTensor (engine : AllReduceEngine) (input : Option TensorArgument) :
    Except EngineFailure (ℕ × DType) :=
  match input with
  | none => .error .typeError
  | some input =>
    if input.device ≠ "cpu" then .error .valueError
    else if input.dtype.text ≠ "bfloat16" ∧ input.dtype.text ≠ "float32" then .error .typeError
    else if !input.contiguous then .error .valueError
    else if !engine.singleton ∧ input.elements = 0 then .error .valueError
    else if input.elements * input.elementSize > ManagedMaxSingleAllocationBytes then
      .error .valueError
    else
      match dtypeSpec input.dtype with
      | .error failure => .error failure
      | .ok _ => .ok (input.elements, input.dtype)

/-- The loop over the segments, until one raises: the sequence numbers used, and what it raised. -/
def executeSegments (env : ℕ → Option EngineFailure) :
    List AllReduceSegment → List ℕ × Option EngineFailure
  | [] => ([], none)
  | segment :: rest =>
    match env segment.index with
    | some failure => ([segment.sequence], some failure)
    | none =>
      let (used, failure) := executeSegments env rest
      (segment.sequence :: used, failure)

/-- The body of an allreduce of an engine that is alone in its group. -/
def reduceAlone (engine : AllReduceEngine) (timeoutNs : Option Argument) (env : CollectiveEnv) :
    Except EngineFailure AllReduceEngine := do
  match timeoutNs with
  | none => pure ()
  | some timeoutNs =>
    let _ ← exactInteger timeoutNs 1 Uint64Max
  match env.starts, env.commits with
  | some failure, _ => .error failure
  | none, some failure => .error failure
  | none, none => .ok { engine with state := .ready }

/-- The body of an allreduce of a group: the sequence numbers are spent before it starts. -/
def reduceGroup (engine : AllReduceEngine) (elements : ℕ) (dtype : DType)
    (timeoutNs : Option Argument) (env : CollectiveEnv) :
    Except EngineFailure Unit × AllReduceEngine × List ℕ :=
  match deadline timeoutNs 300000000000 env.deadline with
  | .error failure => (.error failure, engine, [])
  | .ok () =>
    match planAllreduceSegments (some elements) (some engine.worldSize) dtype
      (some engine.nextSequence) with
    | .error failure => (.error failure, engine, [])
    | .ok segments =>
      let engine := { engine with nextSequence := engine.nextSequence + segments.length }
      match env.starts with
      | some failure => (.error failure, engine, [])
      | none =>
        match executeSegments env.segments segments with
        | (used, some failure) => (.error failure, engine, used)
        | (used, none) =>
          match env.commits with
          | some failure => (.error failure, engine, used)
          | none => (.ok (), { engine with state := .ready }, used)

def allReduce (engine : AllReduceEngine) (input : Option TensorArgument)
    (timeoutNs : Option Argument) (env : CollectiveEnv) : EngineReply :=
  if engine.state ≠ .ready then { outcome := .raised .stateError, after := engine }
  else
    let engine := { engine with state := .active }
    match engine.validateTensor input with
    | .error failure =>
      { outcome := .raised failure, after := engine.failCollective failure env.release }
    | .ok (elements, dtype) =>
      match env.reads with
      | some failure =>
        { outcome := .raised failure, after := engine.failCollective failure env.release }
      | none =>
        if engine.singleton then
          match engine.reduceAlone timeoutNs env with
          | .error failure =>
            { outcome := .raised failure, after := engine.failCollective failure env.release }
          | .ok after => { outcome := .result, after := after }
        else
          match engine.reduceGroup elements dtype timeoutNs env with
          | (.error failure, engine, used) =>
            { outcome := .raised failure
              after := engine.failCollective failure env.release
              used := used }
          | (.ok (), engine, used) => { outcome := .result, after := engine, used := used }

/-- The checks of the reason and the failed rank of an abort. -/
def validateAbort (engine : AllReduceEngine) (reason : Argument) (failedRank : Option Argument) :
    Except EngineFailure (ℤ × ℤ) := do
  let reason ← exactInteger reason (-0x80000000) 0x7fffffff
  if reason ∉ validAbortStatuses then .error .valueError
  else
    let target ← exactInteger (failedRank.getD (some engine.rank)) 0 ((engine.worldSize : ℤ) - 1)
    .ok (reason, target)

def abort (engine : AllReduceEngine) (reason : Argument) (failedRank timeoutNs : Option Argument)
    (env : AbortEnv) : EngineReply :=
  if engine.state ≠ .ready then { outcome := .raised .stateError, after := engine }
  else
    match engine.validateAbort reason failedRank with
    | .error failure => { outcome := .raised failure, after := engine }
    | .ok (reason, target) =>
      -- the engine is aborted before its deadline is known
      let engine := { engine with
        state := .aborted
        lastError := some (.raised (some reason) (some target)) }
      if engine.singleton then { outcome := .done, after := engine.releaseResources env.release }
      else
        match deadline timeoutNs 5000000000 env.deadline with
        | .error failure => { outcome := .raised failure, after := engine }
        | .ok () => { outcome := .done, after := engine.releaseResources env.release }

/-- Close the live rank, if it is held. -/
def closeLiveRank (engine : AllReduceEngine) (timeoutNs : Option Argument) (env : CloseEnv) :
    Except EngineFailure Unit × AllReduceEngine :=
  if !engine.liveRank then (.ok (), engine)
  else
    match deadline timeoutNs 5000000000 env.deadline with
    | .error failure => (.error failure, engine)
    | .ok () =>
      match env.liveRank with
      | some failure =>
        (.error failure, { engine with
          releases := engine.releases ++ [{ resource := .liveRank, succeeded := false }] })
      | none =>
        (.ok (), { engine with
          liveRank := false
          releases := engine.releases ++ [{ resource := .liveRank, succeeded := true }] })

/-- Close the carrier, if it is held. -/
def closeCarrier (engine : AllReduceEngine) (env : CloseEnv) :
    Except EngineFailure Unit × AllReduceEngine :=
  if !engine.carrier then (.ok (), engine)
  else
    match env.carrier with
    | some failure =>
      (.error failure, { engine with
        releases := engine.releases ++ [{ resource := .carrier, succeeded := false }] })
    | none =>
      (.ok (), { engine with
        carrier := false
        releases := engine.releases ++ [{ resource := .carrier, succeeded := true }] })

def close (engine : AllReduceEngine) (timeoutNs : Option Argument) (env : CloseEnv) : EngineReply :=
  if engine.state = .closed then { outcome := .done, after := engine }
  else if engine.state = .aborted then
    { outcome := .done
      after := { engine.releaseResources env.release with state := .closed } }
  else if engine.state ≠ .ready then { outcome := .raised .stateError, after := engine }
  else
    match { engine with state := .closing }.closeLiveRank timeoutNs env with
    | (.error failure, engine) =>
      { outcome := .raised failure, after := engine.failCollective failure env.release }
    | (.ok (), engine) =>
      match engine.closeCarrier env with
      | (.error failure, engine) =>
        { outcome := .raised failure, after := engine.failCollective failure env.release }
      | (.ok (), engine) => { outcome := .done, after := { engine with state := .closed } }

def destroy (engine : AllReduceEngine) (env : ReleaseEnv) : EngineReply :=
  { outcome := .done, after := { engine.releaseResources env with state := .closed } }

end AllReduceEngine

/-- A public call with its arguments and what its callees raise. -/
inductive EngineOperation where
  | allReduce (input : Option TensorArgument) (timeoutNs : Option Argument) (env : CollectiveEnv)
  | abort (reason : Argument) (failedRank timeoutNs : Option Argument) (env : AbortEnv)
  | close (timeoutNs : Option Argument) (env : CloseEnv)
  | destroy (env : ReleaseEnv)

/-- A public call, and the process it is made in. -/
structure EngineCall where
  pid : ℕ
  operation : EngineOperation

namespace AllReduceEngine

/-- What a call does while it has the lock. -/
def perform (engine : AllReduceEngine) : EngineOperation → EngineReply
  | .allReduce input timeoutNs env => engine.allReduce input timeoutNs env
  | .abort reason failedRank timeoutNs env => engine.abort reason failedRank timeoutNs env
  | .close timeoutNs env => engine.close timeoutNs env
  | .destroy env => engine.destroy env

/-- A call: it takes the lock, and gives it back however it ends. -/
def run (engine : AllReduceEngine) (call : EngineCall) : EngineReply :=
  match engine.acquire call.pid with
  | (.error failure, engine) => { outcome := .raised failure, after := engine }
  | (.ok (), engine) =>
    let reply := engine.perform call.operation
    { reply with after := { reply.after with callLock := false } }

def step (engine : AllReduceEngine) (call : EngineCall) : AllReduceEngine := (engine.run call).after

/-- An engine that has joined a group. -/
def joined (ownerPid rank worldSize : ℕ) : AllReduceEngine where
  ownerPid := ownerPid
  rank := rank
  worldSize := worldSize
  singleton := false
  carrier := true
  liveRank := true

/-- An engine that is alone in its group. -/
def alone (ownerPid : ℕ) : AllReduceEngine where
  ownerPid := ownerPid
  rank := 0
  worldSize := 1
  singleton := true
  carrier := false
  liveRank := false

end AllReduceEngine

end GemSim.Collective
