import Mathlib
import GemSim.Bridge.SignalState

/-!
# Queues of the bridge

Control queues with doorbells. An accepted doorbell is a command that is due one tick later.
The commands of all queues stand in one line, and each queue records the request id of its
pending commands by sequence number. A dispatch may pin a queue without pending commands,
which keeps doorbells and the destruction of the queue off until the dispatch releases it.

## Main definitions

* `Command`, `Queue`, `HostGPUQueueState` — the queues
* `submit`, `popReady`, `disconnect`, `clear` — the operations of the control
* `pinPinnedDispatch`, `releasePinnedDispatch`, `cancelPinnedDispatch` — the operations of
  a dispatch
* `Input`, `step` — the queues as a machine
-/

namespace GemSim.Bridge

open GemSim.Lib
open GemSim.Kmt (Status)

def MaximumQueues : ℕ := 8
def MaximumInflight : ℕ := 8
def CompletionDelay : UInt64 := 1

/-- The last kind of command, which completes with an injected error. -/
def controlErrorTest : UInt64 := 2

structure Command where
  owner : Owner
  header : Header
  queueId : UInt64
  queueGeneration : UInt64
  sequence : UInt64
  kind : UInt64
  readyTick : UInt64
  deriving DecidableEq

structure Queue where
  owner : Owner
  generation : UInt64
  depth : UInt64
  lastSequence : UInt64 := 0
  dispatchRequestId : UInt64 := 0
  requestIdBySequence : Std.ExtTreeMap UInt64 UInt64 := ∅

structure Decision where
  response : QueueResponse
  commandAccepted : Bool := false
  deriving DecidableEq

structure HostGPUQueueState where
  queues : Std.ExtTreeMap UInt64 Queue := ∅
  commands : List Command := []
  nextQueueId : UInt64 := 1
  nextQueueGeneration : UInt64 := 1

/-- The number after another one; zero is skipped. -/
def following (number : UInt64) : UInt64 :=
  if number + 1 = 0 then number + 1 + 1 else number + 1

namespace HostGPUQueueState

def echo (request : QueueRequest) (now : UInt64) : QueueResponse :=
  { opcode := request.opcode
    queueId := request.queueId
    generation := request.generation
    sequence := request.sequence
    simTick := now }

/-- The candidate ids from the next one on, and the next id after the attempts. -/
def tryQueueIds (queues : Std.ExtTreeMap UInt64 Queue) : ℕ → UInt64 → UInt64 × UInt64
  | 0, next => (0, next)
  | attempts + 1, candidate =>
    if candidate ≠ 0 ∧ candidate ∉ queues then (candidate, following candidate)
    else tryQueueIds queues attempts (following candidate)

def allocateQueueId (state : HostGPUQueueState) : UInt64 × HostGPUQueueState :=
  let (queueId, next) := tryQueueIds state.queues (state.queues.size + 1) state.nextQueueId
  (queueId, { state with nextQueueId := next })

def allocateQueueGeneration (state : HostGPUQueueState) : UInt64 × HostGPUQueueState :=
  (state.nextQueueGeneration,
    { state with nextQueueGeneration := following state.nextQueueGeneration })

/-- The queue of a handle, if it belongs to the owner. -/
def resolve (state : HostGPUQueueState) (owner : Owner) (queueId generation : UInt64) :
    Option Queue :=
  match state.queues[queueId]? with
  | none => none
  | some queue => if queue.owner = owner ∧ queue.generation = generation then some queue else none

/-- Change the record of a queue. -/
def setQueue (state : HostGPUQueueState) (queueId : UInt64) (queue : Queue) : HostGPUQueueState :=
  { state with queues := state.queues.insert queueId queue }

def create (state : HostGPUQueueState) (owner : Owner) (request : QueueRequest) (now : UInt64) :
    Decision × HostGPUQueueState :=
  let response := echo request now
  if state.queues.size ≥ MaximumQueues then
    ({ response := { response with status := .resourceExhausted } }, state)
  else
    let (queueId, state) := state.allocateQueueId
    let (generation, state) := state.allocateQueueGeneration
    if queueId = 0 ∨ generation = 0 then
      ({ response := { response with status := .internal } }, state)
    else
      ({ response :=
          { response with
            status := .ok
            queueId := queueId
            generation := generation
            value := request.arg0 } },
        state.setQueue queueId
          { owner := owner, generation := generation, depth := request.arg0 })

def destroy (state : HostGPUQueueState) (owner : Owner) (request : QueueRequest) (now : UInt64) :
    Decision × HostGPUQueueState :=
  let response := echo request now
  match state.resolve owner request.queueId request.generation with
  | none => ({ response := { response with status := .protocolState } }, state)
  | some queue =>
    if !queue.requestIdBySequence.isEmpty ∨ queue.dispatchRequestId ≠ 0 then
      ({ response := { response with status := .busy } }, state)
    else
      ({ response := { response with status := .ok } },
        { state with queues := state.queues.erase request.queueId })

/-- The command of an accepted doorbell. -/
def commandOf (owner : Owner) (header : Header) (request : QueueRequest) (now : UInt64) : Command :=
  { owner := owner
    header := header
    queueId := request.queueId
    queueGeneration := request.generation
    sequence := request.sequence
    kind := request.arg0
    readyTick := now + CompletionDelay }

def doorbell (state : HostGPUQueueState) (owner : Owner) (header : Header)
    (request : QueueRequest) (now : UInt64) : Decision × HostGPUQueueState :=
  let response := echo request now
  match state.resolve owner request.queueId request.generation with
  | none => ({ response := { response with status := .protocolState } }, state)
  | some queue =>
    if !isNextSequence queue.lastSequence request.sequence then
      ({ response := { response with status := .protocolState } }, state)
    else if request.arg0 > controlErrorTest then
      ({ response := { response with status := .malformed } }, state)
    else if queue.dispatchRequestId ≠ 0 then
      ({ response := { response with status := .busy } }, state)
    else if state.commands.length ≥ MaximumInflight ∨
        queue.requestIdBySequence.size ≥ queue.depth.toNat then
      ({ response := { response with status := .resourceExhausted } }, state)
    else if now = u64Max then ({ response := { response with status := .internal } }, state)
    else if request.sequence ∈ queue.requestIdBySequence then
      ({ response := { response with status := .internal } }, state)
    else
      ({ response := { response with status := .ok }, commandAccepted := true },
        { state with
          queues := state.queues.insert request.queueId
            { queue with
              lastSequence := request.sequence
              requestIdBySequence :=
                queue.requestIdBySequence.insert request.sequence header.requestId }
          commands := state.commands ++ [commandOf owner header request now] })

def submit (state : HostGPUQueueState) (owner : Owner) (header : Header) (request : QueueRequest)
    (now : UInt64) : Decision × HostGPUQueueState :=
  match request.opcode with
  | .create => state.create owner request now
  | .destroy => state.destroy owner request now
  | .doorbell => state.doorbell owner header request now

def completionResponse (command : Command) (now : UInt64) : QueueResponse :=
  let injectedError := command.kind = controlErrorTest
  { status := if injectedError then .internal else .ok
    opcode := .doorbell
    queueId := command.queueId
    generation := command.queueGeneration
    sequence := command.sequence
    value := command.kind
    errorCode := if injectedError then 1 else 0
    simTick := now }

/-- The queue still records the request of the command. -/
def callbackPending (state : HostGPUQueueState) (command : Command) : Bool :=
  (state.resolve command.owner command.queueId command.queueGeneration).any fun queue =>
    queue.requestIdBySequence[command.sequence]?.any fun requestId =>
      command.header.requestId != 0 && requestId == command.header.requestId

/-- The record of a command that completes is erased. -/
def settle (state : HostGPUQueueState) (command : Command) : HostGPUQueueState :=
  { state with
    queues := state.queues.modify command.queueId fun queue =>
      { queue with requestIdBySequence := queue.requestIdBySequence.erase command.sequence } }

/-- The loop over the commands in line. -/
def popCommands (state : HostGPUQueueState) (now : UInt64) :
    List Command → Option Command × HostGPUQueueState
  | [] => (none, { state with commands := [] })
  | command :: rest =>
    if command.readyTick ≤ now then
      if state.callbackPending command then
        (some command, { state.settle command with commands := rest })
      else popCommands state now rest
    else (none, { state with commands := command :: rest })

def popReady (state : HostGPUQueueState) (now : UInt64) : Option Command × HostGPUQueueState :=
  state.popCommands now state.commands

def nextReadyTick (state : HostGPUQueueState) : Option UInt64 :=
  state.commands.head?.map Command.readyTick

def validatePinnedDispatchIdentity (state : HostGPUQueueState) (owner : Owner)
    (queueId generation sequence : UInt64) : Status :=
  match state.resolve owner queueId generation with
  | none => .protocolState
  | some queue => if isNextSequence queue.lastSequence sequence then .ok else .protocolState

def pinnedDispatchBusy (state : HostGPUQueueState) (owner : Owner)
    (queueId generation : UInt64) : Bool :=
  match state.resolve owner queueId generation with
  | none => true
  | some queue => queue.dispatchRequestId != 0 || !queue.requestIdBySequence.isEmpty

def validatePinnedDispatch (state : HostGPUQueueState) (owner : Owner)
    (queueId generation sequence : UInt64) : Status :=
  let status := state.validatePinnedDispatchIdentity owner queueId generation sequence
  if status ≠ .ok then status
  else if state.pinnedDispatchBusy owner queueId generation then .busy else .ok

def pinPinnedDispatch (state : HostGPUQueueState) (owner : Owner)
    (queueId generation sequence requestId : UInt64) : Bool × HostGPUQueueState :=
  if requestId = 0 ∨ state.validatePinnedDispatch owner queueId generation sequence ≠ .ok then
    (false, state)
  else
    (true,
      { state with
        queues := state.queues.modify queueId fun queue =>
          { queue with lastSequence := sequence, dispatchRequestId := requestId } })

/-- The queue that a dispatch pins. -/
def resolvePinned (state : HostGPUQueueState) (owner : Owner)
    (queueId generation requestId : UInt64) : Option Queue :=
  if requestId = 0 then none
  else
    (state.resolve owner queueId generation).filter fun queue =>
      queue.dispatchRequestId == requestId

def pinnedDispatchOwned (state : HostGPUQueueState) (owner : Owner)
    (queueId generation sequence requestId : UInt64) : Bool :=
  (state.resolvePinned owner queueId generation requestId).any fun queue =>
    queue.lastSequence == sequence

def releasePinnedDispatch (state : HostGPUQueueState) (owner : Owner)
    (queueId generation requestId : UInt64) : Bool × HostGPUQueueState :=
  match state.resolvePinned owner queueId generation requestId with
  | none => (false, state)
  | some queue => (true, state.setQueue queueId { queue with dispatchRequestId := 0 })

def cancelPinnedDispatch (state : HostGPUQueueState) (owner : Owner)
    (queueId generation sequence requestId : UInt64) : Bool × HostGPUQueueState :=
  match state.resolvePinned owner queueId generation requestId with
  | none => (false, state)
  | some queue =>
    if sequence = 0 ∨ queue.lastSequence ≠ sequence then (false, state)
    else
      (true,
        state.setQueue queueId
          { queue with lastSequence := sequence - 1, dispatchRequestId := 0 })

def disconnect (state : HostGPUQueueState) (owner : Owner) : HostGPUQueueState :=
  { state with
    commands := state.commands.filter fun command => !(command.owner == owner)
    queues := state.queues.filter fun _ queue =>
      !(queue.owner == owner && queue.dispatchRequestId == 0) }

def clear (state : HostGPUQueueState) : HostGPUQueueState :=
  { state with commands := [], queues := ∅ }

/-- An operation on the queues. -/
inductive Input where
  | submit (owner : Owner) (header : Header) (request : QueueRequest) (now : UInt64)
  | popReady (now : UInt64)
  | disconnect (owner : Owner)
  | clear
  | pinPinnedDispatch (owner : Owner) (queueId generation sequence requestId : UInt64)
  | releasePinnedDispatch (owner : Owner) (queueId generation requestId : UInt64)
  | cancelPinnedDispatch (owner : Owner) (queueId generation sequence requestId : UInt64)

def step (state : HostGPUQueueState) : Input → HostGPUQueueState
  | .submit owner header request now => (state.submit owner header request now).2
  | .popReady now => (state.popReady now).2
  | .disconnect owner => state.disconnect owner
  | .clear => state.clear
  | .pinPinnedDispatch owner queueId generation sequence requestId =>
    (state.pinPinnedDispatch owner queueId generation sequence requestId).2
  | .releasePinnedDispatch owner queueId generation requestId =>
    (state.releasePinnedDispatch owner queueId generation requestId).2
  | .cancelPinnedDispatch owner queueId generation sequence requestId =>
    (state.cancelPinnedDispatch owner queueId generation sequence requestId).2

def boot : HostGPUQueueState := {}

end HostGPUQueueState

end GemSim.Bridge
