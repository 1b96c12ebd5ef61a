import GemSim.Bridge.Protocol
import GemSim.Lib.Handles
import GemSim.Lib.Run

/-!
# Signals of the bridge

Signed signals, each with at most one pending wait. A wait is ready as soon as the signal
holds a value that satisfies it, when the wait is made or at a store after that. The ready
waits are popped one by one, and a popped wait stays with its signal until it is completed.
A dispatch may pin a signal, which keeps stores and the destruction of the signal off until
the dispatch releases it.

## Main definitions

* `Wait`, `Signal`, `HostGPUSignalState` — the signals
* `submit`, `popReady`, `complete`, `disconnect` — the operations of the control
* `pinPinnedDispatchSignal`, `pinGenericDispatchSignal`, `mirrorPinnedDispatchCompletion`,
  `releasePinnedDispatchSignal` — the operations of a dispatch
* `Input`, `step` — the signals as a machine
-/

namespace GemSim.Bridge

open GemSim.Lib
open GemSim.Kmt (Status)

abbrev MaximumSignals : ℕ := 1024
def MaximumWaits : UInt64 := 8
def SignalCompletionDelay : UInt64 := 1

structure Completion where
  owner : Owner
  header : Header
  signalId : UInt64
  signalGeneration : UInt64
  sequence : UInt64
  value : Int64
  readyTick : UInt64
  deriving DecidableEq

structure Wait where
  header : Header
  sequence : UInt64
  condition : SignalCondition
  compareValue : Int64
  ready : Bool
  queued : Bool := false
  capturedValue : Int64
  readyTick : UInt64
  deriving DecidableEq

structure Signal where
  owner : Owner
  generation : UInt64
  value : Int64
  lastSequence : UInt64 := 0
  dispatchRequestId : UInt64 := 0
  wait : Option Wait := none
  deriving DecidableEq

abbrev SignalTable := SlotTable MaximumSignals Signal

structure HostGPUSignalState where
  signals : SignalTable := SlotTable.empty
  generations : IssueCounter := {}
  liveSignals : UInt64 := 0
  liveWaits : UInt64 := 0

/-- Whether a sequence number follows another one. -/
def isNextSequence (previous candidate : UInt64) : Bool :=
  previous != u64Max && candidate == previous + 1

theorem toNat_of_isNextSequence {previous candidate : UInt64}
    (next : isNextSequence previous candidate = true) : candidate.toNat = previous.toNat + 1 := by
  simp only [isNextSequence, Bool.and_eq_true, bne_iff_ne, beq_iff_eq] at next
  obtain ⟨below, rfl⟩ := next
  exact toNat_succ below

def conditionSatisfied (value : Int64) (condition : SignalCondition) (compareValue : Int64) : Bool :=
  match condition with
  | .equal => value == compareValue
  | .notEqual => value != compareValue
  | .lessThan => decide (value < compareValue)
  | .greaterThanOrEqual => decide (compareValue ≤ value)

/-- The value satisfies the wait. -/
def Wait.satisfied (wait : Wait) (value : Int64) : Bool :=
  conditionSatisfied value wait.condition wait.compareValue

/-- The wait is armed, and the value would wake it. -/
def Signal.wakesArmed (signal : Signal) (value : Int64) : Bool :=
  signal.wait.any fun wait => !wait.ready && wait.satisfied value

/-- A value that wakes an armed wait is captured. -/
def Signal.hold (signal : Signal) (value : Int64) (now : UInt64) : Signal :=
  if signal.wakesArmed value then
    { signal with
      value := value
      wait := signal.wait.map fun wait => { wait with
        ready := true
        capturedValue := value
        readyTick := now + SignalCompletionDelay } }
  else { signal with value := value }

namespace HostGPUSignalState

def failureResponse (request : SignalRequest) (status : Status) : SignalResponse :=
  { status := status
    opcode := request.opcode
    signalId := request.signalId
    generation := request.generation
    sequence := request.sequence }

/-- The slot and the record of a handle, if its signal belongs to the owner. -/
def resolve (state : HostGPUSignalState) (owner : Owner) (signalId generation : UInt64) :
    Option (Fin MaximumSignals × Signal) :=
  match slotOfId MaximumSignals signalId with
  | none => none
  | some slot =>
    match state.signals slot with
    | none => none
    | some signal =>
      if signal.owner = owner ∧ signal.generation = generation then some (slot, signal) else none

/-- Change the record of a slot. -/
def setSignal (state : HostGPUSignalState) (slot : Fin MaximumSignals) (signal : Signal) :
    HostGPUSignalState :=
  { state with signals := state.signals.put slot signal }

/-- Free a slot. -/
def dropSignal (state : HostGPUSignalState) (slot : Fin MaximumSignals) : HostGPUSignalState :=
  { state with
    signals := state.signals.drop slot
    liveSignals := state.liveSignals - 1 }

/-- Forget the wait of a signal. -/
def dropWait (state : HostGPUSignalState) (slot : Fin MaximumSignals) (signal : Signal) :
    HostGPUSignalState :=
  { state with
    signals := state.signals.put slot { signal with wait := none }
    liveWaits := state.liveWaits - 1 }

def create (state : HostGPUSignalState) (owner : Owner) (request : SignalRequest) (now : UInt64) :
    SignalResponse × HostGPUSignalState :=
  let response := failureResponse request .resourceExhausted
  if state.liveSignals ≥ UInt64.ofNat MaximumSignals then (response, state)
  else
    match state.signals.firstFree with
    | none => (response, state)
    | some slot =>
      match state.generations.take with
      | none => (response, state)
      | some (generation, generations) =>
        ({ response with
            status := .ok
            signalId := idOfSlot slot
            generation := generation
            value := request.value
            simTick := now },
          { state with
            signals := state.signals.put slot
              { owner := owner, generation := generation, value := request.value }
            generations := generations
            liveSignals := state.liveSignals + 1 })

def submit (state : HostGPUSignalState) (owner : Owner) (header : Header)
    (request : SignalRequest) (now : UInt64) : SignalResponse × HostGPUSignalState :=
  if request.opcode = .create then state.create owner request now
  else
    let response := failureResponse request .protocolState
    match state.resolve owner request.signalId request.generation with
    | none => (response, state)
    | some (slot, signal) =>
      match request.opcode with
      | .create => ({ response with status := .malformed }, state)
      | .destroy =>
        if signal.wait.isSome ∨ signal.dispatchRequestId ≠ 0 then
          ({ response with status := .busy }, state)
        else ({ response with status := .ok, simTick := now }, state.dropSignal slot)
      | .load => ({ response with status := .ok, value := signal.value, simTick := now }, state)
      | .store =>
        if signal.dispatchRequestId ≠ 0 then ({ response with status := .busy }, state)
        else if signal.wakesArmed request.value ∧ now = u64Max then
          ({ response with status := .internal }, state)
        else
          ({ response with status := .ok, value := request.value, simTick := now },
            state.setSignal slot (signal.hold request.value now))
      | .wait =>
        if !isNextSequence signal.lastSequence request.sequence then (response, state)
        else if signal.wait.isSome then ({ response with status := .busy }, state)
        else if state.liveWaits ≥ MaximumWaits then
          ({ response with status := .resourceExhausted }, state)
        else if now = u64Max then ({ response with status := .internal }, state)
        else
          let ready := conditionSatisfied signal.value request.condition request.value
          let wait : Wait :=
            { header := header
              sequence := request.sequence
              condition := request.condition
              compareValue := request.value
              ready := ready
              capturedValue := if ready then signal.value else 0
              readyTick := if ready then now + SignalCompletionDelay else 0 }
          ({ response with
              status := .ok
              value := signal.value
              ready := if ready then 1 else 0
              simTick := now },
            { state with
              signals := state.signals.put slot
                { signal with wait := some wait, lastSequence := request.sequence }
              liveWaits := state.liveWaits + 1 })

/-- A ready wait that is not yet popped is preferred to another one if it is ready earlier. -/
def prefer (now : UInt64) (selected : Option (Fin MaximumSignals × Signal × Wait))
    (slot : Fin MaximumSignals) (signal : Signal) (wait : Wait) :
    Option (Fin MaximumSignals × Signal × Wait) :=
  if !wait.ready ∨ wait.queued ∨ wait.readyTick > now then selected
  else
    match selected with
    | none => some (slot, signal, wait)
    | some (_, _, best) => if wait.readyTick < best.readyTick then some (slot, signal, wait) else selected

/-- The loop over the slots for the wait that is ready first. -/
def selectReady (state : HostGPUSignalState) (now : UInt64) :
    List (Fin MaximumSignals) → Option (Fin MaximumSignals × Signal × Wait) →
      Option (Fin MaximumSignals × Signal × Wait)
  | [], selected => selected
  | slot :: rest, selected =>
    match state.signals slot with
    | none => selectReady state now rest selected
    | some signal =>
      match signal.wait with
      | none => selectReady state now rest selected
      | some wait => selectReady state now rest (prefer now selected slot signal wait)

def popReady (state : HostGPUSignalState) (now : UInt64) : Option Completion × HostGPUSignalState :=
  match state.selectReady now (List.finRange MaximumSignals) none with
  | none => (none, state)
  | some (slot, signal, wait) =>
    (some
      { owner := signal.owner
        header := wait.header
        signalId := idOfSlot slot
        signalGeneration := signal.generation
        sequence := wait.sequence
        value := wait.capturedValue
        readyTick := wait.readyTick },
      state.setSignal slot { signal with wait := some { wait with queued := true } })

/-- The completion is that of the ready wait. -/
def matchesWait (completion : Completion) (wait : Wait) : Bool :=
  wait.ready && completion.header.requestId != 0 &&
    wait.header.requestId == completion.header.requestId &&
    wait.sequence == completion.sequence && wait.capturedValue == completion.value &&
    wait.readyTick == completion.readyTick

def callbackPending (state : HostGPUSignalState) (completion : Completion) : Bool :=
  (state.resolve completion.owner completion.signalId completion.signalGeneration).any
    fun (_, signal) => signal.wait.any (matchesWait completion)

def complete (state : HostGPUSignalState) (completion : Completion) : Bool × HostGPUSignalState :=
  match state.resolve completion.owner completion.signalId completion.signalGeneration with
  | none => (false, state)
  | some (slot, signal) =>
    if !(signal.wait.any fun wait => wait.queued) ∨ !state.callbackPending completion then
      (false, state)
    else (true, state.dropWait slot signal)

/-- The wait of a signal ends with its owner, and so does the signal if no dispatch pins it. -/
def release (slot : Fin MaximumSignals) (signal : Signal) (state : HostGPUSignalState) :
    HostGPUSignalState :=
  let state := if signal.wait.isSome then state.dropWait slot signal else state
  if signal.dispatchRequestId = 0 then state.dropSignal slot else state

def disconnect (state : HostGPUSignalState) (owner : Owner) : HostGPUSignalState :=
  SlotTable.sweep HostGPUSignalState.signals (fun signal => signal.owner == owner) release state

def clear (state : HostGPUSignalState) : HostGPUSignalState :=
  { state with signals := SlotTable.empty, liveSignals := 0, liveWaits := 0 }

def validatePinnedDispatchSignalIdentity (state : HostGPUSignalState) (owner : Owner)
    (signalId generation : UInt64) (requiredValue : Int64) : Status :=
  match state.resolve owner signalId generation with
  | none => .protocolState
  | some (_, signal) =>
    if signal.value = requiredValue ∧ signal.wait.any (fun wait =>
      wait.condition == .equal && wait.compareValue == 0 && !wait.ready && !wait.queued) then .ok
    else .protocolState

def pinnedDispatchSignalBusy (state : HostGPUSignalState) (owner : Owner)
    (signalId generation : UInt64) : Bool :=
  match state.resolve owner signalId generation with
  | none => true
  | some (_, signal) => signal.dispatchRequestId != 0

def validatePinnedDispatchSignal (state : HostGPUSignalState) (owner : Owner)
    (signalId generation : UInt64) (requiredValue : Int64) : Status :=
  let status := state.validatePinnedDispatchSignalIdentity owner signalId generation requiredValue
  if status ≠ .ok then status
  else if state.pinnedDispatchSignalBusy owner signalId generation then .busy else .ok

def validateGenericDispatchSignalIdentity (state : HostGPUSignalState) (owner : Owner)
    (signalId generation : UInt64) : Status :=
  match state.resolve owner signalId generation with
  | none => .protocolState
  | some (_, signal) => if signal.value = 1 ∧ signal.wait.isNone then .ok else .protocolState

def validateGenericDispatchSignal (state : HostGPUSignalState) (owner : Owner)
    (signalId generation : UInt64) : Status :=
  let status := state.validateGenericDispatchSignalIdentity owner signalId generation
  if status ≠ .ok then status
  else if state.pinnedDispatchSignalBusy owner signalId generation then .busy else .ok

/-- Pin a signal that passed its validation. -/
def pin (state : HostGPUSignalState) (status : Status) (owner : Owner)
    (signalId generation requestId : UInt64) : Bool × HostGPUSignalState :=
  if requestId = 0 ∨ status ≠ .ok then (false, state)
  else
    match state.resolve owner signalId generation with
    | none => (false, state)
    | some (slot, signal) =>
      (true, state.setSignal slot { signal with dispatchRequestId := requestId })

def pinPinnedDispatchSignal (state : HostGPUSignalState) (owner : Owner)
    (signalId generation requestId : UInt64) : Bool × HostGPUSignalState :=
  state.pin (state.validatePinnedDispatchSignal owner signalId generation 1) owner signalId
    generation requestId

def pinGenericDispatchSignal (state : HostGPUSignalState) (owner : Owner)
    (signalId generation requestId : UInt64) : Bool × HostGPUSignalState :=
  state.pin (state.validateGenericDispatchSignal owner signalId generation) owner signalId
    generation requestId

/-- The signal that a dispatch pins. -/
def resolvePinned (state : HostGPUSignalState) (owner : Owner)
    (signalId generation requestId : UInt64) : Option (Fin MaximumSignals × Signal) :=
  if requestId = 0 then none
  else
    (state.resolve owner signalId generation).filter fun (_, signal) =>
      signal.dispatchRequestId == requestId

def mirrorPinnedDispatchCompletion (state : HostGPUSignalState) (owner : Owner)
    (signalId generation requestId : UInt64) (value : Int64) (now : UInt64) :
    Bool × HostGPUSignalState :=
  match state.resolvePinned owner signalId generation requestId with
  | none => (false, state)
  | some (slot, signal) =>
    if signal.wakesArmed value ∧ now = u64Max then (false, state)
    else (true, state.setSignal slot (signal.hold value now))

def releasePinnedDispatchSignal (state : HostGPUSignalState) (owner : Owner)
    (signalId generation requestId : UInt64) : Bool × HostGPUSignalState :=
  match state.resolvePinned owner signalId generation requestId with
  | none => (false, state)
  | some (slot, signal) => (true, state.setSignal slot { signal with dispatchRequestId := 0 })

/-- An operation on the signals. -/
inductive Input where
  | submit (owner : Owner) (header : Header) (request : SignalRequest) (now : UInt64)
  | popReady (now : UInt64)
  | complete (completion : Completion)
  | disconnect (owner : Owner)
  | clear
  | pinPinnedDispatchSignal (owner : Owner) (signalId generation requestId : UInt64)
  | pinGenericDispatchSignal (owner : Owner) (signalId generation requestId : UInt64)
  | mirrorPinnedDispatchCompletion (owner : Owner) (signalId generation requestId : UInt64)
      (value : Int64) (now : UInt64)
  | releasePinnedDispatchSignal (owner : Owner) (signalId generation requestId : UInt64)

def step (state : HostGPUSignalState) : Input → HostGPUSignalState
  | .submit owner header request now => (state.submit owner header request now).2
  | .popReady now => (state.popReady now).2
  | .complete completion => (state.complete completion).2
  | .disconnect owner => state.disconnect owner
  | .clear => state.clear
  | .pinPinnedDispatchSignal owner signalId generation requestId =>
    (state.pinPinnedDispatchSignal owner signalId generation requestId).2
  | .pinGenericDispatchSignal owner signalId generation requestId =>
    (state.pinGenericDispatchSignal owner signalId generation requestId).2
  | .mirrorPinnedDispatchCompletion owner signalId generation requestId value now =>
    (state.mirrorPinnedDispatchCompletion owner signalId generation requestId value now).2
  | .releasePinnedDispatchSignal owner signalId generation requestId =>
    (state.releasePinnedDispatchSignal owner signalId generation requestId).2

def boot : HostGPUSignalState := {}

end HostGPUSignalState

end GemSim.Bridge
