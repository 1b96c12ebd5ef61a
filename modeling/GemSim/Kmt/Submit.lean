import GemSim.Kmt.MemoryOps
import GemSim.Kmt.QueueOps
import GemSim.Kmt.SessionOps

/-!
# Submission

`submit` takes one request of a transport owner: an open request goes to
`submitOpen`; any other needs a session with the request's owner id and generation,
the session's job epoch, and a sequence number above the last accepted one.
`disconnect` releases everything a transport owner holds, unless it is pinned.
-/

namespace GemSim.Kmt

open GemSim.Lib HostGPUKmtState

/-- Open a connection for a transport owner that has none. -/
def submitOpen (state : HostGPUKmtState) (env : Env) (transportOwner : Owner) (header : Header)
    (request : KmtRequest) : Submitted :=
  if header.jobEpoch == 0 || request.operationSequence == 0 || request.operationSequence != 1 ||
      request.flags != 0 || !pairAbsent request.ownerId request.ownerGeneration ||
      !pairAbsent request.objectId request.objectGeneration ||
      !pairAbsent request.auxId request.auxGeneration ||
      !noWordsExcept request.argumentWords [] || request.copiedBytes != 0 ||
      request.copiedCrc32c != 0 then
    { state := state, decision := wireFailure request .malformed }
  else
    match state.findSession transportOwner with
    | some (slot, existing) =>
      if request.operationSequence ≤ existing.lastSequence then
        { state := state, decision := wireFailure request .protocolState }
      else
        { state := state.withSession slot
            { existing with lastSequence := request.operationSequence }
          decision := providerFailure request .kernelAlreadyOpened }
    | none =>
      match state.sessions.firstFree with
      | none => { state := state, decision := providerFailure request .outOfResources }
      | some slot =>
        let taken := state.take .owner header.jobEpoch
        let state := state.withNext .owner taken.2
        if taken.1 = 0 then { state := state, decision := providerFailure request .outOfResources }
        else if env.badAlloc then
          { state := state, decision := providerFailure request .noMemory
            issued := some (.owner, taken.1) }
        else
          { state := state.addSession slot
              { transportOwner := transportOwner
                ownerId := makeId OwnerPrefix slot
                ownerGeneration := taken.1
                lastSequence := 1
                jobEpoch := header.jobEpoch }
            decision :=
              { sequenceConsumed := true
                response := { responseFor request with
                  status := .success
                  ownerId := makeId OwnerPrefix slot
                  ownerGeneration := taken.1
                  objectId := 0
                  objectGeneration := 0
                  auxId := 0
                  auxGeneration := 0 } }
            issued := some (.owner, taken.1) }

/-- The handler of each operation. -/
def handle (state : HostGPUKmtState) (call : Call) : Submitted :=
  match call.request.operation with
  | .closeKfd => closeKfd state call
  | .getVersion => getVersion state call
  | .getClockCounters => getClockCounters state call
  | .topologySnapshot => topologySnapshot state call
  | .processApertures => processApertures state call
  | .acquireVm => acquireVm state call
  | .setMemoryPolicy => setMemoryPolicy state call
  | .setScratchBackingVa => setScratchBackingVa state call
  | .exportBacking => exportBacking state call
  | .allocateMemory => allocateMemory state call
  | .allocateMemoryOfGpu => allocateMemoryOfGpu state call
  | .freeMemoryOfGpu => freeMemoryOfGpu state call
  | .mapMemoryToGpu => mapMemoryToGpu state call
  | .unmapMemoryFromGpu => unmapMemoryFromGpu state call
  | .freeMemory => freeMemory state call
  | .copyMemory => copyMemory state call
  | .queueCreate => queueCreate state call
  | .queueDestroy => queueDestroy state call
  | .queueDoorbell => queueDoorbell state call
  | .eventCreate => eventCreate state call
  | .eventDestroy => eventDestroy state call
  | .eventSet => eventSet state call
  | .eventReset => eventReset state call
  | .eventQuery => eventQuery state call
  | .eventWait => eventWait state call
  | .pointerInfo => pointerInfo state call
  | .modelDrmCall => modelDrmCall state call
  | .openKfd => malformed state call

/-- The call a request becomes once its session accepted its sequence number. -/
def resolvedCall (env : Env) (header : Header) (request : KmtRequest)
    (slot : Fin MaximumOwners) (session : Session) : Call where
  env := env
  header := header
  request := request
  slot := slot
  session := { session with lastSequence := request.operationSequence }

/-- The call a submission hands to its handler, when it gets that far. -/
def handledCall (state : HostGPUKmtState) (env : Env) (transportOwner : Owner) (header : Header)
    (request : KmtRequest) : Option Call :=
  if request.operation = .openKfd then none
  else
    match state.findSessionAs transportOwner request.ownerId request.ownerGeneration with
    | none => none
    | some (slot, session) =>
      if header.jobEpoch = 0 ∨ header.jobEpoch ≠ session.jobEpoch then none
      else if request.operationSequence ≤ session.lastSequence ∨
          request.operationSequence = u64Max then none
      else some (resolvedCall env header request slot session)

/-- Submit one request. -/
def submit (state : HostGPUKmtState) (env : Env) (transportOwner : Owner) (header : Header)
    (request : KmtRequest) : Submitted :=
  if request.operation = .openKfd then submitOpen state env transportOwner header request
  else
    match state.findSessionAs transportOwner request.ownerId request.ownerGeneration with
    | none => { state := state, decision := invalidHandle request }
    | some (slot, session) =>
      if header.jobEpoch = 0 ∨ header.jobEpoch ≠ session.jobEpoch then
        { state := state, decision := wireFailure request .topologyMismatch }
      else if request.operationSequence ≤ session.lastSequence ∨
          request.operationSequence = u64Max then
        { state := state, decision := wireFailure request .protocolState }
      else
        let call := resolvedCall env header request slot session
        handle (state.withSession slot call.session) call

/-- Release the object of one slot, if the session owns it. -/
def releaseSlot {n : ℕ} {α : Type} (table : HostGPUKmtState → SlotTable n α)
    (identity : α → Identity) (release : HostGPUKmtState → Fin n → α → HostGPUKmtState)
    (session : Session) (state : HostGPUKmtState) (slot : Fin n) : HostGPUKmtState :=
  match table state slot with
  | none => state
  | some object => if session.owns (identity object) then release state slot object else state

/-- Release the objects of a session in one table, slot after slot. -/
def releaseOwned {n : ℕ} {α : Type} (table : HostGPUKmtState → SlotTable n α)
    (identity : α → Identity) (release : HostGPUKmtState → Fin n → α → HostGPUKmtState)
    (session : Session) (state : HostGPUKmtState) : HostGPUKmtState :=
  (List.finRange n).foldl (releaseSlot table identity release session) state

/-- Release every allocation, queue and event of a session. -/
def releaseSessionObjects (state : HostGPUKmtState) (session : Session) : HostGPUKmtState :=
  releaseOwned events Event.toIdentity releaseEvent session <|
    releaseOwned queues Queue.toIdentity releaseQueue session <|
      releaseOwned allocations Allocation.toIdentity releaseAllocation session state

/-- Drop the connection of a transport owner, unless one of its dispatches is pinned. -/
def disconnect (state : HostGPUKmtState) (transportOwner : Owner) : HostGPUKmtState :=
  match state.findSession transportOwner with
  | none => state
  | some (slot, session) =>
    if state.ownerHasDispatchPins transportOwner then state
    else (releaseSessionObjects state session).releaseSession slot

/-- Forget every session and object; the generation counters and the clock stay. -/
def clear (state : HostGPUKmtState) : HostGPUKmtState :=
  { state with
    sessions := SlotTable.empty
    allocations := SlotTable.empty
    queues := SlotTable.empty
    events := SlotTable.empty
    liveOwners := 0
    liveAllocations := 0
    liveQueues := 0
    liveEvents := 0
    legacyTotalBytes := 0
    totalBytes := 0 }

end GemSim.Kmt
