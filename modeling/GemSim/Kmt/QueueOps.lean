import GemSim.Kmt.Call

/-!
# Queue and event operations

Creation, destruction and doorbells of compute queues, and the host events. A new
queue takes the lowest client slot its owner does not use; the slot fixes its
doorbell and completion words in the control region of the shared backing.
-/

namespace GemSim.Kmt

open GemSim.Lib HostGPUKmtState

variable (state : HostGPUKmtState) (call : Call)

/-- The ring geometry `QueueCreate` admits. -/
def ringValid (depth : UInt32) (ringBase ringBytes readPointer writePointer : UInt64) : Bool :=
  !(depth == 0 || depth > ((1 : UInt32) <<< 20) || ringBase == 0 || (ringBase &&& 63) != 0 ||
    ringBytes == 0 || ringBytes != depth.toUInt64 * 64 || ringBase > u64Max - ringBytes ||
    readPointer == 0 || writePointer == 0 || (readPointer &&& 7) != 0 ||
    (writePointer &&& 7) != 0 || readPointer > u64Max - 8 || writePointer > u64Max - 8)

/-- The client queue ids of the session's live queues, in slot order. -/
def clientQueueIds (queues : SlotTable MaximumQueues Queue) (session : Session) : List UInt32 :=
  (List.finRange MaximumQueues).filterMap fun slot =>
    ((queues slot).filter fun queue => session.owns queue.toIdentity).map Queue.clientQueueId

/-- The lowest client slot whose id (one above it) is not in use. -/
def firstClientSlot (used : List UInt32) : Option (Fin KmtSharedBackingMaximumDoorbellSlots) :=
  (List.finRange KmtSharedBackingMaximumDoorbellSlots).find? fun clientSlot =>
    !used.contains (UInt32.ofNat (clientSlot + 1))

def doorbellOffsetOf (sharedBackingBytes : UInt64) (clientSlot : ℕ) : UInt64 :=
  sharedBackingBytes - KmtSharedBackingDoorbellRegionBytes +
    KmtSharedBackingDoorbellRegionBaseBytes +
    UInt64.ofNat clientSlot * KmtSharedBackingDoorbellSlotBytes

def completionOffsetOf (sharedBackingBytes : UInt64) (clientSlot : ℕ) : UInt64 :=
  sharedBackingBytes - KmtSharedBackingDoorbellRegionBytes +
    KmtSharedBackingCompletionRegionBaseBytes +
    UInt64.ofNat clientSlot * KmtSharedBackingCompletionSlotBytes

/-- The queue a request creates in a slot. -/
def createdQueue (session : Session) (request : KmtRequest) (generation : UInt64)
    (slot : Fin MaximumQueues) (clientSlot : Fin KmtSharedBackingMaximumDoorbellSlots) : Queue where
  ownerId := session.ownerId
  ownerGeneration := session.ownerGeneration
  generation := generation
  clientQueueId := UInt32.ofNat (clientSlot + 1)
  registeredIndex := UInt32.ofNat slot
  ringBase := splitWords request.argumentWords 3 4
  ringBytes := load64 request.copiedBuffer 0
  readPointer := load64 request.copiedBuffer 8
  writePointer := load64 request.copiedBuffer 16
  depth := wordAt request.argumentWords 2
  queueType := wordAt request.argumentWords 1
  doorbellOffset := doorbellOffsetOf session.sharedBackingBytes clientSlot
  completionOffset := completionOffsetOf session.sharedBackingBytes clientSlot

def queueShapeValid (session : Session) (request : KmtRequest) : Bool :=
  shapeValid request false 24 [0, 1, 2, 3, 4] && wordAt request.argumentWords 0 == 1 &&
    ringValid (wordAt request.argumentWords 2) (splitWords request.argumentWords 3 4)
      (load64 request.copiedBuffer 0) (load64 request.copiedBuffer 8)
      (load64 request.copiedBuffer 16) &&
    session.sharedBackingExported

def queueCreate : Submitted :=
  if !queueShapeValid call.session call.request then malformed state call
  else
    match state.queues.firstFree with
    | none => refuse state call .outOfResources
    | some slot =>
      let used := clientQueueIds state.queues call.session
      if used.any fun clientQueueId => clientQueueId == 0 ||
          clientQueueId.toNat > KmtSharedBackingMaximumDoorbellSlots then
        refuse state call .error
      else
        match firstClientSlot used with
        | none => refuse state call .outOfResources
        | some clientSlot =>
          let taken := state.take .queue call.session.jobEpoch
          let state := state.withNext .queue taken.2
          if taken.1 = 0 then refuse state call .outOfResources
          else if slot.val ≥ KmtSharedBackingMaximumDoorbellSlots then
            { refuse state call .outOfResources with issued := some (.queue, taken.1) }
          else if call.env.badAlloc then
            { refuse state call .noMemory with issued := some (.queue, taken.1) }
          else
            let queue := createdQueue call.session call.request taken.1 slot clientSlot
            { state := state.addQueue slot queue
              decision := call.succeed fun response => { response with
                objectId := makeId QueuePrefix slot
                objectGeneration := taken.1
                resultWords := setWords (setWord response.resultWords 0 (wordAt call.request.argumentWords 2))
                  1 2 queue.doorbellOffset }
              issued := some (.queue, taken.1) }

def queueDestroy : Submitted :=
  if !shapeValid call.request true 0 [] then malformed state call
  else
    match state.resolveQueue call.session call.request with
    | none => refuse state call .invalidHandle
    | some (slot, queue) =>
      if queue.dispatchPins ≠ ∅ then refuse state call .unavailable
      else { state := state.releaseQueue slot queue, decision := call.decision }

def queueDoorbell : Submitted :=
  if !shapeValid call.request true 0 [0, 1] then malformed state call
  else
    match state.resolveQueue call.session call.request with
    | none => refuse state call .invalidHandle
    | some (slot, queue) =>
      let sequence := splitWords call.request.argumentWords 0 1
      if sequence = 0 ∨ sequence ≤ queue.lastDoorbell then malformed state call
      else
        { state := state.withQueue slot { queue with lastDoorbell := sequence }
          decision := call.succeed fun response => { response with
            resultWords := setWords response.resultWords 0 1 sequence } }

def eventCreate : Submitted :=
  if !shapeValid call.request false 0 [0, 1] then malformed state call
  else
    match state.events.firstFree with
    | none => refuse state call .outOfResources
    | some slot =>
      let taken := state.take .event call.session.jobEpoch
      let state := state.withNext .event taken.2
      if taken.1 = 0 then refuse state call .outOfResources
      else if call.env.badAlloc then
        { refuse state call .noMemory with issued := some (.event, taken.1) }
      else
        { state := state.addEvent slot
            { ownerId := call.session.ownerId
              ownerGeneration := call.session.ownerGeneration
              generation := taken.1
              value := splitWords call.request.argumentWords 0 1 }
          decision := call.succeed fun response => { response with
            objectId := makeId EventPrefix slot
            objectGeneration := taken.1 }
          issued := some (.event, taken.1) }

/-- Resolve the event of a request of the given shape and go on with it. -/
def onEvent (usedWords : List (Fin KmtArgumentWordCount))
    (proceed : Fin MaximumEvents → Event → Submitted) : Submitted :=
  if !shapeValid call.request true 0 usedWords then malformed state call
  else
    match state.resolveEvent call.session call.request with
    | none => refuse state call .invalidHandle
    | some (slot, event) => proceed slot event

def eventDestroy : Submitted :=
  onEvent state call [] fun slot event =>
    { state := state.releaseEvent slot event, decision := call.decision }

/-- Give an event a new value and count the change. -/
def updateEvent (slot : Fin MaximumEvents) (event : Event) (value : UInt64) : Submitted :=
  { state := state.withEvent slot { event with value := value, sequence := event.sequence + 1 }
    decision := call.decision }

def eventSet : Submitted :=
  onEvent state call [0, 1] fun slot event =>
    updateEvent state call slot event (splitWords call.request.argumentWords 0 1)

def eventReset : Submitted :=
  onEvent state call [] fun slot event => updateEvent state call slot event 0

def eventQuery : Submitted :=
  onEvent state call [] fun _ event =>
    answer state call fun response => { response with
      resultWords := setWords (setWord (setWords response.resultWords 0 1 event.value) 2
        (if event.value ≠ 0 then 1 else 0)) 3 4 event.sequence }

def conditionSatisfied (value : UInt64) (condition : UInt32) (compare : UInt64) : Bool :=
  match condition with
  | 0 => value == compare
  | 1 => value != compare
  | 2 => value < compare
  | 3 => value >= compare
  | _ => false

def eventWait : Submitted :=
  onEvent state call [0, 1, 2, 3] fun _ event =>
    let condition := splitWords call.request.argumentWords 0 1
    let compare := splitWords call.request.argumentWords 2 3
    if condition > 3 then malformed state call
    else answer state call fun response => { response with
      resultWords := setWords response.resultWords 0 1 event.value
      status := if conditionSatisfied event.value condition.toUInt32 compare then response.status
        else .waitTimeout }

end GemSim.Kmt
