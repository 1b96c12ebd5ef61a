import GemSim.Kmt.Submit

/-!
# What a submission can do

Each handler is inverted once: its effect on the state is one of a few updates, each
with the guards that were passed. Invariants are proved by cases on the effect and
never unfold a handler.

## Main definitions

* `Effect` — the updates a handled request can make
* `SameObjects` — states that agree on sessions, objects and live counters
* `HandlerSpec` — effect, sequence consumption and atomicity of one handler
* `SubmitCases` — the ways a submission ends

## Main results

* `handle_spec` — every handler meets its specification
* `submit_cases` — the inversion of `submit`
-/

namespace GemSim.Kmt

open GemSim.Lib HostGPUKmtState

section Definitions

/-- The generation a request reports as taken: zero stands for none. -/
def issuedAs (kind : GenerationKind) (generation : UInt64) : Option (GenerationKind × UInt64) :=
  if generation = 0 then none else some (kind, generation)

/-- A session keeps its connection; its backing stays, or is exported for the first
time with a valid geometry. -/
structure Session.Continues (before after : Session) : Prop where
  transportOwner : after.transportOwner = before.transportOwner
  ownerId : after.ownerId = before.ownerId
  ownerGeneration : after.ownerGeneration = before.ownerGeneration
  lastSequence : before.lastSequence ≤ after.lastSequence
  jobEpoch : after.jobEpoch = before.jobEpoch
  backing :
    (after.sharedBackingExported = before.sharedBackingExported ∧
      after.sharedBackingBytes = before.sharedBackingBytes ∧
      after.sharedBackingPageBytes = before.sharedBackingPageBytes) ∨
    (before.sharedBackingExported = false ∧ after.sharedBackingExported = true ∧
      backingValid after.sharedBackingBytes after.sharedBackingPageBytes = true)

/-- The slot an `AllocateMemory` request passes all its checks for. -/
def legacyGrant (state : HostGPUKmtState) (call : Call) : Option (Fin MaximumAllocations) :=
  if call.request.operation = .allocateMemory ∧ legacyShapeValid call.request = true ∧
      legacySizeValid state.legacyTotalBytes (splitWords call.request.argumentWords 1 2)
        (splitWords call.request.argumentWords 3 4) = true ∧
      (state.take .allocation call.session.jobEpoch).1 ≠ 0 ∧ call.env.badAlloc = false then
    state.allocations.firstFree
  else none

/-- How a new allocation was placed, with the checks its path made. -/
inductive Placed (before : HostGPUKmtState) (call : Call) (generation : UInt64)
    (slot : Fin MaximumAllocations) : Allocation → Prop
  | legacy (operation : call.request.operation = .allocateMemory)
      (shape : legacyShapeValid call.request = true)
      (sized : legacySizeValid before.legacyTotalBytes (splitWords call.request.argumentWords 1 2)
        (splitWords call.request.argumentWords 3 4) = true) :
      Placed before call generation slot
        (legacyAllocation call.session generation (splitWords call.request.argumentWords 1 2)
          (splitWords call.request.argumentWords 3 4) slot)
  | gpu {virtualAddress size mmapOffset : UInt64} {gpuId memoryFlags : UInt32}
      (valid : gpuRequestValid call.session virtualAddress size mmapOffset gpuId memoryFlags = true)
      (fits : size ≤ u64Max - before.totalBytes)
      (apart : virtualOverlap before.allocations call.session virtualAddress size = false)
      (backed : isUserptr memoryFlags = false →
        backingRefusal call.session size mmapOffset (isDoorbell memoryFlags)
          before.allocations = none) :
      Placed before call generation slot
        (gpuAllocation call.session generation size virtualAddress mmapOffset gpuId memoryFlags)

/-- The state after a handled request, and the generation it took. A session is closed by
a close request; a teardown without a request stands under an open one, which no handler
serves. -/
inductive Effect (before : HostGPUKmtState) (call : Call) :
    HostGPUKmtState → Option (GenerationKind × UInt64) → Prop
  | unchanged : Effect before call before none
  | sampled (value : UInt64) : Effect before call { before with lastClockNanoseconds := value } none
  | closed (closes : call.request.operation = .closeKfd ∨ call.request.operation = .openKfd)
      (idle : before.holdsObjects call.session = false) :
      Effect before call (before.releaseSession call.slot) none
  | configured {session : Session} (continues : call.session.Continues session)
      (sequence : session.lastSequence = call.session.lastSequence) :
      Effect before call (before.withSession call.slot session) none
  | advanced (kind : GenerationKind) :
      Effect before call (before.withNext kind (before.take kind call.session.jobEpoch).2)
        (issuedAs kind (before.take kind call.session.jobEpoch).1)
  | allocated {slot : Fin MaximumAllocations} {allocation : Allocation}
      (free : before.allocations.firstFree = some slot)
      (taken : (before.take .allocation call.session.jobEpoch).1 ≠ 0)
      (stored : call.env.badAlloc = false)
      (placed : Placed before call (before.take .allocation call.session.jobEpoch).1 slot
        allocation) :
      Effect before call
        ((before.withNext .allocation
          (before.take .allocation call.session.jobEpoch).2).addAllocation slot allocation)
        (issuedAs .allocation (before.take .allocation call.session.jobEpoch).1)
  | freed {slot : Fin MaximumAllocations} {allocation : Allocation}
      (found : before.allocations slot = some allocation)
      (owned : call.session.owns allocation.toIdentity = true)
      (unpinned : allocation.dispatchPins = ∅) :
      Effect before call (before.releaseAllocation slot allocation) none
  | rewritten {slot : Fin MaximumAllocations} {allocation : Allocation}
      (mappedGpuIds : List UInt32) (bytes : SparseBytes)
      (found : before.allocations slot = some allocation)
      (owned : call.session.owns allocation.toIdentity = true)
      (unpinned : allocation.dispatchPins = ∅) :
      Effect before call
        (before.withAllocation slot
          { allocation with mappedGpuIds := mappedGpuIds, bytes := bytes }) none
  | queueCreated {slot : Fin MaximumQueues}
      {clientSlot : Fin KmtSharedBackingMaximumDoorbellSlots}
      (free : before.queues.firstFree = some slot)
      (exported : call.session.sharedBackingExported = true)
      (unused : firstClientSlot (clientQueueIds before.queues call.session) = some clientSlot)
      (taken : (before.take .queue call.session.jobEpoch).1 ≠ 0) :
      Effect before call
        ((before.withNext .queue (before.take .queue call.session.jobEpoch).2).addQueue slot
          (createdQueue call.session call.request (before.take .queue call.session.jobEpoch).1
            slot clientSlot))
        (issuedAs .queue (before.take .queue call.session.jobEpoch).1)
  | queueDestroyed {slot : Fin MaximumQueues} {queue : Queue}
      (found : before.queues slot = some queue)
      (owned : call.session.owns queue.toIdentity = true)
      (unpinned : queue.dispatchPins = ∅) :
      Effect before call (before.releaseQueue slot queue) none
  | queueRung {slot : Fin MaximumQueues} {queue : Queue} (lastDoorbell : UInt64)
      (found : before.queues slot = some queue)
      (owned : call.session.owns queue.toIdentity = true) :
      Effect before call (before.withQueue slot { queue with lastDoorbell := lastDoorbell }) none
  | eventCreated {slot : Fin MaximumEvents} (value : UInt64)
      (free : before.events.firstFree = some slot)
      (taken : (before.take .event call.session.jobEpoch).1 ≠ 0) :
      Effect before call
        ((before.withNext .event (before.take .event call.session.jobEpoch).2).addEvent slot
          { ownerId := call.session.ownerId
            ownerGeneration := call.session.ownerGeneration
            generation := (before.take .event call.session.jobEpoch).1
            value := value })
        (issuedAs .event (before.take .event call.session.jobEpoch).1)
  | eventDestroyed {slot : Fin MaximumEvents} {event : Event}
      (found : before.events slot = some event)
      (owned : call.session.owns event.toIdentity = true) :
      Effect before call (before.releaseEvent slot event) none
  | eventUpdated {slot : Fin MaximumEvents} {event : Event} (value sequence : UInt64)
      (found : before.events slot = some event)
      (owned : call.session.owns event.toIdentity = true) :
      Effect before call
        (before.withEvent slot { event with value := value, sequence := sequence }) none

/-- Wire success with provider success. -/
def Decision.Accepted (decision : Decision) : Prop :=
  decision.response.wireStatus = Status.ok.code ∧ decision.response.status = .success

/-- The two states agree on sessions, objects and live counters. -/
structure SameObjects (before after : HostGPUKmtState) : Prop where
  sessions : after.sessions = before.sessions
  allocations : after.allocations = before.allocations
  queues : after.queues = before.queues
  events : after.events = before.events
  liveOwners : after.liveOwners = before.liveOwners
  liveAllocations : after.liveAllocations = before.liveAllocations
  liveQueues : after.liveQueues = before.liveQueues
  liveEvents : after.liveEvents = before.liveEvents
  legacyTotalBytes : after.legacyTotalBytes = before.legacyTotalBytes
  totalBytes : after.totalBytes = before.totalBytes

/-- A clock request that `getClockCounters` answers with `invalidParameter`. -/
def misshapenClock (request : KmtRequest) : Bool :=
  decide (request.operation = .getClockCounters) &&
    (!shapeValid request false 0 [0] || wordAt request.argumentWords 0 != VisibleGpuId)

/-- What every handler guarantees. -/
structure HandlerSpec (before : HostGPUKmtState) (call : Call) (out : Submitted) : Prop where
  effect : Effect before call out.state out.issued
  consumed : out.decision.sequenceConsumed = !misshapenClock call.request
  atomic : ¬ out.decision.Accepted → SameObjects before out.state

end Definitions

section Basics

variable {before after : HostGPUKmtState} {call : Call}

theorem SameObjects.refl (state : HostGPUKmtState) : SameObjects state state :=
  ⟨rfl, rfl, rfl, rfl, rfl, rfl, rfl, rfl, rfl, rfl⟩

theorem SameObjects.trans {middle : HostGPUKmtState} (first : SameObjects before middle)
    (second : SameObjects middle after) : SameObjects before after where
  sessions := second.sessions.trans first.sessions
  allocations := second.allocations.trans first.allocations
  queues := second.queues.trans first.queues
  events := second.events.trans first.events
  liveOwners := second.liveOwners.trans first.liveOwners
  liveAllocations := second.liveAllocations.trans first.liveAllocations
  liveQueues := second.liveQueues.trans first.liveQueues
  liveEvents := second.liveEvents.trans first.liveEvents
  legacyTotalBytes := second.legacyTotalBytes.trans first.legacyTotalBytes
  totalBytes := second.totalBytes.trans first.totalBytes

theorem sameObjects_withNext (state : HostGPUKmtState) (kind : GenerationKind)
    (counter : UInt64) : SameObjects state (state.withNext kind counter) := by
  cases kind <;> exact ⟨rfl, rfl, rfl, rfl, rfl, rfl, rfl, rfl, rfl, rfl⟩

theorem issuedAs_of_ne {kind : GenerationKind} {generation : UInt64} (taken : generation ≠ 0) :
    issuedAs kind generation = some (kind, generation) := if_neg taken

theorem issuedAs_of_eq {kind : GenerationKind} {generation : UInt64} (lost : generation = 0) :
    issuedAs kind generation = none := if_pos lost

theorem misshapenClock_of_ne {request : KmtRequest}
    (other : request.operation ≠ .getClockCounters) : misshapenClock request = false := by
  rw [misshapenClock, decide_eq_false other, Bool.false_and]

theorem legacyGrant_of_ne {state : HostGPUKmtState}
    (other : call.request.operation ≠ .allocateMemory) : legacyGrant state call = none :=
  if_neg fun granted => other granted.1

theorem legacyGrant_of_placed {slot : Fin MaximumAllocations}
    (free : before.allocations.firstFree = some slot)
    (taken : (before.take .allocation call.session.jobEpoch).1 ≠ 0)
    (stored : call.env.badAlloc = false) (operation : call.request.operation = .allocateMemory)
    (shape : legacyShapeValid call.request = true)
    (sized : legacySizeValid before.legacyTotalBytes (splitWords call.request.argumentWords 1 2)
      (splitWords call.request.argumentWords 3 4) = true) :
    legacyGrant before call = some slot := by
  rw [legacyGrant, if_pos ⟨operation, shape, sized, taken, stored⟩, free]

/-- A session that accepted a sequence number continues. -/
theorem touched_continues {session : Session} {sequence : UInt64}
    (le : session.lastSequence ≤ sequence) :
    session.Continues { session with lastSequence := sequence } :=
  ⟨rfl, rfl, rfl, le, rfl, Or.inl ⟨rfl, rfl, rfl⟩⟩

theorem Session.Continues.refl (session : Session) : session.Continues session :=
  ⟨rfl, rfl, rfl, UInt64.le_refl _, rfl, Or.inl ⟨rfl, rfl, rfl⟩⟩

theorem Session.Continues.trans {first second third : Session} (start : first.Continues second)
    (rest : second.Continues third) : first.Continues third where
  transportOwner := rest.transportOwner.trans start.transportOwner
  ownerId := rest.ownerId.trans start.ownerId
  ownerGeneration := rest.ownerGeneration.trans start.ownerGeneration
  lastSequence := UInt64.le_trans start.lastSequence rest.lastSequence
  jobEpoch := rest.jobEpoch.trans start.jobEpoch
  backing := by
    rcases start.backing with ⟨flag, bytes, pageBytes⟩ | ⟨fresh, exported, valid⟩
    · rcases rest.backing with ⟨later, laterBytes, laterPage⟩ | ⟨fresh, exported, valid⟩
      · exact Or.inl ⟨later.trans flag, laterBytes.trans bytes, laterPage.trans pageBytes⟩
      · exact Or.inr ⟨flag ▸ fresh, exported, valid⟩
    · rcases rest.backing with ⟨later, laterBytes, laterPage⟩ | ⟨again, -, -⟩
      · exact Or.inr ⟨fresh, later.trans exported, by rw [laterBytes, laterPage]; exact valid⟩
      · exact absurd (again.symm.trans exported) (by decide)

end Basics

section Handlers

variable {state : HostGPUKmtState} {call : Call}

theorem refuse_spec (shaped : misshapenClock call.request = false) (status : KmtStatus) :
    HandlerSpec state call (refuse state call status) where
  effect := .unchanged
  consumed := by rw [shaped]; rfl
  atomic := fun _ => .refl state

theorem answer_spec (shaped : misshapenClock call.request = false)
    (fill : KmtResponse → KmtResponse) : HandlerSpec state call (answer state call fill) where
  effect := .unchanged
  consumed := by rw [shaped]; rfl
  atomic := fun _ => .refl state

/-- A request that lost its generation: the counter moved, nothing else did. -/
theorem lost_spec (shaped : misshapenClock call.request = false) (kind : GenerationKind)
    (status : KmtStatus) {issued : Option (GenerationKind × UInt64)}
    (same : issued = issuedAs kind (state.take kind call.session.jobEpoch).1) :
    HandlerSpec state call
      { refuse (state.withNext kind (state.take kind call.session.jobEpoch).2) call status with
        issued := issued } where
  effect := by rw [same]; exact .advanced kind
  consumed := by rw [shaped]; rfl
  atomic := fun _ => sameObjects_withNext state kind _

/-- A request that was applied and answered with success. -/
theorem applied_spec (shaped : misshapenClock call.request = false) {out : Submitted}
    (effect : Effect state call out.state out.issued)
    (consumed : out.decision.sequenceConsumed = true) (accepted : out.decision.Accepted) :
    HandlerSpec state call out where
  effect := effect
  consumed := by rw [shaped, consumed]; rfl
  atomic := fun rejected => absurd accepted rejected

theorem closeKfd_spec (operation : call.request.operation = .closeKfd) :
    HandlerSpec state call (closeKfd state call) := by
  have shaped : misshapenClock call.request = false :=
    misshapenClock_of_ne (by rw [operation]; decide)
  unfold closeKfd
  split
  · exact refuse_spec shaped _
  · split
    · exact refuse_spec shaped _
    · rename_i idle
      exact applied_spec shaped (.closed (Or.inl operation) (by simpa using idle)) rfl ⟨rfl, rfl⟩

theorem getVersion_spec (shaped : misshapenClock call.request = false) :
    HandlerSpec state call (getVersion state call) := by
  unfold getVersion
  split
  · exact refuse_spec shaped _
  · exact answer_spec shaped _

theorem getClockCounters_spec (operation : call.request.operation = .getClockCounters) :
    HandlerSpec state call (getClockCounters state call) := by
  unfold getClockCounters
  split
  · rename_i misshapen
    have clock : misshapenClock call.request = true := by
      simpa [misshapenClock, operation] using misshapen
    exact ⟨.unchanged, by rw [clock]; rfl, fun _ => .refl state⟩
  · rename_i shapely
    have clock : misshapenClock call.request = false := by
      simpa [misshapenClock, operation] using shapely
    exact applied_spec clock (.sampled _) rfl ⟨rfl, rfl⟩

theorem topologySnapshot_spec (shaped : misshapenClock call.request = false) :
    HandlerSpec state call (topologySnapshot state call) := by
  unfold topologySnapshot
  split
  · exact refuse_spec shaped _
  · exact answer_spec shaped _

theorem processApertures_spec (shaped : misshapenClock call.request = false) :
    HandlerSpec state call (processApertures state call) := by
  unfold processApertures
  dsimp only
  split
  · exact refuse_spec shaped _
  · split
    · exact refuse_spec shaped _
    · exact answer_spec shaped _

theorem configure_spec (shaped : misshapenClock call.request = false) {session : Session}
    (continues : call.session.Continues session)
    (sequence : session.lastSequence = call.session.lastSequence) :
    HandlerSpec state call (configure state call session) :=
  applied_spec shaped (.configured continues sequence) rfl ⟨rfl, rfl⟩

/-- A session whose connection and backing fields are untouched continues. -/
theorem session_continues {before after : Session}
    (transportOwner : after.transportOwner = before.transportOwner)
    (ownerId : after.ownerId = before.ownerId)
    (ownerGeneration : after.ownerGeneration = before.ownerGeneration)
    (lastSequence : after.lastSequence = before.lastSequence)
    (jobEpoch : after.jobEpoch = before.jobEpoch)
    (exported : after.sharedBackingExported = before.sharedBackingExported)
    (bytes : after.sharedBackingBytes = before.sharedBackingBytes)
    (pageBytes : after.sharedBackingPageBytes = before.sharedBackingPageBytes) :
    before.Continues after :=
  ⟨transportOwner, ownerId, ownerGeneration, lastSequence ▸ UInt64.le_refl _, jobEpoch,
    Or.inl ⟨exported, bytes, pageBytes⟩⟩

theorem acquireVm_spec (shaped : misshapenClock call.request = false) :
    HandlerSpec state call (acquireVm state call) := by
  unfold acquireVm
  dsimp only
  split
  · exact refuse_spec shaped _
  · split
    · exact refuse_spec shaped _
    · exact configure_spec shaped (session_continues rfl rfl rfl rfl rfl rfl rfl rfl) rfl

theorem setMemoryPolicy_spec (shaped : misshapenClock call.request = false) :
    HandlerSpec state call (setMemoryPolicy state call) := by
  unfold setMemoryPolicy
  dsimp only
  split
  · exact refuse_spec shaped _
  · split
    · exact refuse_spec shaped _
    · split
      · exact refuse_spec shaped _
      · exact configure_spec shaped (session_continues rfl rfl rfl rfl rfl rfl rfl rfl) rfl

theorem setScratchBackingVa_spec (shaped : misshapenClock call.request = false) :
    HandlerSpec state call (setScratchBackingVa state call) := by
  unfold setScratchBackingVa
  dsimp only
  split
  · exact refuse_spec shaped _
  · split
    · exact refuse_spec shaped _
    · split
      · exact refuse_spec shaped _
      · exact configure_spec shaped (session_continues rfl rfl rfl rfl rfl rfl rfl rfl) rfl

theorem exportBacking_spec (shaped : misshapenClock call.request = false) :
    HandlerSpec state call (exportBacking state call) := by
  unfold exportBacking
  dsimp only
  split
  · exact refuse_spec shaped _
  · split
    · exact refuse_spec shaped _
    · rename_i valid
      split
      · exact refuse_spec shaped _
      · rename_i fresh
        exact configure_spec shaped ⟨rfl, rfl, rfl, UInt64.le_refl _, rfl,
          Or.inr ⟨by simpa using fresh, rfl, by simpa using valid⟩⟩ rfl

theorem allocateMemory_spec (shaped : misshapenClock call.request = false)
    (operation : call.request.operation = .allocateMemory) :
    HandlerSpec state call (allocateMemory state call) := by
  unfold allocateMemory
  dsimp only
  split
  · exact refuse_spec shaped _
  · rename_i shape
    split
    · exact refuse_spec shaped _
    · rename_i sized
      split
      · exact refuse_spec shaped _
      · rename_i slot free
        split
        · rename_i lost
          exact lost_spec shaped .allocation _ (issuedAs_of_eq lost).symm
        · rename_i taken
          split
          · exact lost_spec shaped .allocation _ (issuedAs_of_ne taken).symm
          · rename_i stored
            refine applied_spec shaped ?_ rfl ⟨rfl, rfl⟩
            rw [← issuedAs_of_ne taken]
            exact .allocated free taken (by simpa using stored)
              (.legacy operation (by simpa using shape) (by simpa using sized))

theorem placeGpuAllocation_spec (shaped : misshapenClock call.request = false)
    {virtualAddress size mmapOffset : UInt64} {gpuId memoryFlags : UInt32}
    (valid : gpuRequestValid call.session virtualAddress size mmapOffset gpuId memoryFlags = true)
    (fits : size ≤ u64Max - state.totalBytes)
    (apart : virtualOverlap state.allocations call.session virtualAddress size = false)
    (backed : isUserptr memoryFlags = false →
      backingRefusal call.session size mmapOffset (isDoorbell memoryFlags)
        state.allocations = none) :
    HandlerSpec state call
      (placeGpuAllocation state call virtualAddress size mmapOffset gpuId memoryFlags) := by
  unfold placeGpuAllocation
  dsimp only
  split
  · exact refuse_spec shaped _
  · rename_i slot free
    split
    · rename_i lost
      exact lost_spec shaped .allocation _ (issuedAs_of_eq lost).symm
    · rename_i taken
      split
      · exact lost_spec shaped .allocation _ (issuedAs_of_ne taken).symm
      · rename_i stored
        refine applied_spec shaped ?_ rfl ⟨rfl, rfl⟩
        rw [← issuedAs_of_ne taken]
        exact .allocated free taken (by simpa using stored) (.gpu valid fits apart backed)

theorem allocateMemoryOfGpu_spec (shaped : misshapenClock call.request = false) :
    HandlerSpec state call (allocateMemoryOfGpu state call) := by
  unfold allocateMemoryOfGpu
  dsimp only
  split
  · exact refuse_spec shaped _
  · split
    · exact refuse_spec shaped _
    · rename_i valid
      split
      · exact refuse_spec shaped _
      · rename_i fits
        split
        · exact refuse_spec shaped _
        · rename_i apart
          split
          · rename_i userptr
            exact placeGpuAllocation_spec shaped (by simpa using valid) (UInt64.not_lt.mp fits)
              (by simpa using apart) (fun ordinary => by simp [ordinary] at userptr)
          · split
            · exact refuse_spec shaped _
            · rename_i placed
              exact placeGpuAllocation_spec shaped (by simpa using valid) (UInt64.not_lt.mp fits)
                (by simpa using apart) (fun _ => placed)

/-- A resolved object is in the table, and the session owns it. -/
theorem owns_of_resolveIn {n : ℕ} {α : Type*} {identity : α → Identity} {idPrefix : UInt64}
    {table : SlotTable n α} {session : Session} {objectId objectGeneration : UInt64}
    {slot : Fin n} {object : α}
    (resolved : resolveIn identity idPrefix table session.ownerId session.ownerGeneration
      objectId objectGeneration = some (slot, object)) :
    table slot = some object ∧ session.owns (identity object) = true := by
  obtain ⟨-, -, found, sameOwner, sameGeneration, -⟩ := resolveIn_eq_some.mp resolved
  exact ⟨found, by simp [Session.owns, sameOwner, sameGeneration]⟩

theorem freeAllocation_spec (shaped : misshapenClock call.request = false) (gpu : Bool) :
    HandlerSpec state call (freeAllocation state call gpu) := by
  unfold freeAllocation
  split
  · exact refuse_spec shaped _
  · split
    · exact refuse_spec shaped _
    · rename_i slot allocation resolved
      obtain ⟨found, owned⟩ := owns_of_resolveIn resolved
      split
      · exact refuse_spec shaped _
      · split
        · exact refuse_spec shaped _
        · rename_i unpinned
          exact applied_spec shaped (.freed found owned (not_not.mp unpinned)) rfl ⟨rfl, rfl⟩

theorem remapMemory_spec (shaped : misshapenClock call.request = false)
    (change : List UInt32 → UInt32 → List UInt32) :
    HandlerSpec state call (remapMemory state call change) := by
  unfold remapMemory
  split
  · exact refuse_spec shaped _
  · split
    · exact refuse_spec shaped _
    · rename_i slot allocation resolved
      obtain ⟨found, owned⟩ := owns_of_resolveIn resolved
      split
      · exact refuse_spec shaped _
      · split
        · exact refuse_spec shaped _
        · rename_i unpinned
          split
          · exact refuse_spec shaped _
          · exact applied_spec shaped
              (.rewritten _ allocation.bytes found owned (not_not.mp unpinned)) rfl ⟨rfl, rfl⟩

theorem copyMemory_spec (shaped : misshapenClock call.request = false) :
    HandlerSpec state call (copyMemory state call) := by
  unfold copyMemory
  dsimp only
  split
  · exact refuse_spec shaped _
  · split
    · exact refuse_spec shaped _
    · rename_i slot allocation resolved
      obtain ⟨found, owned⟩ := owns_of_resolveIn resolved
      split
      · exact refuse_spec shaped _
      · rename_i unpinned
        split
        · exact refuse_spec shaped _
        · split
          · split
            · exact refuse_spec shaped _
            · exact applied_spec shaped
                (.rewritten allocation.mappedGpuIds _ found owned (not_not.mp unpinned)) rfl
                ⟨rfl, rfl⟩
          · split
            · exact refuse_spec shaped _
            · exact answer_spec shaped _

theorem pointerInfo_spec (shaped : misshapenClock call.request = false) :
    HandlerSpec state call (pointerInfo state call) := by
  unfold pointerInfo
  split
  · exact refuse_spec shaped _
  · split
    · exact refuse_spec shaped _
    · exact answer_spec shaped _

theorem modelDrmCall_spec (shaped : misshapenClock call.request = false) :
    HandlerSpec state call (modelDrmCall state call) := by
  unfold modelDrmCall
  split
  · exact refuse_spec shaped _
  · exact refuse_spec shaped _

theorem queueCreate_spec (shaped : misshapenClock call.request = false) :
    HandlerSpec state call (queueCreate state call) := by
  unfold queueCreate
  dsimp only
  split
  · exact refuse_spec shaped _
  · rename_i shape
    have exported : call.session.sharedBackingExported = true := by
      rw [Bool.not_eq_true, Bool.not_eq_false', queueShapeValid, Bool.and_eq_true] at shape
      exact shape.2
    split
    · exact refuse_spec shaped _
    · rename_i slot free
      split
      · exact refuse_spec shaped _
      · split
        · exact refuse_spec shaped _
        · rename_i clientSlot unused
          split
          · rename_i lost
            exact lost_spec shaped .queue _ (issuedAs_of_eq lost).symm
          · rename_i taken
            split
            · exact lost_spec shaped .queue _ (issuedAs_of_ne taken).symm
            · split
              · exact lost_spec shaped .queue _ (issuedAs_of_ne taken).symm
              · refine applied_spec shaped ?_ rfl ⟨rfl, rfl⟩
                rw [← issuedAs_of_ne taken]
                exact .queueCreated free exported unused taken

theorem queueDestroy_spec (shaped : misshapenClock call.request = false) :
    HandlerSpec state call (queueDestroy state call) := by
  unfold queueDestroy
  split
  · exact refuse_spec shaped _
  · split
    · exact refuse_spec shaped _
    · rename_i slot queue resolved
      obtain ⟨found, owned⟩ := owns_of_resolveIn resolved
      split
      · exact refuse_spec shaped _
      · rename_i unpinned
        exact applied_spec shaped (.queueDestroyed found owned (not_not.mp unpinned)) rfl
          ⟨rfl, rfl⟩

theorem queueDoorbell_spec (shaped : misshapenClock call.request = false) :
    HandlerSpec state call (queueDoorbell state call) := by
  unfold queueDoorbell
  dsimp only
  split
  · exact refuse_spec shaped _
  · split
    · exact refuse_spec shaped _
    · rename_i slot queue resolved
      obtain ⟨found, owned⟩ := owns_of_resolveIn resolved
      split
      · exact refuse_spec shaped _
      · exact applied_spec shaped (.queueRung _ found owned) rfl ⟨rfl, rfl⟩

theorem eventCreate_spec (shaped : misshapenClock call.request = false) :
    HandlerSpec state call (eventCreate state call) := by
  unfold eventCreate
  dsimp only
  split
  · exact refuse_spec shaped _
  · split
    · exact refuse_spec shaped _
    · rename_i slot free
      split
      · rename_i lost
        exact lost_spec shaped .event _ (issuedAs_of_eq lost).symm
      · rename_i taken
        split
        · exact lost_spec shaped .event _ (issuedAs_of_ne taken).symm
        · refine applied_spec shaped ?_ rfl ⟨rfl, rfl⟩
          rw [← issuedAs_of_ne taken]
          exact .eventCreated _ free taken

/-- A handler that goes on with a resolved event meets its specification when its
continuation does on every event the session owns. -/
theorem onEvent_spec (shaped : misshapenClock call.request = false)
    (usedWords : List (Fin KmtArgumentWordCount))
    {proceed : Fin MaximumEvents → Event → Submitted}
    (proceeds : ∀ slot event, state.events slot = some event →
      call.session.owns event.toIdentity = true → HandlerSpec state call (proceed slot event)) :
    HandlerSpec state call (onEvent state call usedWords proceed) := by
  unfold onEvent
  split
  · exact refuse_spec shaped _
  · split
    · exact refuse_spec shaped _
    · rename_i slot event resolved
      obtain ⟨found, owned⟩ := owns_of_resolveIn resolved
      exact proceeds slot event found owned

theorem eventDestroy_spec (shaped : misshapenClock call.request = false) :
    HandlerSpec state call (eventDestroy state call) :=
  onEvent_spec shaped _ fun _ _ found owned =>
    applied_spec shaped (.eventDestroyed found owned) rfl ⟨rfl, rfl⟩

theorem eventSet_spec (shaped : misshapenClock call.request = false) :
    HandlerSpec state call (eventSet state call) :=
  onEvent_spec shaped _ fun _ _ found owned =>
    applied_spec shaped (.eventUpdated _ _ found owned) rfl ⟨rfl, rfl⟩

theorem eventReset_spec (shaped : misshapenClock call.request = false) :
    HandlerSpec state call (eventReset state call) :=
  onEvent_spec shaped _ fun _ _ found owned =>
    applied_spec shaped (.eventUpdated _ _ found owned) rfl ⟨rfl, rfl⟩

theorem eventQuery_spec (shaped : misshapenClock call.request = false) :
    HandlerSpec state call (eventQuery state call) :=
  onEvent_spec shaped _ fun _ _ _ _ => answer_spec shaped _

theorem eventWait_spec (shaped : misshapenClock call.request = false) :
    HandlerSpec state call (eventWait state call) := by
  refine onEvent_spec shaped _ fun slot event _ _ => ?_
  dsimp only
  split
  · exact refuse_spec shaped _
  · exact answer_spec shaped _

/-- Every handler meets its specification. -/
theorem handle_spec (state : HostGPUKmtState) (call : Call) :
    HandlerSpec state call (handle state call) := by
  unfold handle
  cases operation : call.request.operation
  case getClockCounters => exact getClockCounters_spec operation
  all_goals have shaped : misshapenClock call.request = false :=
    misshapenClock_of_ne (by rw [operation]; decide)
  case openKfd => exact refuse_spec shaped _
  case closeKfd => exact closeKfd_spec operation
  case getVersion => exact getVersion_spec shaped
  case topologySnapshot => exact topologySnapshot_spec shaped
  case allocateMemory => exact allocateMemory_spec shaped operation
  case freeMemory => exact freeAllocation_spec shaped _
  case copyMemory => exact copyMemory_spec shaped
  case queueCreate => exact queueCreate_spec shaped
  case queueDestroy => exact queueDestroy_spec shaped
  case queueDoorbell => exact queueDoorbell_spec shaped
  case eventCreate => exact eventCreate_spec shaped
  case eventDestroy => exact eventDestroy_spec shaped
  case eventSet => exact eventSet_spec shaped
  case eventReset => exact eventReset_spec shaped
  case eventQuery => exact eventQuery_spec shaped
  case eventWait => exact eventWait_spec shaped
  case pointerInfo => exact pointerInfo_spec shaped
  case modelDrmCall => exact modelDrmCall_spec shaped
  case processApertures => exact processApertures_spec shaped
  case acquireVm => exact acquireVm_spec shaped
  case setMemoryPolicy => exact setMemoryPolicy_spec shaped
  case allocateMemoryOfGpu => exact allocateMemoryOfGpu_spec shaped
  case freeMemoryOfGpu => exact freeAllocation_spec shaped _
  case mapMemoryToGpu => exact remapMemory_spec shaped _
  case unmapMemoryFromGpu => exact remapMemory_spec shaped _
  case setScratchBackingVa => exact setScratchBackingVa_spec shaped
  case exportBacking => exact exportBacking_spec shaped

end Handlers

section Submission

/-- The session `submitOpen` puts in place. -/
def openedSession (transportOwner : Owner) (slot : Fin MaximumOwners)
    (generation jobEpoch : UInt64) : Session where
  transportOwner := transportOwner
  ownerId := makeId OwnerPrefix slot
  ownerGeneration := generation
  lastSequence := 1
  jobEpoch := jobEpoch

/-- The ways a submission ends. -/
inductive SubmitCases (before : HostGPUKmtState) (env : Env) (transportOwner : Owner)
    (header : Header) (request : KmtRequest) : Submitted → Prop
  /-- Refused before any session accepted the sequence number. -/
  | rejected {decision : Decision} (failed : ¬ decision.Accepted)
      (unconsumed : decision.sequenceConsumed = false) :
      SubmitCases before env transportOwner header request { state := before, decision := decision }
  /-- A second open with a sequence number above the last one. -/
  | reopened {slot : Fin MaximumOwners} {existing : Session} {decision : Decision}
      (found : before.findSession transportOwner = some (slot, existing))
      (first : request.operationSequence = 1)
      (later : existing.lastSequence < request.operationSequence)
      (failed : ¬ decision.Accepted) (unconsumed : decision.sequenceConsumed = false) :
      SubmitCases before env transportOwner header request
        { state := before.withSession slot
            { existing with lastSequence := request.operationSequence }
          decision := decision }
  /-- An open that lost its owner generation. -/
  | lostOwner {decision : Decision} (failed : ¬ decision.Accepted)
      (unconsumed : decision.sequenceConsumed = false) :
      SubmitCases before env transportOwner header request
        { state := before.withNext .owner (before.take .owner header.jobEpoch).2
          decision := decision
          issued := issuedAs .owner (before.take .owner header.jobEpoch).1 }
  | opened {slot : Fin MaximumOwners} {decision : Decision}
      (fresh : before.findSession transportOwner = none)
      (free : before.sessions.firstFree = some slot)
      (first : request.operationSequence = 1)
      (taken : (before.take .owner header.jobEpoch).1 ≠ 0)
      (accepted : decision.Accepted) (consumed : decision.sequenceConsumed = true) :
      SubmitCases before env transportOwner header request
        { state := (before.withNext .owner (before.take .owner header.jobEpoch).2).addSession slot
            (openedSession transportOwner slot (before.take .owner header.jobEpoch).1
              header.jobEpoch)
          decision := decision
          issued := issuedAs .owner (before.take .owner header.jobEpoch).1 }
  /-- A request of an open session, run by its handler. -/
  | handled {call : Call} {out : Submitted}
      (handled : handledCall before env transportOwner header request = some call)
      (spec : HandlerSpec (before.withSession call.slot call.session) call out) :
      SubmitCases before env transportOwner header request out

variable {before : HostGPUKmtState} {env : Env} {transportOwner : Owner} {header : Header}
  {request : KmtRequest}

theorem wireFailure_not_accepted {status : Status} (failed : status.code ≠ Status.ok.code) :
    ¬ (wireFailure request status).Accepted := fun accepted => failed accepted.1

theorem providerFailure_not_accepted {status : KmtStatus} (failed : status ≠ .success) :
    ¬ (providerFailure request status).Accepted := fun accepted => failed accepted.2

theorem submitOpen_cases :
    SubmitCases before env transportOwner header request
      (submitOpen before env transportOwner header request) := by
  unfold submitOpen
  dsimp only
  split
  · exact .rejected (wireFailure_not_accepted (by decide)) rfl
  · rename_i shape
    have first : request.operationSequence = 1 := by
      simp only [Bool.or_eq_true, not_or, bne_iff_ne, ne_eq, not_not] at shape
      tauto
    split
    · rename_i slot existing found
      split
      · exact .rejected (wireFailure_not_accepted (by decide)) rfl
      · rename_i later
        exact .reopened found first (UInt64.not_le.mp later)
          (providerFailure_not_accepted (by decide)) rfl
    · rename_i fresh
      split
      · exact .rejected (providerFailure_not_accepted (by decide)) rfl
      · rename_i slot free
        split
        · rename_i lost
          have none : (none : Option (GenerationKind × UInt64)) =
              issuedAs .owner (before.take .owner header.jobEpoch).1 := (issuedAs_of_eq lost).symm
          rw [none]
          exact .lostOwner (providerFailure_not_accepted (by decide)) rfl
        · rename_i taken
          rw [← issuedAs_of_ne taken]
          split
          · exact .lostOwner (providerFailure_not_accepted (by decide)) rfl
          · exact .opened fresh free first taken ⟨rfl, rfl⟩ rfl

/-- What it takes for a request to reach its handler. -/
theorem handledCall_eq_some {call : Call} :
    handledCall before env transportOwner header request = some call ↔
      ∃ slot session, request.operation ≠ .openKfd ∧
        before.findSessionAs transportOwner request.ownerId request.ownerGeneration =
          some (slot, session) ∧
        (header.jobEpoch ≠ 0 ∧ header.jobEpoch = session.jobEpoch) ∧
        (session.lastSequence < request.operationSequence ∧
          request.operationSequence ≠ u64Max) ∧
        call = resolvedCall env header request slot session := by
  unfold handledCall
  constructor
  · intro handled
    split at handled
    · cases handled
    · rename_i operation
      split at handled
      · cases handled
      · rename_i slot session found
        split at handled
        · cases handled
        · rename_i epoch
          push Not at epoch
          split at handled
          · cases handled
          · rename_i sequence
            push Not at sequence
            exact ⟨slot, session, operation, found, epoch,
              ⟨UInt64.not_le.mp sequence.1, sequence.2⟩, (Option.some.inj handled).symm⟩
  · rintro ⟨slot, session, operation, found, epoch, sequence, rfl⟩
    have later : ¬ request.operationSequence ≤ session.lastSequence :=
      UInt64.not_le.mpr sequence.1
    simp only [operation, if_false, found, epoch.1, epoch.2.symm, ne_eq, not_true_eq_false,
      or_self, later, sequence.2]

/-- Every submission ends in one of the ways listed. -/
theorem submit_cases :
    SubmitCases before env transportOwner header request
      (submit before env transportOwner header request) := by
  unfold submit
  dsimp only
  split
  · exact submitOpen_cases
  · rename_i operation
    split
    · exact .rejected (providerFailure_not_accepted (by decide)) rfl
    · rename_i slot session found
      split
      · exact .rejected (wireFailure_not_accepted (by decide)) rfl
      · rename_i epoch
        push Not at epoch
        split
        · exact .rejected (wireFailure_not_accepted (by decide)) rfl
        · rename_i sequence
          push Not at sequence
          exact .handled (handledCall_eq_some.mpr ⟨slot, session, operation, found, epoch,
            ⟨UInt64.not_le.mp sequence.1, sequence.2⟩, rfl⟩) (handle_spec _ _)

end Submission

end GemSim.Kmt
