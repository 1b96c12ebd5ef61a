import GemSim.Dispatch.Leases
import GemSim.Dispatch.System

/-!
# What one operation of the dispatch state does

Each operation is described once: which allocations it may touch, and which of the
records of mapping, kernarg buffer and submission it changes. The invariants of the runs
are read off these descriptions.

## Main definitions

* `Quiet` — mapping, kernarg buffer, submission and queues stay
* `Mapped`, `Allocated`, `Submitted`, `Cancelled` — what a call leaves that does more
-/

namespace GemSim.Dispatch

open GemSim.Lib GemSim.Domain GemSim.Memory GemSim.CodeObject
open GemSim.Native (HostNativeQueueCore FetchedPacket)

namespace HostNativeDispatchStateV2

variable {state middle after : HostNativeDispatchStateV2} {touched : AllocationHandle → Prop}

/-- The allocation of the kernarg buffer and the lease of its pages. -/
def buffer (state : HostNativeDispatchStateV2) : Option (AllocationHandle × PageLease) :=
  state.kernarg.map fun kernarg => (kernarg.allocation.allocation, kernarg.lease)

/-- The operation changes none of the records. -/
structure Quiet (state after : HostNativeDispatchStateV2) : Prop where
  mapperOwner : after.mapperOwner = state.mapperOwner
  boundOwner : after.boundOwner = state.boundOwner
  mapping : after.mapping = state.mapping
  buffer : after.buffer = state.buffer
  submission : after.submission = state.submission
  queues : after.queues = state.queues

theorem Quiet.refl (state : HostNativeDispatchStateV2) : Quiet state state :=
  ⟨rfl, rfl, rfl, rfl, rfl, rfl⟩

theorem Quiet.trans (first : Quiet state middle) (second : Quiet middle after) :
    Quiet state after where
  mapperOwner := second.mapperOwner.trans first.mapperOwner
  boundOwner := second.boundOwner.trans first.boundOwner
  mapping := second.mapping.trans first.mapping
  buffer := second.buffer.trans first.buffer
  submission := second.submission.trans first.submission
  queues := second.queues.trans first.queues

/-- A map request that succeeds. -/
structure Mapped (state after : HostNativeDispatchStateV2) (record : MappingRecord) : Prop where
  mapperOwner : after.mapperOwner = state.mapperOwner
  boundOwner : after.boundOwner = state.boundOwner
  unmapped : state.mapping = none
  mapping : after.mapping = some record
  buffer : after.buffer = state.buffer
  submission : after.submission = state.submission
  queues : after.queues = state.queues
  valid : record.value.valid = true
  owned : state.mapperOwner = state.boundOwner
  unnamed : Unnamed state.context record.value.allocation.allocation
  holding : Holding state.boundOwner after.context record.value.lease
    record.value.allocation.allocation

/-- A kernarg request that succeeds. -/
structure Allocated (state after : HostNativeDispatchStateV2) (handle : AllocationHandle)
    (lease : PageLease) : Prop where
  mapperOwner : after.mapperOwner = state.mapperOwner
  boundOwner : after.boundOwner = state.boundOwner
  mapped : state.mapping.isSome = true
  mapping : after.mapping = state.mapping
  unallocated : state.kernarg = none
  buffer : after.buffer = some (handle, lease)
  submission : after.submission = state.submission
  queues : after.queues = state.queues
  unnamed : Unnamed state.context handle
  holding : Holding state.boundOwner after.context lease handle

/-- A submit that the command processor does not take: the fetch is cancelled. -/
structure Cancelled (state after : HostNativeDispatchStateV2) (queue : ℕ)
    (fetched : FetchedPacket) (admits : Bool) : Prop where
  mapperOwner : after.mapperOwner = state.mapperOwner
  boundOwner : after.boundOwner = state.boundOwner
  mapping : after.mapping = state.mapping
  buffer : after.buffer = state.buffer
  submission : after.submission = state.submission
  context : after.context = state.context
  owned : (state.queues queue).ownsPending fetched = true
  declined : (commandProcessorSubmit (state.queues queue) fetched admits).1 = false
  queues : after.queues = Function.update state.queues queue
    ((commandProcessorSubmit (state.queues queue) fetched admits).2.cancelFetch
      fetched.ticket).after

/-- A submit that succeeds. -/
structure Submitted (state after : HostNativeDispatchStateV2) (record : SubmissionRecord)
    (code : MappingRecord) (buffered : KernargRecord) : Prop where
  mapperOwner : after.mapperOwner = state.mapperOwner
  boundOwner : after.boundOwner = state.boundOwner
  free : state.submission = none
  mapped : state.mapping = some code
  allocated : state.kernarg = some buffered
  mapping : after.mapping = state.mapping
  buffer : after.buffer = state.buffer
  submission : after.submission = some record
  codePinned : (state.pin code.value.allocation.allocation record.requestId).1 = true
  bufferPinned : ((state.pin code.value.allocation.allocation record.requestId).2.pin
    buffered.allocation.allocation record.requestId).1 = true
  context : after.context = ((state.pin code.value.allocation.allocation
    record.requestId).2.pin buffered.allocation.allocation record.requestId).2.context
  accepted : ((state.queues record.queue).acceptDispatch record.ticket).returned = true
  queues : after.queues = Function.update state.queues record.queue
    ((state.queues record.queue).acceptDispatch record.ticket).after

section Requests

variable (layout : Layout)

/-- A failed request that had changed the context at most. -/
theorem failResult_quiet {α : Type} [Inhabited α] (state : HostNativeDispatchStateV2)
    (context : HostNativeMemoryContext) (identities : Option DispatchIdentitySequence)
    (status : Status) (failure : FailureReason) (reason : String) :
    Quiet state (@failResult α _ { state with context := context, identities := identities }
      status failure reason).after :=
  ⟨rfl, rfl, rfl, rfl, rfl, rfl⟩

theorem badAlloc_quiet {α : Type} [Inhabited α] (state : HostNativeDispatchStateV2)
    (context : HostNativeMemoryContext) :
    Quiet state (@badAlloc α _ { state with context := context }).after :=
  ⟨rfl, rfl, rfl, rfl, rfl, rfl⟩

theorem refuseContext_quiet {α : Type} [Inhabited α] (state : HostNativeDispatchStateV2)
    (request : OperationContext) (invalid mismatch : String) :
    Quiet state (@refuseContext α _ state request invalid mismatch).after ∧
      (@refuseContext α _ state request invalid mismatch).after.context = state.context ∧
      (@refuseContext α _ state request invalid mismatch).returned = false := by
  unfold refuseContext
  split
  · exact ⟨failResult_quiet state _ _ _ _ _, rfl, rfl⟩
  · exact ⟨failResult_quiet state _ _ _ _ _, rfl, rfl⟩

theorem refuseContext_kernarg {α : Type} [Inhabited α] (state : HostNativeDispatchStateV2)
    (request : OperationContext) (invalid mismatch : String) :
    (@refuseContext α _ state request invalid mismatch).after.kernarg = state.kernarg := by
  unfold refuseContext
  split
  · rfl
  · rfl

/-- A request that may map finds no mapping. -/
theorem unmapped_of_validateMapRequest {command : MapKernel} {image : List UInt8}
    {metadata : CodeObjectMetadata}
    (checked : state.validateMapRequest layout command image metadata = none) :
    state.mapping = none := by
  unfold validateMapRequest at checked
  dsimp only at checked
  split at checked
  · split at checked
    · cases checked
    · cases checked
  · rename_i admitted
    simp only [not_or] at admitted
    simpa using admitted.2.2.2.2.2.2.2.1

/-- An allocation that is shown to an owner is the owner's. -/
theorem owner_of_view {memory : HostGPUMemoryState} {owner other : OwnerKey}
    {handle : AllocationHandle} {use : Usage} {shown : AllocationInfo → Bool}
    (found : memory.usage owner handle = some use)
    (viewed : (memory.allocationView other handle).any shown = true) : owner = other := by
  unfold HostGPUMemoryState.allocationView at viewed
  cases resolved : memory.resolve other handle with
  | none =>
    rw [resolved] at viewed
    cases viewed
  | some pair =>
    exact HostGPUMemoryState.usage_owner found (HostGPUMemoryState.usage_of_resolve resolved)

/-- A map request touches only what was not allocated before. -/
theorem map_effect (sound : ContextSound state.context) (request : OperationContext)
    (command : MapKernel) (image : List UInt8) (metadata : CodeObjectMetadata)
    (env : MapRequestEnv) :
    Moves (Unnamed state.context) state.context
        (state.map layout request command image metadata env).after.context ∧
      ((state.map layout request command image metadata env).returned = false ∧
          Quiet state (state.map layout request command image metadata env).after ∨
        (state.map layout request command image metadata env).returned = true ∧
          ∃ mapping, Mapped state (state.map layout request command image metadata env).after
            mapping) := by
  unfold map
  split
  · obtain ⟨quiet, same, failed⟩ := @refuseContext_quiet MappingInfo _ state request
      "invalid MAP request context" "MAP owner mismatch"
    rw [same]
    exact ⟨.refl sound, .inl ⟨failed, quiet⟩⟩
  split
  · exact ⟨.refl sound, .inl ⟨rfl, failResult_quiet state _ _ _ _ _⟩⟩
  rename_i checked
  obtain ⟨moved, materialized⟩ := mapCodeObject_spec layout sound state.mapperOwner image metadata
    env.mapper
  split
  · rename_i context thrown
    rw [thrown] at moved
    exact ⟨moved, .inl ⟨rfl, badAlloc_quiet state _⟩⟩
  · rename_i failure context failed
    rw [failed] at moved
    exact ⟨moved, .inl ⟨rfl, failResult_quiet state _ _ _ _ _⟩⟩
  rename_i mapped context ended
  rw [ended] at moved materialized
  obtain ⟨unnamed, holding, sole⟩ := materialized mapped rfl
  dsimp only at moved holding sole ⊢
  -- whatever fails from here on, the code object is unmapped again
  have undone := moved.trans (unmapCodeObject_moves moved.sound state.mapperOwner mapped unnamed)
  split
  · exact ⟨moved, .inl ⟨rfl, failResult_quiet state _ _ _ _ _⟩⟩
  rename_i valid
  split
  · exact ⟨undone, .inl ⟨rfl, failResult_quiet state _ _ _ _ _⟩⟩
  rename_i viewed
  split
  · exact ⟨undone, .inl ⟨rfl, failResult_quiet state _ _ _ _ _⟩⟩
  split
  · exact ⟨undone, .inl ⟨rfl, failResult_quiet state _ _ _ _ _⟩⟩
  split
  · exact ⟨undone, .inl ⟨rfl, failResult_quiet state _ _ _ _ _⟩⟩
  split
  · exact ⟨undone, .inl ⟨rfl, failResult_quiet state _ _ _ _ _⟩⟩
  split
  · exact ⟨undone, .inl ⟨rfl, failResult_quiet state _ _ _ _ _⟩⟩
  split
  · exact ⟨undone, .inl ⟨rfl, failResult_quiet state _ _ _ _ _⟩⟩
  have owned : state.mapperOwner = state.boundOwner :=
    owner_of_view sole (by simpa using viewed)
  exact ⟨moved, .inr ⟨rfl, _,
    { mapperOwner := rfl
      boundOwner := rfl
      unmapped := unmapped_of_validateMapRequest layout checked
      mapping := rfl
      buffer := rfl
      submission := rfl
      queues := rfl
      valid := by simpa using valid
      owned := owned
      unnamed := unnamed
      holding := owned ▸ holding }⟩⟩

theorem mapped_of_validateMapping {object : ObjectHandle} {handle : MappingHandle}
    (checked : state.validateMapping object handle = true) : state.mapping.isSome = true := by
  unfold validateMapping at checked
  exact Option.isSome_of_any (Bool.and_eq_true_iff.mp checked).2

/-- A kernarg request touches only what was not allocated before. -/
theorem allocateKernarg_effect (sound : ContextSound state.context) (request : OperationContext)
    (command : AllocateKernarg) (env : KernargEnv) :
    Moves (Unnamed state.context) state.context
        (state.allocateKernarg request command env).after.context ∧
      ((state.allocateKernarg request command env).returned = false ∧
          Quiet state (state.allocateKernarg request command env).after ∨
        (state.allocateKernarg request command env).returned = true ∧
          ∃ handle lease, Allocated state (state.allocateKernarg request command env).after handle
            lease) := by
  unfold allocateKernarg
  split
  · obtain ⟨quiet, same, failed⟩ := @refuseContext_quiet KernargInfo _ state request
      "invalid ALLOC request context" "ALLOC owner mismatch"
    rw [same]
    exact ⟨.refl sound, .inl ⟨failed, quiet⟩⟩
  split
  · split
    · exact ⟨.refl sound, .inl ⟨rfl, failResult_quiet state _ _ _ _ _⟩⟩
    · exact ⟨.refl sound, .inl ⟨rfl, failResult_quiet state _ _ _ _ _⟩⟩
  rename_i checked
  simp only [not_or, Bool.not_eq_true', Bool.not_eq_false, Bool.not_eq_true,
    Option.isSome_eq_false_iff, Option.isNone_iff_eq_none] at checked
  generalize requested : ({ size := command.size, alignment := state.context.pageSize } :
    AllocationRequest) = wanted
  dsimp only
  have allocated := allocate_moves sound state.boundOwner wanted env.allocates
  split
  · exact ⟨allocated, .inl ⟨rfl, failResult_quiet state _ _ _ _ _⟩⟩
  rename_i accepted
  rcases state.context.memory.allocate_cases state.boundOwner wanted env.allocates with
    ⟨refused, -⟩ | ⟨slot, allocation, result, fresh⟩
  · rw [refused] at accepted
    exact absurd rfl accepted
  rw [result]
  have undone : ∀ {context : HostNativeMemoryContext},
      Moves (Unnamed state.context) state.context context →
      Moves (Unnamed state.context) state.context (freeAllocation context state.boundOwner
        (infoOf slot allocation.generation allocation.size allocation.alignment).allocation).2 :=
    fun moves => moves.trans (free_moves moves.sound fresh.unnamed)
  split
  · exact ⟨undone allocated, .inl ⟨rfl, failResult_quiet state _ _ _ _ _⟩⟩
  rename_i view viewed
  obtain rfl := Option.some.inj (viewed.symm.trans fresh.view)
  split
  · exact ⟨undone allocated, .inl ⟨rfl, failResult_quiet state _ _ _ _ _⟩⟩
  have leased := @map_moves _ (Unnamed state.context) allocated.sound (virtualAddress slot)
    allocation.size env.maps fun info offset found => by
      rw [(resolveRange_fresh fresh found).2]
      exact fresh.unnamed
  have moved := allocated.trans leased
  split
  · rename_i after refused
    rw [show (infoOf slot allocation.generation allocation.size allocation.alignment).gpuVa =
      virtualAddress slot from rfl] at refused
    rw [show (infoOf slot allocation.generation allocation.size allocation.alignment).size =
      allocation.size from rfl] at refused
    rw [refused] at moved
    exact ⟨undone moved, .inl ⟨rfl, failResult_quiet state _ _ _ _ _⟩⟩
  rename_i lease after taken
  rw [show (infoOf slot allocation.generation allocation.size allocation.alignment).gpuVa =
    virtualAddress slot from rfl] at taken
  rw [show (infoOf slot allocation.generation allocation.size allocation.alignment).size =
    allocation.size from rfl] at taken
  rw [taken] at moved
  obtain ⟨info, offset, use, found, about, -, -, leases, -⟩ := map_eq_some taken
  obtain ⟨owned, rfl⟩ := resolveRange_fresh fresh found
  split
  · have returned := moved.trans (unmap_moves moved.sound (about ▸ fresh.unnamed))
    exact ⟨undone returned, .inl ⟨rfl, failResult_quiet state _ _ _ _ _⟩⟩
  exact ⟨moved, .inr ⟨rfl, _, _,
    { mapperOwner := rfl
      boundOwner := rfl
      mapped := mapped_of_validateMapping checked.1
      mapping := rfl
      unallocated := checked.2.1
      buffer := rfl
      submission := rfl
      queues := rfl
      unnamed := fresh.unnamed
      holding :=
        { owned := moved.owner.trans owned
          byOwner := fresh.validOwner
          named := fresh.validHandle
          about := about
          held := leases ▸ List.mem_cons_self } }⟩⟩

/-- A publication writes bytes at most. -/
theorem publishKernarg_effect (sound : ContextSound state.context) (request : OperationContext)
    (command : PublishKernarg) (env : PublishEnv) :
    Steady state.context (state.publishKernarg request command env).after.context ∧
      Quiet state (state.publishKernarg request command env).after := by
  unfold publishKernarg
  dsimp only
  split
  · obtain ⟨quiet, same, -⟩ := @refuseContext_quiet Unit _ state request
      "invalid kernarg publication context" "kernarg publication owner mismatch"
    rw [same]
    exact ⟨.refl sound, quiet⟩
  split
  · exact ⟨.refl sound, failResult_quiet state _ _ _ _ _⟩
  split
  · exact ⟨.refl sound, failResult_quiet state _ _ _ _ _⟩
  rename_i kernarg here
  split
  · exact ⟨.refl sound, failResult_quiet state _ _ _ _ _⟩
  split
  · exact ⟨.refl sound, failResult_quiet state _ _ _ _ _⟩
  have written := @write_moves state.context (fun _ => False) sound
    (kernarg.allocation.gpuVa + command.offset) command.bytes request.leaseToken env.write
  split
  · rename_i context thrown
    rw [thrown] at written
    exact ⟨written, badAlloc_quiet state _⟩
  · rename_i context refused
    rw [refused] at written
    exact ⟨written, failResult_quiet state _ _ _ _ _⟩
  rename_i context wrote
  rw [wrote] at written
  split
  · exact ⟨written, badAlloc_quiet state _⟩
  · refine ⟨written, ⟨rfl, rfl, rfl, ?_, rfl, rfl⟩⟩
    unfold buffer
    rw [here]
    rfl

theorem takeTrace_eq_some {dispatchIdOverride traceId : UInt64}
    (taken : state.takeTrace dispatchIdOverride = some (traceId, after)) :
    ∃ identities, after = { state with identities := identities } := by
  unfold takeTrace at taken
  split at taken
  · split at taken
    · cases taken
    · obtain ⟨-, rfl⟩ := Prod.mk.inj (Option.some.inj taken)
      exact ⟨state.identities, rfl⟩
  · split at taken
    · cases taken
    · split at taken
      · cases taken
      · obtain ⟨-, rfl⟩ := Prod.mk.inj (Option.some.inj taken)
        exact ⟨_, rfl⟩

/-- A pin that is refused leaves the state as it was. -/
theorem pin_refused {handle : AllocationHandle} {requestId : UInt64}
    (denied : state.pin handle requestId = (false, after)) : after = state := by
  unfold pin at denied
  rcases state.context.memory.pin_cases state.boundOwner handle requestId with
    refused | ⟨-, -, -, -, pinned, -⟩
  · rw [refused] at denied
    exact (Prod.mk.inj denied).2.symm
  · have failed : (state.context.memory.pinPinnedDispatchAllocation state.boundOwner handle
      requestId).1 = false := congrArg Prod.fst denied
    rw [pinned] at failed
    cases failed

/-- A pin that is released leaves the state as it was. -/
theorem unpin_pin {handle : AllocationHandle} {requestId : UInt64}
    (pinned : (state.pin handle requestId).1 = true) :
    ((state.pin handle requestId).2.unpin handle requestId).2 = state := by
  have undone := HostGPUMemoryState.pin_undone pinned
  unfold unpin pin
  dsimp only
  rw [undone]

/-- A queue that changes in between stays changed. -/
theorem withQueue_unpin (state : HostNativeDispatchStateV2) (queue : ℕ)
    (core : HostNativeQueueCore) (handle : AllocationHandle) (requestId : UInt64) :
    ((state.withQueue queue core).unpin handle requestId).2 =
      (state.unpin handle requestId).2.withQueue queue core := rfl

theorem owned_of_queueIdentity {core : HostNativeQueueCore} {fetched : FetchedPacket}
    (same : queueIdentity core fetched = true) : core.ownsPending fetched = true :=
  (Bool.and_eq_true_iff.mp same).2

theorem accepted_of_commandProcessorSubmit {core last : HostNativeQueueCore}
    {fetched : FetchedPacket} {admits : Bool}
    (accepted : commandProcessorSubmit core fetched admits = (true, last)) :
    (core.acceptDispatch fetched.ticket).returned = true ∧
      last = (core.acceptDispatch fetched.ticket).after := by
  unfold commandProcessorSubmit at accepted
  split at accepted
  · cases accepted
  · obtain ⟨returned, rfl⟩ := Prod.mk.inj accepted
    exact ⟨returned, rfl⟩

/-- A submit is refused, is declined by the command processor, or succeeds. -/
theorem submit_effect (state : HostNativeDispatchStateV2) (request : OperationContext)
    (command : SubmitKernel) (completionSignalVa : UInt64) (queue : ℕ) (fetched : FetchedPacket)
    (dispatchIdOverride : UInt64) (env : SubmitEnv) :
    let reply := state.submit layout request command completionSignalVa queue fetched
      dispatchIdOverride env
    reply.returned = false ∧ Quiet state reply.after ∧ reply.after.context = state.context ∨
      reply.returned = false ∧ Cancelled state reply.after queue fetched env.admits ∨
      reply.returned = true ∧ ∃ record mapping kernarg,
        Submitted state reply.after record mapping kernarg := by
  dsimp only
  unfold submit
  have refused : ∀ (identities : Option DispatchIdentitySequence) (status : Status)
      (failure : FailureReason) (reason : String),
      (@failResult DispatchAdmission _ { state with identities := identities } status failure
        reason).returned = false ∧
      Quiet state (@failResult DispatchAdmission _ { state with identities := identities } status
        failure reason).after ∧
      (@failResult DispatchAdmission _ { state with identities := identities } status failure
        reason).after.context = state.context :=
    fun _ _ _ _ => ⟨rfl, failResult_quiet state _ _ _ _ _, rfl⟩
  split
  · obtain ⟨quiet, same, failed⟩ := @refuseContext_quiet DispatchAdmission _ state request
      "invalid SUBMIT request context" "SUBMIT owner mismatch"
    exact .inl ⟨failed, quiet, same⟩
  split
  · exact .inl (refused _ _ _ _)
  rename_i unsubmitted
  split
  · rename_i mapping kernarg mapped allocated
    dsimp only
    split
    · exact .inl (refused _ _ _ _)
    split
    · exact .inl (refused _ _ _ _)
    rename_i traceId traced taken
    obtain ⟨identities, rfl⟩ := takeTrace_eq_some taken
    split
    · exact .inl (refused _ _ _ _)
    rename_i identity
    split
    · exact .inl (refused _ _ _ _)
    split
    · exact .inl (refused _ _ _ _)
    split
    · exact .inl (refused _ _ _ _)
    split
    · rename_i middle denied
      obtain rfl := pin_refused denied
      exact .inl (refused _ _ _ _)
    rename_i middle pinned
    obtain rfl := congrArg Prod.snd pinned
    have codePinned := congrArg Prod.fst pinned
    split
    · rename_i last denied
      obtain rfl := pin_refused denied
      -- the pin of the code is released again
      rw [unpin_pin codePinned]
      exact .inl (refused _ _ _ _)
    rename_i last both
    obtain rfl := congrArg Prod.snd both
    have bufferPinned := congrArg Prod.fst both
    split
    · rename_i core declined
      rw [withQueue_unpin, unpin_pin bufferPinned, withQueue_unpin, unpin_pin codePinned]
      have cancelled : ∀ (status : Status) (failure : FailureReason) (reason : String),
          (@failResult DispatchAdmission _ ({ state with identities := identities }.withQueue queue
            (core.cancelFetch fetched.ticket).after) status failure reason).returned = false ∧
          Cancelled state (@failResult DispatchAdmission _ ({ state with
            identities := identities }.withQueue queue (core.cancelFetch fetched.ticket).after)
              status failure reason).after queue fetched env.admits := by
        intro status failure reason
        obtain rfl := congrArg Prod.snd declined
        exact ⟨rfl,
          { mapperOwner := rfl
            boundOwner := rfl
            mapping := rfl
            buffer := rfl
            submission := rfl
            context := rfl
            owned := owned_of_queueIdentity (by simpa using identity)
            declined := congrArg Prod.fst declined
            queues := rfl }⟩
      split
      · exact .inr (.inl (cancelled _ _ _))
      · exact .inr (.inl (cancelled _ _ _))
    · rename_i core admitted
      obtain ⟨accepted, rfl⟩ := accepted_of_commandProcessorSubmit admitted
      exact .inr (.inr ⟨rfl, _, mapping, kernarg,
        { mapperOwner := rfl
          boundOwner := rfl
          free := by simpa using unsubmitted
          mapped := mapped
          allocated := allocated
          mapping := rfl
          buffer := rfl
          submission := rfl
          codePinned := codePinned
          bufferPinned := bufferPinned
          context := rfl
          accepted := accepted
          queues := rfl }⟩)
  · exact .inl (refused _ _ _ _)

end Requests

section Cleanup

/-- A submission that is over: its pins are released and its slot is offered for retirement. -/
structure Abandoned (state after : HostNativeDispatchStateV2) (record : SubmissionRecord)
    (code : MappingRecord) (buffered : KernargRecord) (writes : Bool) : Prop where
  mapperOwner : after.mapperOwner = state.mapperOwner
  boundOwner : after.boundOwner = state.boundOwner
  mapping : after.mapping = state.mapping
  buffer : after.buffer = state.buffer
  submission : after.submission = none
  context : after.context = ((state.unpin buffered.allocation.allocation record.requestId).2.unpin
    code.value.allocation.allocation record.requestId).2.context
  queues : after.queues = Function.update state.queues record.queue
    ((state.queues record.queue).retire record.queueIndex writes).after

theorem abandonSubmission_of_live {record : SubmissionRecord} {code : MappingRecord}
    {buffered : KernargRecord} (live : state.submission = some record)
    (mapped : state.mapping = some code) (allocated : state.kernarg = some buffered)
    (writes : Bool) :
    Abandoned state (state.abandonSubmission writes).2 record code buffered writes ∧
      (state.abandonSubmission writes).1 =
        (((state.queues record.queue).retire record.queueIndex writes).returned &&
          ((state.unpin buffered.allocation.allocation record.requestId).1 &&
            ((state.unpin buffered.allocation.allocation record.requestId).2.unpin
              code.value.allocation.allocation record.requestId).1)) := by
  unfold abandonSubmission
  split
  · rename_i missing
    rw [live] at missing
    cases missing
  rename_i admitted here
  obtain rfl := Option.some.inj (live.symm.trans here)
  dsimp only
  split
  · rename_i missing
    have missing : state.kernarg = none := missing
    rw [allocated] at missing
    cases missing
  rename_i found here
  obtain rfl := Option.some.inj (allocated.symm.trans here)
  split
  · rename_i missing
    have missing : state.mapping = none := missing
    rw [mapped] at missing
    cases missing
  rename_i found here
  obtain rfl := Option.some.inj (mapped.symm.trans here)
  split
  · rename_i failed
    refine ⟨⟨rfl, rfl, rfl, rfl, rfl, rfl, rfl⟩, Eq.symm ?_⟩
    rw [Bool.and_eq_false_iff, Bool.and_eq_false_iff]
    exact failed.imp (Bool.not_eq_true' _).mp
      (Or.imp (Bool.not_eq_true' _).mp (Bool.not_eq_true' _).mp)
  · rename_i done
    refine ⟨⟨rfl, rfl, rfl, rfl, rfl, rfl, rfl⟩, Eq.symm ?_⟩
    simp only [not_or, Bool.not_eq_true', Bool.not_eq_false] at done
    rw [Bool.and_eq_true_iff, Bool.and_eq_true_iff]
    exact done

/-- A retirement is refused, or abandons the submission. -/
theorem retire_effect (state : HostNativeDispatchStateV2) (request : OperationContext)
    (command : SubmitKernel) (queue : ℕ) (writes : Bool) :
    (state.retire request command queue writes).returned = false ∧
        Quiet state (state.retire request command queue writes).after ∧
        (state.retire request command queue writes).after.context = state.context ∨
      state.submission.isSome = true ∧
        (state.retire request command queue writes).returned =
          (state.abandonSubmission writes).1 ∧
        (state.retire request command queue writes).after =
          (state.abandonSubmission writes).2 := by
  unfold retire
  split
  · obtain ⟨quiet, same, failed⟩ := @refuseContext_quiet Unit _ state request
      "invalid RETIRE request context" "RETIRE owner mismatch"
    exact .inl ⟨failed, quiet, same⟩
  split
  · exact .inl ⟨rfl, failResult_quiet state _ _ _ _ _, rfl⟩
  rename_i submission live
  split
  · exact .inl ⟨rfl, failResult_quiet state _ _ _ _ _, rfl⟩
  refine .inr ⟨by rw [live]; rfl, ?_⟩
  split
  · rename_i after failed
    rw [failed]
    exact ⟨rfl, rfl⟩
  · rename_i after done
    rw [done]
    exact ⟨rfl, rfl⟩

/-- A release of the kernarg buffer touches its allocation only. -/
theorem releaseKernarg_effect (sound : ContextSound state.context) {kernarg : KernargRecord}
    (allocated : state.kernarg = some kernarg) (about : touched kernarg.allocation.allocation)
    (leased : kernarg.lease.allocation = kernarg.allocation.allocation) :
    Moves touched state.context state.releaseKernarg.2.context ∧
      (state.releaseKernarg.1 = false ∧ Quiet state state.releaseKernarg.2 ∨
        state.releaseKernarg.1 = true ∧ state.releaseKernarg.2 =
          { state with context := state.releaseKernarg.2.context, kernarg := none }) := by
  unfold releaseKernarg
  split
  · rename_i missing
    rw [allocated] at missing
    cases missing
  rename_i found here
  obtain rfl := Option.some.inj (allocated.symm.trans here)
  have unmapped := @unmap_moves state.context touched kernarg.lease sound (leased ▸ about)
  split
  · rename_i context refused
    rw [refused] at unmapped
    exact ⟨unmapped, .inl ⟨rfl, ⟨rfl, rfl, rfl, rfl, rfl, rfl⟩⟩⟩
  rename_i context released
  rw [released] at unmapped
  have freed := unmapped.trans
    (@free_moves context touched state.boundOwner kernarg.allocation.allocation unmapped.sound
      about)
  dsimp only
  split
  · exact ⟨freed, .inl ⟨rfl, ⟨rfl, rfl, rfl, rfl, rfl, rfl⟩⟩⟩
  · exact ⟨freed, .inr ⟨rfl, rfl⟩⟩

/-- The lease is the only use of the kernarg buffer: the buffer is released. -/
theorem releaseKernarg_of_sole (sound : ContextSound state.context) {kernarg : KernargRecord}
    (allocated : state.kernarg = some kernarg)
    (holding : Holding state.boundOwner state.context kernarg.lease
      kernarg.allocation.allocation)
    (sole : Sole state.boundOwner state.context kernarg.lease kernarg.allocation.allocation) :
    state.releaseKernarg.1 = true ∧
      Released state.boundOwner state.releaseKernarg.2.context
        kernarg.allocation.allocation := by
  obtain ⟨unmapped, freed, released⟩ := holding.release sound sole
  unfold releaseKernarg
  split
  · rename_i missing
    rw [allocated] at missing
    cases missing
  rename_i found here
  obtain rfl := Option.some.inj (allocated.symm.trans here)
  split
  · rename_i context refused
    rw [refused] at unmapped
    cases unmapped
  rename_i context returned
  rw [returned] at freed released
  have freed : (context.memory.free state.boundOwner kernarg.allocation.allocation).1.ok = true :=
    freed
  dsimp only
  rw [freed]
  exact ⟨rfl, released⟩

/-- Something else uses the kernarg buffer: its lease is given back, and the rest fails. -/
theorem releaseKernarg_of_shared (sound : ContextSound state.context) {kernarg : KernargRecord}
    (allocated : state.kernarg = some kernarg)
    (holding : Holding state.boundOwner state.context kernarg.lease
      kernarg.allocation.allocation)
    (shared : ¬ Sole state.boundOwner state.context kernarg.lease
      kernarg.allocation.allocation) :
    state.releaseKernarg.1 = false ∧
      kernarg.lease ∉ state.releaseKernarg.2.context.leases := by
  obtain ⟨unmapped, stuck, gone⟩ := holding.stuck sound shared
  unfold releaseKernarg
  split
  · rename_i missing
    rw [allocated] at missing
    cases missing
  rename_i found here
  obtain rfl := Option.some.inj (allocated.symm.trans here)
  split
  · rename_i context refused
    rw [refused] at unmapped
    cases unmapped
  rename_i context returned
  rw [returned] at stuck gone
  have stuck : (context.memory.free state.boundOwner kernarg.allocation.allocation).1.ok = false :=
    stuck
  dsimp only
  rw [stuck]
  exact ⟨rfl, gone⟩

/-- A mapping that nobody else uses is released, and any other is left as it is. -/
theorem releaseMapping_effect (sound : ContextSound state.context) {mapping : MappingRecord}
    (mapped : state.mapping = some mapping) (owned : state.mapperOwner = state.boundOwner)
    (valid : mapping.value.valid = true)
    (holding : Holding state.boundOwner state.context mapping.value.lease
      mapping.value.allocation.allocation) :
    (¬ Sole state.boundOwner state.context mapping.value.lease
          mapping.value.allocation.allocation ∧
        state.releaseMapping = (false, state.fail .busy .mapping "code mapping release failed")) ∨
      (Sole state.boundOwner state.context mapping.value.lease
          mapping.value.allocation.allocation ∧
        state.releaseMapping.1 = true ∧
        state.releaseMapping.2 =
          { state with context := state.releaseMapping.2.context, mapping := none } ∧
        Moves (fun name => name = mapping.value.allocation.allocation) state.context
          state.releaseMapping.2.context ∧
        Released state.boundOwner state.releaseMapping.2.context
          mapping.value.allocation.allocation) := by
  have moved := @unmapCodeObject_moves state.context
    (fun name => name = mapping.value.allocation.allocation) sound state.mapperOwner mapping.value rfl
  unfold releaseMapping
  split
  · rename_i missing
    rw [mapped] at missing
    cases missing
  rename_i found here
  obtain rfl := Option.some.inj (mapped.symm.trans here)
  by_cases sole : Sole state.boundOwner state.context mapping.value.lease
    mapping.value.allocation.allocation
  · obtain ⟨done, released⟩ := unmapCodeObject_of_sole sound holding valid sole
    rw [← owned] at done released
    refine .inr ⟨sole, ?_⟩
    split
    · rename_i failure context failed
      rw [failed] at done
      cases done
    · rename_i context ended
      rw [ended] at released moved
      exact ⟨rfl, rfl, moved, owned ▸ released⟩
  · have refused := unmapCodeObject_of_shared sound holding valid sole
    rw [← owned] at refused
    rw [refused]
    exact .inl ⟨sole, rfl⟩

/-- An unmap request is refused, or does what a clear does. -/
theorem unmap_effect (state : HostNativeDispatchStateV2) (request : OperationContext)
    (command : UnmapKernel) :
    ((state.unmap request command).returned = false ∧
        Quiet state (state.unmap request command).after ∧
        (state.unmap request command).after.context = state.context ∧
        (state.unmap request command).after.kernarg = state.kernarg ∧
        (state.validateContext request = true →
          state.validateMapping command.object command.mapping = true →
          state.submission.isSome = true)) ∨
      (state.validateContext request = true ∧ state.submission = none ∧
        state.validateMapping command.object command.mapping = true ∧
        (state.unmap request command).returned = state.clear.1 ∧
        (state.unmap request command).after = state.clear.2) := by
  unfold unmap
  split
  · rename_i refused
    obtain ⟨quiet, same, failed⟩ := @refuseContext_quiet UnmapInfo _ state request
      "invalid UNMAP request context" "UNMAP owner mismatch"
    refine .inl ⟨failed, quiet, same, refuseContext_kernarg _ _ _ _, fun valid => ?_⟩
    rw [valid] at refused
    cases refused
  rename_i valid
  split
  · rename_i live
    exact .inl ⟨rfl, failResult_quiet state _ _ _ _ _, rfl, rfl, fun _ _ => live⟩
  rename_i idle
  split
  · rename_i stale
    refine .inl ⟨rfl, failResult_quiet state _ _ _ _ _, rfl, rfl, fun _ named => ?_⟩
    rw [named] at stale
    cases stale
  rename_i named
  refine .inr ⟨by simpa using valid, by simpa using idle, by simpa using named, ?_⟩
  unfold clear
  rw [if_neg idle]
  dsimp only
  split
  · exact ⟨rfl, rfl⟩
  split
  · exact ⟨rfl, rfl⟩
  · exact ⟨rfl, rfl⟩

end Cleanup

end HostNativeDispatchStateV2

end GemSim.Dispatch
