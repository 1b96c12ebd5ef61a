import GemSim.Dispatch.Effect

/-!
# What holds in every state of a run

A mapping holds the lease of its allocation, and a submission pins the allocations of
code and kernarg buffer. Neither the operations of this state nor anybody else undoes
that before the mapping is released and the submission is over.

## Main definitions

* `Pinned` — a request pins an allocation
* `Sound` — the invariant of the runs

## Main results

* `Sound.advances` — every step keeps the invariant, and the memory makes progress
* `Sound.advances_run` — so does every run
-/

namespace GemSim.Dispatch

open GemSim.Lib GemSim.Domain GemSim.Memory GemSim.CodeObject
open GemSim.Native (HostNativeQueueCore FetchedPacket)

/-- The request pins the allocation. -/
def Pinned (context : HostNativeMemoryContext) (owner : OwnerKey) (handle : AllocationHandle)
    (requestId : UInt64) : Prop :=
  ∃ use, context.memory.usage owner handle = some use ∧ use.requestId = requestId

theorem Moves.pinned {touched : AllocationHandle → Prop}
    {context after : HostNativeMemoryContext} {owner : OwnerKey} {handle : AllocationHandle}
    {requestId : UInt64} (moves : Moves touched context after) (spared : ¬ touched handle)
    (pinned : Pinned context owner handle requestId) : Pinned after owner handle requestId := by
  obtain ⟨use, found, same⟩ := pinned
  exact ⟨use, (moves.frame owner handle spared).trans found, same⟩

namespace HostNativeDispatchStateV2

/-- The mapping holds the lease of its allocation. -/
structure Mounted (state : HostNativeDispatchStateV2) (code : MappingRecord) : Prop where
  valid : code.value.valid = true
  owned : state.mapperOwner = state.boundOwner
  holding : Holding state.boundOwner state.context code.value.lease
    code.value.allocation.allocation

/-- The submission pins the allocations of code and kernarg buffer. -/
structure Pinning (state : HostNativeDispatchStateV2) (record : SubmissionRecord)
    (code : MappingRecord) (handle : AllocationHandle) : Prop where
  issued : record.requestId ≠ 0
  mapped : state.mapping = some code
  allocated : state.kernargHandle = some handle
  code : Pinned state.context state.boundOwner code.value.allocation.allocation record.requestId
  buffer : Pinned state.context state.boundOwner handle record.requestId

/-- The invariant of the runs. -/
structure Sound (state : HostNativeDispatchStateV2) : Prop where
  context : ContextSound state.context
  mapping : ∀ code, state.mapping = some code → Mounted state code
  buffer : ∀ handle lease, state.buffer = some (handle, lease) →
    lease.allocation = handle ∧
      ∃ code, state.mapping = some code ∧ code.value.allocation.allocation ≠ handle
  submission : ∀ record, state.submission = some record →
    ∃ code handle, Pinning state record code handle

/-- The state counts on an allocation. -/
def Relies (state : HostNativeDispatchStateV2) (handle : AllocationHandle) : Prop :=
  state.codeHandle = some handle ∨
    state.submission.isSome = true ∧ state.kernargHandle = some handle

variable {state after : HostNativeDispatchStateV2} {touched : AllocationHandle → Prop}
  {handle : AllocationHandle}

theorem codeHandle_of_mapping {code : MappingRecord} (mapped : state.mapping = some code) :
    state.codeHandle = some code.value.allocation.allocation := by
  rw [codeHandle, mapped]
  rfl

theorem kernargHandle_of_buffer {lease : PageLease} (allocated : state.buffer = some (handle, lease)) :
    state.kernargHandle = some handle := by
  obtain ⟨kernarg, here, same⟩ := Option.map_eq_some_iff.mp allocated
  rw [kernargHandle, here]
  exact congrArg some (Prod.mk.inj same).1

theorem kernargHandle_eq (state : HostNativeDispatchStateV2) :
    state.kernargHandle = state.buffer.map Prod.fst := by
  rw [kernargHandle, buffer, Option.map_map]
  rfl

theorem Sound.named (sound : Sound state) (relies : Relies state handle) :
    ¬ Unnamed state.context handle := by
  intro unnamed
  rcases relies with coded | ⟨live, buffered⟩
  · obtain ⟨code, mapped, rfl⟩ := Option.map_eq_some_iff.mp coded
    have holding := (sound.mapping code mapped).holding
    obtain ⟨use, found, -⟩ := sound.context.held code.value.lease holding.held
    rw [holding.about, unnamed] at found
    cases found
  · obtain ⟨record, submitted⟩ := Option.isSome_iff_exists.mp live
    obtain ⟨code, other, pinning⟩ := sound.submission record submitted
    obtain ⟨use, found, -⟩ := pinning.buffer
    obtain rfl := Option.some.inj (pinning.allocated.symm.trans buffered)
    rw [unnamed] at found
    cases found

/-- A step keeps the invariant, and the memory only makes progress. -/
structure Advances (state after : HostNativeDispatchStateV2) : Prop where
  sound : Sound after
  progress : state.context.memory.Progress after.context.memory
  boundOwner : after.boundOwner = state.boundOwner

theorem Sound.refl (sound : Sound state) : Advances state state :=
  ⟨sound, sound.context.memory.refl, rfl⟩

theorem Advances.trans {middle : HostNativeDispatchStateV2} (first : Advances state middle)
    (second : Advances middle after) : Advances state after :=
  ⟨second.sound, first.progress.trans second.progress, second.boundOwner.trans first.boundOwner⟩

/-- A step that changes no record, and touches no allocation the state counts on. -/
theorem Sound.quiet (sound : Sound state) (quiet : Quiet state after)
    (moves : Moves touched state.context after.context)
    (spared : ∀ handle, Relies state handle → ¬ touched handle) : Advances state after := by
  refine ⟨⟨moves.sound, ?_, ?_, ?_⟩, moves.progress, quiet.boundOwner⟩
  · intro code mapped
    rw [quiet.mapping] at mapped
    obtain ⟨valid, owned, holding⟩ := sound.mapping code mapped
    refine ⟨valid, ?_, ?_⟩
    · rw [quiet.mapperOwner, quiet.boundOwner, owned]
    · rw [quiet.boundOwner]
      exact holding.moves moves (spared _ (.inl (codeHandle_of_mapping mapped)))
  · intro handle lease allocated
    rw [quiet.mapping]
    exact sound.buffer handle lease (quiet.buffer ▸ allocated)
  · intro record live
    rw [quiet.submission] at live
    obtain ⟨code, handle, issued, mapped, allocated, coded, buffered⟩ :=
      sound.submission record live
    refine ⟨code, handle, issued, quiet.mapping ▸ mapped, ?_, ?_, ?_⟩
    · rw [kernargHandle_eq, quiet.buffer, ← kernargHandle_eq]
      exact allocated
    · rw [quiet.boundOwner]
      exact moves.pinned (spared _ (.inl (codeHandle_of_mapping mapped))) coded
    · rw [quiet.boundOwner]
      exact moves.pinned (spared _ (.inr ⟨by rw [live]; rfl, allocated⟩)) buffered

/-- A step that changes no record and nothing of the context. -/
theorem Sound.still (sound : Sound state) (quiet : Quiet state after)
    (same : after.context = state.context) : Advances state after := by
  have moves : Moves (fun _ => False) state.context after.context := by
    rw [same]
    exact .refl sound.context
  exact sound.quiet quiet moves fun _ _ => id

/-- The queues are no part of the invariant. -/
theorem Sound.withQueues (sound : Sound state) (queues : ℕ → HostNativeQueueCore) :
    Sound { state with queues := queues } where
  context := sound.context
  mapping code mapped :=
    have ⟨valid, owned, holding⟩ := sound.mapping code mapped
    ⟨valid, owned, holding⟩
  buffer := sound.buffer
  submission record live :=
    have ⟨code, handle, issued, mapped, allocated, coded, buffered⟩ := sound.submission record live
    ⟨code, handle, issued, mapped, allocated, coded, buffered⟩

/-- Nobody counts on what was not allocated before. -/
theorem Sound.quiet_unnamed (sound : Sound state) (quiet : Quiet state after)
    (moves : Moves (Unnamed state.context) state.context after.context) : Advances state after :=
  sound.quiet quiet moves fun _ => sound.named

theorem sound_boot (contextOwner mapperOwner boundOwner : OwnerKey) (pageSize : UInt64)
    (identities : Option DispatchIdentitySequence) (spaces : ℕ → SparseBytes) :
    Sound (boot contextOwner mapperOwner boundOwner pageSize identities spaces) where
  context :=
    { memory := HostGPUMemoryState.sound_boot
      held := fun lease member => by cases member
      issued := fun lease member => by cases member
      distinct := fun lease member => by cases member }
  mapping code mapped := by cases mapped
  buffer handle lease allocated := by cases allocated
  submission record live := by cases live

section Steps

variable (layout : Layout)

theorem Sound.map (sound : Sound state) (request : OperationContext) (command : MapKernel)
    (image : List UInt8) (metadata : CodeObjectMetadata) (env : MapRequestEnv) :
    Advances state (state.map layout request command image metadata env).after := by
  obtain ⟨moves, ⟨-, quiet⟩ | ⟨-, code, mapped⟩⟩ :=
    map_effect layout sound.context request command image metadata env
  · exact sound.quiet_unnamed quiet moves
  -- without a mapping there was no buffer, and no submission
  have unbuffered : state.buffer = none := by
    rw [Option.eq_none_iff_forall_ne_some]
    rintro ⟨handle, lease⟩ allocated
    obtain ⟨-, other, there, -⟩ := sound.buffer handle lease allocated
    rw [mapped.unmapped] at there
    cases there
  refine ⟨?_, moves.progress, mapped.boundOwner⟩
  exact
    { context := moves.sound
      mapping := by
        intro other there
        obtain rfl := Option.some.inj (mapped.mapping.symm.trans there)
        exact ⟨mapped.valid, mapped.mapperOwner.trans (mapped.owned.trans mapped.boundOwner.symm),
          mapped.boundOwner ▸ mapped.holding⟩
      buffer := by
        intro handle lease allocated
        rw [mapped.buffer, unbuffered] at allocated
        cases allocated
      submission := by
        intro record live
        rw [mapped.submission] at live
        obtain ⟨other, handle, pinning⟩ := sound.submission record live
        have there := pinning.mapped
        rw [mapped.unmapped] at there
        cases there }

theorem Sound.allocateKernarg (sound : Sound state) (request : OperationContext)
    (command : AllocateKernarg) (env : KernargEnv) :
    Advances state (state.allocateKernarg request command env).after := by
  obtain ⟨moves, ⟨-, quiet⟩ | ⟨-, handle, lease, allocated⟩⟩ :=
    allocateKernarg_effect sound.context request command env
  · exact sound.quiet_unnamed quiet moves
  obtain ⟨code, mapped⟩ := Option.isSome_iff_exists.mp allocated.mapped
  have mounted := sound.mapping code mapped
  have relied : Relies state code.value.allocation.allocation :=
    .inl (codeHandle_of_mapping mapped)
  refine ⟨?_, moves.progress, allocated.boundOwner⟩
  exact
    { context := moves.sound
      mapping := by
        intro other there
        rw [allocated.mapping] at there
        obtain rfl := Option.some.inj (mapped.symm.trans there)
        refine ⟨mounted.valid, ?_, ?_⟩
        · rw [allocated.mapperOwner, allocated.boundOwner, mounted.owned]
        · rw [allocated.boundOwner]
          exact mounted.holding.moves moves (sound.named relied)
      buffer := by
        intro name held there
        rw [allocated.buffer] at there
        obtain ⟨rfl, rfl⟩ := Prod.mk.inj (Option.some.inj there)
        refine ⟨allocated.holding.about, code, allocated.mapping.trans mapped, ?_⟩
        rintro rfl
        exact sound.named relied allocated.unnamed
      submission := by
        intro record live
        rw [allocated.submission] at live
        obtain ⟨other, name, pinning⟩ := sound.submission record live
        have there := pinning.allocated
        rw [kernargHandle, allocated.unallocated] at there
        cases there }

theorem Sound.publishKernarg (sound : Sound state) (request : OperationContext)
    (command : PublishKernarg) (env : PublishEnv) :
    Advances state (state.publishKernarg request command env).after := by
  obtain ⟨moves, quiet⟩ := publishKernarg_effect sound.context request command env
  exact sound.quiet quiet moves fun _ _ => id

/-- A pin that is put changes the use of its allocation only. -/
theorem pin_of_true {requestId : UInt64} (sound : ContextSound state.context)
    (pinned : (state.pin handle requestId).1 = true) :
    ContextSound (state.pin handle requestId).2.context ∧
      state.context.memory.Progress (state.pin handle requestId).2.context.memory ∧
      requestId ≠ 0 ∧ ∃ use, state.context.memory.usage state.boundOwner handle = some use ∧
        use.requestId = 0 ∧
        (state.pin handle requestId).2.context.memory.usage =
          state.context.memory.usage.assign state.boundOwner handle
            (some { use with requestId := requestId }) := by
  rcases state.context.memory.pin_cases state.boundOwner handle requestId with
    refused | ⟨use, found, free, issued, -, changed⟩
  · have denied : (state.context.memory.pinPinnedDispatchAllocation state.boundOwner handle
      requestId).1 = true := pinned
    rw [refused] at denied
    cases denied
  · refine ⟨?_, sound.memory.pin _ _ _, issued, use, found, free, changed⟩
    refine @Moves.sound (fun _ => True) _ _
      (moves_assign sound (sound.memory.pin _ _ _) trivial changed ?_)
    rintro lease member rfl same
    obtain ⟨other, there, token⟩ := sound.held lease member
    rw [same] at there
    obtain rfl := Option.some.inj (found.symm.trans there)
    exact ⟨_, rfl, token⟩

theorem Sound.submitted (sound : Sound state) {record : SubmissionRecord} {code : MappingRecord}
    {kernarg : KernargRecord} (submitted : Submitted state after record code kernarg) :
    Advances state after := by
  have mounted := sound.mapping code submitted.mapped
  have allocated : state.buffer = some (kernarg.allocation.allocation, kernarg.lease) := by
    rw [HostNativeDispatchStateV2.buffer, submitted.allocated]
    rfl
  obtain ⟨about, other, mapped, apart⟩ := sound.buffer _ _ allocated
  obtain rfl := Option.some.inj (submitted.mapped.symm.trans mapped)
  obtain ⟨once, begun, issued, first, -, -, changed⟩ := pin_of_true sound.context submitted.codePinned
  obtain ⟨twice, ended, -, second, -, -, again⟩ := pin_of_true once submitted.bufferPinned
  have leases : after.context.leases = state.context.leases := by
    rw [submitted.context]
    rfl
  have owner : after.context.owner = state.context.owner := by
    rw [submitted.context]
    rfl
  refine ⟨⟨submitted.context ▸ twice, ?_, ?_, ?_⟩, submitted.context ▸ begun.trans ended,
    submitted.boundOwner⟩
  · intro other there
    rw [submitted.mapping] at there
    obtain rfl := Option.some.inj (mapped.symm.trans there)
    refine ⟨mounted.valid, ?_, ?_⟩
    · rw [submitted.mapperOwner, submitted.boundOwner, mounted.owned]
    · rw [submitted.boundOwner]
      obtain ⟨owned, byOwner, named, about, held⟩ := mounted.holding
      exact ⟨owner.trans owned, byOwner, named, about, leases ▸ held⟩
  · intro handle lease there
    rw [submitted.mapping]
    exact sound.buffer handle lease (submitted.buffer ▸ there)
  · intro other there
    obtain rfl := Option.some.inj (submitted.submission.symm.trans there)
    refine ⟨code, kernarg.allocation.allocation, issued, submitted.mapping.trans mapped, ?_, ?_, ?_⟩
    · rw [kernargHandle_eq, submitted.buffer, ← kernargHandle_eq]
      exact kernargHandle_of_buffer allocated
    · refine ⟨{ first with requestId := record.requestId }, ?_, rfl⟩
      rw [submitted.context, submitted.boundOwner, again]
      refine (Uses.assign_other _ _ fun both => apart both.2).trans ?_
      rw [changed]
      exact Uses.assign_same _ _ _ _
    · refine ⟨{ second with requestId := record.requestId }, ?_, rfl⟩
      rw [submitted.context, submitted.boundOwner, again]
      exact Uses.assign_same _ _ _ _

theorem Sound.cancelled (sound : Sound state) {queue : ℕ} {fetched : FetchedPacket} {admits : Bool}
    (cancelled : Cancelled state after queue fetched admits) : Advances state after := by
  have calm : Quiet state { after with queues := state.queues } :=
    ⟨cancelled.mapperOwner, cancelled.boundOwner, cancelled.mapping, cancelled.buffer,
      cancelled.submission, rfl⟩
  obtain ⟨whole, progress, same⟩ := sound.still calm cancelled.context
  exact ⟨whole.withQueues after.queues, progress, same⟩

theorem Sound.submit (sound : Sound state) (request : OperationContext) (command : SubmitKernel)
    (completionSignalVa : UInt64) (queue : ℕ) (fetched : FetchedPacket)
    (dispatchIdOverride : UInt64) (env : SubmitEnv) :
    Advances state (state.submit layout request command completionSignalVa queue fetched
      dispatchIdOverride env).after := by
  rcases submit_effect layout state request command completionSignalVa queue fetched
    dispatchIdOverride env with
    ⟨-, quiet, same⟩ | ⟨-, cancelled⟩ | ⟨-, record, code, kernarg, submitted⟩
  · exact sound.still quiet same
  · exact sound.cancelled cancelled
  · exact sound.submitted submitted

/-- The pin of a request is released. -/
theorem unpin_of_pinned {requestId : UInt64} (sound : ContextSound state.context)
    (issued : requestId ≠ 0) (pinned : Pinned state.context state.boundOwner handle requestId) :
    (state.unpin handle requestId).1 = true ∧ ContextSound (state.unpin handle requestId).2.context ∧
      state.context.memory.Progress (state.unpin handle requestId).2.context.memory ∧
      ∃ use, state.context.memory.usage state.boundOwner handle = some use ∧
        use.requestId = requestId ∧
        (state.unpin handle requestId).2.context.memory.usage =
          state.context.memory.usage.assign state.boundOwner handle
            (some { use with requestId := 0 }) := by
  obtain ⟨use, found, same⟩ := pinned
  obtain ⟨released, changed⟩ := HostGPUMemoryState.unpin_of_usage found issued same
  refine ⟨released, ?_, sound.memory.unpin _ _ _, use, found, same, changed⟩
  refine @Moves.sound (fun _ => True) _ _
    (moves_assign sound (sound.memory.unpin _ _ _) trivial changed ?_)
  rintro lease member rfl owned
  obtain ⟨other, there, token⟩ := sound.held lease member
  rw [owned] at there
  obtain rfl := Option.some.inj (found.symm.trans there)
  exact ⟨_, rfl, token⟩

/-- What the end of a live submission leaves of the pins. -/
structure Unpinned (state after : HostNativeDispatchStateV2) (code buffer : AllocationHandle) :
    Prop where
  usage : ∃ first second, state.context.memory.usage state.boundOwner buffer = some first ∧
    state.context.memory.usage state.boundOwner code = some second ∧
    after.context.memory.usage = (state.context.memory.usage.assign state.boundOwner buffer
      (some { first with requestId := 0 })).assign state.boundOwner code
        (some { second with requestId := 0 })

/-- The end of a live submission releases both pins, and returns what the queue returned. -/
theorem Sound.abandon (sound : Sound state) {record : SubmissionRecord} {code : MappingRecord}
    (pinning : Pinning state record code handle) (live : state.submission = some record)
    (writes : Bool) :
    Advances state (state.abandonSubmission writes).2 ∧
      Unpinned state (state.abandonSubmission writes).2 code.value.allocation.allocation handle ∧
      (state.abandonSubmission writes).1 =
        ((state.queues record.queue).retire record.queueIndex writes).returned := by
  obtain ⟨kernarg, allocated, rfl⟩ := Option.map_eq_some_iff.mp pinning.allocated
  obtain ⟨abandoned, returned⟩ := abandonSubmission_of_live live pinning.mapped allocated writes
  obtain ⟨firstDone, once, begun, first, found, -, changed⟩ :=
    unpin_of_pinned sound.context pinning.issued pinning.buffer
  have held : state.buffer = some (kernarg.allocation.allocation, kernarg.lease) := by
    rw [HostNativeDispatchStateV2.buffer, allocated]
    rfl
  obtain ⟨about, other, mapped, apart⟩ := sound.buffer _ _ held
  obtain rfl := Option.some.inj (pinning.mapped.symm.trans mapped)
  have kept : (state.unpin kernarg.allocation.allocation record.requestId).2.context.memory.usage
      state.boundOwner code.value.allocation.allocation =
        state.context.memory.usage state.boundOwner code.value.allocation.allocation := by
    rw [changed]
    exact Uses.assign_other _ _ fun both => apart both.2
  have still : Pinned (state.unpin kernarg.allocation.allocation record.requestId).2.context
      state.boundOwner code.value.allocation.allocation record.requestId := by
    obtain ⟨use, there, same⟩ := pinning.code
    exact ⟨use, kept.trans there, same⟩
  obtain ⟨secondDone, twice, ended, second, there, -, again⟩ :=
    @unpin_of_pinned (state.unpin kernarg.allocation.allocation record.requestId).2
      code.value.allocation.allocation record.requestId once pinning.issued still
  have mounted := sound.mapping code mapped
  refine ⟨?_, ⟨first, second, found, kept.symm.trans there, ?_⟩, ?_⟩
  · refine ⟨⟨abandoned.context ▸ twice, ?_, ?_, ?_⟩, abandoned.context ▸ begun.trans ended,
      abandoned.boundOwner⟩
    · intro other there
      rw [abandoned.mapping] at there
      obtain rfl := Option.some.inj (mapped.symm.trans there)
      refine ⟨mounted.valid, ?_, ?_⟩
      · rw [abandoned.mapperOwner, abandoned.boundOwner, mounted.owned]
      · rw [abandoned.boundOwner, abandoned.context]
        obtain ⟨owned, byOwner, named, about, held⟩ := mounted.holding
        exact ⟨owned, byOwner, named, about, held⟩
    · intro name lease there
      rw [abandoned.mapping]
      exact sound.buffer name lease (abandoned.buffer ▸ there)
    · intro other there
      rw [abandoned.submission] at there
      cases there
  · rw [abandoned.context, again]
    exact congrArg (fun uses => Uses.assign uses _ _ _) changed
  · rw [returned, firstDone, secondDone, Bool.and_true, Bool.and_true]

theorem Sound.abandonSubmission (sound : Sound state) (writes : Bool) :
    Advances state (state.abandonSubmission writes).2 := by
  cases live : state.submission with
  | none =>
    unfold HostNativeDispatchStateV2.abandonSubmission
    rw [live]
    exact sound.refl
  | some record =>
    obtain ⟨code, handle, pinning⟩ := sound.submission record live
    exact (sound.abandon pinning live writes).1

theorem Sound.retire (sound : Sound state) (request : OperationContext) (command : SubmitKernel)
    (queue : ℕ) (writes : Bool) :
    Advances state (state.retire request command queue writes).after := by
  rcases retire_effect state request command queue writes with
    ⟨-, quiet, same⟩ | ⟨-, -, after⟩
  · exact sound.still quiet same
  · rw [after]
    exact sound.abandonSubmission writes

end Steps

section Cleanup

/-- A release of the kernarg buffer keeps the invariant, once the submission is over. -/
theorem Sound.releaseKernarg (sound : Sound state) (idle : state.submission = none) :
    Advances state state.releaseKernarg.2 ∧ state.releaseKernarg.2.submission = none ∧
      (state.releaseKernarg.1 = true → state.releaseKernarg.2.kernarg = none) := by
  cases allocated : state.kernarg with
  | none =>
    unfold HostNativeDispatchStateV2.releaseKernarg
    rw [allocated]
    exact ⟨sound.refl, idle, fun _ => allocated⟩
  | some kernarg =>
    have held : state.buffer = some (kernarg.allocation.allocation, kernarg.lease) := by
      rw [HostNativeDispatchStateV2.buffer, allocated]
      rfl
    obtain ⟨about, code, mapped, apart⟩ := sound.buffer _ _ held
    obtain ⟨moves, effect⟩ := @releaseKernarg_effect state
      (fun name => name = kernarg.allocation.allocation) sound.context kernarg allocated rfl about
    -- with the submission over, the state counts on the code only
    have spared : ∀ handle, Relies state handle → ¬ handle = kernarg.allocation.allocation := by
      rintro handle (coded | ⟨live, -⟩)
      · rw [codeHandle_of_mapping mapped] at coded
        exact Option.some.inj coded ▸ apart
      · rw [idle] at live
        cases live
    rcases effect with ⟨failed, quiet⟩ | ⟨-, same⟩
    · exact ⟨sound.quiet quiet moves spared, quiet.submission.trans idle, fun done => by
        rw [failed] at done
        cases done⟩
    · have calm : Quiet state { state with context := state.releaseKernarg.2.context } :=
        ⟨rfl, rfl, rfl, rfl, rfl, rfl⟩
      obtain ⟨whole, progress, -⟩ := sound.quiet calm moves spared
      rw [same]
      refine ⟨⟨⟨whole.context, ?_, ?_, ?_⟩, progress, rfl⟩, idle, fun _ => rfl⟩
      · intro other there
        obtain ⟨valid, owned, holding⟩ := whole.mapping other there
        exact ⟨valid, owned, holding⟩
      · intro name lease there
        cases there
      · intro record live
        have live : state.submission = some record := live
        rw [idle] at live
        cases live

/-- A release of the mapping keeps the invariant, once the buffer is released. -/
theorem Sound.releaseMapping (sound : Sound state) (idle : state.submission = none)
    (unallocated : state.kernarg = none) : Advances state state.releaseMapping.2 := by
  cases mapped : state.mapping with
  | none =>
    unfold HostNativeDispatchStateV2.releaseMapping
    rw [mapped]
    exact sound.refl
  | some code =>
    obtain ⟨valid, owned, holding⟩ := sound.mapping code mapped
    rcases releaseMapping_effect sound.context mapped owned valid holding with
      ⟨-, refused⟩ | ⟨-, -, same, moves, -⟩
    · rw [refused]
      exact sound.still ⟨rfl, rfl, rfl, rfl, rfl, rfl⟩ rfl
    · rw [same]
      refine ⟨⟨moves.sound, ?_, ?_, ?_⟩, moves.progress, rfl⟩
      · intro other there
        cases there
      · intro name lease there
        have there : state.buffer = some (name, lease) := there
        rw [HostNativeDispatchStateV2.buffer, unallocated] at there
        cases there
      · intro record live
        have live : state.submission = some record := live
        rw [idle] at live
        cases live

theorem Sound.clear (sound : Sound state) : Advances state state.clear.2 := by
  unfold HostNativeDispatchStateV2.clear
  split
  · exact sound.still ⟨rfl, rfl, rfl, rfl, rfl, rfl⟩ rfl
  rename_i idle
  obtain ⟨first, still, unallocated⟩ := sound.releaseKernarg (by simpa using idle)
  split
  · rename_i middle failed
    rw [failed] at first
    exact first
  rename_i middle released
  rw [released] at first still unallocated
  have second := first.trans (first.sound.releaseMapping still (unallocated rfl))
  split
  · rename_i after failed
    rw [failed] at second
    exact second
  · rename_i after done
    rw [done] at second
    exact second.trans (second.sound.still ⟨rfl, rfl, rfl, rfl, rfl, rfl⟩ rfl)

theorem Sound.unmap (sound : Sound state) (request : OperationContext) (command : UnmapKernel) :
    Advances state (state.unmap request command).after := by
  rcases unmap_effect state request command with ⟨-, quiet, same, -, -⟩ | ⟨-, -, -, -, after⟩
  · exact sound.still quiet same
  · rw [after]
    exact sound.clear

end Cleanup

section Elsewhere

/-- Nobody else gives back a lease of this context. -/
theorem lease_foreign {call : Memory.Call} {lease : PageLease}
    (foreign : state.foreign call = true) (member : lease ∈ state.context.leases) :
    call ≠ .releaseFunctionalPage state.context.owner lease.allocation lease.token := by
  rintro rfl
  have held : state.leases state.context.owner lease.allocation lease.token = true := by
    rw [leases, Bool.and_eq_true_iff, List.any_eq_true]
    exact ⟨beq_self_eq_true _, lease, member, by simp⟩
  rw [HostNativeDispatchStateV2.foreign, held] at foreign
  cases foreign

/-- Nobody else releases a pin of the submission. -/
theorem pin_foreign {call : Memory.Call} (foreign : state.foreign call = true)
    (live : state.submission.isSome = true)
    (mine : state.codeHandle = some handle ∨ state.kernargHandle = some handle)
    (requestId : UInt64) :
    call ≠ .releasePinnedDispatchAllocation state.boundOwner handle requestId := by
  rintro rfl
  have held : state.pins state.boundOwner handle = true := by
    rw [pins, live, Bool.true_and, Bool.and_eq_true_iff, Bool.or_eq_true_iff, beq_iff_eq, beq_iff_eq,
      beq_iff_eq]
    exact ⟨rfl, mine⟩
  rw [HostNativeDispatchStateV2.foreign, held] at foreign
  cases foreign

/-- A call of another user of the memory leaves what this state counts on. -/
theorem Sound.memory (sound : Sound state) {call : Memory.Call}
    (foreign : state.foreign call = true) :
    Advances state { state with
      context := { state.context with memory := state.context.memory.step call } } := by
  have running : call ≠ .clear := by
    rintro rfl
    cases foreign
  have pinned : ∀ record handle, record.requestId ≠ 0 → state.submission = some record →
      (state.codeHandle = some handle ∨ state.kernargHandle = some handle) →
      Pinned state.context state.boundOwner handle record.requestId →
      Pinned { state.context with memory := state.context.memory.step call } state.boundOwner
        handle record.requestId := by
    rintro record handle issued live mine ⟨use, found, same⟩
    obtain ⟨left, there, leaves⟩ := HostGPUMemoryState.usage_step call found
      (fun idle => issued (same.symm.trans idle.1)) running
    refine ⟨left, there, ?_⟩
    rw [← same]
    exact leaves.requestId (same ▸ issued) (pin_foreign foreign (by rw [live]; rfl) mine)
  refine ⟨⟨⟨sound.context.memory.progress call |>.sound, ?_, sound.context.issued,
    sound.context.distinct⟩, ?_, sound.buffer, ?_⟩, sound.context.memory.progress call, rfl⟩
  · intro lease member
    obtain ⟨use, found, token⟩ := sound.context.held lease member
    have used : ¬ use.idle := by
      rintro ⟨-, none⟩
      rw [none] at token
      cases token
    obtain ⟨left, there, leaves⟩ := HostGPUMemoryState.usage_step call found used running
    exact ⟨left, there, leaves.tokens lease.token token (lease_foreign foreign member)⟩
  · intro code mapped
    obtain ⟨valid, owned, ⟨mine, byOwner, named, about, held⟩⟩ := sound.mapping code mapped
    exact ⟨valid, owned, ⟨mine, byOwner, named, about, held⟩⟩
  · intro record live
    obtain ⟨code, handle, issued, mapped, allocated, coded, buffered⟩ := sound.submission record live
    exact ⟨code, handle, issued, mapped, allocated,
      pinned record _ issued live (.inl (codeHandle_of_mapping mapped)) coded,
      pinned record _ issued live (.inr allocated) buffered⟩

theorem Sound.elsewhere (sound : Sound state) (call : Others) :
    Advances state (state.elsewhere call) := by
  cases call with
  | memory call =>
    unfold HostNativeDispatchStateV2.elsewhere
    dsimp only
    split
    · rename_i foreign
      exact sound.memory foreign
    · exact sound.refl
  | queue queue call => exact ⟨sound.withQueues _, sound.context.memory.refl, rfl⟩
  | addressSpace queue bytes => exact ⟨sound.withQueues _, sound.context.memory.refl, rfl⟩
  | identities value => exact sound.still ⟨rfl, rfl, rfl, rfl, rfl, rfl⟩ rfl

end Elsewhere

section Runs

variable (layout : Layout)

/-- Every step keeps the invariant. -/
theorem Sound.advances (sound : Sound state) (input : Input) :
    Advances state (state.step layout input) := by
  cases input with
  | map request command image metadata env => exact sound.map layout request command image metadata env
  | allocateKernarg request command env => exact sound.allocateKernarg request command env
  | publishKernarg request command env => exact sound.publishKernarg request command env
  | submit request command completionSignalVa queue fetched dispatchIdOverride env =>
    exact sound.submit layout request command completionSignalVa queue fetched dispatchIdOverride env
  | retire request command queue writes => exact sound.retire request command queue writes
  | abandonSubmission writes => exact sound.abandonSubmission writes
  | unmap request command => exact sound.unmap request command
  | clear => exact sound.clear
  | others call => exact sound.elsewhere call

theorem Sound.advances_run (sound : Sound state) (inputs : List Input) :
    Advances state (runFrom (step layout) state inputs) := by
  induction inputs generalizing state with
  | nil => exact sound.refl
  | cons input rest ih =>
    have first := sound.advances layout input
    exact first.trans (ih first.sound)

end Runs

end HostNativeDispatchStateV2

end GemSim.Dispatch
