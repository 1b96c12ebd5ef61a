import GemSim.Dispatch.Invariant

/-!
# When a failed cleanup can be retried

An unmap or a clear releases the kernarg buffer first and the mapping after it. A mapping
that somebody else uses is left as it is, but the lease of the kernarg buffer is given back
before its allocation is known to be free, and a released buffer stays released when the
mapping is refused. A cleanup can therefore be retried exactly if it does not find a
kernarg buffer while somebody else uses the buffer or the code.

## Main definitions

* `CleanupLaw` — what a cleanup that fails, and one that succeeds, leave
* `Unobstructed` — a cleanup with a kernarg buffer finds nothing else in use
* `Leased` — the kernarg buffer still holds its lease

## Main results

* `clear_cases` — how a cleanup ends
* `cleanupLaw_iff_of_run` — along runs of unobstructed steps, the law holds exactly of those
-/

namespace GemSim.Dispatch

open GemSim.Lib GemSim.Domain GemSim.Memory GemSim.CodeObject
open GemSim.Native (HostNativeQueueCore FetchedPacket)

namespace HostNativeDispatchStateV2

/-- The input is a cleanup of what this state has mapped. -/
def addressed (state : HostNativeDispatchStateV2) : Input → Bool
  | .unmap request command =>
    state.validateContext request && state.validateMapping command.object command.mapping
  | .clear => true
  | _ => false

/-- Nobody else uses the allocations of code and kernarg buffer. -/
def Unused (state : HostNativeDispatchStateV2) : Prop :=
  (∀ code, state.mapping = some code →
    Sole state.boundOwner state.context code.value.lease code.value.allocation.allocation) ∧
  (∀ kernarg, state.kernarg = some kernarg →
    Sole state.boundOwner state.context kernarg.lease kernarg.allocation.allocation)

instance (state : HostNativeDispatchStateV2) : Decidable (Unused state) :=
  have := decidableForallSome state.mapping fun code =>
    Sole state.boundOwner state.context code.value.lease code.value.allocation.allocation
  have := decidableForallSome state.kernarg fun kernarg =>
    Sole state.boundOwner state.context kernarg.lease kernarg.allocation.allocation
  inferInstanceAs (Decidable (_ ∧ _))

/-- A cleanup that finds a kernarg buffer finds nobody else using it or the code. -/
def Unobstructed (state : HostNativeDispatchStateV2) (input : Input) : Prop :=
  state.addressed input = true → state.submission.isSome = false →
    state.kernarg.isSome = true → Unused state

instance (state : HostNativeDispatchStateV2) (input : Input) :
    Decidable (Unobstructed state input) :=
  inferInstanceAs (Decidable (_ → _ → _ → _))

/-- Mapping, kernarg buffer and submission are what they were, with all leases and allocations. -/
structure Intact (state after : HostNativeDispatchStateV2) : Prop where
  mapping : after.mapping = state.mapping
  kernarg : after.kernarg = state.kernarg
  submission : after.submission = state.submission
  context : after.context = state.context

/-- The allocation is released for good: it stood before, and from here on no handle names it
and no lease of it is held. -/
def ReleasedOnce (layout : Layout) (state after : HostNativeDispatchStateV2)
    (handle : AllocationHandle) : Prop :=
  state.context.memory.usage state.boundOwner handle ≠ none ∧
    ∀ later,
      (∀ owner, (runFrom (step layout) after later).context.memory.usage owner handle = none) ∧
        ∀ lease ∈ (runFrom (step layout) after later).context.leases, lease.allocation ≠ handle

/-- What a cleanup that fails, and one that succeeds, leave. -/
structure CleanupLaw (layout : Layout) (state : HostNativeDispatchStateV2) (input : Input) :
    Prop where
  intact : state.addressed input = true → state.succeeds layout input = false →
    Intact state (state.step layout input)
  retried : state.addressed input = true → state.succeeds layout input = false → ∀ later,
    Meets (step layout) Unobstructed (state.step layout input) later →
    (runFrom (step layout) (state.step layout input) later).mapping = state.mapping →
    (runFrom (step layout) (state.step layout input) later).submission = none →
    Unused (runFrom (step layout) (state.step layout input) later) →
    (runFrom (step layout) (state.step layout input) later).succeeds layout input = true
  released : state.addressed input = true → state.succeeds layout input = true →
    (state.step layout input).mapping = none ∧ (state.step layout input).kernarg = none ∧
      ∀ handle, state.codeHandle = some handle ∨ state.kernargHandle = some handle →
        ReleasedOnce layout state (state.step layout input) handle

/-- The kernarg buffer holds its lease. -/
def Leased (state : HostNativeDispatchStateV2) : Prop :=
  ∀ handle lease, state.buffer = some (handle, lease) →
    Holding state.boundOwner state.context lease handle

variable {state after : HostNativeDispatchStateV2} {touched : AllocationHandle → Prop}
  {handle : AllocationHandle}

section Leased

theorem Leased.named (leased : Leased state) (sound : ContextSound state.context)
    (allocated : state.kernargHandle = some handle) : ¬ Unnamed state.context handle := by
  intro unnamed
  rw [kernargHandle_eq, Option.map_eq_some_iff] at allocated
  obtain ⟨⟨name, lease⟩, there, rfl⟩ := allocated
  have holding := leased name lease there
  obtain ⟨use, found, -⟩ := sound.held lease holding.held
  rw [holding.about, unnamed] at found
  cases found

/-- A step that keeps the buffer and spares its allocation. -/
theorem Leased.moves (leased : Leased state) (boundOwner : after.boundOwner = state.boundOwner)
    (buffer : after.buffer = state.buffer) (moves : Moves touched state.context after.context)
    (spared : ∀ handle, state.kernargHandle = some handle → ¬ touched handle) : Leased after := by
  intro handle lease there
  rw [buffer] at there
  rw [boundOwner]
  exact (leased handle lease there).moves moves (spared handle (kernargHandle_of_buffer there))

/-- A step that keeps the leases. -/
theorem Leased.leases (leased : Leased state) (boundOwner : after.boundOwner = state.boundOwner)
    (buffer : after.buffer = state.buffer) (owner : after.context.owner = state.context.owner)
    (leases : after.context.leases = state.context.leases) : Leased after := by
  intro handle lease there
  rw [buffer] at there
  obtain ⟨owned, byOwner, named, about, held⟩ := leased handle lease there
  rw [boundOwner]
  exact ⟨owner.trans owned, byOwner, named, about, leases ▸ held⟩

theorem leased_of_none (unallocated : state.kernarg = none) : Leased state := by
  intro handle lease there
  rw [buffer, unallocated] at there
  cases there

end Leased

section Clear

/-- The cleanup is refused and has changed nothing. -/
def Declined (state : HostNativeDispatchStateV2) (reply : Bool × HostNativeDispatchStateV2) :
    Prop := reply.1 = false ∧ Intact state reply.2

/-- The cleanup has failed, and has lost the kernarg buffer or the lease of it. -/
def Lost (state : HostNativeDispatchStateV2) (reply : Bool × HostNativeDispatchStateV2) : Prop :=
  reply.1 = false ∧ ¬ Intact state reply.2

/-- The cleanup has released everything. -/
structure Cleaned (state : HostNativeDispatchStateV2) (reply : Bool × HostNativeDispatchStateV2) :
    Prop where
  returned : reply.1 = true
  mapping : reply.2.mapping = none
  kernarg : reply.2.kernarg = none
  gone : ∀ handle, state.codeHandle = some handle ∨ state.kernargHandle = some handle →
    reply.2.context.memory.usage state.boundOwner handle = none

/-- A release of the mapping declines, or releases it. -/
theorem releaseMapping_cases (sound : Sound state) (unallocated : state.kernarg = none) :
    (¬ Unused state ∧ state.releaseMapping =
        (false, state.fail .busy .mapping "code mapping release failed")) ∨
      (Unused state ∧ Cleaned state state.releaseMapping ∧
        Moves (fun name => state.codeHandle = some name) state.context
          state.releaseMapping.2.context) := by
  have unbuffered : ∀ kernarg, state.kernarg = some kernarg →
      Sole state.boundOwner state.context kernarg.lease kernarg.allocation.allocation := by
    intro kernarg there
    rw [unallocated] at there
    cases there
  have noBuffer : state.kernargHandle = none := by
    rw [kernargHandle, unallocated]
    rfl
  cases mapped : state.mapping with
  | none =>
    have noCode : state.codeHandle = none := by
      rw [codeHandle, mapped]
      rfl
    have same : state.releaseMapping = (true, state) := by
      unfold releaseMapping
      rw [mapped]
    refine .inr ⟨⟨fun code there => ?_, unbuffered⟩, ?_, ?_⟩
    · rw [mapped] at there
      cases there
    · rw [same]
      refine ⟨rfl, mapped, unallocated, ?_⟩
      rw [noCode, noBuffer]
      rintro handle (none | none)
      · cases none
      · cases none
    · rw [same]
      exact .refl sound.context
  | some code =>
    obtain ⟨valid, owned, holding⟩ := sound.mapping code mapped
    have coded := codeHandle_of_mapping mapped
    rcases releaseMapping_effect sound.context mapped owned valid holding with
      ⟨shared, refused⟩ | ⟨sole, done, same, moves, released⟩
    · exact .inl ⟨fun unused => shared (unused.1 code mapped), refused⟩
    · refine .inr ⟨⟨?_, unbuffered⟩, ⟨done, by rw [same], by rw [same]; exact unallocated, ?_⟩, ?_⟩
      · intro other there
        obtain rfl := Option.some.inj (mapped.symm.trans there)
        exact sole
      · rw [coded, noBuffer]
        rintro handle (named | none)
        · obtain rfl := Option.some.inj named
          exact released.gone
        · cases none
      · exact moves.mono fun name same => by rw [coded, same]

theorem clear_of_live (live : state.submission.isSome = true) :
    state.clear = (false, state.fail .busy .busy "cannot clear an admitted submission") := by
  unfold clear
  exact if_pos live

theorem clear_of_kept (idle : state.submission = none) (failed : state.releaseKernarg.1 = false) :
    state.clear = (false, state.releaseKernarg.2) := by
  have pair : state.releaseKernarg = (false, state.releaseKernarg.2) := Prod.ext failed rfl
  unfold clear
  rw [if_neg (by rw [idle]; decide), pair]

/-- Once the buffer is released, the rest of a clear is the release of the mapping. -/
theorem clear_of_released (idle : state.submission = none)
    (done : state.releaseKernarg.1 = true) :
    state.clear.1 = state.releaseKernarg.2.releaseMapping.1 ∧
      state.clear.2.mapping = state.releaseKernarg.2.releaseMapping.2.mapping ∧
      state.clear.2.kernarg = state.releaseKernarg.2.releaseMapping.2.kernarg ∧
      state.clear.2.submission = state.releaseKernarg.2.releaseMapping.2.submission ∧
      state.clear.2.context = state.releaseKernarg.2.releaseMapping.2.context := by
  have pair : state.releaseKernarg = (true, state.releaseKernarg.2) := Prod.ext done rfl
  unfold clear
  rw [if_neg (by rw [idle]; decide), pair]
  dsimp only
  split
  · rename_i after failed
    rw [failed]
    exact ⟨rfl, rfl, rfl, rfl, rfl⟩
  · rename_i after ended
    rw [ended]
    exact ⟨rfl, rfl, rfl, rfl, rfl⟩

/-- How a cleanup ends: it declines, loses the buffer, or releases everything. -/
theorem clear_cases (sound : Sound state) (leased : Leased state) :
    (Declined state state.clear ∧ (state.submission.isSome = true ∨
        state.kernarg = none ∧ ¬ Unused state)) ∨
      (Lost state state.clear ∧ state.submission = none ∧ state.kernarg.isSome = true ∧
        ¬ Unused state) ∨
      (Cleaned state state.clear ∧ state.submission = none ∧ Unused state) := by
  by_cases live : state.submission.isSome = true
  · rw [clear_of_live live]
    exact .inl ⟨⟨rfl, ⟨rfl, rfl, rfl, rfl⟩⟩, .inl live⟩
  have idle : state.submission = none := by simpa using live
  cases allocated : state.kernarg with
  | none =>
    have same : state.releaseKernarg = (true, state) := by
      unfold releaseKernarg
      rw [allocated]
    obtain ⟨returned, mapping, kernarg, submission, context⟩ :=
      clear_of_released idle (by rw [same])
    rw [same] at returned mapping kernarg submission context
    rcases releaseMapping_cases sound allocated with ⟨used, refused⟩ | ⟨unused, cleaned, -⟩
    · rw [refused] at returned mapping kernarg submission context
      exact .inl ⟨⟨returned, ⟨mapping, kernarg, submission, context⟩⟩, .inr ⟨rfl, used⟩⟩
    · refine .inr (.inr ⟨⟨returned.trans cleaned.returned, mapping.trans cleaned.mapping,
        kernarg.trans cleaned.kernarg, fun handle mine => ?_⟩, idle, unused⟩)
      rw [context]
      exact cleaned.gone handle mine
  | some kernarg =>
    have held : state.buffer = some (kernarg.allocation.allocation, kernarg.lease) := by
      rw [buffer, allocated]
      rfl
    have holding := leased _ _ held
    obtain ⟨about, code, mapped, apart⟩ := sound.buffer _ _ held
    have coded := codeHandle_of_mapping mapped
    by_cases sole : Sole state.boundOwner state.context kernarg.lease
      kernarg.allocation.allocation
    · obtain ⟨done, released⟩ := releaseKernarg_of_sole sound.context allocated holding sole
      obtain ⟨first, -, unallocated⟩ := sound.releaseKernarg idle
      obtain ⟨moves, effect⟩ := @releaseKernarg_effect state
        (fun name => name = kernarg.allocation.allocation) sound.context kernarg allocated rfl about
      obtain ⟨returned, mapping, unheld, submission, context⟩ := clear_of_released idle done
      rcases effect with ⟨failed, -⟩ | ⟨-, same⟩
      · rw [done] at failed
        cases failed
      have boundOwner : state.releaseKernarg.2.boundOwner = state.boundOwner := by rw [same]
      have kept : state.releaseKernarg.2.mapping = state.mapping := by rw [same]
      have unused_iff : Unused state.releaseKernarg.2 ↔ Unused state := by
        have code_iff := @Moves.sole_iff _ _ _ state.boundOwner
          code.value.allocation.allocation code.value.lease moves apart
        constructor
        · intro unused
          refine ⟨fun other there => ?_, fun other there => ?_⟩
          · obtain rfl := Option.some.inj (mapped.symm.trans there)
            exact code_iff.mp (boundOwner ▸ unused.1 code (kept.trans mapped))
          · obtain rfl := Option.some.inj (allocated.symm.trans there)
            exact sole
        · intro unused
          refine ⟨fun other there => ?_, fun other there => ?_⟩
          · obtain rfl := Option.some.inj (mapped.symm.trans (kept.symm.trans there))
            rw [boundOwner]
            exact code_iff.mpr (unused.1 code mapped)
          · rw [unallocated done] at there
            cases there
      rcases releaseMapping_cases first.sound (unallocated done) with
        ⟨used, refused⟩ | ⟨unused, cleaned, spares⟩
      · rw [refused] at returned unheld
        refine .inr (.inl ⟨⟨returned, fun intact => ?_⟩, idle, rfl, mt unused_iff.mpr used⟩)
        have lost : state.clear.2.kernarg = none := unheld.trans (unallocated done)
        rw [intact.kernarg, allocated] at lost
        cases lost
      · refine .inr (.inr ⟨⟨returned.trans cleaned.returned, mapping.trans cleaned.mapping,
          unheld.trans cleaned.kernarg, ?_⟩, idle, unused_iff.mp unused⟩)
        rintro handle (named | named)
        · rw [context, ← boundOwner]
          refine cleaned.gone handle (.inl ?_)
          rw [codeHandle, kept]
          exact named
        · rw [kernargHandle_of_buffer held] at named
          obtain rfl := Option.some.inj named
          rw [context]
          refine (spares.frame _ _ ?_).trans released.gone
          rw [codeHandle, kept, ← codeHandle, coded]
          exact fun same => apart (Option.some.inj same)
    · obtain ⟨failed, gone⟩ := releaseKernarg_of_shared sound.context allocated holding sole
      rw [clear_of_kept idle failed]
      refine .inr (.inl ⟨⟨rfl, fun intact => gone ?_⟩, idle, rfl, fun unused =>
        sole (unused.2 kernarg allocated)⟩)
      rw [intact.context]
      exact holding.held

end Clear

section Runs

variable (layout : Layout) {input : Input}

/-- A cleanup that is addressed to this state ends as a clear does. -/
theorem run_cases (sound : Sound state) (leased : Leased state)
    (mine : state.addressed input = true) :
    (Declined state (state.run layout input) ∧ (state.submission.isSome = true ∨
        state.kernarg = none ∧ ¬ Unused state)) ∨
      (Lost state (state.run layout input) ∧ state.submission = none ∧
        state.kernarg.isSome = true ∧ ¬ Unused state) ∨
      (Cleaned state (state.run layout input) ∧ state.submission = none ∧ Unused state) := by
  cases input with
  | unmap request command =>
    obtain ⟨valid, named⟩ := Bool.and_eq_true_iff.mp mine
    rcases unmap_effect state request command with
      ⟨failed, quiet, context, kernarg, busy⟩ | ⟨-, -, -, returned, after⟩
    · exact .inl ⟨⟨failed, ⟨quiet.mapping, kernarg, quiet.submission, context⟩⟩,
        .inl (busy valid named)⟩
    · have same : state.run layout (.unmap request command) = state.clear := Prod.ext returned after
      rw [same]
      exact clear_cases sound leased
  | clear => exact clear_cases sound leased
  | map => cases mine
  | allocateKernarg => cases mine
  | publishKernarg => cases mine
  | submit => cases mine
  | retire => cases mine
  | abandonSubmission => cases mine
  | others => cases mine

/-- An unobstructed cleanup does not lose the buffer. -/
theorem Leased.cleanup (leased : Leased state) (sound : Sound state)
    (mine : state.addressed input = true) (unobstructed : Unobstructed state input) :
    Leased (state.step layout input) := by
  have advances := sound.advances layout input
  rcases run_cases layout sound leased mine with
    ⟨⟨-, intact⟩, -⟩ | ⟨-, idle, buffered, used⟩ | ⟨cleaned, -⟩
  · refine leased.leases advances.boundOwner ?_ ?_ ?_
    · exact congrArg (Option.map _) intact.kernarg
    · exact congrArg HostNativeMemoryContext.owner intact.context
    · exact congrArg HostNativeMemoryContext.leases intact.context
  · exact absurd (unobstructed mine (by rw [idle]; rfl) buffered) used
  · exact leased_of_none cleaned.kernarg

theorem Leased.abandonSubmission (leased : Leased state) (sound : Sound state) (writes : Bool) :
    Leased (state.abandonSubmission writes).2 := by
  cases live : state.submission with
  | none =>
    unfold HostNativeDispatchStateV2.abandonSubmission
    rw [live]
    exact leased
  | some record =>
    obtain ⟨code, handle, pinning⟩ := sound.submission record live
    obtain ⟨kernarg, allocated, rfl⟩ := Option.map_eq_some_iff.mp pinning.allocated
    obtain ⟨abandoned, -⟩ := abandonSubmission_of_live live pinning.mapped allocated writes
    refine leased.leases abandoned.boundOwner abandoned.buffer ?_ ?_
    · rw [abandoned.context]
      rfl
    · rw [abandoned.context]
      rfl

/-- Every unobstructed step keeps the lease of the buffer. -/
theorem Leased.step (leased : Leased state) (sound : Sound state)
    (unobstructed : Unobstructed state input) : Leased (state.step layout input) := by
  have still : ∀ {reply : HostNativeDispatchStateV2}, Quiet state reply →
      reply.context = state.context → Leased reply := by
    intro reply quiet same
    refine leased.leases quiet.boundOwner quiet.buffer ?_ ?_
    · rw [same]
    · rw [same]
  cases input with
  | map request command image metadata env =>
    obtain ⟨moves, ⟨-, quiet⟩ | ⟨-, code, mapped⟩⟩ :=
      map_effect layout sound.context request command image metadata env
    · exact leased.moves quiet.boundOwner quiet.buffer moves fun _ => leased.named sound.context
    · exact leased.moves mapped.boundOwner mapped.buffer moves fun _ => leased.named sound.context
  | allocateKernarg request command env =>
    obtain ⟨moves, ⟨-, quiet⟩ | ⟨-, handle, lease, allocated⟩⟩ :=
      allocateKernarg_effect sound.context request command env
    · exact leased.moves quiet.boundOwner quiet.buffer moves fun _ => leased.named sound.context
    · intro name held there
      obtain ⟨rfl, rfl⟩ := Prod.mk.inj (Option.some.inj (allocated.buffer.symm.trans there))
      exact allocated.boundOwner ▸ allocated.holding
  | publishKernarg request command env =>
    obtain ⟨moves, quiet⟩ := publishKernarg_effect sound.context request command env
    exact leased.moves quiet.boundOwner quiet.buffer moves fun _ _ => id
  | submit request command completionSignalVa queue fetched dispatchIdOverride env =>
    rcases submit_effect layout state request command completionSignalVa queue fetched
      dispatchIdOverride env with
      ⟨-, quiet, same⟩ | ⟨-, cancelled⟩ | ⟨-, record, code, kernarg, submitted⟩
    · exact still quiet same
    · refine leased.leases cancelled.boundOwner cancelled.buffer ?_ ?_
      · exact congrArg HostNativeMemoryContext.owner cancelled.context
      · exact congrArg HostNativeMemoryContext.leases cancelled.context
    · refine leased.leases submitted.boundOwner submitted.buffer ?_ ?_
      · exact Eq.trans (congrArg HostNativeMemoryContext.owner submitted.context) rfl
      · exact Eq.trans (congrArg HostNativeMemoryContext.leases submitted.context) rfl
  | retire request command queue writes =>
    rcases retire_effect state request command queue writes with ⟨-, quiet, same⟩ | ⟨-, -, after⟩
    · exact still quiet same
    · have same : state.step layout (.retire request command queue writes) =
          (state.abandonSubmission writes).2 := after
      rw [same]
      exact leased.abandonSubmission sound writes
  | abandonSubmission writes => exact leased.abandonSubmission sound writes
  | unmap request command =>
    by_cases mine : state.addressed (.unmap request command) = true
    · exact leased.cleanup layout sound mine unobstructed
    rcases unmap_effect state request command with
      ⟨-, quiet, same, -, -⟩ | ⟨valid, -, named, -, -⟩
    · exact still quiet same
    · exact absurd (Bool.and_eq_true_iff.mpr ⟨valid, named⟩) mine
  | clear => exact leased.cleanup layout sound rfl unobstructed
  | others call =>
    cases call with
    | memory call =>
      have kept : (state.elsewhere (.memory call)).boundOwner = state.boundOwner ∧
          (state.elsewhere (.memory call)).buffer = state.buffer ∧
          (state.elsewhere (.memory call)).context.owner = state.context.owner ∧
          (state.elsewhere (.memory call)).context.leases = state.context.leases := by
        unfold elsewhere
        dsimp only
        split
        · exact ⟨rfl, rfl, rfl, rfl⟩
        · exact ⟨rfl, rfl, rfl, rfl⟩
      exact leased.leases kept.1 kept.2.1 kept.2.2.1 kept.2.2.2
    | queue queue call => exact leased.leases rfl rfl rfl rfl
    | addressSpace queue bytes => exact leased.leases rfl rfl rfl rfl
    | identities value => exact leased.leases rfl rfl rfl rfl

theorem held_step (state : HostNativeDispatchStateV2) (input : Input)
    (held : Sound state ∧ Leased state) (unobstructed : Unobstructed state input) :
    Sound (state.step layout input) ∧ Leased (state.step layout input) :=
  ⟨(held.1.advances layout input).sound, held.2.step layout held.1 unobstructed⟩

/-- A cleanup is addressed to every later state with the same mapping. -/
theorem addressed_of_mapping (boundOwner : after.boundOwner = state.boundOwner)
    (mapping : after.mapping = state.mapping) (mine : state.addressed input = true) :
    after.addressed input = true := by
  cases input with
  | unmap request command =>
    unfold addressed validateContext validateMapping validateObject at mine ⊢
    rw [boundOwner, mapping]
    exact mine
  | clear => rfl
  | map => cases mine
  | allocateKernarg => cases mine
  | publishKernarg => cases mine
  | submit => cases mine
  | retire => cases mine
  | abandonSubmission => cases mine
  | others => cases mine

/-- What a cleanup releases stood before, and never stands again. -/
theorem Cleaned.releasedOnce (cleaned : Cleaned state (state.run layout input))
    (sound : Sound state) (leased : Leased state)
    (mine : state.codeHandle = some handle ∨ state.kernargHandle = some handle) :
    ReleasedOnce layout state (state.step layout input) handle := by
  have stood : ∃ use, state.context.memory.usage state.boundOwner handle = some use := by
    have used : ∀ lease, Holding state.boundOwner state.context lease handle →
        ∃ use, state.context.memory.usage state.boundOwner handle = some use := by
      rintro lease ⟨owned, -, -, about, held⟩
      obtain ⟨use, found, -⟩ := sound.context.held lease held
      exact ⟨use, by rw [← owned, ← about]; exact found⟩
    rcases mine with coded | buffered
    · obtain ⟨code, mapped, rfl⟩ := Option.map_eq_some_iff.mp coded
      exact used _ (sound.mapping code mapped).holding
    · rw [kernargHandle_eq, Option.map_eq_some_iff] at buffered
      obtain ⟨⟨name, lease⟩, there, rfl⟩ := buffered
      exact used _ (leased name lease there)
  obtain ⟨use, found⟩ := stood
  have advances := sound.advances layout input
  refine ⟨by rw [found]; exact Option.some_ne_none use, fun later => ?_⟩
  have last := advances.sound.advances_run layout later
  have gone := HostGPUMemoryState.usage_gone sound.context.memory advances.progress found
    (cleaned.gone handle mine) last.progress
  refine ⟨gone, fun lease member about => ?_⟩
  obtain ⟨left, there, -⟩ := last.sound.context.held lease member
  rw [about, gone] at there
  cases there

/-- A cleanup can be retried if and only if it is unobstructed. -/
theorem cleanupLaw_iff (sound : Sound state) (leased : Leased state) (input : Input) :
    CleanupLaw layout state input ↔ Unobstructed state input := by
  constructor
  · intro law mine idle buffered
    rcases run_cases layout sound leased mine with
      ⟨-, live | ⟨unallocated, -⟩⟩ | ⟨⟨failed, lost⟩, -⟩ | ⟨-, -, unused⟩
    · rw [idle] at live
      cases live
    · rw [unallocated] at buffered
      cases buffered
    · exact absurd (law.intact mine failed) lost
    · exact unused
  · intro unobstructed
    refine ⟨fun mine failed => ?_, ?_, fun mine done => ?_⟩
    · rcases run_cases layout sound leased mine with
        ⟨⟨-, intact⟩, -⟩ | ⟨-, idle, buffered, used⟩ | ⟨cleaned, -⟩
      · exact intact
      · exact absurd (unobstructed mine (by rw [idle]; rfl) buffered) used
      · exact absurd (failed.symm.trans cleaned.returned) (by decide)
    · intro mine failed later meets mapping idle unused
      obtain ⟨lastSound, lastLeased⟩ := invariant_of_meets (step layout)
        (fun state => Sound state ∧ Leased state) (held_step layout)
        (held_step layout state input ⟨sound, leased⟩ unobstructed) meets
      have advances := (sound.advances layout input).trans
        ((sound.advances layout input).sound.advances_run layout later)
      rcases run_cases layout lastSound lastLeased
        (addressed_of_mapping advances.boundOwner mapping mine) with
        ⟨-, live | ⟨-, used⟩⟩ | ⟨-, -, -, used⟩ | ⟨cleaned, -⟩
      · rw [idle] at live
        cases live
      · exact absurd unused used
      · exact absurd unused used
      · exact cleaned.returned
    · rcases run_cases layout sound leased mine with
        ⟨⟨failed, -⟩, -⟩ | ⟨⟨failed, -⟩, -⟩ | ⟨cleaned, -⟩
      · exact absurd (done.symm.trans failed) (by decide)
      · exact absurd (done.symm.trans failed) (by decide)
      · exact ⟨cleaned.mapping, cleaned.kernarg, fun handle named =>
          cleaned.releasedOnce layout sound leased named⟩

/-- Along every run of unobstructed steps, a cleanup can be retried exactly if it is
unobstructed. -/
theorem cleanupLaw_iff_of_run (contextOwner mapperOwner boundOwner : OwnerKey)
    (pageSize : UInt64) (identities : Option DispatchIdentitySequence) (spaces : ℕ → SparseBytes)
    (inputs : List Input)
    (meets : Meets (step layout) Unobstructed
      (boot contextOwner mapperOwner boundOwner pageSize identities spaces) inputs)
    (input : Input) :
    CleanupLaw layout (runFrom (step layout)
        (boot contextOwner mapperOwner boundOwner pageSize identities spaces) inputs) input ↔
      Unobstructed (runFrom (step layout)
        (boot contextOwner mapperOwner boundOwner pageSize identities spaces) inputs) input := by
  obtain ⟨sound, leased⟩ := invariant_of_meets (step layout)
    (fun state => Sound state ∧ Leased state) (held_step layout)
    ⟨sound_boot contextOwner mapperOwner boundOwner pageSize identities spaces,
      leased_of_none rfl⟩ meets
  exact cleanupLaw_iff layout sound leased input

end Runs

section Contended

/-- A layout that finds every image well formed and no preload. -/
def permissiveLayout : Layout where
  validateCodeObjectImage _ _ := true
  kernargPreloadSpec _ := (0, 0)
  kernargPreloadPktSize := 256
  completionSignal _ := 0x5000
  kernargAddress _ := 0x100080000000

def twoSegmentImage : List UInt8 := List.replicate 128 0

/-- A code object of one page of code and one of read-only data. -/
def twoSegmentMetadata : CodeObjectMetadata where
  imageSize := 128
  kernel := { index := 0, imageSha256 := sha256 twoSegmentImage, name := [0x6b] }
  elfMachine := 224
  elfType := 3
  elfOsabi := 64
  elfAbiVersion := 2
  elfFlags := 0x4f
  gfxTarget := 950
  codeObjectVersion := 5
  metadataMajor := 1
  metadataMinor := 1
  kernargSize := 8
  kernargAlignment := 8
  maximumWorkgroupSize := 64
  wavefrontSize := 64
  kernelEntryOffset := 0x1000
  codeVirtualAddress := 0x1000
  codeFileOffset := 0
  codeSize := 64
  descriptorVirtualAddress := 0
  descriptorFileOffset := 64
  descriptorSymbol := [0x6b]
  segments :=
    [{ type := 1, flags := 5, fileOffset := 0, virtualAddress := 0x1000, fileSize := 64,
       memorySize := 64, alignment := 64 },
     { type := 1, flags := 4, fileOffset := 64, virtualAddress := 0, fileSize := 64,
       memorySize := 64, alignment := 64 }]

def soleOwner : OwnerKey := { scope := 1, generation := 1 }

def soleContext : OperationContext := { owner := soleOwner, leaseToken := 7 }

def firstObject : ObjectHandle := { id := 1, generation := 1 }

def freshState : HostNativeDispatchStateV2 :=
  boot soleOwner soleOwner soleOwner 4096 (some {}) fun _ _ => 0

/-- A code object is mapped and its kernarg buffer allocated. -/
def mappedInputs : List Input :=
  [.map soleContext
     { object := firstObject, kernel := twoSegmentMetadata.kernel, gfxTarget := 950,
       kernargSize := 8, kernargAlignment := 8, pageBytes := 4096 }
     twoSegmentImage twoSegmentMetadata {},
   .allocateKernarg soleContext
     { object := firstObject, mapping := { id := 1, generation := 1 }, size := 64, alignment := 8 }
     {}]

/-- Another user pins the kernarg buffer. -/
def pinBuffer : Input :=
  .others (.memory (.pinPinnedDispatchAllocation soleOwner { id := 2, generation := 2 } 9))

def unpinBuffer : Input :=
  .others (.memory (.releasePinnedDispatchAllocation soleOwner { id := 2, generation := 2 } 9))

def unmapFirst : Input :=
  .unmap soleContext { object := firstObject, mapping := { id := 1, generation := 1 } }

/-- With the buffer pinned and released again, the unmap is unobstructed. -/
theorem cleanupLaw_iff_releasedRun :
    CleanupLaw permissiveLayout (runFrom (step permissiveLayout) freshState
        (mappedInputs ++ [pinBuffer, unpinBuffer])) unmapFirst ↔
      Unobstructed (runFrom (step permissiveLayout) freshState
        (mappedInputs ++ [pinBuffer, unpinBuffer])) unmapFirst :=
  cleanupLaw_iff_of_run permissiveLayout soleOwner soleOwner soleOwner 4096 (some {})
    (fun _ _ => 0) (mappedInputs ++ [pinBuffer, unpinBuffer]) (by decide +kernel) unmapFirst

/-- With the buffer pinned, the unmap fails and has given the lease of the buffer back, and it
fails again once the pin is released. -/
theorem cleanupLaw_fails :
    ¬ CleanupLaw permissiveLayout (runFrom (step permissiveLayout) freshState
        (mappedInputs ++ [pinBuffer])) unmapFirst ∧
      succeeds permissiveLayout (runFrom (step permissiveLayout) freshState
        (mappedInputs ++ [pinBuffer, unmapFirst, unpinBuffer])) unmapFirst = false := by
  have facts : (runFrom (step permissiveLayout) freshState
        (mappedInputs ++ [pinBuffer])).addressed unmapFirst = true ∧
      succeeds permissiveLayout (runFrom (step permissiveLayout) freshState
        (mappedInputs ++ [pinBuffer])) unmapFirst = false ∧
      (step permissiveLayout (runFrom (step permissiveLayout) freshState
        (mappedInputs ++ [pinBuffer])) unmapFirst).context.leases.length = 1 ∧
      (runFrom (step permissiveLayout) freshState
        (mappedInputs ++ [pinBuffer])).context.leases.length = 2 := by
    decide +kernel
  refine ⟨fun law => ?_, by decide +kernel⟩
  have intact := law.intact facts.1 facts.2.1
  have same := congrArg (fun context => context.leases.length) intact.context
  rw [facts.2.2.1, facts.2.2.2] at same
  cases same

end Contended

end HostNativeDispatchStateV2

end GemSim.Dispatch
