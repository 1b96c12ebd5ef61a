import GemSim.Memory.FlatMemory
import GemSim.Memory.Progress

/-!
# The memory store refines flat memory

Forgetting the chunks turns the store into flat memory: every operation returns what the
operation on the arrays returns, and leaves the store that the operation on the arrays
leaves. The live counters of the store are exact, and that is all the refinement needs.

## Main definitions

* `Allocation.flat`, `flatten` — the arrays behind a store

## Main results

* `run_flatten` — every operation is the operation on the arrays
* `outputs_flatten` — a run of the store returns what the run on the arrays returns
-/

namespace GemSim.Memory

open GemSim.Lib GemSim.Domain

/-- The array behind an allocation. -/
def Allocation.flat (allocation : Allocation) : FlatAllocation :=
  { owner := allocation.owner
    generation := allocation.generation
    alignment := allocation.alignment
    dispatchRequestId := allocation.dispatchRequestId
    functionalPageTokens := allocation.functionalPageTokens
    bytes := (List.range allocation.size.toNat).map
      (ChunkMap.contents ChunkBytes allocation.chunks) }

namespace HostGPUMemoryState

variable {memory : HostGPUMemoryState} {owner : OwnerKey} {handle : AllocationHandle}
  {slot : Fin MaximumAllocations} {allocation : Allocation} {range : MemoryRange}

/-- The arrays behind a store. -/
def flatten (memory : HostGPUMemoryState) : FlatMemory :=
  { allocations := fun slot => (memory.allocations slot).map Allocation.flat
    generations := memory.generations }

section Allocations

@[simp] theorem length_flat (allocation : Allocation) :
    allocation.flat.bytes.length = allocation.size.toNat := by
  simp [Allocation.flat]

/-- A handle names the same slot in the store and in its arrays. -/
theorem resolve_flatten (memory : HostGPUMemoryState) (owner : OwnerKey)
    (handle : AllocationHandle) :
    memory.flatten.resolve owner handle =
      (memory.resolve owner handle).map fun found => (found.1, found.2.flat) := by
  unfold resolve FlatMemory.resolve flatten
  cases slotOfId MaximumAllocations handle.id with
  | none => rfl
  | some slot =>
    dsimp only
    cases memory.allocations slot with
    | none => rfl
    | some allocation =>
      simp only [Option.map_some, Allocation.flat]
      split <;> rfl

theorem withAllocation_flatten (memory : HostGPUMemoryState) (slot : Fin MaximumAllocations)
    (allocation : Allocation) :
    (memory.withAllocation slot allocation).flatten =
      memory.flatten.withAllocation slot allocation.flat := by
  simp only [flatten, withAllocation, FlatMemory.withAllocation, SlotTable.put_map]

theorem release_flatten (memory : HostGPUMemoryState) (slot : Fin MaximumAllocations)
    (allocation : Allocation) :
    (memory.release slot allocation).flatten =
      { memory.flatten with allocations := memory.flatten.allocations.drop slot } := by
  simp only [flatten, release, SlotTable.drop_map]

/-- A range lies in the allocation exactly when it lies in its array. -/
theorem inside_flat (allocation : Allocation) (range : MemoryRange) :
    allocation.flat.inside range = rangeValid allocation range := by
  have bound := allocation.size.toNat_lt
  rw [FlatAllocation.inside, rangeValid, length_flat, Bool.eq_iff_iff]
  simp only [decide_eq_true_eq, Bool.and_eq_true, UInt64.le_iff_toNat_le]
  constructor
  · intro inside
    rw [toNat_sub_exact (by omega)]
    omega
  · rintro ⟨start, rest⟩
    rw [toNat_sub_exact start] at rest
    omega

theorem rangeValid_iff : rangeValid allocation range = true ↔
    range.offset.toNat + range.bytes.toNat ≤ allocation.size.toNat := by
  rw [← inside_flat, FlatAllocation.inside, length_flat, decide_eq_true_eq]

/-- A read of the chunks is a slice of the array. -/
theorem read_flat (valid : rangeValid allocation range = true) :
    allocation.flat.read range = bytesOf allocation range := by
  rw [rangeValid_iff] at valid
  rw [bytesOf, ChunkMap.readLoop_eq, FlatAllocation.read, slice, Allocation.flat]
  apply List.ext_getElem
  · simp
    omega
  · intro index left right
    simp

/-- A write of the chunks replaces a slice of the array. -/
theorem write_flat {source : List UInt8} (valid : rangeValid allocation range = true)
    (length : source.length = range.bytes.toNat) :
    Allocation.flat { allocation with
      chunks := ChunkMap.writeLoop ChunkBytes (fun index => source.getD index 0)
        range.offset.toNat range.bytes.toNat 0 (ChunkMap.insertChunks allocation.chunks
          (ChunkMap.missingChunks ChunkBytes allocation.chunks range.offset.toNat
            range.bytes.toNat)) } =
      { allocation.flat with
        bytes := splice allocation.flat.bytes range.offset.toNat source } := by
  rw [rangeValid_iff] at valid
  have bytes : ∀ index : ℕ, (splice allocation.flat.bytes range.offset.toNat source)[index]? =
      if range.offset.toNat ≤ index ∧ index < range.offset.toNat + range.bytes.toNat then
        source[index - range.offset.toNat]?
      else allocation.flat.bytes[index]? := by
    intro index
    rw [getElem?_splice (by rw [length, length_flat]; exact valid), length]
  rw [Allocation.flat, FlatAllocation.mk.injEq]
  refine ⟨rfl, rfl, rfl, rfl, rfl, List.ext_getElem? fun index => ?_⟩
  rw [bytes, Allocation.flat, List.getElem?_map, List.getElem?_map]
  dsimp only
  by_cases inside : range.offset.toNat ≤ index ∧ index < range.offset.toNat + range.bytes.toNat
  · rw [if_pos inside, List.getElem?_range (by omega), Option.map_some, ChunkMap.contents_write,
      if_pos inside, List.getElem?_eq_getElem (by omega), List.getD_eq_getElem _ _ (by omega)]
  · rw [if_neg inside]
    by_cases below : index < allocation.size.toNat
    · rw [List.getElem?_range below, Option.map_some, Option.map_some, ChunkMap.contents_write,
        if_neg inside]
    · rw [List.getElem?_eq_none (by rw [List.length_range]; omega)]
      rfl

/-- Chunks that were created before a throw are erased again. -/
theorem erase_inserted (allocation : Allocation) (range : MemoryRange) (count : ℕ) :
    ChunkMap.eraseChunks (ChunkMap.insertChunks allocation.chunks
        ((ChunkMap.missingChunks ChunkBytes allocation.chunks range.offset.toNat
          range.bytes.toNat).take count))
      ((ChunkMap.missingChunks ChunkBytes allocation.chunks range.offset.toNat
        range.bytes.toNat).take count) = allocation.chunks :=
  ChunkMap.eraseChunks_insertChunks fun index member =>
    ChunkMap.missing_absent ChunkBytes index (List.mem_of_mem_take member)

end Allocations

section Copies

/-- A result of the store, with the arrays behind the store it leaves. -/
abbrev flattened {α : Type} : α × HostGPUMemoryState → α × FlatMemory := Prod.map id flatten

theorem validateCopy_flatten (memory : HostGPUMemoryState) (owner : OwnerKey)
    (range : MemoryRange) (dispatchRequestId : UInt64) :
    memory.flatten.validateCopy owner range dispatchRequestId =
      memory.validateCopy owner range dispatchRequestId := by
  unfold validateCopy FlatMemory.validateCopy
  rw [resolve_flatten]
  simp only [max_sub_lt_iff, gt_iff_lt]
  cases memory.resolve owner range.allocation with
  | none => rfl
  | some found =>
    simp only [Option.map_some, inside_flat]
    rfl

/-- A copy that may be made lies in an allocation of its owner. -/
theorem validateCopy_spec {dispatchRequestId : UInt64}
    (valid : (memory.validateCopy owner range dispatchRequestId).ok = true) :
    ∃ slot allocation, memory.resolve owner range.allocation = some (slot, allocation) ∧
      rangeValid allocation range = true := by
  unfold validateCopy at valid
  split at valid
  · cases valid
  split at valid
  · cases valid
  split at valid
  · cases valid
  split at valid
  · cases valid
  · rename_i found
    split at valid
    · cases valid
    · rename_i outside
      exact ⟨_, _, found, by simpa using outside⟩

theorem copyFromHost_flatten (memory : HostGPUMemoryState) (owner : OwnerKey)
    (transfer : Transfer) (dispatchRequestId : UInt64) (throwsAfter : Option ℕ) :
    memory.flatten.copyFromHost owner transfer dispatchRequestId throwsAfter.isSome =
      flattened (memory.copyFromHost owner transfer dispatchRequestId throwsAfter) := by
  unfold copyFromHost FlatMemory.copyFromHost
  dsimp only
  rw [validateCopy_flatten]
  by_cases valid : (memory.validateCopy owner transfer.range dispatchRequestId).ok = true
  · obtain ⟨slot, allocation, found, inside⟩ := validateCopy_spec valid
    rw [valid, apply_ite flattened, apply_ite flattened, resolve_flatten, found]
    refine if_congr Iff.rfl rfl ?_
    by_cases differs : transfer.bytes.length ≠ transfer.range.bytes.toNat
    · rw [if_pos differs, if_pos differs]
      rfl
    rw [if_neg differs, if_neg differs]
    cases throwsAfter with
    | none =>
      simp only [Option.map_some, Option.isSome_none, Bool.false_eq_true, if_false,
        flattened, Prod.map, withAllocation_flatten, write_flat inside (not_not.mp differs), id]
    | some count =>
      -- the store is as it was, allocation by allocation
      have same : memory.flatten.allocations.put slot allocation.flat =
          memory.flatten.allocations := by
        refine Function.update_eq_self_iff.mpr ?_
        simp only [flatten, (resolve_eq_some.mp found).2.1, Option.map_some]
      simp only [Option.map_some, Option.isSome_some, if_true, flattened, Prod.map, id,
        withAllocation_flatten, erase_inserted]
      rw [FlatMemory.withAllocation, same]
  · rw [if_pos (by simpa using valid), if_pos (by simpa using valid)]
    rfl

theorem copyToHost_flatten (memory : HostGPUMemoryState) (owner : OwnerKey) (range : MemoryRange)
    (dispatchRequestId : UInt64) (allocates : Bool) :
    memory.flatten.copyToHost owner range dispatchRequestId allocates =
      memory.copyToHost owner range dispatchRequestId allocates := by
  unfold copyToHost FlatMemory.copyToHost
  dsimp only
  rw [validateCopy_flatten]
  by_cases valid : (memory.validateCopy owner range dispatchRequestId).ok = true
  · obtain ⟨slot, allocation, found, inside⟩ := validateCopy_spec valid
    simp only [resolve_flatten, found, Option.map_some, read_flat inside]
  · rw [if_pos (by simpa using valid), if_pos (by simpa using valid)]

theorem readBytes_flatten (memory : HostGPUMemoryState) (owner : OwnerKey) (range : MemoryRange)
    (allocates : Bool) :
    memory.flatten.readBytes owner range allocates = memory.readBytes owner range allocates := by
  unfold readBytes FlatMemory.readBytes
  rw [resolve_flatten]
  cases memory.resolve owner range.allocation with
  | none => rfl
  | some found =>
    simp only [Option.map_some, inside_flat]
    by_cases valid : rangeValid found.2 range = true
    · rw [read_flat valid]
    · simp [valid]

end Copies

section Others

/-- The bounds on the bytes and allocations in use are bounds on the arrays in use. -/
theorem Sound.full_iff (sound : memory.Sound) (request : AllocationRequest) :
    (request.size > MaximumAllocationBytes ∨ request.size > MaximumTotalBytes - memory.liveBytes ∨
        memory.liveAllocations ≥ UInt64.ofNat MaximumAllocations) ↔
      (MaximumAllocationBytes.toNat < request.size.toNat ∨
        MaximumTotalBytes.toNat < memory.flatten.liveBytes + request.size.toNat ∨
        MaximumAllocations ≤ memory.flatten.liveAllocations) := by
  have bytes : memory.flatten.liveBytes = memory.liveBytes.toNat := by
    rw [FlatMemory.liveBytes, flatten, SlotTable.total_map, sound.liveBytes]
    simp only [length_flat]
  have count : memory.flatten.liveAllocations = memory.liveAllocations.toNat := by
    rw [FlatMemory.liveAllocations, SlotTable.live, flatten, SlotTable.total_map,
      sound.liveAllocations, SlotTable.live]
  have within := UInt64.le_iff_toNat_le.mp sound.within
  have room : (MaximumTotalBytes - memory.liveBytes).toNat =
      MaximumTotalBytes.toNat - memory.liveBytes.toNat := toNat_sub_exact within
  have capacity : (UInt64.ofNat MaximumAllocations).toNat = MaximumAllocations := by decide
  rw [bytes, count, gt_iff_lt, gt_iff_lt, ge_iff_le, UInt64.lt_iff_toNat_lt,
    UInt64.lt_iff_toNat_lt, UInt64.le_iff_toNat_le, room, capacity]
  omega

theorem Sound.allocate_flatten (sound : memory.Sound) (owner : OwnerKey)
    (request : AllocationRequest) (allocates : Bool) :
    memory.flatten.allocate owner request allocates =
      flattened (memory.allocate owner request allocates) := by
  unfold HostGPUMemoryState.allocate FlatMemory.allocate
  have free : memory.flatten.allocations.firstFree = memory.allocations.firstFree :=
    SlotTable.firstFree_map _ _
  rw [apply_ite flattened, apply_ite flattened, apply_ite flattened, free]
  refine if_congr Iff.rfl rfl (if_congr Iff.rfl rfl (if_congr (sound.full_iff request).symm rfl ?_))
  cases memory.allocations.firstFree with
  | none => rfl
  | some slot =>
    have counter : memory.flatten.generations = memory.generations := rfl
    rw [counter]
    cases memory.generations.take with
    | none => rfl
    | some issued =>
      dsimp only
      rw [apply_ite flattened]
      refine if_congr Iff.rfl rfl ?_
      -- an absent chunk reads as zero, so the new array is zero
      have zero : ChunkMap.contents ChunkBytes (fun _ => none : ChunkMap UInt8) = fun _ => 0 := rfl
      simp [flattened, Prod.map, flatten, FlatMemory.withAllocation, SlotTable.put_map,
        Allocation.flat, zero]

theorem free_flatten (memory : HostGPUMemoryState) (owner : OwnerKey) (handle : AllocationHandle) :
    memory.flatten.free owner handle = flattened (memory.free owner handle) := by
  unfold free FlatMemory.free
  rw [resolve_flatten, apply_ite flattened, apply_ite flattened]
  refine if_congr Iff.rfl rfl (if_congr Iff.rfl rfl ?_)
  cases memory.resolve owner handle with
  | none => rfl
  | some found =>
    dsimp only [Option.map_some]
    rw [apply_ite flattened]
    refine if_congr Iff.rfl rfl ?_
    rw [flattened, Prod.map_apply, release_flatten]
    rfl

/-- An allocation may be pinned when it has a byte and no pin. -/
theorem validatePinned_ok (found : memory.resolve owner handle = some (slot, allocation)) :
    (memory.validatePinnedDispatchAllocation owner handle 1).ok = true ↔
      validOwner owner = true ∧ validHandle handle = true ∧ ¬ allocation.size < 1 ∧
        allocation.dispatchRequestId = 0 := by
  unfold validatePinnedDispatchAllocation validatePinnedDispatchAllocationIdentity
    pinnedDispatchAllocationBusy
  rw [found]
  by_cases named : validOwner owner = true
  · by_cases issued : validHandle handle = true
    · by_cases small : allocation.size < 1
      · simp [named, issued, small, Result.failure, Result.ok]
      · by_cases busy : allocation.dispatchRequestId = 0
        · simp [named, issued, small, busy]
        · simp [named, issued, small, busy]
          rfl
    · simp [named, issued, Result.failure, Result.ok]
  · simp [named, Result.failure, Result.ok]

theorem pin_flatten (memory : HostGPUMemoryState) (owner : OwnerKey) (handle : AllocationHandle)
    (requestId : UInt64) :
    memory.flatten.pinPinnedDispatchAllocation owner handle requestId =
      flattened (memory.pinPinnedDispatchAllocation owner handle requestId) := by
  unfold pinPinnedDispatchAllocation FlatMemory.pinPinnedDispatchAllocation
  rw [resolve_flatten, apply_ite flattened]
  cases found : memory.resolve owner handle with
  | none => exact (ite_self _).symm
  | some pair =>
    have empty : pair.2.flat.bytes = [] ↔ pair.2.size < 1 := by
      rw [← List.length_eq_zero_iff, length_flat, UInt64.lt_iff_toNat_lt, UInt64.toNat_one]
      omega
    dsimp only [Option.map_some]
    refine if_congr ?_ rfl ?_
    · have guard := validatePinned_ok found
      simp only [Bool.not_eq_true', ← Bool.not_eq_true, guard, empty, not_and_or, not_not]
      rfl
    · rw [flattened, Prod.map_apply, withAllocation_flatten]
      rfl

theorem unpin_flatten (memory : HostGPUMemoryState) (owner : OwnerKey) (handle : AllocationHandle)
    (requestId : UInt64) :
    memory.flatten.releasePinnedDispatchAllocation owner handle requestId =
      flattened (memory.releasePinnedDispatchAllocation owner handle requestId) := by
  unfold releasePinnedDispatchAllocation FlatMemory.releasePinnedDispatchAllocation
  rw [resolve_flatten]
  cases memory.resolve owner handle with
  | none => rfl
  | some found =>
    dsimp only [Option.map_some]
    rw [apply_ite flattened]
    refine if_congr Iff.rfl rfl ?_
    rw [flattened, Prod.map_apply, withAllocation_flatten]
    rfl

theorem retain_flatten (memory : HostGPUMemoryState) (owner : OwnerKey) (handle : AllocationHandle)
    (token : UInt64) :
    memory.flatten.retainFunctionalPage owner handle token =
      flattened (memory.retainFunctionalPage owner handle token) := by
  unfold retainFunctionalPage FlatMemory.retainFunctionalPage
  rw [resolve_flatten]
  by_cases absent : token = 0
  · rw [if_pos absent]
    cases memory.resolve owner handle with
    | none => rfl
    | some found => exact if_pos (.inl absent)
  · rw [if_neg absent]
    cases memory.resolve owner handle with
    | none => rfl
    | some found =>
      dsimp only [Option.map_some]
      rw [apply_ite flattened]
      refine if_congr (or_iff_right absent) rfl ?_
      rw [flattened, Prod.map_apply, withAllocation_flatten]
      rfl

theorem unretain_flatten (memory : HostGPUMemoryState) (owner : OwnerKey)
    (handle : AllocationHandle) (token : UInt64) :
    memory.flatten.releaseFunctionalPage owner handle token =
      flattened (memory.releaseFunctionalPage owner handle token) := by
  unfold releaseFunctionalPage FlatMemory.releaseFunctionalPage
  rw [resolve_flatten]
  cases memory.resolve owner handle with
  | none => rfl
  | some found =>
    dsimp only [Option.map_some]
    rw [apply_ite flattened]
    refine if_congr Iff.rfl rfl ?_
    rw [flattened, Prod.map_apply, withAllocation_flatten]
    rfl

theorem disconnect_flatten (memory : HostGPUMemoryState) (owner : OwnerKey) :
    (memory.disconnect owner).flatten = memory.flatten.disconnect owner := by
  have emptied : (memory.disconnect owner).allocations = memory.allocations.keep fun allocation =>
      !(allocation.flat.owner == owner && allocation.flat.idle) := by
    unfold disconnect
    exact SlotTable.sweep_table allocations (fun _ _ _ => rfl) memory
  have counter : (memory.disconnect owner).generations = memory.generations := by
    unfold disconnect
    refine SlotTable.sweep_induct (fun after : HostGPUMemoryState =>
      after.generations = memory.generations) ?_ rfl
    intro middle slot allocation same _ _
    exact same
  rw [flatten, counter, emptied, FlatMemory.disconnect, flatten, ← SlotTable.keep_map]

end Others

section Runs

/-- Every operation is the operation on the arrays. -/
theorem Sound.run_flatten (sound : memory.Sound) (call : Call) :
    memory.flatten.run call = Prod.map id flatten (memory.run call) := by
  cases call with
  | allocate owner request allocates =>
    simp only [run, FlatMemory.run, sound.allocate_flatten, flattened, Prod.map, id]
  | free owner handle => simp only [run, FlatMemory.run, free_flatten, flattened, Prod.map, id]
  | copyFromHost owner transfer dispatchRequestId throwsAfter =>
    simp only [run, FlatMemory.run, copyFromHost_flatten, flattened, Prod.map, id]
  | functionalWriteBytes owner transfer dispatchRequestId throwsAfter =>
    simp only [run, FlatMemory.run, functionalWriteBytes, copyFromHost_flatten, flattened,
      Prod.map, id]
  | copyToHost owner range dispatchRequestId allocates =>
    simp only [run, FlatMemory.run, copyToHost_flatten, Prod.map, id]
  | readBytes owner range allocates =>
    simp only [run, FlatMemory.run, readBytes_flatten, Prod.map, id]
  | pinPinnedDispatchAllocation owner handle requestId =>
    simp only [run, FlatMemory.run, pin_flatten, flattened, Prod.map, id]
  | releasePinnedDispatchAllocation owner handle requestId =>
    simp only [run, FlatMemory.run, unpin_flatten, flattened, Prod.map, id]
  | retainFunctionalPage owner handle token =>
    simp only [run, FlatMemory.run, retain_flatten, flattened, Prod.map, id]
  | releaseFunctionalPage owner handle token =>
    simp only [run, FlatMemory.run, unretain_flatten, flattened, Prod.map, id]
  | disconnect owner => simp only [run, FlatMemory.run, disconnect_flatten, Prod.map, id]
  | clear => rfl

theorem step_flatten (memory : HostGPUMemoryState) (call : Call) (sound : memory.Sound) :
    (memory.step call).flatten = memory.flatten.step call :=
  (congrArg Prod.snd (sound.run_flatten call)).symm

theorem reply_flatten (memory : HostGPUMemoryState) (call : Call) (sound : memory.Sound) :
    memory.reply call = memory.flatten.reply call :=
  (congrArg Prod.fst (sound.run_flatten call)).symm

/-- A run of the store leaves the arrays that the run on the arrays leaves. -/
theorem runFrom_flatten (calls : List Call) :
    (runFrom step boot calls).flatten = runFrom FlatMemory.step FlatMemory.boot calls :=
  runFrom_simulates step FlatMemory.step sound_step step_flatten sound_boot calls

/-- A run of the store returns what the run on the arrays returns. -/
theorem outputs_flatten (calls : List Call) :
    outputs step (fun memory call => [memory.reply call]) boot calls =
      outputs FlatMemory.step (fun memory call => [memory.reply call]) FlatMemory.boot calls :=
  outputs_simulates step FlatMemory.step sound_step step_flatten
    (fun memory call sound => congrArg (fun reply => [reply]) (reply_flatten memory call sound))
    sound_boot calls

end Runs

end HostGPUMemoryState

end GemSim.Memory
