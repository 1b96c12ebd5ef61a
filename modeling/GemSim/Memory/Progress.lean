import GemSim.Lib.Run
import GemSim.Memory.MemoryState

/-!
# What the calls of the memory store keep

Whatever a call does, the live counters stay exact, and a slot holds the allocation it
held before, or none, or one under a generation that was never issued before. A handle
whose allocation is gone therefore names nothing ever after.

## Main definitions

* `Sound` — the counters are exact and every generation was issued
* `Progress` — a later store, as far as counters and handles go

## Main results

* `Sound.progress` — every call makes progress
-/

namespace GemSim.Memory

open GemSim.Lib GemSim.Domain

namespace HostGPUMemoryState

variable {memory : HostGPUMemoryState} {owner : OwnerKey} {handle : AllocationHandle}
  {slot : Fin MaximumAllocations} {allocation : Allocation} {range : MemoryRange}

/-- Who owns an allocation, and the generation it was stamped with. -/
def identityOf (allocation : Allocation) : OwnerKey × UInt64 :=
  (allocation.owner, allocation.generation)

/-- The counters are exact, and every generation was issued. -/
structure Sound (memory : HostGPUMemoryState) : Prop where
  liveAllocations : memory.liveAllocations.toNat = memory.allocations.live
  liveBytes : memory.liveBytes.toNat =
    memory.allocations.total fun allocation => allocation.size.toNat
  within : memory.liveBytes ≤ MaximumTotalBytes
  stamped : SlotTable.StampedBelow identityOf Prod.snd memory.allocations memory.generations.bound

theorem resolve_eq_some :
    memory.resolve owner handle = some (slot, allocation) ↔
      slotOfId MaximumAllocations handle.id = some slot ∧
        memory.allocations slot = some allocation ∧ allocation.owner = owner ∧
        allocation.generation = handle.generation := by
  unfold resolve
  constructor
  · intro found
    split at found
    · cases found
    · rename_i other named
      split at found
      · cases found
      · rename_i object here
        split_ifs at found with same
        obtain ⟨rfl, rfl⟩ := Prod.mk.inj (Option.some.inj found)
        exact ⟨named, here, same⟩
  · rintro ⟨named, here, same⟩
    rw [named]
    dsimp only
    rw [here]
    exact if_pos same

section Progress

/-- A later store: its counters are exact, and it holds nothing but what was held before
and what was allocated since. -/
structure Progress (memory after : HostGPUMemoryState) : Prop where
  sound : after.Sound
  succeeds : SlotTable.Succeeds identityOf Prod.snd memory.generations.bound memory.allocations
    after.allocations
  bound : memory.generations.bound ≤ after.generations.bound

variable {middle after : HostGPUMemoryState} {old : Allocation}

theorem Sound.refl (sound : memory.Sound) : memory.Progress memory :=
  ⟨sound, .refl _, le_rfl⟩

theorem Progress.trans (first : memory.Progress middle) (second : middle.Progress after) :
    memory.Progress after :=
  ⟨second.sound, first.succeeds.trans second.succeeds first.bound,
    first.bound.trans second.bound⟩

/-- An allocation is changed in its slot. -/
theorem Sound.replace (sound : memory.Sound) (here : memory.allocations slot = some old)
    (size : allocation.size = old.size) (same : identityOf allocation = identityOf old) :
    memory.Progress (memory.withAllocation slot allocation) where
  sound :=
    { liveAllocations := by
        rw [withAllocation, SlotTable.live_put_taken here]
        exact sound.liveAllocations
      liveBytes := by
        have total := SlotTable.total_put_taken here (fun allocation => allocation.size.toNat)
          allocation
        have bytes := sound.liveBytes
        rw [size] at total
        rw [withAllocation]
        dsimp only
        omega
      within := sound.within
      stamped := sound.stamped.replace here same }
  succeeds := SlotTable.succeeds_replace here same
  bound := le_rfl

/-- An allocation is released. -/
theorem Sound.release (sound : memory.Sound) (here : memory.allocations slot = some old) :
    memory.Progress (memory.release slot old) where
  sound := by
    have total := SlotTable.total_drop here fun allocation => allocation.size.toNat
    have bytes := sound.liveBytes
    have shrunk : (memory.liveBytes - old.size).toNat = memory.liveBytes.toNat - old.size.toNat :=
      toNat_sub_exact (by omega)
    have within := UInt64.le_iff_toNat_le.mp sound.within
    exact
      { liveAllocations := SlotTable.live_drop sound.liveAllocations here
        liveBytes := by
          rw [HostGPUMemoryState.release]
          dsimp only
          omega
        within := by
          rw [HostGPUMemoryState.release, UInt64.le_iff_toNat_le]
          dsimp only
          omega
        stamped := sound.stamped.drop slot }
  succeeds := SlotTable.succeeds_drop
  bound := le_rfl

/-- A generation is issued, whether or not an allocation comes of it. -/
theorem Sound.issue (sound : memory.Sound) {generation : UInt64} {generations : IssueCounter}
    (taken : memory.generations.take = some (generation, generations)) :
    memory.Progress { memory with generations := generations } := by
  obtain ⟨-, -, next⟩ := IssueCounter.take_spec taken
  have le : memory.generations.bound ≤ generations.bound := by omega
  exact ⟨⟨sound.liveAllocations, sound.liveBytes, sound.within, sound.stamped.mono le⟩,
    .refl _, le⟩

/-- An allocation is put into a free slot. -/
theorem Sound.fill (sound : memory.Sound) {generations : IssueCounter}
    (taken : memory.generations.take = some (allocation.generation, generations))
    (free : memory.allocations slot = none)
    (fits : allocation.size ≤ MaximumTotalBytes - memory.liveBytes) :
    memory.Progress { memory with
      generations := generations
      allocations := memory.allocations.put slot allocation
      liveAllocations := memory.liveAllocations + 1
      liveBytes := memory.liveBytes + allocation.size } := by
  obtain ⟨-, value, next⟩ := IssueCounter.take_spec taken
  have within := UInt64.le_iff_toNat_le.mp sound.within
  have room := UInt64.le_iff_toNat_le.mp fits
  rw [toNat_sub_exact within] at room
  have limit : MaximumTotalBytes.toNat < 2 ^ 64 := MaximumTotalBytes.toNat_lt
  have sum : (memory.liveBytes + allocation.size).toNat =
      memory.liveBytes.toNat + allocation.size.toNat := toNat_add_exact (by omega)
  have total := SlotTable.total_put_free free (fun allocation => allocation.size.toNat) allocation
  have bytes := sound.liveBytes
  exact
    { sound :=
        { liveAllocations := SlotTable.live_put_free (by decide) sound.liveAllocations free _
          liveBytes := by
            dsimp only
            omega
          within := by
            rw [UInt64.le_iff_toNat_le]
            dsimp only
            omega
          stamped := sound.stamped.put (next ▸ Nat.le_succ _)
            (by rw [identityOf, value, next]; exact Nat.lt_succ_self _) }
      succeeds := SlotTable.succeeds_put (by rw [identityOf, value])
      bound := next ▸ Nat.le_succ _ }

theorem sound_boot : boot.Sound where
  liveAllocations := by simp [boot]
  liveBytes := by simp [boot]
  within := by decide
  stamped := SlotTable.stampedBelow_empty

theorem Sound.disconnect (sound : memory.Sound) (owner : OwnerKey) :
    memory.Progress (memory.disconnect owner) := by
  unfold HostGPUMemoryState.disconnect
  refine SlotTable.sweep_induct memory.Progress ?_ sound.refl
  intro middle slot allocation progress here _
  exact progress.trans (progress.sound.release here)

theorem Sound.allocate (sound : memory.Sound) (owner : OwnerKey) (request : AllocationRequest)
    (allocates : Bool) : memory.Progress (memory.allocate owner request allocates).2 := by
  unfold HostGPUMemoryState.allocate
  split
  · exact sound.refl
  split
  · exact sound.refl
  split
  · exact sound.refl
  rename_i fits
  rw [not_or, not_or, gt_iff_lt, gt_iff_lt, UInt64.not_lt, UInt64.not_lt] at fits
  split
  · exact sound.refl
  rename_i slot free
  split
  · exact sound.refl
  rename_i generation generations taken
  dsimp only
  split
  · exact sound.issue taken
  · have filled := @Sound.fill memory slot
      { owner := owner
        generation := generation
        size := request.size
        alignment := request.alignment } sound generations taken (SlotTable.firstFree_spec free)
    exact filled fits.2.1

theorem Sound.free (sound : memory.Sound) (owner : OwnerKey) (handle : AllocationHandle) :
    memory.Progress (memory.free owner handle).2 := by
  unfold HostGPUMemoryState.free
  split
  · exact sound.refl
  split
  · exact sound.refl
  split
  · exact sound.refl
  rename_i found
  split
  · exact sound.refl
  · exact sound.release (resolve_eq_some.mp found).2.1

theorem Sound.copyFromHost (sound : memory.Sound) (owner : OwnerKey) (transfer : Transfer)
    (dispatchRequestId : UInt64) (throwsAfter : Option ℕ) :
    memory.Progress (memory.copyFromHost owner transfer dispatchRequestId throwsAfter).2 := by
  unfold HostGPUMemoryState.copyFromHost
  dsimp only
  split
  · exact sound.refl
  split
  · exact sound.refl
  split
  · exact sound.refl
  rename_i found
  have here := (resolve_eq_some.mp found).2.1
  split
  · exact sound.replace here rfl rfl
  · exact sound.replace here rfl rfl

theorem Sound.pin (sound : memory.Sound) (owner : OwnerKey) (handle : AllocationHandle)
    (requestId : UInt64) :
    memory.Progress (memory.pinPinnedDispatchAllocation owner handle requestId).2 := by
  unfold pinPinnedDispatchAllocation
  split
  · exact sound.refl
  split
  · exact sound.refl
  rename_i found
  exact sound.replace (resolve_eq_some.mp found).2.1 rfl rfl

theorem Sound.unpin (sound : memory.Sound) (owner : OwnerKey) (handle : AllocationHandle)
    (requestId : UInt64) :
    memory.Progress (memory.releasePinnedDispatchAllocation owner handle requestId).2 := by
  unfold releasePinnedDispatchAllocation
  split
  · exact sound.refl
  rename_i found
  split
  · exact sound.refl
  · exact sound.replace (resolve_eq_some.mp found).2.1 rfl rfl

theorem Sound.retain (sound : memory.Sound) (owner : OwnerKey) (handle : AllocationHandle)
    (token : UInt64) : memory.Progress (memory.retainFunctionalPage owner handle token).2 := by
  unfold retainFunctionalPage
  split
  · exact sound.refl
  split
  · exact sound.refl
  rename_i found
  split
  · exact sound.refl
  · exact sound.replace (resolve_eq_some.mp found).2.1 rfl rfl

theorem Sound.unretain (sound : memory.Sound) (owner : OwnerKey) (handle : AllocationHandle)
    (token : UInt64) : memory.Progress (memory.releaseFunctionalPage owner handle token).2 := by
  unfold releaseFunctionalPage
  split
  · exact sound.refl
  rename_i found
  split
  · exact sound.refl
  · exact sound.replace (resolve_eq_some.mp found).2.1 rfl rfl

theorem progress_clear (memory : HostGPUMemoryState) : memory.Progress memory.clear where
  sound :=
    { liveAllocations := by simp [HostGPUMemoryState.clear]
      liveBytes := by simp [HostGPUMemoryState.clear]
      within := (by decide : (0 : UInt64) ≤ MaximumTotalBytes)
      stamped := SlotTable.stampedBelow_empty }
  succeeds := SlotTable.succeeds_empty
  bound := le_rfl

/-- Every call makes progress. -/
theorem Sound.progress (sound : memory.Sound) (call : Call) :
    memory.Progress (memory.step call) := by
  cases call with
  | allocate owner request allocates => exact sound.allocate owner request allocates
  | free owner handle => exact sound.free owner handle
  | copyFromHost owner transfer dispatchRequestId throwsAfter =>
    exact sound.copyFromHost owner transfer dispatchRequestId throwsAfter
  | functionalWriteBytes owner transfer dispatchRequestId throwsAfter =>
    exact sound.copyFromHost owner transfer dispatchRequestId throwsAfter
  | copyToHost => exact sound.refl
  | readBytes => exact sound.refl
  | pinPinnedDispatchAllocation owner handle requestId => exact sound.pin owner handle requestId
  | releasePinnedDispatchAllocation owner handle requestId =>
    exact sound.unpin owner handle requestId
  | retainFunctionalPage owner handle token => exact sound.retain owner handle token
  | releaseFunctionalPage owner handle token => exact sound.unretain owner handle token
  | disconnect owner =>
    simp only [step, run]
    exact sound.disconnect owner
  | clear => exact progress_clear memory

theorem sound_step (memory : HostGPUMemoryState) (call : Call) (sound : memory.Sound) :
    (memory.step call).Sound := (sound.progress call).sound

/-- Along a run. -/
theorem Sound.progress_run (sound : memory.Sound) (calls : List Call) :
    memory.Progress (runFrom step memory calls) := by
  induction calls generalizing memory with
  | nil => exact sound.refl
  | cons call rest ih =>
    have first := sound.progress call
    exact first.trans (ih first.sound)

end Progress

/-- A handle that named an allocation, and does not name it later, does not after that. -/
theorem Sound.stays_gone {after last : HostGPUMemoryState} (sound : memory.Sound)
    (progress : memory.Progress after) (named : memory.resolve owner handle ≠ none)
    (missing : after.resolve owner handle = none) (later : after.Progress last)
    (other : OwnerKey) : last.resolve other handle = none := by
  obtain ⟨⟨slot, allocation⟩, found⟩ := Option.ne_none_iff_exists'.mp named
  obtain ⟨id, here, rfl, generation⟩ := resolve_eq_some.mp found
  have gone : SlotTable.Gone identityOf Prod.snd after.allocations after.generations.bound slot
      (identityOf allocation).2 := by
    refine SlotTable.gone_of_succeeds sound.stamped here progress.succeeds progress.bound ?_
    intro record taken same
    obtain ⟨sameOwner, sameGeneration⟩ := Prod.mk.inj same
    have found := resolve_eq_some.mpr ⟨id, taken, sameOwner, sameGeneration.trans generation⟩
    rw [missing] at found
    cases found
  have stays := gone.succeeds later.succeeds later.bound
  rw [Option.eq_none_iff_forall_ne_some]
  rintro ⟨position, record⟩ found
  obtain ⟨sameId, taken, -, sameGeneration⟩ := resolve_eq_some.mp found
  obtain rfl := Option.some.inj (id.symm.trans sameId)
  exact stays.2 record taken (sameGeneration.trans generation.symm)

end HostGPUMemoryState

end GemSim.Memory
