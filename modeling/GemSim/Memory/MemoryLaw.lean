import GemSim.Memory.Refinement

/-!
# The law of the memory store

A run of the store returns what the run on flat memory returns. In every state it
reaches, a copy that fails has changed nothing, an allocation in use is not freed, the
live counters are exact, and a handle whose allocation was released names nothing in any
state after.

## Main definitions

* `MemoryLaw` — what holds in every state a run reaches

## Main results

* `Sound.memoryLaw` — exact counters and issued generations give the law
* `refinesFlatMemory` — the law, and the same replies as flat memory, along every run
-/

namespace GemSim.Memory

open GemSim.Lib GemSim.Domain

namespace HostGPUMemoryState

variable {memory after : HostGPUMemoryState} {owner other : OwnerKey} {handle : AllocationHandle}

/-- What holds in every state a run reaches. -/
structure MemoryLaw (memory : HostGPUMemoryState) : Prop where
  failedCopy : ∀ owner transfer dispatchRequestId throwsAfter,
    (memory.copyFromHost owner transfer dispatchRequestId throwsAfter).1.ok = false →
      (memory.copyFromHost owner transfer dispatchRequestId throwsAfter).2 = memory
  inUse : ∀ owner handle slot allocation,
    memory.resolve owner handle = some (slot, allocation) →
      allocation.dispatchRequestId ≠ 0 ∨ allocation.functionalPageTokens.Nonempty →
      (memory.free owner handle).1.ok = false ∧ (memory.free owner handle).2 = memory
  liveBytes : memory.liveBytes.toNat =
    memory.allocations.total fun allocation => allocation.size.toNat
  liveAllocations : memory.liveAllocations.toNat = memory.allocations.live
  freed : ∀ owner handle, (memory.free owner handle).1.ok = true → ∀ calls other,
    (runFrom step (memory.free owner handle).2 calls).resolve other handle = none
  released : ∀ call owner handle, memory.resolve owner handle ≠ none →
    (memory.step call).resolve owner handle = none → ∀ calls other,
    (runFrom step (memory.step call) calls).resolve other handle = none

section Copies

/-- The chunks that a throwing copy created are erased, so the slot holds what it held. -/
theorem copyFromHost_failed {transfer : Transfer} {dispatchRequestId : UInt64}
    {throwsAfter : Option ℕ}
    (failed : (memory.copyFromHost owner transfer dispatchRequestId throwsAfter).1.ok = false) :
    (memory.copyFromHost owner transfer dispatchRequestId throwsAfter).2 = memory := by
  revert failed
  unfold copyFromHost
  dsimp only
  split
  · exact fun _ => rfl
  split
  · exact fun _ => rfl
  split
  · exact fun _ => rfl
  rename_i slot allocation found
  split
  · intro _
    have same : memory.allocations.put slot allocation = memory.allocations :=
      Function.update_eq_self_iff.mpr (resolve_eq_some.mp found).2.1.symm
    rw [erase_inserted, withAllocation, same]
  · intro failed
    cases failed

end Copies

section Handles

/-- A handle that named an allocation, and does not name it later, never does again. -/
theorem Sound.never_again (sound : memory.Sound) (progress : memory.Progress after)
    (named : memory.resolve owner handle ≠ none) (missing : after.resolve owner handle = none)
    (calls : List Call) (other : OwnerKey) :
    (runFrom step after calls).resolve other handle = none :=
  sound.stays_gone progress named missing (progress.sound.progress_run calls) other

/-- A free fails and changes nothing, or releases the allocation its handle names. -/
theorem free_cases (memory : HostGPUMemoryState) (owner : OwnerKey) (handle : AllocationHandle) :
    ((memory.free owner handle).1.ok = false ∧ (memory.free owner handle).2 = memory) ∨
      ∃ slot allocation, memory.resolve owner handle = some (slot, allocation) ∧
        allocation.idle = true ∧
        memory.free owner handle = (.success (), memory.release slot allocation) := by
  unfold free
  split
  · exact .inl ⟨rfl, rfl⟩
  split
  · exact .inl ⟨rfl, rfl⟩
  split
  · exact .inl ⟨rfl, rfl⟩
  rename_i slot allocation found
  split
  · exact .inl ⟨rfl, rfl⟩
  · rename_i idle
    rw [Bool.not_eq_true, Bool.not_eq_false'] at idle
    exact .inr ⟨slot, allocation, found, idle, rfl⟩

end Handles

/-- Exact counters and issued generations give the law. -/
theorem Sound.memoryLaw (sound : memory.Sound) : memory.MemoryLaw where
  failedCopy _ _ _ _ failed := copyFromHost_failed failed
  inUse owner handle slot allocation found used := by
    have busy : allocation.idle = false := by
      rw [Allocation.idle, Bool.and_eq_false_iff]
      refine used.imp (fun pinned => beq_false_of_ne pinned) fun leased => ?_
      exact decide_eq_false leased.ne_empty
    rcases memory.free_cases owner handle with refused | ⟨position, freed, named, idle, -⟩
    · exact refused
    · rw [found] at named
      obtain ⟨-, rfl⟩ := Prod.mk.inj (Option.some.inj named)
      exact absurd (idle.symm.trans busy) (by decide)
  liveBytes := sound.liveBytes
  liveAllocations := sound.liveAllocations
  freed owner handle freed calls other := by
    rcases memory.free_cases owner handle with ⟨refused, -⟩ | ⟨slot, allocation, found, -, after⟩
    · exact absurd (freed.symm.trans refused) (by decide)
    refine sound.never_again (sound.free owner handle) (by rw [found]; exact nofun) ?_ calls other
    -- the slot of the handle is empty now
    rw [after, Option.eq_none_iff_forall_ne_some]
    rintro ⟨position, record⟩ again
    obtain ⟨id, -⟩ := resolve_eq_some.mp found
    obtain ⟨sameId, taken, -⟩ := resolve_eq_some.mp again
    obtain rfl := Option.some.inj (id.symm.trans sameId)
    exact absurd rfl (SlotTable.drop_eq_some.mp taken).1
  released call _ _ named missing calls other :=
    sound.never_again (sound.progress call) named missing calls other

/-- Along every run the store returns what flat memory returns, holds the bytes flat memory
holds, and satisfies the law. -/
theorem refinesFlatMemory (calls : List Call) :
    outputs step (fun memory call => [memory.reply call]) boot calls =
        outputs FlatMemory.step (fun memory call => [memory.reply call]) FlatMemory.boot calls ∧
      (runFrom step boot calls).flatten = runFrom FlatMemory.step FlatMemory.boot calls ∧
      (runFrom step boot calls).MemoryLaw :=
  ⟨outputs_flatten calls, runFrom_flatten calls,
    (invariant_runFrom step Sound sound_step sound_boot calls).memoryLaw⟩

end HostGPUMemoryState

end GemSim.Memory
