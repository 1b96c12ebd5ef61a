import GemSim.Memory.Progress

/-!
# Who uses an allocation

Whether an allocation may be freed depends on two things only: the request that pins it
and the tokens its pages are leased under. The calls of the store are read here as changes
of these two, handle by handle.

## Main definitions

* `Usage`, `usage` — the pin and the tokens of the allocation a handle names
* `assign` — a change at one owner and handle

## Main results

* `pin_cases`, `unpin_cases`, `retain_cases`, `unretain_cases`, `free_usage`,
  `allocate_cases`, `usage_disconnect` — what a call does to the uses of all handles
* `pin_undone` — a pin that is released leaves the store as it was
* `usage_step` — what any call leaves of an allocation in use
-/

namespace GemSim.Memory

open GemSim.Lib GemSim.Domain

/-- The pin and the leases of an allocation. -/
structure Usage where
  requestId : UInt64
  tokens : Finset UInt64
  deriving DecidableEq

/-- Nothing uses the allocation. -/
def Usage.idle (use : Usage) : Prop := use.requestId = 0 ∧ use.tokens = ∅

/-- The uses of all handles. -/
abbrev Uses := OwnerKey → AllocationHandle → Option Usage

/-- A change at one owner and handle. -/
def Uses.assign (uses : Uses) (owner : OwnerKey) (handle : AllocationHandle)
    (entry : Option Usage) : Uses :=
  fun other name => if other = owner ∧ name = handle then entry else uses other name

@[simp] theorem Uses.assign_same (uses : Uses) (owner : OwnerKey) (handle : AllocationHandle)
    (entry : Option Usage) : uses.assign owner handle entry owner handle = entry :=
  if_pos ⟨rfl, rfl⟩

theorem Uses.assign_other (uses : Uses) {owner other : OwnerKey} {handle name : AllocationHandle}
    (entry : Option Usage) (ne : ¬ (other = owner ∧ name = handle)) :
    uses.assign owner handle entry other name = uses other name := if_neg ne

def usageOf (allocation : Allocation) : Usage :=
  { requestId := allocation.dispatchRequestId, tokens := allocation.functionalPageTokens }

theorem idle_iff (allocation : Allocation) : allocation.idle = true ↔ (usageOf allocation).idle := by
  simp [Allocation.idle, Usage.idle, usageOf]

namespace HostGPUMemoryState

variable {memory after : HostGPUMemoryState} {owner : OwnerKey} {handle : AllocationHandle}
  {slot : Fin MaximumAllocations} {allocation old : Allocation} {use : Usage}

/-- The use of the allocation a handle names for an owner. -/
def usage (memory : HostGPUMemoryState) : Uses := fun owner handle =>
  (memory.resolve owner handle).map fun found => usageOf found.2

theorem usage_of_resolve (found : memory.resolve owner handle = some (slot, allocation)) :
    memory.usage owner handle = some (usageOf allocation) := by
  rw [usage, found]
  rfl

theorem usage_eq_some : memory.usage owner handle = some use ↔
    ∃ slot allocation, memory.resolve owner handle = some (slot, allocation) ∧
      usageOf allocation = use := by
  rw [usage, Option.map_eq_some_iff]
  simp

/-- Whatever is in a slot is named by the one handle. -/
def OnlyNamed (entry : Option Allocation) (owner : OwnerKey) (handle : AllocationHandle) : Prop :=
  ∀ allocation, entry = some allocation → identityOf allocation = (owner, handle.generation)

theorem onlyNamed_of_resolve (found : memory.resolve owner handle = some (slot, old)) :
    OnlyNamed (memory.allocations slot) owner handle := by
  obtain ⟨-, here, byOwner, generation⟩ := resolve_eq_some.mp found
  intro allocation there
  obtain rfl := Option.some.inj (here.symm.trans there)
  rw [identityOf, byOwner, generation]

/-- A slot is changed, and all it ever held is named by one handle: only the use of that
handle changes. -/
theorem usage_update (entry : Option Allocation)
    (changed : after.allocations = Function.update memory.allocations slot entry)
    (named : slotOfId MaximumAllocations handle.id = some slot)
    (before : OnlyNamed (memory.allocations slot) owner handle)
    (now : OnlyNamed entry owner handle) :
    after.usage = memory.usage.assign owner handle (entry.map usageOf) := by
  have here : after.allocations slot = entry := by rw [changed, Function.update_self]
  funext other name
  by_cases hit : other = owner ∧ name = handle
  · obtain ⟨rfl, rfl⟩ := hit
    rw [Uses.assign_same, usage]
    cases entry with
    | none =>
      have missing : after.resolve other name = none := by
        rw [Option.eq_none_iff_forall_ne_some]
        rintro ⟨position, record⟩ found
        obtain ⟨id, there, -⟩ := resolve_eq_some.mp found
        obtain rfl := Option.some.inj (named.symm.trans id)
        rw [here] at there
        cases there
      rw [missing]
      rfl
    | some allocation =>
      obtain ⟨byOwner, generation⟩ := Prod.mk.inj (now allocation rfl)
      rw [resolve_eq_some.mpr ⟨named, here, byOwner, generation⟩]
      rfl
  · -- whoever else is named is not in the slot, before or after
    have apart : ∀ object : Allocation, identityOf object = (owner, handle.generation) →
        slotOfId MaximumAllocations name.id = some slot →
        ¬ (object.owner = other ∧ object.generation = name.generation) := by
      rintro object alike nameSlot ⟨rfl, nameGeneration⟩
      obtain ⟨alikeOwner, alikeGeneration⟩ := Prod.mk.inj alike
      have ids := slotOfId_inj nameSlot named
      have generations := nameGeneration.symm.trans alikeGeneration
      refine hit ⟨alikeOwner, ?_⟩
      cases name
      cases handle
      simp only at ids generations
      rw [ids, generations]
    rw [Uses.assign_other _ _ hit, usage, usage]
    refine congrArg (Option.map _) (Option.ext ?_)
    rintro ⟨position, record⟩
    rw [resolve_eq_some, resolve_eq_some]
    by_cases there : position = slot
    · subst there
      constructor
      · rintro ⟨id, held, rest⟩
        exact absurd rest (apart record (now record (here.symm.trans held)) id)
      · rintro ⟨id, held, rest⟩
        exact absurd rest (apart record (before record held) id)
    · rw [changed, Function.update_of_ne there]

/-- An allocation is changed in its slot. -/
theorem usage_withAllocation (found : memory.resolve owner handle = some (slot, old))
    (same : identityOf allocation = identityOf old) :
    (memory.withAllocation slot allocation).usage =
      memory.usage.assign owner handle (some (usageOf allocation)) := by
  have before := onlyNamed_of_resolve found
  obtain ⟨named, here, -⟩ := resolve_eq_some.mp found
  refine usage_update (some allocation) rfl named before fun record taken => ?_
  rw [← Option.some.inj taken, same]
  exact before old here

/-- An allocation is released. -/
theorem usage_release (found : memory.resolve owner handle = some (slot, old)) :
    (memory.release slot old).usage = memory.usage.assign owner handle none :=
  usage_update none rfl (resolve_eq_some.mp found).1 (onlyNamed_of_resolve found)
    fun _ taken => by cases taken

section Calls

/-- A pin is refused, or is put on an allocation that had none. -/
theorem pin_cases (memory : HostGPUMemoryState) (owner : OwnerKey) (handle : AllocationHandle)
    (requestId : UInt64) :
    memory.pinPinnedDispatchAllocation owner handle requestId = (false, memory) ∨
      ∃ use, memory.usage owner handle = some use ∧ use.requestId = 0 ∧ requestId ≠ 0 ∧
        (memory.pinPinnedDispatchAllocation owner handle requestId).1 = true ∧
        (memory.pinPinnedDispatchAllocation owner handle requestId).2.usage =
          memory.usage.assign owner handle (some { use with requestId := requestId }) := by
  unfold pinPinnedDispatchAllocation
  split
  · exact .inl rfl
  rename_i admitted
  rw [not_or, Bool.not_eq_true', Bool.not_eq_false] at admitted
  split
  · exact .inl rfl
  rename_i slot allocation found
  refine .inr ⟨_, usage_of_resolve found, ?_, admitted.1, rfl, usage_withAllocation found rfl⟩
  -- a busy allocation is not validated
  have valid := admitted.2
  unfold validatePinnedDispatchAllocation at valid
  dsimp only at valid
  split at valid
  · rename_i refused
    rw [valid] at refused
    cases refused
  split at valid
  · cases valid
  · rename_i free
    rw [pinnedDispatchAllocationBusy, found] at free
    have unpinned : allocation.dispatchRequestId = 0 := by simpa using free
    exact unpinned

/-- The pin of a request is released. -/
theorem unpin_of_usage {requestId : UInt64} (found : memory.usage owner handle = some use)
    (issued : requestId ≠ 0) (pinned : use.requestId = requestId) :
    (memory.releasePinnedDispatchAllocation owner handle requestId).1 = true ∧
      (memory.releasePinnedDispatchAllocation owner handle requestId).2.usage =
        memory.usage.assign owner handle (some { use with requestId := 0 }) := by
  obtain ⟨slot, allocation, resolved, rfl⟩ := usage_eq_some.mp found
  have guard : ¬ (requestId = 0 ∨ allocation.dispatchRequestId ≠ requestId) := by
    rintro (zero | differs)
    · exact issued zero
    · exact differs pinned
  unfold releasePinnedDispatchAllocation
  rw [resolved]
  dsimp only
  rw [if_neg guard]
  exact ⟨rfl, usage_withAllocation resolved rfl⟩

/-- A release of a pin is refused, or takes the pin of the request away. -/
theorem unpin_cases (memory : HostGPUMemoryState) (owner : OwnerKey) (handle : AllocationHandle)
    (requestId : UInt64) :
    memory.releasePinnedDispatchAllocation owner handle requestId = (false, memory) ∨
      ∃ use, memory.usage owner handle = some use ∧ use.requestId = requestId ∧
        (memory.releasePinnedDispatchAllocation owner handle requestId).2.usage =
          memory.usage.assign owner handle (some { use with requestId := 0 }) := by
  by_cases held : ∃ use, memory.usage owner handle = some use ∧ requestId ≠ 0 ∧
      use.requestId = requestId
  · obtain ⟨use, found, issued, pinned⟩ := held
    exact .inr ⟨use, found, pinned, (unpin_of_usage found issued pinned).2⟩
  · refine .inl ?_
    unfold releasePinnedDispatchAllocation
    split
    · rfl
    rename_i slot allocation found
    refine if_pos ?_
    by_contra guard
    rw [not_or, not_not] at guard
    exact held ⟨_, usage_of_resolve found, guard⟩

/-- A pin that is released leaves the store as it was. -/
theorem pin_undone {requestId : UInt64}
    (pinned : (memory.pinPinnedDispatchAllocation owner handle requestId).1 = true) :
    (memory.pinPinnedDispatchAllocation owner handle requestId).2.releasePinnedDispatchAllocation
      owner handle requestId = (true, memory) := by
  rcases memory.pin_cases owner handle requestId with refused | ⟨use, found, free, issued, -, -⟩
  · rw [refused] at pinned
    cases pinned
  obtain ⟨slot, allocation, resolved, rfl⟩ := usage_eq_some.mp found
  obtain ⟨named, here, byOwner, generation⟩ := resolve_eq_some.mp resolved
  revert pinned
  unfold pinPinnedDispatchAllocation
  split
  · intro pinned
    cases pinned
  intro _
  rw [resolved]
  dsimp only
  have again : (memory.withAllocation slot { allocation with dispatchRequestId := requestId }).resolve
      owner handle = some (slot, { allocation with dispatchRequestId := requestId }) :=
    resolve_eq_some.mpr ⟨named, SlotTable.put_same _ _ _, byOwner, generation⟩
  have unpinned : ({ allocation with dispatchRequestId := 0 } : Allocation) = allocation := by
    have zero : allocation.dispatchRequestId = 0 := free
    rw [← zero]
  unfold releasePinnedDispatchAllocation
  rw [again]
  dsimp only
  rw [if_neg (by simpa using issued), unpinned]
  refine congrArg (Prod.mk true) ?_
  simp only [withAllocation, SlotTable.put, Function.update_idem]
  rw [Function.update_eq_self_iff.mpr here.symm]

/-- A lease is refused, or its token is added. -/
theorem retain_cases (memory : HostGPUMemoryState) (owner : OwnerKey) (handle : AllocationHandle)
    (token : UInt64) :
    memory.retainFunctionalPage owner handle token = (false, memory) ∨
      ∃ use, memory.usage owner handle = some use ∧ token ≠ 0 ∧ token ∉ use.tokens ∧
        (memory.retainFunctionalPage owner handle token).1 = true ∧
        (memory.retainFunctionalPage owner handle token).2.usage =
          memory.usage.assign owner handle (some { use with tokens := insert token use.tokens }) := by
  unfold retainFunctionalPage
  split
  · exact .inl rfl
  rename_i issued
  split
  · exact .inl rfl
  rename_i slot allocation found
  split
  · exact .inl rfl
  · rename_i fresh
    exact .inr ⟨_, usage_of_resolve found, issued, fresh, rfl, usage_withAllocation found rfl⟩

/-- The lease under a token is given back. -/
theorem unretain_of_usage {token : UInt64} (found : memory.usage owner handle = some use)
    (issued : token ≠ 0) (held : token ∈ use.tokens) :
    (memory.releaseFunctionalPage owner handle token).1 = true ∧
      (memory.releaseFunctionalPage owner handle token).2.usage =
        memory.usage.assign owner handle (some { use with tokens := use.tokens.erase token }) := by
  obtain ⟨slot, allocation, resolved, rfl⟩ := usage_eq_some.mp found
  have guard : ¬ (token = 0 ∨ token ∉ allocation.functionalPageTokens) := by
    rintro (zero | missing)
    · exact issued zero
    · exact missing held
  unfold releaseFunctionalPage
  rw [resolved]
  dsimp only
  rw [if_neg guard]
  exact ⟨rfl, usage_withAllocation resolved rfl⟩

/-- A release of a lease is refused, or takes the token away. -/
theorem unretain_cases (memory : HostGPUMemoryState) (owner : OwnerKey)
    (handle : AllocationHandle) (token : UInt64) :
    memory.releaseFunctionalPage owner handle token = (false, memory) ∨
      ∃ use, memory.usage owner handle = some use ∧
        (memory.releaseFunctionalPage owner handle token).2.usage =
          memory.usage.assign owner handle (some { use with tokens := use.tokens.erase token }) := by
  by_cases held : ∃ use, memory.usage owner handle = some use ∧ token ≠ 0 ∧ token ∈ use.tokens
  · obtain ⟨use, found, issued, there⟩ := held
    exact .inr ⟨use, found, (unretain_of_usage found issued there).2⟩
  · refine .inl ?_
    unfold releaseFunctionalPage
    split
    · rfl
    rename_i slot allocation found
    refine if_pos ?_
    by_contra guard
    rw [not_or, not_not] at guard
    exact held ⟨_, usage_of_resolve found, guard⟩

/-- A free is refused, or drops an allocation nothing uses. -/
theorem free_usage (memory : HostGPUMemoryState) (owner : OwnerKey) (handle : AllocationHandle) :
    ((memory.free owner handle).1.ok = false ∧ (memory.free owner handle).2 = memory) ∨
      ∃ use, memory.usage owner handle = some use ∧ use.idle ∧
        (memory.free owner handle).1.ok = true ∧
        (memory.free owner handle).2.usage = memory.usage.assign owner handle none := by
  unfold free
  split
  · exact .inl ⟨rfl, rfl⟩
  split
  · exact .inl ⟨rfl, rfl⟩
  split
  · exact .inl ⟨rfl, rfl⟩
  rename_i slot allocation found
  split
  · exact .inl ⟨rfl, rfl⟩
  · rename_i idle
    rw [Bool.not_eq_true, Bool.not_eq_false', idle_iff] at idle
    exact .inr ⟨_, usage_of_resolve found, idle, rfl, usage_release found⟩

/-- An allocation nothing uses is freed. -/
theorem free_of_usage (byOwner : validOwner owner = true) (valid : validHandle handle = true)
    (found : memory.usage owner handle = some use) (idle : use.idle) :
    (memory.free owner handle).1.ok = true ∧
      (memory.free owner handle).2.usage = memory.usage.assign owner handle none := by
  obtain ⟨slot, allocation, resolved, rfl⟩ := usage_eq_some.mp found
  unfold free
  rw [byOwner, valid, resolved, if_neg (by decide), if_neg (by decide)]
  dsimp only
  rw [(idle_iff allocation).mpr idle, if_neg (by decide)]
  exact ⟨rfl, usage_release resolved⟩

/-- A copy changes no use. -/
theorem usage_copyFromHost (memory : HostGPUMemoryState) (owner : OwnerKey) (transfer : Transfer)
    (dispatchRequestId : UInt64) (throwsAfter : Option ℕ) :
    (memory.copyFromHost owner transfer dispatchRequestId throwsAfter).2.usage = memory.usage := by
  unfold copyFromHost
  dsimp only
  split
  · rfl
  split
  · rfl
  split
  · rfl
  rename_i slot allocation found
  have same : ∀ chunks, (memory.withAllocation slot { allocation with chunks := chunks }).usage =
      memory.usage := by
    intro chunks
    have replaced := @usage_withAllocation memory owner transfer.range.allocation slot
      { allocation with chunks := chunks } allocation found rfl
    rw [replaced]
    funext other name
    by_cases hit : other = owner ∧ name = transfer.range.allocation
    · obtain ⟨rfl, rfl⟩ := hit
      rw [Uses.assign_same, usage_of_resolve found]
      rfl
    · rw [Uses.assign_other _ _ hit]
  split
  · exact same _
  · exact same _

/-- What an accepted allocation leaves: a handle that named nothing names a fresh one. -/
structure Fresh (memory after : HostGPUMemoryState) (owner : OwnerKey)
    (slot : Fin MaximumAllocations) (allocation : Allocation) : Prop where
  here : after.allocations slot = some allocation
  owned : allocation.owner = owner
  validOwner : validOwner owner = true
  issued : allocation.generation ≠ 0
  unnamed : ∀ other, memory.usage other
    (infoOf slot allocation.generation allocation.size allocation.alignment).allocation = none
  usage : after.usage = memory.usage.assign owner
    (infoOf slot allocation.generation allocation.size allocation.alignment).allocation
    (some { requestId := 0, tokens := ∅ })

theorem Fresh.validHandle (fresh : Fresh memory after owner slot allocation) :
    validHandle (infoOf slot allocation.generation allocation.size allocation.alignment).allocation =
      true := by
  have nonzero : idOfSlot slot ≠ 0 := by
    have value := toNat_idOfSlot (by decide) slot
    exact ne_zero_iff_toNat_pos.mpr (by omega)
  simp [Memory.validHandle, infoOf, nonzero, fresh.issued]

theorem Fresh.view (fresh : Fresh memory after owner slot allocation) :
    after.allocationView owner
        (infoOf slot allocation.generation allocation.size allocation.alignment).allocation =
      some (infoOf slot allocation.generation allocation.size allocation.alignment) := by
  have resolved : after.resolve owner
      (infoOf slot allocation.generation allocation.size allocation.alignment).allocation =
        some (slot, allocation) :=
    resolve_eq_some.mpr ⟨slotOfId_idOfSlot (by decide) slot, fresh.here, fresh.owned, rfl⟩
  rw [allocationView, resolved]
  rfl

/-- An allocation is refused, or is a fresh one in a free slot. -/
theorem allocate_cases (memory : HostGPUMemoryState) (owner : OwnerKey)
    (request : AllocationRequest) (allocates : Bool) :
    ((memory.allocate owner request allocates).1.ok = false ∧
        (memory.allocate owner request allocates).2.usage = memory.usage) ∨
      ∃ slot allocation,
        (memory.allocate owner request allocates).1 =
          .success (infoOf slot allocation.generation allocation.size allocation.alignment) ∧
        Fresh memory (memory.allocate owner request allocates).2 owner slot allocation := by
  unfold allocate
  split
  · exact .inl ⟨rfl, rfl⟩
  rename_i byOwner
  split
  · exact .inl ⟨rfl, rfl⟩
  split
  · exact .inl ⟨rfl, rfl⟩
  split
  · exact .inl ⟨rfl, rfl⟩
  rename_i slot free
  split
  · exact .inl ⟨rfl, rfl⟩
  rename_i generation generations taken
  dsimp only
  split
  · exact .inl ⟨rfl, rfl⟩
  have named : slotOfId MaximumAllocations (idOfSlot slot) = some slot :=
    slotOfId_idOfSlot (by decide) slot
  have empty := SlotTable.firstFree_spec free
  let fresh : Allocation :=
    { owner := owner
      generation := generation
      size := request.size
      alignment := request.alignment }
  refine .inr ⟨slot, fresh, rfl, ?_⟩
  refine
    { here := SlotTable.put_same _ _ _
      owned := rfl
      validOwner := by simpa using byOwner
      issued := (IssueCounter.take_spec taken).1
      unnamed := ?_
      usage := ?_ }
  · intro other
    rw [HostGPUMemoryState.usage, Option.map_eq_none_iff, Option.eq_none_iff_forall_ne_some]
    rintro ⟨position, record⟩ found
    obtain ⟨id, there, -⟩ := resolve_eq_some.mp found
    obtain rfl := Option.some.inj (named.symm.trans id)
    rw [empty] at there
    cases there
  · refine @usage_update memory _ owner _ slot (some fresh) ?_ ?_ ?_ ?_
    · rfl
    · exact named
    · intro record there
      rw [empty] at there
      cases there
    · intro record there
      rw [← Option.some.inj there]
      rfl

/-- The allocation whose addresses start at that of a slot is the one in the slot. -/
theorem view_of_slot {byteCount : UInt64} {info : AllocationInfo}
    (found : memory.allocationViewContaining owner (virtualAddress slot) byteCount = some info) :
    ∃ allocation, memory.allocations slot = some allocation ∧ allocation.owner = owner ∧
      info = infoOf slot allocation.generation allocation.size allocation.alignment := by
  have small : slot.val < 1024 := slot.isLt
  have value : (virtualAddress slot - VirtualAddressBase).toNat = slot.val * 2 ^ 31 := by
    have offset : (UInt64.ofNat slot.val * VirtualAddressStride).toNat = slot.val * 2 ^ 31 := by
      rw [UInt64.toNat_mul, toNat_ofNat_of_lt (by omega)]
      have stride : VirtualAddressStride.toNat = 2 ^ 31 := by decide
      rw [stride, Nat.mod_eq_of_lt (by omega)]
    rw [virtualAddress, UInt64.add_comm, UInt64.add_sub_cancel]
    exact offset
  have index : ((virtualAddress slot - VirtualAddressBase) / VirtualAddressStride).toNat =
      slot.val := by
    rw [UInt64.toNat_div, value]
    have stride : VirtualAddressStride.toNat = 2 ^ 31 := by decide
    rw [stride, Nat.mul_div_cancel _ (by decide)]
  unfold allocationViewContaining at found
  split at found
  · cases found
  dsimp only at found
  split at found
  · rename_i inside
    have same : (⟨_, inside⟩ : Fin MaximumAllocations) = slot := Fin.ext index
    rw [same] at found
    split at found
    · cases found
    · rename_i allocation here
      split at found
      · cases found
      · rename_i guard
        rw [not_or, not_not] at guard
        exact ⟨allocation, here, guard.1, (Option.some.inj found).symm⟩
  · cases found

/-- An owner that leaves takes along the allocations of its own that nothing uses. -/
theorem usage_disconnect (memory : HostGPUMemoryState) (leaving owner : OwnerKey)
    (handle : AllocationHandle) :
    (memory.disconnect leaving).usage owner handle = memory.usage owner handle ∨
      (memory.disconnect leaving).usage owner handle = none ∧
        ∃ use, memory.usage owner handle = some use ∧ use.idle := by
  have table : (memory.disconnect leaving).allocations = memory.allocations.keep
      fun allocation => !(allocation.owner == leaving && allocation.idle) :=
    SlotTable.sweep_table allocations (fun _ _ _ => rfl) memory
  have stays : ∀ slot allocation, (memory.disconnect leaving).resolve owner handle =
      some (slot, allocation) → memory.resolve owner handle = some (slot, allocation) := by
    intro slot allocation found
    obtain ⟨named, there, rest⟩ := resolve_eq_some.mp found
    rw [table] at there
    exact resolve_eq_some.mpr ⟨named, (SlotTable.keep_eq_some.mp there).1, rest⟩
  cases found : memory.resolve owner handle with
  | none =>
    refine .inl ?_
    have missing : (memory.disconnect leaving).resolve owner handle = none := by
      rw [Option.eq_none_iff_forall_ne_some]
      rintro ⟨slot, allocation⟩ later
      rw [stays slot allocation later] at found
      cases found
    rw [usage, usage, missing, found]
  | some pair =>
    obtain ⟨slot, allocation⟩ := pair
    obtain ⟨named, here, rest⟩ := resolve_eq_some.mp found
    by_cases goes : (allocation.owner == leaving && allocation.idle) = true
    · refine .inr ⟨?_, _, usage_of_resolve found, ?_⟩
      · rw [usage, Option.map_eq_none_iff, Option.eq_none_iff_forall_ne_some]
        rintro ⟨position, record⟩ later
        obtain ⟨id, there, -⟩ := resolve_eq_some.mp later
        obtain rfl := Option.some.inj (named.symm.trans id)
        rw [table] at there
        obtain ⟨same, kept⟩ := SlotTable.keep_eq_some.mp there
        obtain rfl := Option.some.inj (here.symm.trans same)
        rw [goes] at kept
        cases kept
      · exact (idle_iff allocation).mp (Bool.and_eq_true_iff.mp goes).2
    · refine .inl ?_
      rw [Bool.not_eq_true] at goes
      have there : (memory.disconnect leaving).allocations slot = some allocation := by
        rw [table]
        exact SlotTable.keep_eq_some.mpr ⟨here, by rw [goes]; rfl⟩
      rw [usage, usage, found, resolve_eq_some.mpr ⟨named, there, rest⟩]

/-- A use changes at one handle, or nothing does: what another handle says stays. -/
theorem usage_of_assign {owner' : OwnerKey} {handle' : AllocationHandle} {entry : Option Usage}
    (changed : after.usage = memory.usage.assign owner' handle' entry)
    (found : memory.usage owner handle = some use) :
    after.usage owner handle = some use ∨
      (owner = owner' ∧ handle = handle' ∧ after.usage owner handle = entry) := by
  by_cases hit : owner = owner' ∧ handle = handle'
  · obtain ⟨rfl, rfl⟩ := hit
    exact .inr ⟨rfl, rfl, by rw [changed, Uses.assign_same]⟩
  · exact .inl (by rw [changed, Uses.assign_other _ _ hit, found])

/-- What a call leaves of a use: the tokens and the pin it does not release. -/
structure Leaves (call : Call) (owner : OwnerKey) (handle : AllocationHandle) (use left : Usage) :
    Prop where
  tokens : ∀ token ∈ use.tokens, call ≠ .releaseFunctionalPage owner handle token →
    token ∈ left.tokens
  requestId : use.requestId ≠ 0 →
    (∀ requestId, call ≠ .releasePinnedDispatchAllocation owner handle requestId) →
    left.requestId = use.requestId

theorem Leaves.refl (call : Call) (owner : OwnerKey) (handle : AllocationHandle) (use : Usage) :
    Leaves call owner handle use use := ⟨fun _ held _ => held, fun _ _ => rfl⟩

/-- An allocation in use survives every call but a clear, with what the call does not release. -/
theorem usage_step (call : Call) (found : memory.usage owner handle = some use)
    (used : ¬ use.idle) (running : call ≠ .clear) :
    ∃ left, (memory.step call).usage owner handle = some left ∧
      Leaves call owner handle use left := by
  have stays : (memory.step call).usage = memory.usage → ∃ left,
      (memory.step call).usage owner handle = some left ∧ Leaves call owner handle use left :=
    fun same => ⟨use, by rw [same, found], .refl call owner handle use⟩
  have other : (memory.step call).usage owner handle = some use → ∃ left,
      (memory.step call).usage owner handle = some left ∧ Leaves call owner handle use left :=
    fun same => ⟨use, same, .refl call owner handle use⟩
  cases call with
  | allocate owner' request allocates =>
    rcases memory.allocate_cases owner' request allocates with
      ⟨-, same⟩ | ⟨slot, allocation, -, fresh⟩
    · exact stays same
    · rcases usage_of_assign fresh.usage found with same | ⟨rfl, rfl, -⟩
      · exact other same
      · rw [fresh.unnamed] at found
        cases found
  | free owner' handle' =>
    rcases memory.free_usage owner' handle' with ⟨-, same⟩ | ⟨freed, there, idle, -, changed⟩
    · exact stays (congrArg HostGPUMemoryState.usage same)
    · rcases usage_of_assign changed found with same | ⟨rfl, rfl, -⟩
      · exact other same
      · obtain rfl := Option.some.inj (found.symm.trans there)
        exact absurd idle used
  | copyFromHost owner' transfer dispatchRequestId throwsAfter =>
    exact stays (usage_copyFromHost memory owner' transfer dispatchRequestId throwsAfter)
  | functionalWriteBytes owner' transfer dispatchRequestId throwsAfter =>
    exact stays (usage_copyFromHost memory owner' transfer dispatchRequestId throwsAfter)
  | copyToHost owner' range dispatchRequestId allocates => exact stays rfl
  | readBytes owner' range allocates => exact stays rfl
  | pinPinnedDispatchAllocation owner' handle' requestId =>
    rcases memory.pin_cases owner' handle' requestId with
      refused | ⟨before, there, free, -, -, changed⟩
    · exact stays (congrArg (fun reply => reply.2.usage) refused)
    · rcases usage_of_assign changed found with same | ⟨rfl, rfl, now⟩
      · exact other same
      · obtain rfl := Option.some.inj (found.symm.trans there)
        exact ⟨_, now, fun _ held _ => held, fun pinned => absurd free pinned⟩
  | releasePinnedDispatchAllocation owner' handle' requestId =>
    rcases memory.unpin_cases owner' handle' requestId with refused | ⟨before, there, -, changed⟩
    · exact stays (congrArg (fun reply => reply.2.usage) refused)
    · rcases usage_of_assign changed found with same | ⟨rfl, rfl, now⟩
      · exact other same
      · obtain rfl := Option.some.inj (found.symm.trans there)
        exact ⟨_, now, fun _ held _ => held, fun _ spared => absurd rfl (spared requestId)⟩
  | retainFunctionalPage owner' handle' token =>
    rcases memory.retain_cases owner' handle' token with
      refused | ⟨before, there, -, -, -, changed⟩
    · exact stays (congrArg (fun reply => reply.2.usage) refused)
    · rcases usage_of_assign changed found with same | ⟨rfl, rfl, now⟩
      · exact other same
      · obtain rfl := Option.some.inj (found.symm.trans there)
        exact ⟨_, now, fun _ held _ => Finset.mem_insert_of_mem held, fun _ _ => rfl⟩
  | releaseFunctionalPage owner' handle' token =>
    rcases memory.unretain_cases owner' handle' token with refused | ⟨before, there, changed⟩
    · exact stays (congrArg (fun reply => reply.2.usage) refused)
    · rcases usage_of_assign changed found with same | ⟨rfl, rfl, now⟩
      · exact other same
      · obtain rfl := Option.some.inj (found.symm.trans there)
        refine ⟨_, now, ?_, fun _ _ => rfl⟩
        intro held member spared
        refine Finset.mem_erase.mpr ⟨?_, member⟩
        rintro rfl
        exact spared rfl
  | disconnect leaving =>
    simp only [step, run] at other ⊢
    rcases memory.usage_disconnect leaving owner handle with same | ⟨-, before, there, idle⟩
    · exact other (same.trans found)
    · obtain rfl := Option.some.inj (found.symm.trans there)
      exact absurd idle used
  | clear => exact absurd rfl running

/-- An allocation has one owner. -/
theorem usage_owner {other : OwnerKey} {left : Usage}
    (found : memory.usage owner handle = some use)
    (again : memory.usage other handle = some left) : owner = other := by
  obtain ⟨slot, allocation, resolved, -⟩ := usage_eq_some.mp found
  obtain ⟨position, record, alike, -⟩ := usage_eq_some.mp again
  obtain ⟨named, here, byOwner, -⟩ := resolve_eq_some.mp resolved
  obtain ⟨sameName, there, byOther, -⟩ := resolve_eq_some.mp alike
  obtain rfl := Option.some.inj (named.symm.trans sameName)
  obtain rfl := Option.some.inj (here.symm.trans there)
  exact byOwner.symm.trans byOther

/-- A handle that named an allocation, and does not name it later, never does again. -/
theorem usage_gone (sound : memory.Sound) (progress : memory.Progress after)
    (found : memory.usage owner handle = some use) (gone : after.usage owner handle = none)
    {last : HostGPUMemoryState} (later : after.Progress last) (other : OwnerKey) :
    last.usage other handle = none := by
  obtain ⟨slot, allocation, resolved, -⟩ := usage_eq_some.mp found
  rw [usage, Option.map_eq_none_iff] at gone
  have never := sound.stays_gone progress (by rw [resolved]; exact Option.some_ne_none _) gone
    later other
  rw [usage, never]
  rfl

end Calls

end HostGPUMemoryState

end GemSim.Memory
