import GemSim.Dispatch.CleanupLaw
import GemSim.Dispatch.CopySteps

/-!
# The bytes of a mapped code object

A map that succeeds has put every segment into its allocation, and has left zeros everywhere
else. A map that fails gives back the lease and the allocation it had taken, and leaves the
memory as it was, unless it was left by the failure of an allocation that nobody caught: then
both stay.

## Main definitions

* `Restored` — the memory as it was, but for its counters
* `Materialized` — the bytes of a mapping are those of its segments
* `MaterializeLaw` — what a map leaves
* `LosesTransfer` — when a map is left past its rollback

## Main results

* `Opened.rollback_leased` — a rollback leaves nothing of the allocation
* `materialized_of_patches` — the patches of checked segments can be read back
* `materializeLaw_iff_of_run` — after every run, the law holds unless a transfer is lost
* `materializeLaw_fails` — a map that leaves an allocation and a lease
-/

namespace GemSim.Dispatch

open GemSim.Lib GemSim.Domain GemSim.Memory GemSim.CodeObject

section Rollback

variable {before now : HostNativeMemoryContext} {slot : Fin MaximumAllocations}
  {record : Allocation} {held : List PageLease} {lease : PageLease}

/-- The memory and the leases are as they were, but for the counters of what was issued. -/
structure Restored (before after : HostNativeMemoryContext) : Prop where
  owner : after.owner = before.owner
  pageSize : after.pageSize = before.pageSize
  leases : after.leases = before.leases
  allocations : after.memory.allocations = before.memory.allocations
  liveAllocations : after.memory.liveAllocations = before.memory.liveAllocations
  liveBytes : after.memory.liveBytes = before.memory.liveBytes

/-- The allocation of a failed map, as it is before anybody else may use it. -/
structure Own (owner : OwnerKey) (record : Allocation) : Prop where
  owned : record.owner = owner
  byOwner : validOwner owner = true
  issued : record.generation ≠ 0
  unpinned : record.dispatchRequestId = 0

theorem Opened.leaseCount (opened : Opened before now slot record held) :
    now.memory.functionalPageLeaseCount record.owner (handleOf slot record) =
      record.functionalPageTokens.card := by
  rw [HostGPUMemoryState.functionalPageLeaseCount, opened.resolve]

theorem Opened.busy (opened : Opened before now slot record held)
    (unpinned : record.dispatchRequestId = 0) :
    now.memory.pinnedDispatchAllocationBusy record.owner (handleOf slot record) = false := by
  rw [HostGPUMemoryState.pinnedDispatchAllocationBusy, opened.resolve]
  simp [unpinned]

/-- A lease enters its token in an allocation that nobody leases yet. -/
theorem Opened.retain (opened : Opened before now slot record held)
    (owned : record.owner = now.owner) (unleased : record.functionalPageTokens = ∅)
    {token : UInt64} (issued : token ≠ 0) :
    now.memory.retainFunctionalPage now.owner (handleOf slot record) token =
      (true, now.memory.withAllocation slot { record with functionalPageTokens := {token} }) := by
  unfold HostGPUMemoryState.retainFunctionalPage
  rw [if_neg issued, ← owned, opened.resolve]
  dsimp only
  rw [unleased, if_neg (Finset.notMem_empty _)]
  rfl

/-- The only token of an allocation is taken back. -/
theorem Opened.release (opened : Opened before now slot record held)
    (owned : record.owner = now.owner) {token : UInt64}
    (only : record.functionalPageTokens = {token}) (issued : token ≠ 0) :
    now.memory.releaseFunctionalPage now.owner (handleOf slot record) token =
      (true, now.memory.withAllocation slot { record with functionalPageTokens := ∅ }) := by
  unfold HostGPUMemoryState.releaseFunctionalPage
  rw [← owned, opened.resolve]
  dsimp only
  rw [only, if_neg (by rw [not_or, not_not]; exact ⟨issued, Finset.mem_singleton_self _⟩),
    Finset.erase_singleton]

/-- An allocation without leases is freed again, and nothing is left of it. -/
theorem Opened.free (opened : Opened before now slot record before.leases) {owner : OwnerKey}
    (own : Own owner record) (unleased : record.functionalPageTokens = ∅) :
    Restored before (freeAllocation now owner (handleOf slot record)).2 := by
  have idle : record.idle = true := by simp [Allocation.idle, own.unpinned, unleased]
  have freed : now.memory.free owner (handleOf slot record) =
      (.success (), now.memory.release slot record) := by
    unfold HostGPUMemoryState.free
    rw [own.byOwner, validHandle_handleOf own.issued, ← own.owned, opened.resolve,
      if_neg (by decide), if_neg (by decide)]
    dsimp only
    rw [idle, if_neg (by decide)]
  rw [freeAllocation, freed]
  exact
    { owner := opened.owner
      pageSize := opened.pageSize
      leases := opened.leases
      allocations := by
        simp only [HostGPUMemoryState.release, opened.allocations, SlotTable.drop, SlotTable.put,
          Function.update_idem]
        rw [Function.update_eq_self_iff]
        exact opened.empty.symm
      liveAllocations := by
        simp only [HostGPUMemoryState.release, opened.liveAllocations, UInt64.add_sub_cancel]
      liveBytes := by
        simp only [HostGPUMemoryState.release, opened.liveBytes, UInt64.add_sub_cancel] }

/-- A rollback before any lease was taken. -/
theorem Opened.rollback_unleased (opened : Opened before now slot record before.leases)
    {owner : OwnerKey} (own : Own owner record) (unleased : record.functionalPageTokens = ∅) :
    Restored before (rollback owner now none (handleOf slot record)) := by
  unfold rollback
  have count := opened.leaseCount
  have busy := opened.busy own.unpinned
  rw [own.owned] at count busy
  dsimp only
  rw [count, busy, unleased, if_pos (by decide)]
  exact opened.free own unleased

/-- A lease of the allocation that a map has taken, and nobody else holds its token. -/
structure LeaseTaken (before : HostNativeMemoryContext) (slot : Fin MaximumAllocations)
    (record : Allocation) (lease : PageLease) : Prop where
  valid : lease.valid = true
  about : lease.allocation = handleOf slot record
  owned : record.owner = before.owner
  tokens : record.functionalPageTokens = {lease.token}
  whole : WholeLease before.pageSize slot record lease
  fresh : ∀ other ∈ before.leases, other.token ≠ lease.token

/-- A rollback after the lease was taken gives it back, and then the allocation. -/
theorem Opened.rollback_leased (opened : Opened before now slot record (lease :: before.leases))
    {owner : OwnerKey} (own : Own owner record) (taken : LeaseTaken before slot record lease) :
    Restored before (rollback owner now (some lease) (handleOf slot record)) := by
  obtain rfl := own.owned
  have count := opened.leaseCount
  have busy := opened.busy own.unpinned
  -- the one token is that of the lease, so nobody else keeps the allocation
  have sole : solelyLeased now record.owner (handleOf slot record) = true := by
    rw [solelyLeased, count, busy, taken.tokens, Finset.card_singleton]
    rfl
  have issued : lease.token ≠ 0 := by
    have valid := taken.valid
    simp only [PageLease.valid, Bool.and_eq_true, bne_iff_ne] at valid
    exact valid.1
  have released := opened.release (taken.owned.trans opened.owner.symm) taken.tokens issued
  have kept : (lease :: before.leases).filter (fun other => other.token != lease.token) =
      before.leases := by
    rw [List.filter_cons_of_neg (by simp), List.filter_eq_self]
    intro other member
    simpa using taken.fresh other member
  have unmapped : now.unmap lease = (true, { now with
      memory := now.memory.withAllocation slot { record with functionalPageTokens := ∅ }
      leases := before.leases }) := by
    unfold HostNativeMemoryContext.unmap
    rw [opened.leases, List.find?_cons_of_pos (by simp)]
    dsimp only
    rw [if_neg (not_not.mpr rfl), taken.about, released, kept]
    rfl
  have emptied := @Opened.withAllocation _ _ _ _ _ opened
    { record with functionalPageTokens := ∅ } rfl
  -- with the token gone the allocation is freed as one that never was leased
  have closed : Opened before { now with
      memory := now.memory.withAllocation slot { record with functionalPageTokens := ∅ }
      leases := before.leases } slot { record with functionalPageTokens := ∅ } before.leases :=
    { emptied with leases := rfl }
  have own' : Own record.owner { record with functionalPageTokens := ∅ } :=
    ⟨own.owned, own.byOwner, own.issued, own.unpinned⟩
  unfold rollback
  simp only [taken.valid, Bool.not_true, Bool.false_eq_true, if_false, sole, if_true, unmapped]
  have noLease : (now.memory.withAllocation slot { record with functionalPageTokens := ∅
      }).functionalPageLeaseCount record.owner (handleOf slot record) = 0 := closed.leaseCount
  have noPin : (now.memory.withAllocation slot { record with functionalPageTokens := ∅
      }).pinnedDispatchAllocationBusy record.owner (handleOf slot record) = false :=
    closed.busy own'.unpinned
  rw [noLease, noPin, if_pos (by rfl)]
  exact closed.free own' rfl

/-- The number of pages of a range does not wrap. -/
theorem pageCount_ne_zero {pageSize : UInt64} (pages : pageSize = 4096 ∨ pageSize = 65536)
    (span : UInt64) : span / pageSize + 1 ≠ 0 := by
  have bound := span.toNat_lt
  have quotient : (span / pageSize).toNat < 2 ^ 63 := by
    rw [UInt64.toNat_div]
    rcases pages with rfl | rfl
    · rw [show (4096 : UInt64).toNat = 4096 from rfl]
      omega
    · rw [show (65536 : UInt64).toNat = 65536 from rfl]
      omega
  rw [ne_zero_iff_toNat_pos, toNat_add_exact (by rw [UInt64.toNat_one]; omega), UInt64.toNat_one]
  omega

/-- The whole allocation is leased once, or it stays without a lease. -/
theorem Opened.map (opened : Opened before now slot record before.leases)
    (sound : ContextSound before) (tokens : now.tokens = before.tokens)
    (bounded : record.size ≤ MaximumAllocationBytes) (nonempty : record.size ≠ 0)
    (pages : now.pageSize = 4096 ∨ now.pageSize = 65536)
    (unleased : record.functionalPageTokens = ∅) (emplaces : Bool) :
    ((now.map (virtualAddress slot) record.size emplaces).1 = none →
      Opened before (now.map (virtualAddress slot) record.size emplaces).2 slot record
          before.leases ∧
        ¬ (record.owner = before.owner ∧ before.tokens.take ≠ none ∧ emplaces = true)) ∧
    ∀ lease, (now.map (virtualAddress slot) record.size emplaces).1 = some lease →
      Opened before (now.map (virtualAddress slot) record.size emplaces).2 slot
          { record with functionalPageTokens := {lease.token} } (lease :: before.leases) ∧
        LeaseTaken before slot { record with functionalPageTokens := {lease.token} } lease ∧
        before.tokens.take ≠ none ∧ emplaces = true := by
  have found := @view_inside _ now.owner slot record 0 record.size opened.here bounded nonempty
    (by rw [UInt64.toNat_zero]; omega)
  rw [UInt64.add_zero] at found
  unfold HostNativeMemoryContext.map
  rw [HostNativeMemoryContext.resolveRange, found]
  -- a lease is refused to another owner, without a token, and where it cannot be entered
  by_cases owned : record.owner = now.owner
  case neg =>
    rw [if_neg owned]
    refine ⟨fun _ => ⟨opened, fun able => owned (able.1.trans opened.owner.symm)⟩, ?_⟩
    intro lease other
    cases other
  rw [if_pos owned]
  dsimp only [Option.map_some]
  obtain ⟨ordered, whole⟩ := @wholeLease_of_pages slot record _ pages bounded nonempty
  rw [if_neg ordered]
  split
  · rename_i exhausted
    rw [tokens] at exhausted
    refine ⟨fun _ => ⟨opened, fun able => able.2.1 exhausted⟩, ?_⟩
    intro lease other
    cases other
  rename_i token rest taken
  obtain ⟨issued, value, -⟩ := IssueCounter.take_spec taken
  rw [tokens] at value
  have handle : (infoOf slot record.generation record.size record.alignment).allocation =
      handleOf slot record := rfl
  have retained := opened.retain owned unleased issued
  rw [handle, retained]
  simp only [Bool.not_true, Bool.false_eq_true, if_false]
  have leased := @Opened.withAllocation _ _ _ _ _ opened
    { record with functionalPageTokens := {token} } rfl
  split
  · -- the lease could not be entered, and its token is taken back
    rename_i throws
    refine ⟨fun _ => ⟨?_, fun able => by rw [able.2.2] at throws; cases throws⟩,
      by intro lease other; cases other⟩
    have undone := leased.release owned rfl issued
    have same : { record with functionalPageTokens := ∅ } = record := by rw [← unleased]
    have named : handleOf slot { record with functionalPageTokens := {token} } =
        handleOf slot record := rfl
    dsimp only at undone ⊢
    rw [named, same] at undone
    rw [undone]
    have restored := @Opened.withAllocation _ _ _ _ _ leased record rfl
    exact { restored with }
  · rename_i emplaced
    refine ⟨(by intro other; cases other), fun lease entered => ?_⟩
    obtain rfl := Option.some.inj entered
    refine ⟨{ leased with leases := by rw [← opened.leases] }, ?_,
      by rw [← tokens, taken]; exact Option.some_ne_none _, by simpa using emplaced⟩
    refine
      { valid := ?_
        about := rfl
        owned := owned.trans opened.owner
        tokens := rfl
        whole := ?_
        fresh := ?_ }
    · rw [PageLease.valid, Bool.and_eq_true, bne_iff_ne, bne_iff_ne]
      exact ⟨issued, pageCount_ne_zero pages _⟩
    · rw [← opened.pageSize]
      exact { whole _ rfl rfl rfl with }
    -- a token that is just issued is above all tokens of leases that are held
    · intro other member same
      have below := (sound.issued other member).2
      dsimp only at same
      rw [same, value] at below
      exact absurd below (lt_irrefl _)

end Rollback

section Law

variable {context : HostNativeMemoryContext} {image : List UInt8} {metadata : CodeObjectMetadata}
  {mappedBase mappedEnd : UInt64}

theorem pageOf_le (pageSize address : UInt64) : pageOf pageSize address ≤ address := by
  rw [pageOf, UInt64.le_iff_toNat_le, UInt64.toNat_and]
  exact Nat.and_le_left

/-- What the checks of the segments leave for the copies. -/
structure Checked (image : List UInt8) (segments : List LoadSegment) (mappedBase : UInt64) :
    Prop where
  valid : ∀ segment ∈ segments, loadSegmentValid image segment = true
  above : ∀ segment ∈ segments, mappedBase ≤ segment.virtualAddress
  apart : segments.Pairwise fun segment right => segmentsOverlap segment right = false

theorem validateSegments_spec {span : UInt64 × UInt64}
    (accepted : validateSegments image metadata = .ok span) :
    Checked image metadata.segments span.1 ∧ ∀ segment ∈ metadata.segments,
      segment.virtualAddress.toNat + segment.memorySize.toNat ≤ span.2.toNat := by
  unfold validateSegments at accepted
  split at accepted
  · cases accepted
  cases spanned : spanSegments image metadata.segments u64Max 0 with
  | error failure =>
    rw [spanned] at accepted
    cases accepted
  | ok found =>
    obtain ⟨imageVirtualBase, imageVirtualEnd⟩ := found
    rw [spanned] at accepted
    dsimp only at accepted
    split at accepted
    · cases accepted
    split at accepted
    · cases accepted
    obtain rfl := Except.ok.inj accepted
    obtain ⟨-, -, checked, apart⟩ := spanSegments_spec spanned
    exact
      ⟨{ valid := fun segment member => (checked segment member).1
         above := fun segment member => (checked segment member).2.1
         apart := apart }, fun segment member => (checked segment member).2.2⟩

/-- An end that is rounded up to a page is not lowered. -/
theorem le_pageOf_end {pageSize stop : UInt64} (pages : pageSize = 4096 ∨ pageSize = 65536)
    (room : ¬ stop > u64Max - (pageSize - 1)) :
    stop.toNat ≤ (pageOf pageSize (stop + pageSize - 1)).toNat := by
  have shape : PageSize pageSize := by
    rcases pages with rfl | rfl
    · exact ⟨12, rfl⟩
    · exact ⟨16, rfl⟩
  have size : pageSize.toNat = 4096 ∨ pageSize.toNat = 65536 := by
    rcases pages with rfl | rfl
    · exact .inl rfl
    · exact .inr rfl
  have last : (pageSize - 1).toNat = pageSize.toNat - 1 :=
    toNat_sub_exact (by rw [UInt64.toNat_one]; omega)
  rw [gt_iff_lt, max_sub_lt_iff, last] at room
  have regroup : stop + pageSize - 1 = stop + (pageSize - 1) := by
    rw [UInt64.sub_eq_add_neg, UInt64.sub_eq_add_neg, UInt64.add_assoc]
  rw [regroup, toNat_pageOf shape, toNat_add_exact (by rw [last]; omega), last, pageFloor]
  rcases size with size | size <;> rw [size] <;> omega

theorem validateMap_spec {layout : Layout} {env : MapEnv}
    (accepted : validateMap layout context image metadata env = .ok (mappedBase, mappedEnd)) :
    (context.pageSize = 4096 ∨ context.pageSize = 65536) ∧ mappedEnd - mappedBase ≠ 0 ∧
      Checked image metadata.segments mappedBase ∧ ∀ segment ∈ metadata.segments,
        (segment.virtualAddress - mappedBase).toNat + segment.memorySize.toNat ≤
          (mappedEnd - mappedBase).toNat := by
  -- each check that is passed is one part of the conclusion
  unfold validateMap at accepted
  dsimp only at accepted
  split at accepted
  · cases accepted
  rename_i other
  have pages : context.pageSize = 4096 ∨ context.pageSize = 65536 := by
    by_contra neither
    exact other (not_or.mp neither)
  split at accepted
  · cases accepted
  split at accepted
  · cases accepted
  split at accepted
  · cases accepted
  split at accepted
  · cases accepted
  cases validated : validateSegments image metadata with
  | error failure =>
    rw [validated] at accepted
    cases accepted
  | ok span =>
    obtain ⟨imageVirtualBase, imageVirtualEnd⟩ := span
    rw [validated] at accepted
    dsimp only at accepted
    split at accepted
    · cases accepted
    rename_i small
    split at accepted
    · cases accepted
    rename_i room
    obtain ⟨rfl, rfl⟩ := Prod.mk.inj (Except.ok.inj accepted)
    obtain ⟨checked, ends⟩ := validateSegments_spec validated
    rw [not_or, UInt64.not_le, UInt64.lt_iff_toNat_lt] at room
    have above : ∀ segment ∈ metadata.segments,
        pageOf context.pageSize imageVirtualBase ≤ segment.virtualAddress :=
      fun segment member => UInt64.le_trans (pageOf_le _ _) (checked.above segment member)
    refine ⟨pages, ?_, ⟨checked.valid, above, checked.apart⟩, ?_⟩
    · rw [ne_zero_iff_toNat_pos, toNat_sub_exact room.1.le]
      exact Nat.sub_pos_of_lt room.1
    · intro segment member
      have start := UInt64.le_iff_toNat_le.mp (above segment member)
      have stop := ends segment member
      have raised := le_pageOf_end pages small
      dsimp only at stop
      rw [toNat_sub_exact start, toNat_sub_exact room.1.le]
      omega

/-- Where a segment starts in the allocation of its image. -/
def startOf (mapping : Mapping) (segment : LoadSegment) : ℕ :=
  segment.virtualAddress.toNat - mapping.imageVirtualBase.toNat

/-- The bytes of a mapping are those of its segments in the file, and zeros elsewhere. -/
structure Materialized (image : List UInt8) (segments : List LoadSegment) (mapping : Mapping)
    (resident : List UInt8) : Prop where
  length : resident.length = mapping.mappedBytes.toNat
  inside : ∀ segment ∈ segments, mapping.imageVirtualBase ≤ segment.virtualAddress ∧
    segment.fileSize ≤ segment.memorySize ∧
    startOf mapping segment + segment.memorySize.toNat ≤ mapping.mappedBytes.toNat
  apart : segments.Pairwise fun left right =>
    startOf mapping left + left.memorySize.toNat ≤ startOf mapping right ∨
      startOf mapping right + right.memorySize.toNat ≤ startOf mapping left
  filed : ∀ segment ∈ segments, ∀ index < segment.fileSize.toNat, ∃ byte,
    image[segment.fileOffset.toNat + index]? = some byte ∧
      resident[startOf mapping segment + index]? = some byte
  cleared : ∀ index < mapping.mappedBytes.toNat,
    (∀ segment ∈ segments, ¬ (startOf mapping segment ≤ index ∧
      index < startOf mapping segment + segment.fileSize.toNat)) → resident[index]? = some 0

/-- What a map leaves: the image in its allocation, or the memory as it was. -/
structure MaterializeLaw (layout : Layout) (owner : OwnerKey) (context : HostNativeMemoryContext)
    (image : List UInt8) (metadata : CodeObjectMetadata) (env : MapEnv) : Prop where
  materialized : ∀ mapping after,
    mapCodeObject layout owner context image metadata env = (.ok mapping, after) →
      ∃ resident, after.memory.readBytes owner
          { allocation := mapping.allocation.allocation
            offset := 0
            bytes := mapping.mappedBytes } true = some resident ∧
        Materialized image metadata.segments mapping resident
  restored : ∀ failure after,
    mapCodeObject layout owner context image metadata env = (.error failure, after) →
      Restored context after

/-- The patches of checked segments, on zeros, are the bytes of the mapping. -/
theorem materialized_of_patches {mapping : Mapping} {store : ℕ → UInt8}
    {segments : List LoadSegment}
    (checked : Checked image segments mapping.imageVirtualBase)
    (fits : ∀ segment ∈ segments,
      (segment.virtualAddress - mapping.imageVirtualBase).toNat + segment.memorySize.toNat ≤
        mapping.mappedBytes.toNat)
    (patched : store = Patch.applyAll
      (segments.map (segmentPatch image mapping.imageVirtualBase)) fun _ => 0) :
    Materialized image segments mapping ((List.range mapping.mappedBytes.toNat).map store) := by
  have start : ∀ segment ∈ segments,
      (segment.virtualAddress - mapping.imageVirtualBase).toNat = startOf mapping segment :=
    fun segment member => toNat_sub_exact (UInt64.le_iff_toNat_le.mp (checked.above segment member))
  have stays : ∀ segment ∈ segments,
      startOf mapping segment + segment.memorySize.toNat ≤ mapping.mappedBytes.toNat := by
    intro segment member
    rw [← start segment member]
    exact fits segment member
  have values : ∀ index < mapping.mappedBytes.toNat,
      ((List.range mapping.mappedBytes.toNat).map store)[index]? = some (store index) := by
    intro index below
    rw [List.getElem?_map, List.getElem?_range below, Option.map_some]
  -- segments that do not overlap are patches that do not overlap
  have patchesApart :
      (segments.map (segmentPatch image mapping.imageVirtualBase)).Pairwise Patch.Apart := by
    rw [List.pairwise_map]
    refine checked.apart.imp_of_mem ?_
    intro left right here there
    exact apart_of_overlap (checked.valid left here) (checked.valid right there)
      (checked.above left here) (checked.above right there)
  refine
    { length := by rw [List.length_map, List.length_range]
      inside := ?_
      apart := ?_
      filed := ?_
      cleared := ?_ }
  · intro segment member
    have larger := (fits_of_valid (checked.valid segment member)).1
    exact ⟨checked.above segment member, UInt64.le_iff_toNat_le.mpr larger, stays segment member⟩
  · refine checked.apart.imp_of_mem ?_
    intro left right here there apart
    rw [segmentsOverlap, Bool.or_eq_false_iff] at apart
    have disjoint := apart_of_rangesOverlap apart.2
    have aboveLeft := UInt64.le_iff_toNat_le.mp (checked.above left here)
    have aboveRight := UInt64.le_iff_toNat_le.mp (checked.above right there)
    rw [startOf, startOf]
    omega
  -- a byte of the file is that of the one patch which covers it
  · intro segment member index below
    have valid := checked.valid segment member
    obtain ⟨larger, -, inImage⟩ := fits_of_valid valid
    have stay := stays segment member
    have length := length_fileBytes valid
    refine ⟨image[segment.fileOffset.toNat + index], List.getElem?_eq_getElem (by omega), ?_⟩
    rw [values _ (by omega), patched]
    have covered : (segmentPatch image mapping.imageVirtualBase segment).covers
        (startOf mapping segment + index) := by
      rw [Patch.covers, length_segmentPatch valid, segmentPatch]
      dsimp only
      rw [start segment member]
      omega
    have within : startOf mapping segment + index -
        (segmentPatch image mapping.imageVirtualBase segment).first <
        (segmentPatch image mapping.imageVirtualBase segment).values.length := by
      have := covered.1
      have := covered.2
      omega
    rw [Patch.applyAll_of_mem patchesApart (List.mem_map_of_mem member) covered,
      @Patch.apply_of_covers _ _ _ _ within covered.1]
    simp only [segmentPatch, start segment member, Nat.add_sub_cancel_left]
    rw [List.getElem_append_left (by rw [length]; exact below), List.getElem_take,
      List.getElem_drop]
  -- any other byte is a zero from the start, or one that a patch holds behind its file bytes
  · intro index below outside
    rw [values index below, patched]
    refine congrArg some ?_
    refine @Patch.applyAll_induction _ _ _ index (· = 0) rfl ?_
    intro patch member value here found
    obtain ⟨segment, there, rfl⟩ := List.mem_map.mp member
    have valid := checked.valid segment there
    have length := length_fileBytes valid
    have notFiled := outside segment there
    obtain ⟨above, -⟩ := here
    simp only [segmentPatch] at above found
    rw [start segment there] at above found
    -- past the bytes of the file there are only zeros
    rw [List.getElem?_append_right (by omega)] at found
    exact List.eq_of_mem_replicate (List.mem_of_getElem? found)

/-- The bytes of an allocation that is whole, as they are read. -/
theorem Opened.readBytes {before now : HostNativeMemoryContext} {slot : Fin MaximumAllocations}
    {record : Allocation} {held : List PageLease} (opened : Opened before now slot record held)
    (nonempty : record.size ≠ 0) :
    now.memory.readBytes record.owner
        { allocation := handleOf slot record, offset := 0, bytes := record.size } true =
      some ((List.range record.size.toNat).map (contentsOf record)) := by
  have whole : rangeValid record
      { allocation := handleOf slot record, offset := 0, bytes := record.size } = true := by
    rw [HostGPUMemoryState.rangeValid_iff, UInt64.toNat_zero, Nat.zero_add]
  unfold HostGPUMemoryState.readBytes
  rw [opened.resolve]
  dsimp only
  rw [whole, if_neg (by simpa using nonempty), HostGPUMemoryState.bytesOf, ChunkMap.readLoop_eq,
    UInt64.toNat_zero, Nat.sub_zero, List.range_eq_range']
  rfl

/-- What a map needs before it copies anything: an allocation of its size, and a lease of it. -/
structure Granted (owner : OwnerKey) (context : HostNativeMemoryContext)
    (request : AllocationRequest) (env : MapEnv) (slot : Fin MaximumAllocations) : Prop where
  admitted : Admitted context.memory owner request env.allocates slot
  owned : context.owner = owner
  token : context.tokens.take ≠ none
  emplaces : env.emplaces = true
  reserves : env.reserves = true

/-- A map gets to a piece of file bytes whose copy into a transfer cannot be allocated, all copies
before it being made. -/
def LosesTransfer (layout : Layout) (owner : OwnerKey) (context : HostNativeMemoryContext)
    (image : List UInt8) (metadata : CodeObjectMetadata) (env : MapEnv) : Prop :=
  ∃ mappedBase mappedEnd slot earlier target later,
    validateMap layout context image metadata env = .ok (mappedBase, mappedEnd) ∧
      Granted owner context
        { size := mappedEnd - mappedBase, alignment := context.pageSize } env slot ∧
      metadata.segments.flatMap (segmentSteps (virtualAddress slot) mappedBase) =
        earlier ++ .file target :: later ∧
      (∀ passed ∈ earlier, passed.ends env = .written) ∧
      (env.writes target).copies = true ∧ (env.writes target).transfers = false

/-- How a map ends. -/
structure MapOutcome (layout : Layout) (owner : OwnerKey) (context : HostNativeMemoryContext)
    (image : List UInt8) (metadata : CodeObjectMetadata) (env : MapEnv)
    (reply : Except MapEnd Mapping × HostNativeMemoryContext) : Prop where
  materialized : ∀ mapping, reply.1 = .ok mapping →
    ∃ resident, reply.2.memory.readBytes owner
        { allocation := mapping.allocation.allocation
          offset := 0
          bytes := mapping.mappedBytes } true = some resident ∧
      Materialized image metadata.segments mapping resident
  restored : ∀ failure, reply.1 = .error (.failed failure) → Restored context reply.2
  leaked : reply.1 = .error .badAlloc →
    reply.2.memory.liveAllocations = context.memory.liveAllocations + 1
  thrown : reply.1 = .error .badAlloc ↔ LosesTransfer layout owner context image metadata env

theorem MapOutcome.failed {layout : Layout} {owner : OwnerKey} {env : MapEnv}
    {after : HostNativeMemoryContext} {failure : MapFailure} (restored : Restored context after)
    (kept : ¬ LosesTransfer layout owner context image metadata env) :
    MapOutcome layout owner context image metadata env (.error (.failed failure), after) where
  materialized := nofun
  restored _ _ := restored
  leaked := nofun
  thrown := ⟨nofun, fun lost => absurd lost kept⟩

/-- Of all copies only that of file bytes into a transfer is left by the failure of an
allocation. -/
theorem ends_eq_badAlloc {env : MapEnv} {step : CopyStep} :
    step.ends env = .badAlloc ↔ ∃ target, step = .file target ∧
      (env.writes target).copies = true ∧ (env.writes target).transfers = false := by
  -- what a clear needs is allocated inside of its try, so only copies of file bytes are left
  cases step with
  | file target =>
    have same : ∀ other, CopyStep.file target = .file other ↔ target = other :=
      fun other => ⟨CopyStep.file.inj, congrArg _⟩
    simp only [same, exists_eq_left']
    rw [CopyStep.ends, WriteEnv.ends]
    cases (env.writes target).copies <;> cases (env.writes target).transfers <;>
      cases (env.writes target).throwsAfter <;> simp
  | zeros address =>
    refine ⟨fun thrown => ?_, by rintro ⟨target, same, -⟩; cases same⟩
    rw [CopyStep.ends] at thrown
    split at thrown <;> cases thrown
  | clear target =>
    refine ⟨fun thrown => ?_, by rintro ⟨target, same, -⟩; cases same⟩
    rw [CopyStep.ends] at thrown
    split at thrown <;> cases thrown

/-- A map that is not granted its memory does not get to a copy. -/
theorem not_losesTransfer {layout : Layout} {owner : OwnerKey} {env : MapEnv}
    (validated : validateMap layout context image metadata env = .ok (mappedBase, mappedEnd))
    (denied : ∀ slot, ¬ Granted owner context
      { size := mappedEnd - mappedBase, alignment := context.pageSize } env slot) :
    ¬ LosesTransfer layout owner context image metadata env := by
  rintro ⟨_, _, slot, _, _, _, accepted, granted, -⟩
  obtain ⟨rfl, rfl⟩ := Prod.mk.inj (Except.ok.inj (validated.symm.trans accepted))
  exact denied slot granted

/-- A map that is granted its memory loses a transfer if the first copy that fails is such a
one. -/
theorem losesTransfer_iff {layout : Layout} {owner : OwnerKey} {env : MapEnv}
    {slot : Fin MaximumAllocations}
    (validated : validateMap layout context image metadata env = .ok (mappedBase, mappedEnd))
    (granted : Granted owner context
      { size := mappedEnd - mappedBase, alignment := context.pageSize } env slot) :
    LosesTransfer layout owner context image metadata env ↔
      firstEnd ((metadata.segments.flatMap (segmentSteps (virtualAddress slot) mappedBase)).map
        (CopyStep.ends env)) = .badAlloc := by
  rw [firstEnd_eq_badAlloc]
  constructor
  · rintro ⟨_, _, other, earlier, target, later, accepted, also, split, passed, lost⟩
    obtain ⟨rfl, rfl⟩ := Prod.mk.inj (Except.ok.inj (validated.symm.trans accepted))
    -- both are given the first slot that is free
    obtain rfl := Option.some.inj (granted.admitted.free.symm.trans also.admitted.free)
    exact ⟨earlier, .file target, later, split, passed, ends_eq_badAlloc.mpr ⟨target, rfl, lost⟩⟩
  · rintro ⟨earlier, step, later, split, passed, lost⟩
    obtain ⟨target, rfl, copies, transfers⟩ := ends_eq_badAlloc.mp lost
    exact ⟨mappedBase, mappedEnd, slot, earlier, target, later, validated, granted, split, passed,
      copies, transfers⟩

theorem mapOutcome (layout : Layout) (owner : OwnerKey) (sound : ContextSound context)
    (image : List UInt8) (metadata : CodeObjectMetadata) (env : MapEnv) :
    MapOutcome layout owner context image metadata env
      (mapCodeObject layout owner context image metadata env) := by
  have unchanged : ∀ generations, Restored context
      { context with memory := { context.memory with generations := generations } } :=
    fun _ => ⟨rfl, rfl, rfl, rfl, rfl, rfl⟩
  unfold mapCodeObject
  -- nothing has been touched while the request is checked
  cases validated : validateMap layout context image metadata env with
  | error failure =>
    refine .failed (unchanged _) ?_
    rintro ⟨mappedBase, mappedEnd, slot, earlier, target, later, accepted, -⟩
    rw [validated] at accepted
    cases accepted
  | ok span =>
  obtain ⟨mappedBase, mappedEnd⟩ := span
  obtain ⟨pages, nonempty, checked, stays⟩ := validateMap_spec validated
  have ungranted : (∀ slot, ¬ Granted owner context
      { size := mappedEnd - mappedBase, alignment := context.pageSize } env slot) →
      ¬ LosesTransfer layout owner context image metadata env := not_losesTransfer validated
  dsimp only
  generalize requested : ({ size := mappedEnd - mappedBase, alignment := context.pageSize } :
    AllocationRequest) = request at *
  have size : request.size = mappedEnd - mappedBase := by rw [← requested]
  -- the allocation is refused, or a slot that was free holds it now
  rcases opened_of_allocate context owner request env.allocates with
    ⟨generations, same, refused, denied⟩ | ⟨slot, generation, admitted, issued, accepted, opened⟩
  · rw [refused, if_pos (by decide), same]
    exact .failed (unchanged _) (ungranted fun slot granted => denied slot granted.admitted)
  have success : ¬ (!(Result.success (infoOf slot generation request.size
    request.alignment)).ok) = true := Bool.false_ne_true
  rw [accepted, ← size, if_neg success]
  have address : (Result.success (infoOf slot generation request.size
    request.alignment)).value.gpuVa = virtualAddress slot := rfl
  have handle : (Result.success (infoOf slot generation request.size
    request.alignment)).value.allocation = handleOf slot
      { owner := owner
        generation := generation
        size := request.size
        alignment := request.alignment } := rfl
  rw [address, handle]
  rw [← size] at nonempty stays
  obtain ⟨unmapped, mapped⟩ := opened.map sound rfl admitted.bounded nonempty pages rfl env.emplaces
  have own : ∀ chunks tokens, Own owner
      { owner := owner
        generation := generation
        size := request.size
        alignment := request.alignment
        chunks := chunks
        functionalPageTokens := tokens } := fun _ _ => ⟨rfl, admitted.byOwner, issued, rfl⟩
  generalize leased : HostNativeMemoryContext.map { context with
    memory := (context.memory.allocate owner request env.allocates).2 } (virtualAddress slot)
      request.size env.emplaces = reply at *
  obtain ⟨found, after⟩ := reply
  -- no lease: the allocation is freed again
  cases found with
  | none =>
    obtain ⟨opened, unable⟩ := unmapped rfl
    exact .failed (opened.rollback_unleased (own _ _) rfl) (ungranted fun other granted =>
      unable ⟨granted.owned.symm, granted.token, granted.emplaces⟩)
  | some lease =>
  obtain ⟨opened, taken, token, emplaces⟩ := mapped lease rfl
  dsimp only at opened ⊢
  split
  · rename_i full
    refine .failed (opened.rollback_leased (own _ _) taken) (ungranted fun other granted => ?_)
    rw [granted.reserves] at full
    cases full
  rename_i reserves
  have granted : Granted owner context request env slot :=
    { admitted := admitted
      owned := taken.owned.symm
      token := token
      emplaces := emplaces
      reserves := by simpa using reserves }
  -- with the lease of all its pages, every copy into the allocation is admitted
  have writable : Writable context slot
      { owner := owner
        generation := generation
        size := request.size
        alignment := request.alignment
        functionalPageTokens := {lease.token} } (lease :: context.leases) :=
    { bounded := admitted.bounded
      owned := taken.owned
      byOwner := admitted.byOwner
      issued := issued
      unpinned := rfl
      pages := pages
      leased := ⟨lease, List.mem_cons_self, taken.whole⟩ }
  have ends := copySegments_ends checked.valid opened writable stays env
  obtain ⟨chunks, copied, patched⟩ :=
    copySegments_opened checked.valid opened admitted.bounded env mappedBase
  have again : LeaseTaken context slot
      { owner := owner
        generation := generation
        size := request.size
        alignment := request.alignment
        chunks := chunks
        functionalPageTokens := {lease.token} } lease :=
    ⟨taken.valid, taken.about, taken.owned, rfl, { taken.whole with }, taken.fresh⟩
  dsimp only at copied patched ends
  -- the first copy that fails decides
  have thrown : endOf (copySegments env image (virtualAddress slot) mappedBase request.size
      metadata.segments after).1 = .badAlloc ↔
      LosesTransfer layout owner context image metadata env := by
    rw [ends]
    exact (losesTransfer_iff validated (requested.symm ▸ granted)).symm
  generalize copySegments env image (virtualAddress slot) mappedBase request.size
    metadata.segments after = reply at *
  obtain ⟨segments, later⟩ := reply
  cases segments with
  | error ended =>
    cases ended with
    -- nothing is rolled back here
    | badAlloc =>
      exact
        { materialized := nofun
          restored := nofun
          leaked := fun _ => copied.liveAllocations
          thrown := ⟨fun _ => thrown.mp rfl, fun _ => rfl⟩ }
    | failed failure =>
      exact .failed (copied.rollback_leased (own _ _) again) fun lost => nomatch thrown.mpr lost
  | ok segments =>
  have kept : ¬ LosesTransfer layout owner context image metadata env :=
    fun lost => nomatch thrown.mpr lost
  dsimp only at copied patched ⊢
  -- the entry is located after the copies, and they are rolled back if that fails
  generalize locateEntry layout metadata (virtualAddress slot) mappedBase request.size = entry
  cases entry with
  | error failure => exact .failed (copied.rollback_leased (own _ _) again) kept
  | ok entry =>
  obtain ⟨descriptorGpuVa, codeGpuVa, entryGpuVa⟩ := entry
  refine
    { materialized := ?_
      restored := nofun
      leaked := nofun
      thrown := ⟨nofun, fun lost => absurd lost kept⟩ }
  intro mapping done
  obtain rfl := Except.ok.inj done
  obtain ⟨fits, bytes⟩ := patched segments rfl
  exact ⟨_, copied.readBytes nonempty, materialized_of_patches checked fits bytes⟩

/-- A map puts the image into its allocation or changes nothing, unless it loses a transfer. -/
theorem materializeLaw_iff (layout : Layout) (owner : OwnerKey) (sound : ContextSound context)
    (image : List UInt8) (metadata : CodeObjectMetadata) (env : MapEnv) :
    MaterializeLaw layout owner context image metadata env ↔
      ¬ LosesTransfer layout owner context image metadata env := by
  obtain ⟨materialized, restored, leaked, thrown⟩ :=
    mapOutcome layout owner sound image metadata env
  constructor
  · intro law lost
    have more := leaked (thrown.mpr lost)
    have same := (law.restored .badAlloc _ (Prod.ext (thrown.mpr lost) rfl)).liveAllocations
    have count := congrArg UInt64.toNat (more.symm.trans same)
    have small := context.memory.liveAllocations.toNat_lt
    rw [UInt64.toNat_add, UInt64.toNat_one] at count
    omega
  · intro kept
    refine ⟨fun mapping after mapped => ?_, fun failure after failed => ?_⟩
    · rw [mapped] at materialized
      exact materialized mapping rfl
    · rw [failed] at restored thrown
      cases failure with
      | badAlloc => exact absurd (thrown.mp rfl) kept
      | failed failure => exact restored failure rfl

/-- In every state of every run a map puts the image into its allocation or changes nothing,
unless it loses a transfer. -/
theorem materializeLaw_iff_of_run (layout : Layout)
    (contextOwner mapperOwner boundOwner : OwnerKey) (pageSize : UInt64)
    (identities : Option DispatchIdentitySequence) (spaces : ℕ → SparseBytes)
    (inputs : List Input) (owner : OwnerKey) (image : List UInt8)
    (metadata : CodeObjectMetadata) (env : MapEnv) :
    MaterializeLaw layout owner
        (runFrom (HostNativeDispatchStateV2.step layout)
          (HostNativeDispatchStateV2.boot contextOwner mapperOwner boundOwner pageSize identities
            spaces) inputs).context
        image metadata env ↔
      ¬ LosesTransfer layout owner
        (runFrom (HostNativeDispatchStateV2.step layout)
          (HostNativeDispatchStateV2.boot contextOwner mapperOwner boundOwner pageSize identities
            spaces) inputs).context
        image metadata env := by
  have booted := HostNativeDispatchStateV2.sound_boot contextOwner mapperOwner boundOwner pageSize
    identities spaces
  have reached := (booted.advances_run layout inputs).sound
  exact materializeLaw_iff layout owner reached.context image metadata env

end Law

section Lost

open HostNativeDispatchStateV2

/-- The copy of the second segment into its transfer cannot be allocated. -/
def losingEnv : MapEnv where
  writes target := { transfers := target != 0x100000000000 }

/-- The map of the image is left past its rollback: its allocation and its lease are still there. -/
theorem materializeLaw_fails :
    (endOf (mapCodeObject permissiveLayout soleOwner freshState.context twoSegmentImage
        twoSegmentMetadata losingEnv).1 = .badAlloc ∧
      (mapCodeObject permissiveLayout soleOwner freshState.context twoSegmentImage
        twoSegmentMetadata losingEnv).2.memory.liveAllocations = 1 ∧
      (mapCodeObject permissiveLayout soleOwner freshState.context twoSegmentImage
        twoSegmentMetadata losingEnv).2.leases.length = 1) ∧
    ¬ MaterializeLaw permissiveLayout soleOwner freshState.context twoSegmentImage
      twoSegmentMetadata losingEnv := by
  have facts : endOf (mapCodeObject permissiveLayout soleOwner freshState.context twoSegmentImage
        twoSegmentMetadata losingEnv).1 = .badAlloc ∧
      (mapCodeObject permissiveLayout soleOwner freshState.context twoSegmentImage
        twoSegmentMetadata losingEnv).2.memory.liveAllocations = 1 ∧
      (mapCodeObject permissiveLayout soleOwner freshState.context twoSegmentImage
        twoSegmentMetadata losingEnv).2.leases.length = 1 := by
    decide +kernel
  refine ⟨facts, fun law => ?_⟩
  cases ended : mapCodeObject permissiveLayout soleOwner freshState.context twoSegmentImage
    twoSegmentMetadata losingEnv with
  | mk reply after =>
  rw [ended] at facts
  cases reply with
  | ok mapping => cases facts.1
  | error failure =>
    have none : after.leases.length = 0 :=
      congrArg List.length (law.restored failure after ended).leases
    rw [facts.2.2] at none
    cases none

end Lost

end GemSim.Dispatch
