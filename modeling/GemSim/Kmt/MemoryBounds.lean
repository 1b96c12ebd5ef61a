import GemSim.Kmt.Scenario
import GemSim.Kmt.Shape

/-!
# Bounds of memory access by GPU VA

A lookup that resolves names an allocation of the session that starts at or below the
address. The end test compares wrapped sums: an access that ends exactly at `2 ^ 64`
has the wrapped end zero, which lies below every end, so the test lets it through.

## Main definitions

* `AccessWithin` — the access lies in a live allocation of the owner, offsets included
* `BoundsHold` — every access that resolves lies within, and so do its transfers
* `EndsAtTop` — the access ends at `2 ^ 64` and one allocation starts below it

## Main results

* `memoryInfo_eq_some` — when a lookup resolves, and to what
* `boundsHold_iff` — the bounds hold exactly when the access does not end at the top
* `boundsHold_fails_at_top` — the last byte of the address space escapes its allocation
-/

namespace GemSim.Kmt

open GemSim.Lib HostGPUKmtState

section Lookup

variable {allocations : SlotTable MaximumAllocations Allocation} {session : Session}
  {gpuVa accessEnd : UInt64}

/-- The lookup loop accepts the allocation in a slot. -/
def AcceptsAt (allocations : SlotTable MaximumAllocations Allocation) (session : Session)
    (gpuVa accessEnd : UInt64) (slot : Fin MaximumAllocations) : Prop :=
  ∃ allocation, allocations slot = some allocation ∧
    lookupAccepts session gpuVa accessEnd allocation = true

/-- Once there is a hit, the loop keeps it if no later slot is accepted. -/
theorem lookupFrom_hit (slots : List (Fin MaximumAllocations)) (hit info : MemoryInfo) :
    lookupFrom allocations session gpuVa accessEnd slots (some hit) = some info ↔
      hit = info ∧ ∀ slot ∈ slots, ¬ AcceptsAt allocations session gpuVa accessEnd slot := by
  induction slots with
  | nil => simp [lookupFrom]
  | cons slot rest ih =>
    unfold lookupFrom
    cases found : allocations slot with
    | none =>
      have skipped : ¬ AcceptsAt allocations session gpuVa accessEnd slot := by
        rintro ⟨allocation, present, -⟩
        rw [found] at present
        cases present
      simp only [ih, List.forall_mem_cons, skipped, not_false_eq_true, true_and]
    | some allocation =>
      by_cases accepted : lookupAccepts session gpuVa accessEnd allocation = true
      · have here : AcceptsAt allocations session gpuVa accessEnd slot :=
          ⟨allocation, found, accepted⟩
        simp [accepted, here]
      · have skipped : ¬ AcceptsAt allocations session gpuVa accessEnd slot := by
          rintro ⟨other, present, accepts⟩
          rw [found] at present
          exact accepted (Option.some.inj present ▸ accepts)
        simp only [accepted, Bool.false_eq_true, if_false, ih, List.forall_mem_cons, skipped,
          not_false_eq_true, true_and]

/-- From scratch, the loop returns the one accepted slot of a list without repeats. -/
theorem lookupFrom_none {slots : List (Fin MaximumAllocations)} (distinct : slots.Nodup)
    (info : MemoryInfo) :
    lookupFrom allocations session gpuVa accessEnd slots none = some info ↔
      ∃ slot ∈ slots, ∃ allocation, allocations slot = some allocation ∧
        lookupAccepts session gpuVa accessEnd allocation = true ∧
        infoFor slot allocation = info ∧
        ∀ other ∈ slots, AcceptsAt allocations session gpuVa accessEnd other → other = slot := by
  induction slots with
  | nil => simp [lookupFrom]
  | cons first rest ih =>
    obtain ⟨notLater, restDistinct⟩ := List.nodup_cons.mp distinct
    have skip (skipped : ¬ AcceptsAt allocations session gpuVa accessEnd first) :
        (lookupFrom allocations session gpuVa accessEnd rest none = some info) ↔
          ∃ slot ∈ first :: rest, ∃ allocation, allocations slot = some allocation ∧
            lookupAccepts session gpuVa accessEnd allocation = true ∧
            infoFor slot allocation = info ∧ ∀ other ∈ first :: rest,
              AcceptsAt allocations session gpuVa accessEnd other → other = slot := by
      rw [ih restDistinct]
      constructor
      · rintro ⟨slot, member, allocation, present, accepted, same, alone⟩
        refine ⟨slot, List.mem_cons_of_mem _ member, allocation, present, accepted, same, ?_⟩
        intro other inside accepts
        rcases List.mem_cons.mp inside with rfl | later
        · exact absurd accepts skipped
        · exact alone other later accepts
      · rintro ⟨slot, member, allocation, present, accepted, same, alone⟩
        rcases List.mem_cons.mp member with rfl | later
        · exact absurd ⟨allocation, present, accepted⟩ skipped
        · exact ⟨slot, later, allocation, present, accepted, same, fun other inside =>
            alone other (List.mem_cons_of_mem _ inside)⟩
    unfold lookupFrom
    cases found : allocations first with
    | none =>
      refine skip ?_
      rintro ⟨allocation, present, -⟩
      rw [found] at present
      cases present
    | some allocation =>
      by_cases accepted : lookupAccepts session gpuVa accessEnd allocation = true
      · simp only [accepted, if_true]
        rw [lookupFrom_hit]
        constructor
        · rintro ⟨same, noOther⟩
          refine ⟨first, List.mem_cons_self, allocation, found, accepted, same, ?_⟩
          intro other inside accepts
          rcases List.mem_cons.mp inside with rfl | later
          · rfl
          · exact absurd accepts (noOther other later)
        · rintro ⟨slot, -, other, present, -, same, alone⟩
          have here := alone first List.mem_cons_self ⟨allocation, found, accepted⟩
          subst here
          rw [found] at present
          obtain rfl := Option.some.inj present
          refine ⟨same, fun slot later accepts => notLater ?_⟩
          rwa [← alone slot (List.mem_cons_of_mem _ later) accepts]
      · simp only [accepted, Bool.false_eq_true, if_false]
        refine skip ?_
        rintro ⟨other, present, accepts⟩
        rw [found] at present
        exact accepted (Option.some.inj present ▸ accepts)

end Lookup

section Access

variable {state : HostGPUKmtState} {transportOwner : Owner}
  {ownerId ownerGeneration gpuVa byteCount : UInt64}

/-- When a lookup resolves: the session is open, the range does not pass `2 ^ 64`, and
exactly one slot is accepted. -/
theorem memoryInfo_eq_some (info : MemoryInfo) :
    state.memoryInfo transportOwner ownerId ownerGeneration gpuVa byteCount = some info ↔
      ∃ index session slot allocation,
        state.findSessionAs transportOwner ownerId ownerGeneration = some (index, session) ∧
        byteCount ≠ 0 ∧ gpuVa.toNat + byteCount.toNat ≤ 2 ^ 64 ∧
        state.allocations slot = some allocation ∧
        lookupAccepts session gpuVa (gpuVa + byteCount) allocation = true ∧
        infoFor slot allocation = info ∧
        ∀ other, AcceptsAt state.allocations session gpuVa (gpuVa + byteCount) other →
          other = slot := by
  unfold memoryInfo
  cases found : state.findSessionAs transportOwner ownerId ownerGeneration with
  | none => simp
  | some entry =>
    obtain ⟨index, session⟩ := entry
    by_cases empty : byteCount = 0
    · simp [empty]
    · have guard : gpuVa > u64Max - (byteCount - 1) ↔
          ¬ gpuVa.toNat + byteCount.toNat ≤ 2 ^ 64 := by
        have positive := ne_zero_iff_toNat_pos.mp empty
        rw [gt_iff_lt, max_sub_lt_iff, toNat_pred empty]
        omega
      simp only [empty, false_or, guard]
      by_cases fits : gpuVa.toNat + byteCount.toNat ≤ 2 ^ 64
      · simp only [fits, not_true_eq_false, if_false]
        rw [lookupFrom_none (List.nodup_finRange _)]
        constructor
        · rintro ⟨slot, -, allocation, present, accepted, same, alone⟩
          exact ⟨index, session, slot, allocation, rfl, empty, trivial, present, accepted, same,
            fun other => alone other (List.mem_finRange other)⟩
        · rintro ⟨_, _, slot, allocation, sameSession, -, -, present, accepted, same, alone⟩
          obtain ⟨rfl, rfl⟩ := Prod.mk.inj (Option.some.inj sameSession)
          exact ⟨slot, List.mem_finRange slot, allocation, present, accepted, same,
            fun other _ => alone other⟩
      · rw [if_pos fits]
        constructor
        · intro resolved
          cases resolved
        · rintro ⟨-, -, -, -, -, -, within, -⟩
          exact absurd within fits

/-- The acceptance tests of a well-shaped allocation, as statements about numbers. -/
theorem lookupAccepts_iff {session : Session} {accessEnd : UInt64} {allocation : Allocation}
    (shaped : allocation.WellShaped) :
    lookupAccepts session gpuVa accessEnd allocation = true ↔
      session.owns allocation.toIdentity = true ∧ allocation.virtualAddress ≠ 0 ∧
        allocation.virtualAddress.toNat ≤ gpuVa.toNat ∧
        accessEnd.toNat ≤ allocation.virtualAddress.toNat + allocation.size.toNat := by
  have noWrap : ¬ allocation.virtualAddress > u64Max - allocation.size := by
    rw [gt_iff_lt, UInt64.not_lt]
    exact le_max_sub_iff.mpr shaped.virtualFits
  have allocationEnd := toNat_add_exact shaped.virtualFits
  simp only [lookupAccepts, noWrap, decide_false, Bool.or_false, Session.owns, Bool.and_eq_true,
    Bool.not_eq_true', Bool.or_eq_false_iff, bne_eq_false_iff_eq, beq_eq_false_iff_ne,
    decide_eq_false_iff_not, UInt64.not_lt, gt_iff_lt, beq_iff_eq, UInt64.le_iff_toNat_le,
    allocationEnd]
  tauto

/-- The access lies in a live allocation of the owner: the VA range, every relative
offset a transfer uses, and every backing offset. -/
structure AccessWithin (state : HostGPUKmtState)
    (ownerId ownerGeneration gpuVa byteCount : UInt64) (info : MemoryInfo)
    (slot : Fin MaximumAllocations) (allocation : Allocation) : Prop where
  live : state.allocations slot = some allocation
  owner : allocation.ownerId = ownerId ∧ allocation.ownerGeneration = ownerGeneration
  record : infoFor slot allocation = info
  above : allocation.virtualAddress.toNat ≤ gpuVa.toNat
  below : gpuVa.toNat + byteCount.toNat ≤
    allocation.virtualAddress.toNat + allocation.size.toNat
  offsets : ∀ offset ∈ touched (gpuVa - info.gpuVa) byteCount.toNat,
    offset.toNat < allocation.size.toNat
  backing : ∀ offset ∈ touched (gpuVa - info.gpuVa) byteCount.toNat,
    (allocation.mmapOffset + offset).toNat = allocation.mmapOffset.toNat + offset.toNat ∧
      (allocation.mmapOffset + offset).toNat <
        allocation.mmapOffset.toNat + allocation.size.toNat

/-- Every access of the range that resolves lies within a live allocation of the owner;
reads and writes keep to the bytes below its size. -/
structure BoundsHold (state : HostGPUKmtState) (transportOwner : Owner)
    (ownerId ownerGeneration gpuVa byteCount : UInt64) : Prop where
  resolves : ∀ info,
    state.memoryInfo transportOwner ownerId ownerGeneration gpuVa byteCount = some info →
      ∃ slot allocation,
        AccessWithin state ownerId ownerGeneration gpuVa byteCount info slot allocation
  reads : ∀ bytes,
    state.readMemory transportOwner ownerId ownerGeneration gpuVa byteCount = some bytes →
      ∃ info slot allocation,
        AccessWithin state ownerId ownerGeneration gpuVa byteCount info slot allocation ∧
          bytes = (touched (gpuVa - info.gpuVa) byteCount.toNat).map allocation.bytes
  writes : ∀ source,
    (state.writeMemory transportOwner ownerId ownerGeneration gpuVa source byteCount).1 = true →
      ∃ info slot allocation bytes,
        AccessWithin state ownerId ownerGeneration gpuVa byteCount info slot allocation ∧
          (state.writeMemory transportOwner ownerId ownerGeneration gpuVa source byteCount).2 =
            state.withAllocation slot { allocation with bytes := bytes } ∧
          ∀ offset, allocation.size.toNat ≤ offset.toNat →
            bytes offset = allocation.bytes offset

/-- The slot holds an allocation of the session at a nonzero VA not above the address. -/
def StartsBelow (state : HostGPUKmtState) (session : Session) (gpuVa : UInt64)
    (slot : Fin MaximumAllocations) : Prop :=
  ∃ allocation, state.allocations slot = some allocation ∧
    session.owns allocation.toIdentity = true ∧ allocation.virtualAddress ≠ 0 ∧
    allocation.virtualAddress.toNat ≤ gpuVa.toNat

/-- The access ends exactly at `2 ^ 64`, and exactly one allocation of its session starts
at a nonzero VA not above it. -/
def EndsAtTop (state : HostGPUKmtState) (transportOwner : Owner)
    (ownerId ownerGeneration gpuVa byteCount : UInt64) : Prop :=
  gpuVa.toNat + byteCount.toNat = 2 ^ 64 ∧
    ∃ index session,
      state.findSessionAs transportOwner ownerId ownerGeneration = some (index, session) ∧
        ∃! slot, StartsBelow state session gpuVa slot

/-- An access inside a well-shaped allocation uses only its offsets and its span. -/
theorem touched_within {allocation : Allocation} (shaped : allocation.WellShaped)
    (above : allocation.virtualAddress.toNat ≤ gpuVa.toNat)
    (below : gpuVa.toNat + byteCount.toNat ≤
      allocation.virtualAddress.toNat + allocation.size.toNat)
    {offset : UInt64}
    (member : offset ∈ touched (gpuVa - allocation.virtualAddress) byteCount.toNat) :
    offset.toNat < allocation.size.toNat ∧
      (allocation.mmapOffset + offset).toNat = allocation.mmapOffset.toNat + offset.toNat := by
  have relative := toNat_sub_exact above
  have bound := shaped.virtualFits
  obtain ⟨-, last⟩ := (touched_bounds (by rw [relative]; omega)).mp member
  rw [relative] at last
  have inside : offset.toNat < allocation.size.toNat := by omega
  have fits := shaped.backingFits
  exact ⟨inside, toNat_add_exact (by omega)⟩

/-- With all allocations well shaped, an access that does not end at `2 ^ 64` lies within
the allocation it resolves to. -/
theorem accessWithin_of_lookup (shaped : Shaped state) {info : MemoryInfo} {index session slot}
    {allocation : Allocation}
    (found : state.findSessionAs transportOwner ownerId ownerGeneration = some (index, session))
    (present : state.allocations slot = some allocation)
    (accepted : lookupAccepts session gpuVa (gpuVa + byteCount) allocation = true)
    (record : infoFor slot allocation = info)
    (short : gpuVa.toNat + byteCount.toNat < 2 ^ 64) :
    AccessWithin state ownerId ownerGeneration gpuVa byteCount info slot allocation := by
  have wellShaped := shaped.allocations slot allocation present
  obtain ⟨owned, -, above, below⟩ := (lookupAccepts_iff wellShaped).mp accepted
  rw [toNat_add_exact short] at below
  obtain ⟨-, -, sameOwner, sameGeneration⟩ := findSessionAs_spec found
  simp only [Session.owns, Bool.and_eq_true, beq_iff_eq] at owned
  subst record
  exact
    { live := present
      owner := ⟨owned.1.trans sameOwner, owned.2.trans sameGeneration⟩
      record := rfl
      above := above
      below := below
      offsets := fun offset member => (touched_within wellShaped above below member).1
      backing := fun offset member => by
        obtain ⟨inside, exact⟩ := touched_within wellShaped above below member
        exact ⟨exact, by rw [exact]; omega⟩ }

/-- At the top of the address space acceptance forgets the end test. -/
theorem acceptsAt_top (shaped : Shaped state) {session : Session}
    (top : gpuVa.toNat + byteCount.toNat = 2 ^ 64) (slot : Fin MaximumAllocations) :
    AcceptsAt state.allocations session gpuVa (gpuVa + byteCount) slot ↔
      StartsBelow state session gpuVa slot := by
  refine exists_congr fun allocation => and_congr_right fun present => ?_
  rw [lookupAccepts_iff (shaped.allocations slot allocation present), add_eq_zero_of_full top,
    UInt64.toNat_zero]
  simp only [Nat.zero_le, and_true]

/-- The allocation an info record of a lookup names is the one the lookup accepted. -/
theorem infoFor_of_allocationOf {info : MemoryInfo} {slot : Fin MaximumAllocations}
    {allocation : Allocation}
    (resolved :
      state.memoryInfo transportOwner ownerId ownerGeneration gpuVa byteCount = some info)
    (located : state.allocationOf info = some (slot, allocation)) :
    state.allocations slot = some allocation ∧ infoFor slot allocation = info := by
  obtain ⟨-, -, accepted, found, -, -, -, present, -, record, -⟩ :=
    (memoryInfo_eq_some info).mp resolved
  obtain ⟨live, sameSlot, -⟩ := allocationOf_spec located
  have small : accepted.val < 1024 := accepted.isLt
  have here : slot = accepted := by
    refine Fin.ext ?_
    rw [← sameSlot, ← record]
    exact idSlot_makeId (by decide) (by omega)
  subst here
  refine ⟨live, ?_⟩
  rw [present] at live
  rwa [← Option.some.inj live]

/-- A read returns the bytes at the touched offsets of the allocation it resolves to. -/
theorem readMemory_eq_some {bytes : List UInt8}
    (read : state.readMemory transportOwner ownerId ownerGeneration gpuVa byteCount = some bytes) :
    ∃ info slot allocation,
      state.memoryInfo transportOwner ownerId ownerGeneration gpuVa byteCount = some info ∧
        state.allocations slot = some allocation ∧ infoFor slot allocation = info ∧
        bytes = (touched (gpuVa - info.gpuVa) byteCount.toNat).map allocation.bytes := by
  unfold readMemory at read
  split at read
  · cases read
  · split at read
    · cases read
    · rename_i info resolved
      split at read
      · cases read
      · rename_i slot allocation located
        obtain ⟨live, record⟩ := infoFor_of_allocationOf resolved located
        exact ⟨info, slot, allocation, resolved, live, record, (Option.some.inj read).symm⟩

/-- A write changes only bytes at the touched offsets of the allocation it resolves to. -/
theorem writeMemory_frame {source : ℕ → UInt8}
    (wrote : (state.writeMemory transportOwner ownerId ownerGeneration gpuVa source
      byteCount).1 = true) :
    ∃ info slot allocation bytes,
      state.memoryInfo transportOwner ownerId ownerGeneration gpuVa byteCount = some info ∧
        state.allocations slot = some allocation ∧ infoFor slot allocation = info ∧
        (state.writeMemory transportOwner ownerId ownerGeneration gpuVa source byteCount).2 =
          state.withAllocation slot { allocation with bytes := bytes } ∧
        ∀ offset, offset ∉ touched (gpuVa - info.gpuVa) byteCount.toNat →
          bytes offset = allocation.bytes offset := by
  revert wrote
  unfold writeMemory
  split
  · exact fun wrote => Bool.noConfusion wrote
  · split
    · exact fun wrote => Bool.noConfusion wrote
    · rename_i info resolved
      split
      · exact fun wrote => Bool.noConfusion wrote
      · rename_i slot allocation located
        intro _
        obtain ⟨live, record⟩ := infoFor_of_allocationOf resolved located
        exact ⟨info, slot, allocation, _, resolved, live, record, rfl,
          fun offset outside => storeBytes_frame _ _ _ _ outside⟩

/-- An access that does not end at the top lies within, and so do its reads and writes. -/
theorem boundsHold_of_not_top (shaped : Shaped state)
    (below : ¬ EndsAtTop state transportOwner ownerId ownerGeneration gpuVa byteCount) :
    BoundsHold state transportOwner ownerId ownerGeneration gpuVa byteCount := by
  have resolves : ∀ info,
      state.memoryInfo transportOwner ownerId ownerGeneration gpuVa byteCount = some info →
        ∃ slot allocation,
          AccessWithin state ownerId ownerGeneration gpuVa byteCount info slot allocation := by
    intro info resolved
    obtain ⟨index, session, slot, allocation, found, -, fits, present, accepted, record, alone⟩ :=
      (memoryInfo_eq_some info).mp resolved
    refine ⟨slot, allocation, accessWithin_of_lookup shaped found present accepted record ?_⟩
    rcases Nat.lt_or_eq_of_le fits with short | top
    · exact short
    · refine absurd ⟨top, index, session, found, slot, ?_, fun other starts => ?_⟩ below
      · exact (acceptsAt_top shaped top slot).mp ⟨allocation, present, accepted⟩
      · exact alone other ((acceptsAt_top shaped top other).mpr starts)
  -- The lookup decides which allocation a transfer uses, so both transfers inherit its bounds.
  have same : ∀ {info : MemoryInfo} {slot found : Fin MaximumAllocations}
      {allocation live : Allocation},
      AccessWithin state ownerId ownerGeneration gpuVa byteCount info slot allocation →
      state.allocations found = some live → infoFor found live = info →
      AccessWithin state ownerId ownerGeneration gpuVa byteCount info found live := by
    intro info slot found allocation live within present record
    have slotSmall : slot.val < 1024 := slot.isLt
    have foundSmall : found.val < 1024 := found.isLt
    have sameId : makeId AllocationPrefix slot = makeId AllocationPrefix found :=
      congrArg MemoryInfo.objectId (within.record.trans record.symm)
    have here : slot = found :=
      Fin.ext ((makeId_inj (by decide) (by omega) (by omega)).mp sameId)
    subst here
    have equal := within.live
    rw [present] at equal
    rwa [Option.some.inj equal]
  refine ⟨resolves, fun bytes read => ?_, fun source wrote => ?_⟩
  · obtain ⟨info, found, live, resolved, present, record, returned⟩ := readMemory_eq_some read
    obtain ⟨slot, allocation, within⟩ := resolves info resolved
    exact ⟨info, found, live, same within present record, returned⟩
  · obtain ⟨info, found, live, bytes, resolved, present, record, after, frame⟩ :=
      writeMemory_frame wrote
    obtain ⟨slot, allocation, within⟩ := resolves info resolved
    have here := same within present record
    refine ⟨info, found, live, bytes, here, after, fun offset beyond => frame offset ?_⟩
    intro member
    exact absurd (here.offsets offset member) (by omega)

/-- In every reachable state an access keeps to the bounds of the allocation it resolves
to exactly when it does not end at the top of the address space over one allocation. -/
theorem boundsHold_iff (reach : KmtReachable state) :
    BoundsHold state transportOwner ownerId ownerGeneration gpuVa byteCount ↔
      ¬ EndsAtTop state transportOwner ownerId ownerGeneration gpuVa byteCount := by
  have shaped := shaped_of_reachable reach
  refine ⟨fun holds => ?_, boundsHold_of_not_top shaped⟩
  rintro ⟨top, index, session, found, slot, starts, alone⟩
  obtain ⟨allocation, present, accepted⟩ := (acceptsAt_top shaped top slot).mpr starts
  have positive : byteCount ≠ 0 := by
    have bound := gpuVa.toNat_lt
    rw [ne_zero_iff_toNat_pos]
    omega
  have resolved : state.memoryInfo transportOwner ownerId ownerGeneration gpuVa byteCount =
      some (infoFor slot allocation) :=
    (memoryInfo_eq_some _).mpr ⟨index, session, slot, allocation, found, positive, top.le, present,
      accepted, rfl, fun other accepts => alone other ((acceptsAt_top shaped top other).mp accepts)⟩
  obtain ⟨other, live, within⟩ := holds.resolves _ resolved
  have ends := (shaped.allocations other live within.live).virtualFits
  have reaches := within.below
  omega

end Access

section Examples

/-- The bounds hold of an access inside the page. -/
theorem boundsHold_userptrRun :
    BoundsHold (runFrom step bootState (userptrRun 0x1000 0x1000)) clientOwner clientOwnerId 1
      0x1010 16 :=
  (boundsHold_iff (reachable_boot _)).mpr fun top => absurd top.1 (by decide)

/-- The last byte of the address space resolves to the page at `0x1000`. -/
theorem boundsHold_fails_at_top :
    ¬ ∀ (state : HostGPUKmtState), KmtReachable state →
      ∀ (transportOwner : Owner) (ownerId ownerGeneration gpuVa byteCount : UInt64),
        byteCount ≠ 0 →
          BoundsHold state transportOwner ownerId ownerGeneration gpuVa byteCount := by
  intro always
  have holds := always _ (reachable_boot (userptrRun 0x1000 0x1000)) clientOwner clientOwnerId 1
    0xffffffffffffffff 1 (by decide)
  have resolved : ((runFrom step bootState (userptrRun 0x1000 0x1000)).memoryInfo clientOwner
      clientOwnerId 1 0xffffffffffffffff 1).map (fun info => (info.gpuVa, info.size)) =
        some (0x1000, 0x1000) := by decide +kernel
  obtain ⟨info, found, same⟩ := Option.map_eq_some_iff.mp resolved
  obtain ⟨slot, allocation, within⟩ := holds.resolves info found
  obtain ⟨sameVa, sameSize⟩ := Prod.mk.inj same
  have address : allocation.virtualAddress = 0x1000 :=
    (congrArg MemoryInfo.gpuVa within.record).trans sameVa
  have bytes : allocation.size = 0x1000 := (congrArg MemoryInfo.size within.record).trans sameSize
  have ends := within.below
  rw [address, bytes] at ends
  exact absurd ends (by decide)

end Examples

end GemSim.Kmt
