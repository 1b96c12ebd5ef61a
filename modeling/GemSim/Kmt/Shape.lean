import GemSim.Kmt.Preserve

/-!
# Shapes of live allocations

Every live allocation, whichever path placed it, is nonempty and ends below `2 ^ 64`
both as a VA range and as a range of the backing.

## Main definitions

* `Allocation.WellShaped` — the range facts of one allocation
* `Shaped` — every live allocation is well shaped, every exported backing is large
  enough for its control region

## Main results

* `shaped_preserved`, `shaped_of_reachable`
-/

namespace GemSim.Kmt

open GemSim.Lib HostGPUKmtState

section Definitions

/-- Bytes of the backing the allocation occupies. -/
def Allocation.span (allocation : Allocation) : UInt64 :=
  backingSpan (isDoorbell allocation.memoryFlags) allocation.size

structure Allocation.WellShaped (allocation : Allocation) : Prop where
  sizePos : 0 < allocation.size.toNat
  virtualFits : allocation.virtualAddress.toNat + allocation.size.toNat < 2 ^ 64
  backingFits : allocation.mmapOffset.toNat + allocation.size.toNat < 2 ^ 64
  spanFits : isUserptr allocation.memoryFlags = false →
    allocation.size.toNat ≤ allocation.span.toNat ∧
      allocation.mmapOffset.toNat + allocation.span.toNat < 2 ^ 64

/-- The invariant of this file. -/
structure Shaped (state : HostGPUKmtState) : Prop where
  backed : ∀ slot session, state.sessions slot = some session →
    session.sharedBackingExported = true →
    KmtSharedBackingDoorbellRegionBytes.toNat ≤ session.sharedBackingBytes.toNat
  allocations : ∀ slot allocation, state.allocations slot = some allocation →
    allocation.WellShaped

end Definitions

section Placement

variable {session : Session}

@[simp] theorem toNat_doorbellRegion : KmtSharedBackingDoorbellRegionBytes.toNat = 8192 := rfl

@[simp] theorem toNat_backingAlignment : KmtSharedBackingAlignmentBytes.toNat = 2 ^ 12 := rfl

@[simp] theorem backingSpan_doorbell (size : UInt64) :
    backingSpan true size = KmtSharedBackingDoorbellRegionBytes := rfl

/-- The span of ordinary memory is the size rounded up, where that fits a word. -/
theorem toNat_backingSpan {size : UInt64} (fits : size.toNat + 4095 < 2 ^ 64) :
    (backingSpan false size).toNat = roundUp size.toNat 4096 :=
  toNat_roundUp toNat_backingAlignment fits

theorem le_backingSpan {size : UInt64} (fits : size.toNat + 4095 < 2 ^ 64) :
    size.toNat ≤ (backingSpan false size).toNat := by
  rw [toNat_backingSpan fits]
  exact le_roundUp (by decide)

theorem legacySizeValid_bounds {legacyTotalBytes size alignment : UInt64}
    (valid : legacySizeValid legacyTotalBytes size alignment = true) :
    0 < size.toNat ∧ size.toNat ≤ 2 ^ 31 ∧ size ≤ MaximumTotalBytes - legacyTotalBytes := by
  simp only [legacySizeValid, Bool.not_eq_true', Bool.or_eq_false_iff, beq_eq_false_iff_ne,
    decide_eq_false_iff_not, UInt64.not_lt, gt_iff_lt] at valid
  obtain ⟨⟨⟨⟨⟨nonzero, small⟩, -⟩, -⟩, -⟩, room⟩ := valid
  exact ⟨ne_zero_iff_toNat_pos.mp nonzero, UInt64.le_iff_toNat_le.mp small, room⟩

theorem toNat_legacyVirtualAddress (slot : Fin MaximumAllocations) :
    (legacyVirtualAddress slot).toNat = 2 ^ 45 + slot.val * 2 ^ 31 := by
  have small : slot.val < 1024 := slot.isLt
  have index : (UInt64.ofNat slot.val).toNat = slot.val := by
    rw [UInt64.toNat_ofNat', Nat.mod_eq_of_lt (by omega)]
  have stride : VirtualAddressStride.toNat = 2 ^ 31 := rfl
  have base : VirtualAddressBase.toNat = 2 ^ 45 := rfl
  rw [legacyVirtualAddress, UInt64.toNat_add, UInt64.toNat_mul, index, stride, base]
  omega

/-- What the address checks of the of-GPU path leave over. -/
theorem gpuRequestValid_bounds {virtualAddress size mmapOffset : UInt64}
    {gpuId memoryFlags : UInt32}
    (valid : gpuRequestValid session virtualAddress size mmapOffset gpuId memoryFlags = true) :
    0 < size.toNat ∧ virtualAddress.toNat + size.toNat < 2 ^ 64 ∧
      (isUserptr memoryFlags = true → mmapOffset.toNat + size.toNat < 2 ^ 64) := by
  simp only [gpuRequestValid, Bool.not_eq_true', Bool.or_eq_false_iff, beq_eq_false_iff_ne,
    decide_eq_false_iff_not, UInt64.not_lt, gt_iff_lt] at valid
  obtain ⟨⟨⟨⟨⟨⟨-, nonzero⟩, virtualFits⟩, -⟩, -⟩, userptr⟩, -⟩ := valid
  refine ⟨ne_zero_iff_toNat_pos.mp nonzero, le_max_sub_iff.mp virtualFits, fun isUser => ?_⟩
  rw [isUser, Bool.true_and, decide_eq_false_iff_not, UInt64.not_lt] at userptr
  exact le_max_sub_iff.mp userptr

/-- What the placement checks in the shared backing leave over: the span of a doorbell
allocation is the control region, any other ends below it. -/
theorem backingRefusal_none {size mmapOffset : UInt64} {doorbell : Bool}
    {allocations : SlotTable MaximumAllocations Allocation}
    (accepted : backingRefusal session size mmapOffset doorbell allocations = none) :
    session.sharedBackingExported = true ∧
      (doorbell = true → size = KmtSharedBackingDoorbellRegionBytes ∧
        mmapOffset = session.sharedBackingBytes - KmtSharedBackingDoorbellRegionBytes) ∧
      (doorbell = false → size.toNat + 4095 < 2 ^ 64 ∧
        mmapOffset.toNat + (backingSpan false size).toNat ≤
          (session.sharedBackingBytes - KmtSharedBackingDoorbellRegionBytes).toNat) ∧
      backingOverlap allocations session mmapOffset (backingSpan doorbell size) = false := by
  unfold backingRefusal at accepted
  dsimp only at accepted
  split at accepted
  · cases accepted
  rename_i exported
  split at accepted
  · cases accepted
  rename_i region
  split at accepted
  · cases accepted
  rename_i rounding
  split at accepted
  · cases accepted
  rename_i ordinary
  split at accepted
  · cases accepted
  rename_i apart
  refine ⟨by simpa using exported, fun isDoor => ?_, fun notDoor => ?_, by simpa using apart⟩
  · simpa [isDoor] using region
  · simp only [notDoor, Bool.not_false, Bool.true_and, decide_eq_true_eq, gt_iff_lt,
      UInt64.not_lt] at rounding
    simp only [notDoor, Bool.not_false, Bool.true_and, Bool.or_eq_true, decide_eq_true_eq,
      gt_iff_lt, not_or, UInt64.not_lt] at ordinary
    obtain ⟨offsetLe, spanLe⟩ := ordinary
    rw [UInt64.le_iff_toNat_le] at offsetLe spanLe
    rw [toNat_sub_exact offsetLe] at spanLe
    have fits := le_max_sub_iff.mp rounding
    have unit : (KmtSharedBackingAlignmentBytes - 1).toNat = 4095 := by decide
    rw [unit] at fits
    exact ⟨fits, by omega⟩

@[simp] theorem legacyAllocation_span (generation size alignment : UInt64)
    (slot : Fin MaximumAllocations) :
    (legacyAllocation session generation size alignment slot).span = backingSpan false size := by
  have ordinary : isDoorbell 0 = false := by decide
  rw [Allocation.span, legacyAllocation, ordinary]

/-- Shapes do not depend on mappings, bytes or pins. -/
theorem Allocation.WellShaped.rewrite {allocation : Allocation}
    (wellShaped : allocation.WellShaped) (mappedGpuIds : List UInt32) (bytes : SparseBytes)
    (dispatchPins : Finset UInt64) :
    ({ allocation with
      mappedGpuIds := mappedGpuIds, bytes := bytes, dispatchPins := dispatchPins } :
        Allocation).WellShaped :=
  ⟨wellShaped.sizePos, wellShaped.virtualFits, wellShaped.backingFits, wellShaped.spanFits⟩

/-- Both placement paths produce well-shaped allocations. -/
theorem wellShaped_of_placed {state : HostGPUKmtState} {call : Call} {generation : UInt64}
    {slot : Fin MaximumAllocations} {allocation : Allocation}
    (backed : call.session.sharedBackingExported = true →
      KmtSharedBackingDoorbellRegionBytes.toNat ≤ call.session.sharedBackingBytes.toNat)
    (placed : Placed state call generation slot allocation) : allocation.WellShaped := by
  cases placed with
  | legacy _ _ sized =>
    obtain ⟨positive, small, -⟩ := legacySizeValid_bounds sized
    have address := toNat_legacyVirtualAddress slot
    have below : slot.val < 1024 := slot.isLt
    have fits : (splitWords call.request.argumentWords 1 2).toNat + 4095 < 2 ^ 64 := by omega
    have span : (backingSpan false (splitWords call.request.argumentWords 1 2)).toNat ≤
        2 ^ 31 + 4095 := by
      rw [toNat_backingSpan fits, roundUp]
      have := Nat.div_mul_le_self ((splitWords call.request.argumentWords 1 2).toNat + 4095) 4096
      omega
    refine ⟨positive, ?_, ?_, fun _ => ?_⟩
    · change (legacyVirtualAddress slot).toNat + _ < _
      rw [address]
      change _ + (splitWords call.request.argumentWords 1 2).toNat < _
      omega
    · change (0 : UInt64).toNat + (splitWords call.request.argumentWords 1 2).toNat < _
      rw [UInt64.toNat_zero]
      omega
    · rw [legacyAllocation_span]
      refine ⟨le_backingSpan fits, ?_⟩
      change (0 : UInt64).toNat + _ < _
      rw [UInt64.toNat_zero]
      omega
  | @gpu virtualAddress size mmapOffset gpuId memoryFlags valid _ _ accepted =>
    obtain ⟨positive, virtualFits, userptrFits⟩ := gpuRequestValid_bounds valid
    cases user : isUserptr memoryFlags with
    | true =>
      exact ⟨positive, virtualFits, userptrFits user,
        fun ordinary => Bool.noConfusion (user.symm.trans ordinary)⟩
    | false =>
      obtain ⟨exported, region, ordinary, -⟩ := backingRefusal_none (accepted user)
      have large := backed exported
      have bound := call.session.sharedBackingBytes.toNat_lt
      have ordinaryBytes : (call.session.sharedBackingBytes -
          KmtSharedBackingDoorbellRegionBytes).toNat =
          call.session.sharedBackingBytes.toNat - 8192 := toNat_sub_exact large
      rw [toNat_doorbellRegion] at large
      have spans : size.toNat ≤ (backingSpan (isDoorbell memoryFlags) size).toNat ∧
          mmapOffset.toNat + (backingSpan (isDoorbell memoryFlags) size).toNat < 2 ^ 64 := by
        cases door : isDoorbell memoryFlags with
        | true =>
          obtain ⟨sameSize, sameOffset⟩ := region door
          rw [backingSpan_doorbell, sameSize, sameOffset, ordinaryBytes, toNat_doorbellRegion]
          omega
        | false =>
          obtain ⟨fits, below⟩ := ordinary door
          rw [ordinaryBytes] at below
          exact ⟨le_backingSpan fits, by omega⟩
      refine ⟨positive, virtualFits, ?_, fun _ => spans⟩
      change mmapOffset.toNat + size.toNat < 2 ^ 64
      omega

end Placement

section Invariance

theorem shaped_construct {epoch ticksPerNanosecond : UInt64} {start : HostGPUKmtState}
    (constructed : construct epoch ticksPerNanosecond = some start) : Shaped start := by
  obtain rfl := eq_of_construct constructed
  exact ⟨fun _ _ found => by simp at found, fun _ _ found => by simp at found⟩

theorem Session.Continues.backed {before after : Session} (continues : before.Continues after)
    (backed : before.sharedBackingExported = true →
      KmtSharedBackingDoorbellRegionBytes.toNat ≤ before.sharedBackingBytes.toNat)
    (exported : after.sharedBackingExported = true) :
    KmtSharedBackingDoorbellRegionBytes.toNat ≤ after.sharedBackingBytes.toNat := by
  rcases continues.backing with ⟨sameFlag, sameBytes, -⟩ | ⟨-, -, valid⟩
  · rw [sameBytes]
    exact backed (sameFlag ▸ exported)
  · simp only [backingValid, Bool.not_eq_true', Bool.or_eq_false_iff,
      decide_eq_false_iff_not, UInt64.not_lt] at valid
    exact UInt64.le_iff_toNat_le.mp valid.1.1.1.1

variable {state : HostGPUKmtState}

/-- Replacing a session by one whose backing is sound keeps the shapes. -/
theorem Shaped.withSession (shaped : Shaped state) {slot : Fin MaximumOwners} {session : Session}
    (backed : session.sharedBackingExported = true →
      KmtSharedBackingDoorbellRegionBytes.toNat ≤ session.sharedBackingBytes.toNat) :
    Shaped (state.withSession slot session) := by
  refine ⟨fun other found present exported => ?_, shaped.allocations⟩
  rcases SlotTable.put_eq_some.mp present with ⟨-, rfl⟩ | ⟨-, old⟩
  · exact backed exported
  · exact shaped.backed other found old exported

theorem Shaped.withNext (shaped : Shaped state) (kind : GenerationKind) (counter : UInt64) :
    Shaped (state.withNext kind counter) := by
  cases kind <;> exact ⟨shaped.backed, shaped.allocations⟩

/-- Filling or rewriting a slot with a well-shaped allocation keeps the shapes. -/
theorem Shaped.put (shaped : Shaped state) {slot : Fin MaximumAllocations}
    {allocation : Allocation} (wellShaped : allocation.WellShaped) {after : HostGPUKmtState}
    (sessions : after.sessions = state.sessions)
    (allocations : after.allocations = state.allocations.put slot allocation) : Shaped after := by
  refine ⟨sessions ▸ shaped.backed, fun other found present => ?_⟩
  rw [allocations] at present
  rcases SlotTable.put_eq_some.mp present with ⟨-, rfl⟩ | ⟨-, old⟩
  · exact wellShaped
  · exact shaped.allocations other found old

theorem Shaped.effect (shaped : Shaped state) {call : Call} {after : HostGPUKmtState}
    {issued : Option (GenerationKind × UInt64)}
    (present : state.sessions call.slot = some call.session)
    (effect : Effect state call after issued) : Shaped after := by
  cases effect with
  | unchanged | sampled | queueCreated | queueDestroyed | queueRung | eventCreated
  | eventDestroyed | eventUpdated => exact ⟨shaped.backed, shaped.allocations⟩
  | closed =>
    exact ⟨fun other found live => shaped.backed other found (SlotTable.drop_eq_some.mp live).2,
      shaped.allocations⟩
  | configured continues =>
    exact shaped.withSession (continues.backed (shaped.backed call.slot call.session present))
  | advanced kind => exact shaped.withNext kind _
  | allocated _ _ _ placed =>
    exact shaped.put (wellShaped_of_placed (shaped.backed call.slot call.session present) placed)
      rfl rfl
  | freed =>
    exact ⟨shaped.backed, fun other found live =>
      shaped.allocations other found (SlotTable.drop_eq_some.mp live).2⟩
  | rewritten mappedGpuIds bytes found =>
    exact shaped.put ((shaped.allocations _ _ found).rewrite mappedGpuIds bytes _) rfl rfl

theorem shaped_preserved : Preserved (fun _ _ => True) Shaped where
  quiet := fun _ => trivial
  sampled := fun _ shaped => ⟨shaped.backed, shaped.allocations⟩
  touched := fun {_ slot session _} present _ shaped =>
    shaped.withSession (shaped.backed slot session present)
  lostOwner := fun _ shaped => shaped.withNext .owner _
  opened := fun _ _ _ shaped =>
    let next := (shaped.withNext .owner _).withSession
      (fun (exported : (openedSession _ _ _ _).sharedBackingExported = true) =>
        Bool.noConfusion exported)
    ⟨next.backed, next.allocations⟩
  effect := fun present _ shaped effect => shaped.effect present effect
  written := fun bytes found shaped =>
    shaped.put ((shaped.allocations _ _ found).rewrite _ bytes _) rfl rfl

theorem SameButPins.shaped {before after : HostGPUKmtState} (same : SameButPins before after)
    (shaped : Shaped before) : Shaped after := by
  refine ⟨?_, fun slot allocation found => ?_⟩
  · rw [same.rest]
    exact shaped.backed
  · obtain ⟨old, present, bare⟩ := same.allocation found
    rw [bare]
    exact (shaped.allocations slot old present).rewrite _ _ _

theorem shaped_step (shaped : Shaped state) (op : Op) : Shaped (step state op) := by
  refine shaped_preserved.step SameButPins.shaped (fun _ => ?_) shaped ?_
  · exact ⟨fun _ _ found => by simp [clear] at found, fun _ _ found => by simp [clear] at found⟩
  · cases op <;> first | trivial | exact fun _ _ => trivial

theorem shaped_of_reachable (reach : KmtReachable state) : Shaped state := by
  obtain ⟨epoch, ticks, start, constructed, run⟩ := reach
  exact run.invariant step (fun _ op shaped => shaped_step shaped op) (shaped_construct constructed)

end Invariance

end GemSim.Kmt
