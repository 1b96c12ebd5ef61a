import GemSim.Kmt.Scenario
import GemSim.Kmt.Shape
import GemSim.Lib.Regions

/-!
# Disjoint ranges of live allocations

The of-GPU path refuses a VA range or a backing span that overlaps a live allocation
of the session. The legacy path derives its VA from the slot, puts its bytes at the
start of the backing and checks neither. The ranges of one owner stay disjoint in
every run whose legacy allocations would have passed the tests of the of-GPU path.

## Main definitions

* `Allocation.virtualRange`, `Allocation.backingRange` — the occupied ranges
* `RangesDisjoint` — ranges of one owner are pairwise disjoint
* `LegacyClear` — the slot and its backing span overlap nothing

## Main results

* `rangesDisjoint_of_run` — runs of clear legacy requests keep ranges disjoint
* `rangesDisjoint_fails` — a run that ends with two overlapping VA ranges
-/

namespace GemSim.Kmt

open GemSim.Lib HostGPUKmtState

section Definitions

/-- The GPU VAs of an allocation. -/
def Allocation.virtualRange (allocation : Allocation) : Set ℕ :=
  Set.Ico allocation.virtualAddress.toNat
    (allocation.virtualAddress.toNat + allocation.size.toNat)

/-- The bytes of the shared backing an allocation spans. -/
def Allocation.backingRange (allocation : Allocation) : Set ℕ :=
  Set.Ico allocation.mmapOffset.toNat (allocation.mmapOffset.toNat + allocation.span.toNat)

/-- Two allocations have one owner. -/
def SameOwner (first second : Allocation) : Prop :=
  first.ownerId = second.ownerId ∧ first.ownerGeneration = second.ownerGeneration

/-- Two allocations of one owner both live in its shared backing. -/
def ShareBacking (first second : Allocation) : Prop :=
  SameOwner first second ∧ isUserptr first.memoryFlags = false ∧
    isUserptr second.memoryFlags = false

/-- The live allocations of one owner have disjoint VA ranges, and those in the shared
backing disjoint spans. -/
structure RangesDisjoint (state : HostGPUKmtState) : Prop where
  virtual : Apart SameOwner Allocation.virtualRange state.allocations
  backing : Apart ShareBacking Allocation.backingRange state.allocations

/-- The allocation a legacy request is about to make overlaps no live allocation of its
session, by the tests of the of-GPU path. -/
def LegacyClear (state : HostGPUKmtState) (call : Call) : Prop :=
  ∀ slot, legacyGrant state call = some slot →
    virtualOverlap state.allocations call.session (legacyVirtualAddress slot)
      (splitWords call.request.argumentWords 1 2) = false ∧
    backingOverlap state.allocations call.session 0
      (backingSpan false (splitWords call.request.argumentWords 1 2)) = false

instance (state : HostGPUKmtState) (call : Call) : Decidable (LegacyClear state call) :=
  decidableForallSome _ _

end Definitions

section Overlap

variable {state : HostGPUKmtState} {session : Session}

theorem sameOwner_symm (first second : Allocation) (same : SameOwner first second) :
    SameOwner second first := ⟨same.1.symm, same.2.symm⟩

theorem shareBacking_symm (first second : Allocation) (share : ShareBacking first second) :
    ShareBacking second first :=
  ⟨sameOwner_symm first second share.1, share.2.2, share.2.1⟩

/-- Ranges the overlap test tells apart are disjoint, when neither end wraps. -/
theorem disjoint_of_rangesOverlap {base length otherBase otherLength : UInt64}
    (fits : base.toNat + length.toNat < 2 ^ 64)
    (otherFits : otherBase.toNat + otherLength.toNat < 2 ^ 64)
    (apart : rangesOverlap base (base + length) otherBase (otherBase + otherLength) = false) :
    Disjoint (Set.Ico base.toNat (base.toNat + length.toNat))
      (Set.Ico otherBase.toNat (otherBase.toNat + otherLength.toNat)) := by
  refine disjoint_Ico_of_not_overlap fun ⟨first, second⟩ => ?_
  rw [rangesOverlap, Bool.and_eq_false_iff, decide_eq_false_iff_not, decide_eq_false_iff_not,
    UInt64.not_lt, UInt64.not_lt, UInt64.le_iff_toNat_le, UInt64.le_iff_toNat_le,
    toNat_add_exact fits, toNat_add_exact otherFits] at apart
  omega

/-- A VA range that overlaps nothing is disjoint from every live range of the session. -/
theorem virtualRange_disjoint (shaped : Shaped state) {record other : Allocation}
    {slot : Fin MaximumAllocations} (wellShaped : record.WellShaped)
    (owned : session.owns record.toIdentity = true)
    (apart : virtualOverlap state.allocations session record.virtualAddress record.size = false)
    (present : state.allocations slot = some other) (same : SameOwner record other) :
    Disjoint record.virtualRange other.virtualRange := by
  have ownedOther : session.owns other.toIdentity = true := by
    simp only [Session.owns, Bool.and_eq_true, beq_iff_eq] at owned ⊢
    exact ⟨same.1.symm.trans owned.1, same.2.symm.trans owned.2⟩
  have tested := SlotTable.holds_eq_false.mp apart slot other present
  rw [ownedOther, Bool.true_and] at tested
  exact disjoint_of_rangesOverlap wellShaped.virtualFits
    (shaped.allocations slot other present).virtualFits tested

/-- A backing span that overlaps nothing is disjoint from every live span of the session. -/
theorem backingRange_disjoint (shaped : Shaped state) {record other : Allocation}
    {slot : Fin MaximumAllocations} (wellShaped : record.WellShaped)
    (owned : session.owns record.toIdentity = true)
    (apart : backingOverlap state.allocations session record.mmapOffset record.span = false)
    (present : state.allocations slot = some other) (share : ShareBacking record other) :
    Disjoint record.backingRange other.backingRange := by
  obtain ⟨same, recordBacked, otherBacked⟩ := share
  have ownedOther : session.owns other.toIdentity = true := by
    simp only [Session.owns, Bool.and_eq_true, beq_iff_eq] at owned ⊢
    exact ⟨same.1.symm.trans owned.1, same.2.symm.trans owned.2⟩
  have tested := SlotTable.holds_eq_false.mp apart slot other present
  rw [ownedOther, otherBacked, Bool.true_and, Bool.not_false, Bool.true_and] at tested
  exact disjoint_of_rangesOverlap (wellShaped.spanFits recordBacked).2
    ((shaped.allocations slot other present).spanFits otherBacked).2 tested

end Overlap

section Preservation

variable {state : HostGPUKmtState}

/-- Ranges depend only on placement: records rewritten in place keep them. -/
theorem RangesDisjoint.of_placements (disjoint : RangesDisjoint state)
    {after : HostGPUKmtState}
    (origin : ∀ slot allocation, after.allocations slot = some allocation →
      ∃ old, state.allocations slot = some old ∧
        allocation.toIdentity = old.toIdentity ∧
        allocation.virtualAddress = old.virtualAddress ∧ allocation.size = old.size ∧
        allocation.mmapOffset = old.mmapOffset ∧ allocation.memoryFlags = old.memoryFlags) :
    RangesDisjoint after := by
  constructor
  · refine disjoint.virtual.of_regions fun slot allocation found => ?_
    obtain ⟨old, present, identity, address, size, -, -⟩ := origin slot allocation found
    refine ⟨old, present, by simp only [Allocation.virtualRange, address, size], fun y => ?_⟩
    simp only [SameOwner, identity]
    exact ⟨id, id⟩
  · refine disjoint.backing.of_regions fun slot allocation found => ?_
    obtain ⟨old, present, identity, -, size, offset, flags⟩ := origin slot allocation found
    refine ⟨old, present,
      by simp only [Allocation.backingRange, Allocation.span, size, offset, flags], fun y => ?_⟩
    simp only [ShareBacking, SameOwner, identity, flags]
    exact ⟨id, id⟩

theorem RangesDisjoint.same (disjoint : RangesDisjoint state) {after : HostGPUKmtState}
    (allocations : after.allocations = state.allocations) : RangesDisjoint after :=
  ⟨allocations ▸ disjoint.virtual, allocations ▸ disjoint.backing⟩

theorem RangesDisjoint.rewritten (disjoint : RangesDisjoint state)
    {slot : Fin MaximumAllocations} {allocation : Allocation}
    (found : state.allocations slot = some allocation) (mappedGpuIds : List UInt32)
    (bytes : SparseBytes) :
    RangesDisjoint (state.withAllocation slot
      { allocation with mappedGpuIds := mappedGpuIds, bytes := bytes }) := by
  refine disjoint.of_placements fun other record present => ?_
  rcases SlotTable.put_eq_some.mp present with ⟨rfl, rfl⟩ | ⟨-, old⟩
  · exact ⟨allocation, found, rfl, rfl, rfl, rfl, rfl⟩
  · exact ⟨record, old, rfl, rfl, rfl, rfl, rfl⟩

/-- An allocation whose VA range and, in the backing, whose span overlap nothing of the
session joins the others. -/
theorem RangesDisjoint.added (shaped : Shaped state) (disjoint : RangesDisjoint state)
    {session : Session} {slot : Fin MaximumAllocations} {record : Allocation}
    (wellShaped : record.WellShaped) (owned : session.owns record.toIdentity = true)
    (virtualApart :
      virtualOverlap state.allocations session record.virtualAddress record.size = false)
    (backingApart : isUserptr record.memoryFlags = false →
      backingOverlap state.allocations session record.mmapOffset record.span = false)
    {after : HostGPUKmtState} (allocations : after.allocations = state.allocations.put slot record) :
    RangesDisjoint after := by
  constructor
  · rw [allocations]
    exact disjoint.virtual.put sameOwner_symm fun other y _ present same =>
      virtualRange_disjoint shaped wellShaped owned virtualApart present same
  · rw [allocations]
    exact disjoint.backing.put shareBacking_symm fun other y _ present share =>
      backingRange_disjoint shaped wellShaped owned (backingApart share.2.1) present share

theorem owns_self (session : Session) (generation : UInt64) :
    session.owns ⟨session.ownerId, session.ownerGeneration, generation⟩ = true := by
  simp [Session.owns]

/-- What an allocation that was placed passed, the legacy path given its clearance. -/
theorem placed_apart {call : Call} {slot : Fin MaximumAllocations} {allocation : Allocation}
    (clear : LegacyClear state call) (free : state.allocations.firstFree = some slot)
    (taken : (state.take .allocation call.session.jobEpoch).1 ≠ 0)
    (stored : call.env.badAlloc = false)
    (placed : Placed state call (state.take .allocation call.session.jobEpoch).1 slot allocation) :
    call.session.owns allocation.toIdentity = true ∧
      virtualOverlap state.allocations call.session allocation.virtualAddress
        allocation.size = false ∧
      (isUserptr allocation.memoryFlags = false →
        backingOverlap state.allocations call.session allocation.mmapOffset
          allocation.span = false) := by
  cases placed with
  | legacy operation shape sized =>
    obtain ⟨virtualApart, backingApart⟩ :=
      clear slot (legacyGrant_of_placed free taken stored operation shape sized)
    refine ⟨owns_self _ _, virtualApart, fun _ => ?_⟩
    rw [legacyAllocation_span]
    exact backingApart
  | gpu _ _ apart backed =>
    exact ⟨owns_self _ _, apart, fun ordinary => (backingRefusal_none (backed ordinary)).2.2.2⟩

theorem rangesDisjoint_preserved : PreservedUnder Shaped LegacyClear RangesDisjoint where
  quiet := fun operation slot granted => by
    rw [legacyGrant_of_ne (by rw [operation]; decide)] at granted
    cases granted
  sampled := fun _ _ disjoint => disjoint.same rfl
  touched := fun _ _ _ disjoint => disjoint.same rfl
  lostOwner := fun _ _ disjoint => disjoint.same rfl
  opened := fun _ _ _ _ disjoint => disjoint.same rfl
  effect := fun {state after call issued} present clear shaped disjoint effect => by
    cases effect with
    | unchanged | sampled | closed | configured | queueCreated | queueDestroyed | queueRung
    | eventCreated | eventDestroyed | eventUpdated => exact disjoint.same rfl
    | advanced kind => exact disjoint.same (sameObjects_withNext state kind _).allocations
    | allocated free taken stored placed =>
      obtain ⟨owned, virtualApart, backingApart⟩ := placed_apart clear free taken stored placed
      exact disjoint.added shaped
        (wellShaped_of_placed (shaped.backed call.slot call.session present) placed) owned
        virtualApart backingApart rfl
    | freed => exact ⟨disjoint.virtual.drop _, disjoint.backing.drop _⟩
    | rewritten mappedGpuIds bytes found => exact disjoint.rewritten found mappedGpuIds bytes
  written := fun {_ _ allocation} bytes found _ disjoint =>
    disjoint.rewritten found allocation.mappedGpuIds bytes

theorem SameButPins.rangesDisjoint {before after : HostGPUKmtState}
    (same : SameButPins before after) (disjoint : RangesDisjoint before) :
    RangesDisjoint after := by
  refine disjoint.of_placements fun slot allocation found => ?_
  obtain ⟨old, present, bare⟩ := same.allocation found
  refine ⟨old, present, ?_⟩
  rw [bare]
  exact ⟨rfl, rfl, rfl, rfl, rfl⟩

theorem rangesDisjoint_clear (state : HostGPUKmtState) : RangesDisjoint (clear state) :=
  ⟨Apart.empty, Apart.empty⟩

theorem rangesDisjoint_construct {epoch ticksPerNanosecond : UInt64} {start : HostGPUKmtState}
    (constructed : construct epoch ticksPerNanosecond = some start) : RangesDisjoint start := by
  obtain rfl := eq_of_construct constructed
  exact ⟨Apart.empty, Apart.empty⟩

theorem rangesDisjoint_step {op : Op} (known : Shaped state ∧ RangesDisjoint state)
    (clear : OpAllowed LegacyClear state op) :
    Shaped (step state op) ∧ RangesDisjoint (step state op) :=
  (rangesDisjoint_preserved.and shaped_preserved).step
    (fun same known => ⟨same.shaped known.1, same.rangesDisjoint known.2⟩)
    (fun known => ⟨shaped_step known.1 .clear, rangesDisjoint_clear _⟩) known clear

end Preservation

section Runs

/-- A GPU VA belongs to at most one live allocation of an owner, and a byte of the shared
backing to at most one of those placed in it. -/
structure RangesUnique (state : HostGPUKmtState) : Prop where
  disjoint : RangesDisjoint state
  virtual : ∀ first second x y, state.allocations first = some x →
    state.allocations second = some y → SameOwner x y →
    ∀ address, address ∈ x.virtualRange → address ∈ y.virtualRange → first = second
  backing : ∀ first second x y, state.allocations first = some x →
    state.allocations second = some y → ShareBacking x y →
    ∀ byte, byte ∈ x.backingRange → byte ∈ y.backingRange → first = second

/-- In every run in which each legacy allocation would have passed the overlap tests of
the of-GPU path, the ranges of one owner are disjoint in every state reached. -/
theorem rangesDisjoint_of_run {epoch ticksPerNanosecond : UInt64} {start : HostGPUKmtState}
    (constructed : construct epoch ticksPerNanosecond = some start) (ops : List Op)
    (clear : Meets step (OpAllowed LegacyClear) start ops) :
    ∀ reached, reached <+: ops → RangesUnique (runFrom step start reached) := by
  rintro reached ⟨rest, rfl⟩
  have known := invariant_of_meets step _ (fun state op => rangesDisjoint_step)
    ⟨shaped_construct constructed, rangesDisjoint_construct constructed⟩
    ((meets_append step _ start reached rest).mp clear).1
  exact
    { disjoint := known.2
      virtual := fun _ _ _ _ foundX foundY same _ inX inY =>
        known.2.virtual.unique foundX foundY same inX inY
      backing := fun _ _ _ _ foundX foundY share _ inX inY =>
        known.2.backing.unique foundX foundY share inX inY }

/-- A userptr page and one legacy allocation away from it. -/
theorem rangesDisjoint_of_run_legacy :
    RangesUnique (runFrom step bootState
      (userptrRun 0x1000 0x1000 ++
        [clientSubmit (clientRequest .allocateMemory 4 (legacyWords 0x1000 0x1000))])) :=
  rangesDisjoint_of_run construct_bootState _ (by decide +kernel) _ (List.prefix_refl _)

/-- A userptr allocation at the VA of slot one, then a legacy allocation into that slot. -/
def collidingRun : List Op :=
  userptrRun 0x200080000000 0x1000 ++
    [clientSubmit (clientRequest .allocateMemory 4 (legacyWords 0x1000 0x1000))]

/-- The two allocations of the colliding run start at one VA. -/
theorem rangesDisjoint_fails : ¬ ∀ state, KmtReachable state → RangesUnique state := by
  intro always
  have unique := always _ (reachable_boot collidingRun)
  have record : ∀ slot : Fin MaximumAllocations, slot = 0 ∨ slot = 1 →
      ((runFrom step bootState collidingRun).allocations slot).map (fun allocation =>
        (allocation.ownerId, allocation.ownerGeneration, allocation.virtualAddress,
          allocation.size)) = some (clientOwnerId, 1, 0x200080000000, 0x1000) := by
    rintro slot (rfl | rfl) <;> decide +kernel
  obtain ⟨x, foundX, recordX⟩ := Option.map_eq_some_iff.mp (record 0 (Or.inl rfl))
  obtain ⟨y, foundY, recordY⟩ := Option.map_eq_some_iff.mp (record 1 (Or.inr rfl))
  simp only [Prod.mk.injEq] at recordX recordY
  obtain ⟨ownerX, generationX, addressX, sizeX⟩ := recordX
  obtain ⟨ownerY, generationY, addressY, sizeY⟩ := recordY
  have same : SameOwner x y :=
    ⟨ownerX.trans ownerY.symm, generationX.trans generationY.symm⟩
  have collide := unique.virtual 0 1 x y foundX foundY same 0x200080000000
  simp only [Allocation.virtualRange, addressX, sizeX, addressY, sizeY, Set.mem_Ico] at collide
  exact absurd (collide (by decide) (by decide)) (by decide)

end Runs

end GemSim.Kmt
