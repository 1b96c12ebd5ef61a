import GemSim.Kmt.Preserve
import GemSim.Kmt.Scenario

/-!
# Live counters and byte totals

The live counters count the taken slots and the byte totals sum the sizes of the live
allocations. The of-GPU path refuses a size that would wrap the total; the legacy path
only checks its own total. The sums are exact in every run whose legacy sizes would
have passed the check of the of-GPU path.

## Main definitions

* `Accounted` — every counter equals its count or its sum
* `LegacyFits` — a legacy request leaves the byte total below `2 ^ 64`

## Main results

* `accounted_of_run` — runs of fitting legacy requests keep the books
* `accounted_fails` — a run whose byte total wrapped
-/

namespace GemSim.Kmt

open GemSim.Lib HostGPUKmtState

section Definitions

/-- The bytes an allocation counts towards the legacy total. -/
def Allocation.legacyBytes (allocation : Allocation) : ℕ :=
  if allocation.gpuAllocation then 0 else allocation.size.toNat

structure Accounted (state : HostGPUKmtState) : Prop where
  owners : state.liveOwners.toNat = state.sessions.live
  allocations : state.liveAllocations.toNat = state.allocations.live
  queues : state.liveQueues.toNat = state.queues.live
  events : state.liveEvents.toNat = state.events.live
  total : state.totalBytes.toNat = state.allocations.total fun allocation => allocation.size.toNat
  legacy : state.legacyTotalBytes.toNat = state.allocations.total Allocation.legacyBytes
  legacyBound : state.legacyTotalBytes.toNat ≤ MaximumTotalBytes.toNat

/-- The bytes of a legacy request fit the byte total. -/
def LegacyFits (state : HostGPUKmtState) (call : Call) : Prop :=
  ∀ slot, legacyGrant state call = some slot →
    state.totalBytes.toNat + (splitWords call.request.argumentWords 1 2).toNat < 2 ^ 64

instance (state : HostGPUKmtState) (call : Call) : Decidable (LegacyFits state call) :=
  decidableForallSome _ fun _ =>
    state.totalBytes.toNat + (splitWords call.request.argumentWords 1 2).toNat < 2 ^ 64

end Definitions

section Updates

variable {state : HostGPUKmtState}

@[simp] theorem toNat_MaximumTotalBytes : MaximumTotalBytes.toNat = 2 ^ 32 := rfl

theorem Accounted.same (books : Accounted state) {after : HostGPUKmtState}
    (objects : SameObjects state after) : Accounted after where
  owners := by rw [objects.liveOwners, objects.sessions, books.owners]
  allocations := by rw [objects.liveAllocations, objects.allocations, books.allocations]
  queues := by rw [objects.liveQueues, objects.queues, books.queues]
  events := by rw [objects.liveEvents, objects.events, books.events]
  total := by rw [objects.totalBytes, objects.allocations, books.total]
  legacy := by rw [objects.legacyTotalBytes, objects.allocations, books.legacy]
  legacyBound := by rw [objects.legacyTotalBytes]; exact books.legacyBound

theorem Accounted.withSession (books : Accounted state) {slot : Fin MaximumOwners}
    {old : Session} (present : state.sessions slot = some old) (session : Session) :
    Accounted (state.withSession slot session) :=
  { books with owners := books.owners.trans (SlotTable.live_put_taken present session).symm }

theorem Accounted.addSession (books : Accounted state) {slot : Fin MaximumOwners}
    (free : state.sessions slot = none) (session : Session) :
    Accounted (state.addSession slot session) :=
  { books with owners := SlotTable.live_put_free (by decide) books.owners free session }

theorem Accounted.releaseSession (books : Accounted state) {slot : Fin MaximumOwners}
    {old : Session} (present : state.sessions slot = some old) :
    Accounted (state.releaseSession slot) :=
  { books with owners := SlotTable.live_drop books.owners present }

/-- Filling a slot with an allocation that fits both totals. -/
theorem Accounted.addAllocation (books : Accounted state) {slot : Fin MaximumAllocations}
    (free : state.allocations slot = none) {allocation : Allocation}
    (fits : state.totalBytes.toNat + allocation.size.toNat < 2 ^ 64)
    (legacyFits : state.legacyTotalBytes.toNat + allocation.legacyBytes ≤ 2 ^ 32) :
    Accounted (state.addAllocation slot allocation) := by
  have legacyGrows : (state.addAllocation slot allocation).legacyTotalBytes.toNat =
      state.legacyTotalBytes.toNat + allocation.legacyBytes := by
    unfold HostGPUKmtState.addAllocation Allocation.legacyBytes at *
    cases gpu : allocation.gpuAllocation with
    | true => simp
    | false =>
      simp only [gpu, Bool.false_eq_true, if_false] at legacyFits ⊢
      exact toNat_add_exact (by omega)
  exact
    { owners := books.owners
      allocations := SlotTable.live_put_free (by decide) books.allocations free allocation
      queues := books.queues
      events := books.events
      total := by
        refine (toNat_add_exact fits).trans ?_
        rw [books.total]
        exact (SlotTable.total_put_free free _ allocation).symm
      legacy := by
        rw [legacyGrows, books.legacy]
        exact (SlotTable.total_put_free free _ allocation).symm
      legacyBound := by rw [legacyGrows]; exact legacyFits }

/-- A live allocation counts towards both totals, so releasing it takes no more off. -/
theorem Accounted.le_totals (books : Accounted state) {slot : Fin MaximumAllocations}
    {allocation : Allocation} (found : state.allocations slot = some allocation) :
    allocation.size.toNat ≤ state.totalBytes.toNat ∧
      allocation.legacyBytes ≤ state.legacyTotalBytes.toNat := by
  rw [books.total, books.legacy]
  exact ⟨SlotTable.le_total found fun allocation => allocation.size.toNat,
    SlotTable.le_total found Allocation.legacyBytes⟩

theorem Accounted.releaseAllocation (books : Accounted state) {slot : Fin MaximumAllocations}
    {allocation : Allocation} (found : state.allocations slot = some allocation) :
    Accounted (state.releaseAllocation slot allocation) := by
  obtain ⟨sizeLe, legacyLe⟩ := books.le_totals found
  have legacyShrinks : (state.releaseAllocation slot allocation).legacyTotalBytes.toNat =
      state.legacyTotalBytes.toNat - allocation.legacyBytes := by
    unfold HostGPUKmtState.releaseAllocation Allocation.legacyBytes at *
    cases gpu : allocation.gpuAllocation with
    | true => simp
    | false =>
      simp only [gpu, Bool.false_eq_true, if_false] at legacyLe ⊢
      exact toNat_sub_exact legacyLe
  have totals := SlotTable.total_drop found fun allocation => allocation.size.toNat
  have legacyTotals := SlotTable.total_drop found Allocation.legacyBytes
  have exactTotal := books.total
  have exactLegacy := books.legacy
  have bound := books.legacyBound
  exact
    { owners := books.owners
      allocations := SlotTable.live_drop books.allocations found
      queues := books.queues
      events := books.events
      total := by
        refine (toNat_sub_exact sizeLe).trans ?_
        change _ = (state.allocations.drop slot).total fun allocation => allocation.size.toNat
        omega
      legacy := by
        rw [legacyShrinks]
        change _ = (state.allocations.drop slot).total Allocation.legacyBytes
        omega
      legacyBound := by rw [legacyShrinks]; omega }

/-- Rewriting an allocation in place with its size and path unchanged. -/
theorem Accounted.withAllocation (books : Accounted state) {slot : Fin MaximumAllocations}
    {old allocation : Allocation} (found : state.allocations slot = some old)
    (size : allocation.size = old.size) (path : allocation.gpuAllocation = old.gpuAllocation) :
    Accounted (state.withAllocation slot allocation) := by
  have totals := SlotTable.total_put_taken found (fun allocation => allocation.size.toNat) allocation
  have legacyTotals := SlotTable.total_put_taken found Allocation.legacyBytes allocation
  rw [size] at totals
  rw [show allocation.legacyBytes = old.legacyBytes by
    rw [Allocation.legacyBytes, Allocation.legacyBytes, size, path]] at legacyTotals
  exact
    { books with
      allocations := books.allocations.trans (SlotTable.live_put_taken found allocation).symm
      total := by
        rw [show (state.withAllocation slot allocation).totalBytes = state.totalBytes from rfl,
          books.total]
        exact (Nat.add_right_cancel totals).symm
      legacy := by
        rw [show (state.withAllocation slot allocation).legacyTotalBytes =
          state.legacyTotalBytes from rfl, books.legacy]
        exact (Nat.add_right_cancel legacyTotals).symm }

theorem SameButPins.accounted {before after : HostGPUKmtState} (same : SameButPins before after)
    (books : Accounted before) : Accounted after where
  owners := by rw [same.rest]; exact books.owners
  allocations := by
    rw [same.rest]
    exact books.allocations.trans (SlotTable.total_of_view same.allocations fun _ => 1).symm
  queues := by
    rw [same.rest]
    exact books.queues.trans (SlotTable.total_of_view same.queues fun _ => 1).symm
  events := by rw [same.rest]; exact books.events
  total := by
    rw [same.rest]
    exact books.total.trans (SlotTable.total_of_view same.allocations
      fun bare => bare.size.toNat).symm
  legacy := by
    rw [same.rest]
    exact books.legacy.trans (SlotTable.total_of_view same.allocations
      Allocation.legacyBytes).symm
  legacyBound := by rw [same.rest]; exact books.legacyBound

end Updates

section Preservation

variable {state : HostGPUKmtState}

/-- The sizes a placed allocation adds fit, the legacy path given its condition. -/
theorem Accounted.placed_fits (books : Accounted state) {call : Call}
    {slot : Fin MaximumAllocations} {allocation : Allocation} (fits : LegacyFits state call)
    (free : state.allocations.firstFree = some slot)
    (taken : (state.take .allocation call.session.jobEpoch).1 ≠ 0)
    (stored : call.env.badAlloc = false)
    (placed : Placed state call (state.take .allocation call.session.jobEpoch).1 slot allocation) :
    state.totalBytes.toNat + allocation.size.toNat < 2 ^ 64 ∧
      state.legacyTotalBytes.toNat + allocation.legacyBytes ≤ 2 ^ 32 := by
  have bound := books.legacyBound
  rw [toNat_MaximumTotalBytes] at bound
  cases placed with
  | legacy operation shape sized =>
    refine ⟨fits slot (legacyGrant_of_placed free taken stored operation shape sized), ?_⟩
    simp only [legacySizeValid, Bool.not_eq_true', Bool.or_eq_false_iff, decide_eq_false_iff_not,
      UInt64.not_lt, gt_iff_lt] at sized
    have room := UInt64.le_iff_toNat_le.mp sized.2
    rw [toNat_sub_exact books.legacyBound, toNat_MaximumTotalBytes] at room
    change _ + (splitWords call.request.argumentWords 1 2).toNat ≤ _
    omega
  | gpu _ sizeFits =>
    rw [UInt64.le_iff_toNat_le, toNat_max_sub] at sizeFits
    have small := state.totalBytes.toNat_lt
    exact ⟨by simp only [gpuAllocation]; omega, bound⟩

theorem accounted_preserved : Preserved LegacyFits Accounted where
  quiet := fun operation slot granted => by
    rw [legacyGrant_of_ne (by rw [operation]; decide)] at granted
    cases granted
  sampled := fun _ books => { books with }
  touched := fun present _ books => books.withSession present _
  lostOwner := fun _ books => books.same (sameObjects_withNext _ _ _)
  opened := fun {state _ _ jobEpoch} _ free _ books =>
    (books.same (sameObjects_withNext state .owner (state.take .owner jobEpoch).2)).addSession
      (SlotTable.firstFree_spec free) _
  effect := fun {state after call issued} present fits books effect => by
    cases effect with
    | unchanged => exact books
    | sampled => exact { books with }
    | queueRung _ found =>
      exact { books with
        queues := books.queues.trans (SlotTable.live_put_taken found _).symm }
    | closed => exact books.releaseSession present
    | configured => exact books.withSession present _
    | advanced => exact books.same (sameObjects_withNext _ _ _)
    | allocated free taken stored placed =>
      obtain ⟨sizeFits, legacyFits⟩ := books.placed_fits fits free taken stored placed
      exact (books.same (sameObjects_withNext state .allocation
        (state.take .allocation call.session.jobEpoch).2)).addAllocation
          (SlotTable.firstFree_spec free) sizeFits legacyFits
    | freed found => exact books.releaseAllocation found
    | rewritten _ _ found => exact books.withAllocation found rfl rfl
    | queueCreated free =>
      exact { books with
        queues := SlotTable.live_put_free (by decide) books.queues
          (SlotTable.firstFree_spec free) _ }
    | queueDestroyed found => exact { books with queues := SlotTable.live_drop books.queues found }
    | eventCreated _ free =>
      exact { books with
        events := SlotTable.live_put_free (by decide) books.events
          (SlotTable.firstFree_spec free) _ }
    | eventDestroyed found => exact { books with events := SlotTable.live_drop books.events found }
    | eventUpdated _ _ found =>
      exact { books with
        events := books.events.trans (SlotTable.live_put_taken found _).symm }
  written := fun _ found books => books.withAllocation found rfl rfl

theorem accounted_clear (state : HostGPUKmtState) : Accounted (clear state) where
  owners := SlotTable.live_empty.symm
  allocations := SlotTable.live_empty.symm
  queues := SlotTable.live_empty.symm
  events := SlotTable.live_empty.symm
  total := (SlotTable.total_empty _).symm
  legacy := (SlotTable.total_empty _).symm
  legacyBound := Nat.zero_le _

theorem accounted_construct {epoch ticksPerNanosecond : UInt64} {start : HostGPUKmtState}
    (constructed : construct epoch ticksPerNanosecond = some start) : Accounted start := by
  obtain rfl := eq_of_construct constructed
  exact
    { owners := SlotTable.live_empty.symm
      allocations := SlotTable.live_empty.symm
      queues := SlotTable.live_empty.symm
      events := SlotTable.live_empty.symm
      total := (SlotTable.total_empty _).symm
      legacy := (SlotTable.total_empty _).symm
      legacyBound := Nat.zero_le _ }

theorem accounted_step {op : Op} (books : Accounted state)
    (fits : OpAllowed LegacyFits state op) : Accounted (step state op) :=
  accounted_preserved.step SameButPins.accounted (fun _ => accounted_clear _) books fits

end Preservation

section Runs

/-- The books balance, and no release takes off more than there is. -/
structure BooksBalance (state : HostGPUKmtState) : Prop where
  accounted : Accounted state
  releases : ∀ slot allocation, state.allocations slot = some allocation →
    allocation.size.toNat ≤ state.totalBytes.toNat ∧
      allocation.legacyBytes ≤ state.legacyTotalBytes.toNat

/-- In every run in which each legacy allocation leaves the byte total below `2 ^ 64`, every
counter is exact in every state reached. -/
theorem accounted_of_run {epoch ticksPerNanosecond : UInt64} {start : HostGPUKmtState}
    (constructed : construct epoch ticksPerNanosecond = some start) (ops : List Op)
    (fits : Meets step (OpAllowed LegacyFits) start ops) :
    ∀ reached, reached <+: ops → BooksBalance (runFrom step start reached) := by
  rintro reached ⟨rest, rfl⟩
  have books := invariant_of_meets step _ (fun _ _ => accounted_step)
    (accounted_construct constructed) ((meets_append step _ start reached rest).mp fits).1
  exact ⟨books, fun _ _ found => books.le_totals found⟩

/-- A userptr page and one legacy allocation. -/
theorem accounted_of_run_legacy :
    BooksBalance (runFrom step bootState
      (userptrRun 0x1000 0x1000 ++
        [clientSubmit (clientRequest .allocateMemory 4 (legacyWords 0x1000 0x1000))])) :=
  accounted_of_run construct_bootState _ (by decide +kernel) _ (List.prefix_refl _)

/-- A userptr allocation of almost the whole address space, then two gigabytes of legacy
memory. -/
def wrappingRun : List Op :=
  userptrRun 0x1000 0xffffffffffffe000 ++
    [clientSubmit (clientRequest .allocateMemory 4 (legacyWords 0x80000000 0x1000))]

/-- After the wrapping run the byte total is less than the first allocation's size. -/
theorem accounted_fails : ¬ ∀ state, KmtReachable state → BooksBalance state := by
  intro always
  have books := always _ (reachable_boot wrappingRun)
  have wrapped : (runFrom step bootState wrappingRun).totalBytes = 0x7fffe000 := by
    decide +kernel
  have record : ((runFrom step bootState wrappingRun).allocations 0).map Allocation.size =
      some 0xffffffffffffe000 := by decide +kernel
  obtain ⟨allocation, found, size⟩ := Option.map_eq_some_iff.mp record
  have le := (books.releases 0 allocation found).1
  rw [wrapped, size] at le
  exact absurd le (by decide)

end Runs

end GemSim.Kmt
