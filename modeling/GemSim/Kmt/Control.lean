import GemSim.Kmt.Handles
import GemSim.Kmt.MemoryBounds
import GemSim.Kmt.NativeMemory
import GemSim.Kmt.Ranges

/-!
# Control words of queues

The last 8192 bytes of a client's backing hold a doorbell word and a completion word for
each of its queues. Client queue ids are distinct, so the words of two queues never
meet, and allocations placed by the of-GPU path end below the region. A write by GPU VA
reaches a control word in one way only: an access that ends exactly at `2 ^ 64` escapes
its allocation, and may run into the region.

## Main definitions

* `Controlled` — every object belongs to a live session, queues and allocations are
  placed in its backing
* `ControlLaw` — where the control words lie, and which writes cannot touch them
* `NativeWriteLaw` — writes by GPU VA keep the control words
* `EscapesIntoControl` — the access that does not

## Main results

* `controlled_of_reachable`, `controlLaw_of_reachable`
* `nativeWriteLaw_iff` — writes keep the control words exactly when they do not escape
* `controlWords_of_reachable` — both, for every reachable state
-/

namespace GemSim.Kmt

open GemSim.Lib HostGPUKmtState

section Definitions

/-- The control region of a session's backing. -/
def Session.controlRegion (session : Session) : Set ℕ :=
  Set.Ico (session.sharedBackingBytes.toNat - 8192) session.sharedBackingBytes.toNat

def Queue.doorbellWord (queue : Queue) : Set ℕ :=
  Set.Ico queue.doorbellOffset.toNat (queue.doorbellOffset.toNat + 8)

def Queue.completionWord (queue : Queue) : Set ℕ :=
  Set.Ico queue.completionOffset.toNat (queue.completionOffset.toNat + 8)

def Queue.controlWords (queue : Queue) : Set ℕ := queue.doorbellWord ∪ queue.completionWord

/-- An allocation of the of-GPU path in the ordinary part of the backing. -/
def Allocation.ordinary (allocation : Allocation) : Prop :=
  allocation.gpuAllocation = true ∧ isUserptr allocation.memoryFlags = false ∧
    isDoorbell allocation.memoryFlags = false

/-- The queue belongs to the session, and its words have its client slot's place. -/
structure Session.HoldsQueue (session : Session) (queue : Queue) : Prop where
  owned : session.owns queue.toIdentity = true
  exported : session.sharedBackingExported = true
  place : ∃ clientSlot : Fin KmtSharedBackingMaximumDoorbellSlots,
    queue.clientQueueId = UInt32.ofNat (clientSlot + 1) ∧
      queue.doorbellOffset = doorbellOffsetOf session.sharedBackingBytes clientSlot ∧
      queue.completionOffset = completionOffsetOf session.sharedBackingBytes clientSlot

/-- The allocation belongs to the session, and if it is ordinary ends below the region. -/
structure Session.HoldsAllocation (session : Session) (allocation : Allocation) : Prop where
  owned : session.owns allocation.toIdentity = true
  place : allocation.ordinary → session.sharedBackingExported = true ∧
    allocation.mmapOffset.toNat + allocation.span.toNat ≤
      (session.sharedBackingBytes - KmtSharedBackingDoorbellRegionBytes).toNat

/-- Every queue and allocation is held by a live session, and the client queue ids of an
owner are distinct. -/
structure Controlled (state : HostGPUKmtState) : Prop where
  issued : ∀ slot session, state.sessions slot = some session →
    session.ownerGeneration.toNat < state.nextOwnerGeneration.toNat
  queues : ∀ index queue, state.queues index = some queue →
    ∃ slot session, state.sessions slot = some session ∧ session.HoldsQueue queue
  allocations : ∀ index allocation, state.allocations index = some allocation →
    ∃ slot session, state.sessions slot = some session ∧ session.HoldsAllocation allocation
  distinct : ∀ first second x y, state.queues first = some x → state.queues second = some y →
    x.ownerId = y.ownerId → x.ownerGeneration = y.ownerGeneration →
    x.clientQueueId = y.clientQueueId → first = second

end Definitions

section Preservation

variable {state : HostGPUKmtState}

theorem owns_iff {session : Session} {identity : Identity} :
    session.owns identity = true ↔
      identity.ownerId = session.ownerId ∧ identity.ownerGeneration = session.ownerGeneration := by
  rw [Session.owns, Bool.and_eq_true, beq_iff_eq, beq_iff_eq]

theorem Session.Continues.owns {before after : Session} (continues : before.Continues after)
    (identity : Identity) : after.owns identity = before.owns identity := by
  rw [Session.owns, Session.owns, continues.ownerId, continues.ownerGeneration]

/-- An exported backing keeps its size. -/
theorem Session.Continues.exported {before after : Session} (continues : before.Continues after)
    (exported : before.sharedBackingExported = true) :
    after.sharedBackingExported = true ∧ after.sharedBackingBytes = before.sharedBackingBytes := by
  rcases continues.backing with ⟨flag, bytes, -⟩ | ⟨fresh, -, -⟩
  · exact ⟨flag.trans exported, bytes⟩
  · exact absurd (exported.symm.trans fresh) (by decide)

theorem Session.HoldsQueue.continues {before after : Session} {queue : Queue}
    (holds : before.HoldsQueue queue) (continues : before.Continues after) :
    after.HoldsQueue queue := by
  obtain ⟨exported, bytes⟩ := continues.exported holds.exported
  refine ⟨(continues.owns _).trans holds.owned, exported, ?_⟩
  rw [bytes]
  exact holds.place

theorem Session.HoldsAllocation.continues {before after : Session} {allocation : Allocation}
    (holds : before.HoldsAllocation allocation) (continues : before.Continues after) :
    after.HoldsAllocation allocation := by
  refine ⟨(continues.owns _).trans holds.owned, fun ordinary => ?_⟩
  obtain ⟨wasExported, fits⟩ := holds.place ordinary
  obtain ⟨exported, bytes⟩ := continues.exported wasExported
  rw [bytes]
  exact ⟨exported, fits⟩

/-- What the place of a queue in the backing depends on. -/
def Queue.placement (queue : Queue) : Identity × UInt32 × UInt64 × UInt64 :=
  (queue.toIdentity, queue.clientQueueId, queue.doorbellOffset, queue.completionOffset)

/-- What the place of an allocation in the backing depends on. -/
def Allocation.placement (allocation : Allocation) :
    Identity × Bool × UInt64 × UInt64 × UInt32 :=
  (allocation.toIdentity, allocation.gpuAllocation, allocation.size, allocation.mmapOffset,
    allocation.memoryFlags)

theorem Session.HoldsQueue.congr {session : Session} {queue old : Queue}
    (holds : session.HoldsQueue old) (same : queue.placement = old.placement) :
    session.HoldsQueue queue := by
  simp only [Queue.placement, Prod.mk.injEq] at same
  obtain ⟨identity, clientId, doorbell, completion⟩ := same
  refine ⟨identity ▸ holds.owned, holds.exported, ?_⟩
  rw [clientId, doorbell, completion]
  exact holds.place

theorem Session.HoldsAllocation.congr {session : Session} {allocation old : Allocation}
    (holds : session.HoldsAllocation old) (same : allocation.placement = old.placement) :
    session.HoldsAllocation allocation := by
  simp only [Allocation.placement, Prod.mk.injEq] at same
  obtain ⟨identity, gpu, size, offset, flags⟩ := same
  refine ⟨identity ▸ holds.owned, ?_⟩
  rw [Allocation.ordinary, Allocation.span, gpu, size, offset, flags]
  exact holds.place

/-- Objects carry over with their holders when they keep their places and sessions. -/
theorem Controlled.carry (controlled : Controlled state) {after : HostGPUKmtState}
    (issued : ∀ slot session, after.sessions slot = some session →
      session.ownerGeneration.toNat < after.nextOwnerGeneration.toNat)
    (queues : ∀ index queue, after.queues index = some queue →
      ∃ old, state.queues index = some old ∧ queue.placement = old.placement)
    (allocations : ∀ index allocation, after.allocations index = some allocation →
      ∃ old, state.allocations index = some old ∧ allocation.placement = old.placement)
    (kept : ∀ slot session, state.sessions slot = some session →
      (∃ later, after.sessions slot = some later ∧ session.Continues later) ∨
        state.holdsObjects session = false) : Controlled after where
  issued := issued
  queues := fun index queue found => by
    obtain ⟨old, present, same⟩ := queues index queue found
    obtain ⟨slot, session, live, holds⟩ := controlled.queues index old present
    rcases kept slot session live with ⟨later, still, continues⟩ | idle
    · exact ⟨slot, later, still, (holds.continues continues).congr same⟩
    · rw [holdsObjects, Bool.or_eq_false_iff, Bool.or_eq_false_iff] at idle
      have foreign := SlotTable.holds_eq_false.mp idle.1.2 index old present
      exact absurd (holds.owned.symm.trans foreign) (by decide)
  allocations := fun index allocation found => by
    obtain ⟨old, present, same⟩ := allocations index allocation found
    obtain ⟨slot, session, live, holds⟩ := controlled.allocations index old present
    rcases kept slot session live with ⟨later, still, continues⟩ | idle
    · exact ⟨slot, later, still, (holds.continues continues).congr same⟩
    · rw [holdsObjects, Bool.or_eq_false_iff, Bool.or_eq_false_iff] at idle
      have foreign := SlotTable.holds_eq_false.mp idle.1.1 index old present
      exact absurd (holds.owned.symm.trans foreign) (by decide)
  distinct := fun first second x y foundX foundY sameId sameGeneration sameClient => by
    obtain ⟨oldX, presentX, placeX⟩ := queues first x foundX
    obtain ⟨oldY, presentY, placeY⟩ := queues second y foundY
    simp only [Queue.placement, Prod.mk.injEq] at placeX placeY
    refine controlled.distinct first second oldX oldY presentX presentY ?_ ?_ ?_
    · rw [← placeX.1, ← placeY.1, sameId]
    · rw [← placeX.1, ← placeY.1, sameGeneration]
    · rw [← placeX.2.1, ← placeY.2.1, sameClient]

/-- The sessions stay, each continued by the one in its slot. -/
theorem kept_of_same {after : HostGPUKmtState} (same : after.sessions = state.sessions) :
    ∀ slot session, state.sessions slot = some session →
      (∃ later, after.sessions slot = some later ∧ session.Continues later) ∨
        state.holdsObjects session = false :=
  fun slot session live => Or.inl ⟨session, by rw [same, live], .refl session⟩

theorem Controlled.withSession (controlled : Controlled state) {slot : Fin MaximumOwners}
    {old session : Session} (present : state.sessions slot = some old)
    (continues : old.Continues session) : Controlled (state.withSession slot session) := by
  refine controlled.carry (fun other found live => ?_) (same_origin _) (same_origin _)
    fun other found live => Or.inl ?_
  · rcases SlotTable.put_eq_some.mp live with ⟨rfl, rfl⟩ | ⟨-, untouched⟩
    · rw [continues.ownerGeneration]
      exact controlled.issued _ old present
    · exact controlled.issued other found untouched
  · by_cases here : other = slot
    · subst here
      obtain rfl := Option.some.inj (present.symm.trans live)
      exact ⟨session, SlotTable.put_same _ _ _, continues⟩
    · exact ⟨found, (SlotTable.put_other _ _ here).trans live, .refl found⟩

theorem Controlled.withNext (controlled : Controlled state) (kind : GenerationKind)
    (jobEpoch : UInt64) :
    Controlled (state.withNext kind (state.take kind jobEpoch).2) := by
  have next := (progress_take state kind jobEpoch).counters .owner
  have same := sameObjects_withNext state kind (state.take kind jobEpoch).2
  refine controlled.carry (fun slot session live => ?_) ?_ ?_ (kept_of_same same.sessions)
  · rw [same.sessions] at live
    exact (controlled.issued slot session live).trans_le next
  · rw [same.queues]
    exact same_origin _
  · rw [same.allocations]
    exact same_origin _

/-- A session held by nothing yet may be added with a generation taken just now. -/
theorem Controlled.addSession (controlled : Controlled state) {slot : Fin MaximumOwners}
    {session : Session} (free : state.sessions slot = none)
    (below : session.ownerGeneration.toNat < state.nextOwnerGeneration.toNat) :
    Controlled (state.addSession slot session) := by
  refine controlled.carry (fun other found live => ?_) (same_origin _) (same_origin _)
    fun other found live => Or.inl ?_
  · rcases SlotTable.put_eq_some.mp live with ⟨-, rfl⟩ | ⟨-, untouched⟩
    · exact below
    · exact controlled.issued other found untouched
  · have elsewhere : other ≠ slot := by
      rintro rfl
      exact absurd (free.symm.trans live) (by simp)
    exact ⟨found, (SlotTable.put_other _ _ elsewhere).trans live, .refl found⟩

theorem Controlled.closed (controlled : Controlled state) {slot : Fin MaximumOwners}
    {session : Session} (present : state.sessions slot = some session)
    (idle : state.holdsObjects session = false) : Controlled (state.releaseSession slot) := by
  refine controlled.carry
    (fun other found live => controlled.issued other found (SlotTable.drop_eq_some.mp live).2)
    (same_origin _) (same_origin _) fun other found live => ?_
  by_cases here : other = slot
  · subst here
    obtain rfl := Option.some.inj (present.symm.trans live)
    exact Or.inr idle
  · exact Or.inl ⟨found, (SlotTable.drop_other _ here).trans live, .refl found⟩

theorem holdsAllocation_of_placed {call : Call} {generation : UInt64}
    {slot : Fin MaximumAllocations} {allocation : Allocation}
    (placed : Placed state call generation slot allocation) :
    call.session.HoldsAllocation allocation := by
  cases placed with
  | legacy =>
    exact ⟨owns_iff.mpr ⟨rfl, rfl⟩, fun ordinary => absurd ordinary.1 Bool.false_ne_true⟩
  | gpu valid fits apart backed =>
    refine ⟨owns_iff.mpr ⟨rfl, rfl⟩, fun ordinary => ?_⟩
    obtain ⟨exported, -, below, -⟩ := backingRefusal_none (backed ordinary.2.1)
    have plain := ordinary.2.2
    refine ⟨exported, ?_⟩
    rw [Allocation.span, plain]
    exact (below plain).2

theorem Controlled.addAllocation (controlled : Controlled state) {holder : Fin MaximumOwners}
    {session : Session} {slot : Fin MaximumAllocations} {allocation : Allocation}
    (present : state.sessions holder = some session)
    (holds : session.HoldsAllocation allocation) :
    Controlled (state.addAllocation slot allocation) where
  issued := controlled.issued
  queues := controlled.queues
  allocations := fun index found live => by
    rcases SlotTable.put_eq_some.mp live with ⟨-, rfl⟩ | ⟨-, old⟩
    · exact ⟨holder, session, present, holds⟩
    · exact controlled.allocations index found old
  distinct := controlled.distinct

/-- The client slot a new queue takes is used by no queue of its owner. -/
theorem firstClientSlot_unused {queues : SlotTable MaximumQueues Queue} {session : Session}
    {clientSlot : Fin KmtSharedBackingMaximumDoorbellSlots}
    (unused : firstClientSlot (clientQueueIds queues session) = some clientSlot)
    {index : Fin MaximumQueues} {queue : Queue} (found : queues index = some queue)
    (owned : session.owns queue.toIdentity = true) :
    queue.clientQueueId ≠ UInt32.ofNat (clientSlot + 1) := by
  have absent := List.find?_some unused
  intro same
  have member : UInt32.ofNat (clientSlot + 1) ∈ clientQueueIds queues session := by
    refine List.mem_filterMap.mpr ⟨index, List.mem_finRange index, ?_⟩
    rw [found, Option.filter_some, if_pos owned, Option.map_some, same]
  rw [List.contains_iff_mem.mpr member] at absent
  cases absent

theorem Controlled.addQueue (controlled : Controlled state) {call : Call} {generation : UInt64}
    {slot : Fin MaximumQueues} {clientSlot : Fin KmtSharedBackingMaximumDoorbellSlots}
    (present : state.sessions call.slot = some call.session)
    (exported : call.session.sharedBackingExported = true)
    (unused : firstClientSlot (clientQueueIds state.queues call.session) = some clientSlot) :
    Controlled (state.addQueue slot
      (createdQueue call.session call.request generation slot clientSlot)) where
  issued := controlled.issued
  allocations := controlled.allocations
  queues := fun index found live => by
    rcases SlotTable.put_eq_some.mp live with ⟨-, rfl⟩ | ⟨-, old⟩
    · exact ⟨call.slot, call.session, present,
        ⟨owns_iff.mpr ⟨rfl, rfl⟩, exported, clientSlot, rfl, rfl, rfl⟩⟩
    · exact controlled.queues index found old
  distinct := fun first second x y foundX foundY sameId sameGeneration sameClient => by
    rcases SlotTable.put_eq_some.mp foundX with ⟨rfl, rfl⟩ | ⟨-, oldX⟩
    · rcases SlotTable.put_eq_some.mp foundY with ⟨rfl, -⟩ | ⟨-, oldY⟩
      · rfl
      · exact absurd sameClient.symm (firstClientSlot_unused unused oldY
          (owns_iff.mpr ⟨sameId.symm, sameGeneration.symm⟩))
    · rcases SlotTable.put_eq_some.mp foundY with ⟨rfl, rfl⟩ | ⟨-, oldY⟩
      · exact absurd sameClient (firstClientSlot_unused unused oldX
          (owns_iff.mpr ⟨sameId, sameGeneration⟩))
      · exact controlled.distinct first second x y oldX oldY sameId sameGeneration sameClient

theorem Controlled.effect (controlled : Controlled state) {call : Call} {after : HostGPUKmtState}
    {issued : Option (GenerationKind × UInt64)}
    (present : state.sessions call.slot = some call.session)
    (effect : Effect state call after issued) : Controlled after := by
  cases effect with
  | unchanged => exact controlled
  | sampled | eventDestroyed | eventUpdated =>
    exact controlled.carry controlled.issued (same_origin _) (same_origin _) (kept_of_same rfl)
  | closed _ idle => exact controlled.closed present idle
  | configured continues => exact controlled.withSession present continues
  | advanced kind => exact controlled.withNext kind _
  | @allocated slot allocation free _ _ placed =>
    exact (controlled.withNext .allocation _).addAllocation present
      (holdsAllocation_of_placed placed)
  | freed =>
    exact controlled.carry controlled.issued (same_origin _) (drop_origin _) (kept_of_same rfl)
  | rewritten _ _ found =>
    exact controlled.carry controlled.issued (same_origin _) (put_origin found rfl)
      (kept_of_same rfl)
  | queueCreated free exported unused =>
    exact (controlled.withNext .queue _).addQueue present exported unused
  | queueDestroyed =>
    exact controlled.carry controlled.issued (drop_origin _) (same_origin _) (kept_of_same rfl)
  | queueRung _ found =>
    exact controlled.carry controlled.issued (put_origin found rfl) (same_origin _)
      (kept_of_same rfl)
  | eventCreated =>
    have taken := controlled.withNext .event call.session.jobEpoch
    exact taken.carry taken.issued (same_origin _) (same_origin _) (kept_of_same rfl)

theorem controlled_preserved : Preserved (fun _ _ => True) Controlled where
  quiet := fun _ => trivial
  sampled := fun _ controlled =>
    controlled.carry controlled.issued (same_origin _) (same_origin _) (kept_of_same rfl)
  touched := fun present le controlled => controlled.withSession present (touched_continues le)
  lostOwner := fun jobEpoch controlled => controlled.withNext .owner jobEpoch
  opened := fun {state _ _ jobEpoch} _ free taken controlled =>
    (controlled.withNext .owner jobEpoch).addSession (SlotTable.firstFree_spec free)
      ((progress_take state .owner jobEpoch).range .owner _ (issuedAs_of_ne taken)).2
  effect := fun present _ controlled effect => controlled.effect present effect
  written := fun _ found controlled =>
    controlled.carry controlled.issued (same_origin _) (put_origin found rfl) (kept_of_same rfl)

theorem controlled_of_empty (sessions : state.sessions = SlotTable.empty)
    (queues : state.queues = SlotTable.empty)
    (allocations : state.allocations = SlotTable.empty) : Controlled state where
  issued := fun _ _ found => by rw [sessions] at found; cases found
  queues := fun _ _ found => by rw [queues] at found; cases found
  allocations := fun _ _ found => by rw [allocations] at found; cases found
  distinct := fun _ _ _ _ found => by rw [queues] at found; cases found

theorem SameButPins.controlled {before after : HostGPUKmtState} (same : SameButPins before after)
    (controlled : Controlled before) : Controlled after := by
  have sessions : after.sessions = before.sessions := by rw [same.rest]
  have next : after.nextOwnerGeneration = before.nextOwnerGeneration := by rw [same.rest]
  refine controlled.carry (fun slot session live => ?_) (fun index queue found => ?_)
    (fun index allocation found => ?_) (kept_of_same sessions)
  · rw [next]
    exact controlled.issued slot session (sessions ▸ live)
  · obtain ⟨old, present, bare⟩ := same.queue found
    exact ⟨old, present, by rw [bare]; rfl⟩
  · obtain ⟨old, present, bare⟩ := same.allocation found
    exact ⟨old, present, by rw [bare]; rfl⟩

theorem controlled_step (controlled : Controlled state) (op : Op) :
    Controlled (step state op) := by
  refine controlled_preserved.step SameButPins.controlled (fun _ => ?_) controlled ?_
  · exact controlled_of_empty rfl rfl rfl
  · cases op <;> first | trivial | exact fun _ _ => trivial

theorem controlled_of_reachable (reach : KmtReachable state) : Controlled state := by
  obtain ⟨epoch, ticks, start, constructed, run⟩ := reach
  refine run.invariant step (fun _ op controlled => controlled_step controlled op) ?_
  obtain rfl := eq_of_construct constructed
  exact controlled_of_empty rfl rfl rfl

end Preservation

section Words

variable {state : HostGPUKmtState} {session : Session}

/-- The offsets of a client slot's words, as numbers. -/
theorem toNat_offsets (large : 8192 ≤ session.sharedBackingBytes.toNat)
    (clientSlot : Fin KmtSharedBackingMaximumDoorbellSlots) :
    (doorbellOffsetOf session.sharedBackingBytes clientSlot).toNat =
        session.sharedBackingBytes.toNat - 8192 + 8 * clientSlot.val ∧
      (completionOffsetOf session.sharedBackingBytes clientSlot).toNat =
        session.sharedBackingBytes.toNat - 8192 + 1024 + 8 * clientSlot.val := by
  have small : clientSlot.val < 128 := clientSlot.isLt
  have bound := session.sharedBackingBytes.toNat_lt
  have region : KmtSharedBackingDoorbellRegionBytes.toNat = 8192 := rfl
  have base : KmtSharedBackingDoorbellRegionBaseBytes.toNat = 0 := rfl
  have completions : KmtSharedBackingCompletionRegionBaseBytes.toNat = 1024 := rfl
  have word : KmtSharedBackingDoorbellSlotBytes.toNat = 8 := rfl
  have completionWord : KmtSharedBackingCompletionSlotBytes.toNat = 8 := rfl
  have index : (UInt64.ofNat clientSlot.val).toNat = clientSlot.val := by
    rw [UInt64.toNat_ofNat', Nat.mod_eq_of_lt (by omega)]
  have start := toNat_sub_exact (a := session.sharedBackingBytes)
    (b := KmtSharedBackingDoorbellRegionBytes) (by rw [region]; exact large)
  rw [doorbellOffsetOf, completionOffsetOf]
  constructor
  · rw [UInt64.toNat_add, UInt64.toNat_add, UInt64.toNat_mul, start, region, base, word, index]
    omega
  · rw [UInt64.toNat_add, UInt64.toNat_add, UInt64.toNat_mul, start, region, completions,
      completionWord, index]
    omega

/-- Where the words of a held queue lie. -/
theorem Session.HoldsQueue.words (large : session.sharedBackingExported = true →
      KmtSharedBackingDoorbellRegionBytes.toNat ≤ session.sharedBackingBytes.toNat)
    {queue : Queue} (holds : session.HoldsQueue queue) :
    ∃ clientSlot : Fin KmtSharedBackingMaximumDoorbellSlots,
      queue.clientQueueId = UInt32.ofNat (clientSlot + 1) ∧
      8192 ≤ session.sharedBackingBytes.toNat ∧
      queue.doorbellOffset.toNat =
        session.sharedBackingBytes.toNat - 8192 + 8 * clientSlot.val ∧
      queue.completionOffset.toNat =
        session.sharedBackingBytes.toNat - 8192 + 1024 + 8 * clientSlot.val := by
  obtain ⟨clientSlot, clientId, doorbell, completion⟩ := holds.place
  have region := large holds.exported
  rw [toNat_doorbellRegion] at region
  obtain ⟨doorbellAt, completionAt⟩ := toNat_offsets region clientSlot
  exact ⟨clientSlot, clientId, region, by rw [doorbell, doorbellAt],
    by rw [completion, completionAt]⟩

theorem mem_controlWords {queue : Queue} {byte : ℕ} :
    byte ∈ queue.controlWords ↔
      (queue.doorbellOffset.toNat ≤ byte ∧ byte < queue.doorbellOffset.toNat + 8) ∨
        (queue.completionOffset.toNat ≤ byte ∧ byte < queue.completionOffset.toNat + 8) :=
  Iff.rfl

/-- The two backings agree on a set of bytes. -/
def KeepsBytes (bytes : Set ℕ) (before after : HostKmtSharedBacking) : Prop :=
  ∀ byte ∈ bytes, after.bytes byte = before.bytes byte

/-- The queues belong to one owner. -/
def SameQueueOwner (x y : Queue) : Prop :=
  x.ownerId = y.ownerId ∧ x.ownerGeneration = y.ownerGeneration

/-- Where the control words of a state lie, and which writes leave them alone. -/
structure ControlLaw (state : HostGPUKmtState) : Prop where
  held : ∀ index queue, state.queues index = some queue →
    ∃ slot session, state.sessions slot = some session ∧ session.owns queue.toIdentity = true
  distinct : ∀ first second x y, state.queues first = some x → state.queues second = some y →
    SameQueueOwner x y → first ≠ second → x.clientQueueId ≠ y.clientQueueId
  inside : ∀ slot session index queue, state.sessions slot = some session →
    state.queues index = some queue → session.owns queue.toIdentity = true →
    queue.controlWords ⊆ session.controlRegion
  wordsApart : ∀ index queue, state.queues index = some queue →
    Disjoint queue.doorbellWord queue.completionWord
  queuesApart : ∀ first second x y, state.queues first = some x →
    state.queues second = some y → SameQueueOwner x y → first ≠ second →
    Disjoint x.controlWords y.controlWords
  /-- The span of an ordinary allocation ends below the control region. -/
  spans : ∀ slot session index allocation, state.sessions slot = some session →
    state.allocations index = some allocation →
    session.owns allocation.toIdentity = true → allocation.ordinary →
    Disjoint allocation.backingRange session.controlRegion
  doorbells : ∀ first second x y, state.queues first = some x → state.queues second = some y →
    SameQueueOwner x y → first ≠ second → ∀ backing env source,
    KeepsBytes y.controlWords backing (doorbellWrite x backing env source).2
  completions : ∀ first second x y, state.queues first = some x →
    state.queues second = some y → SameQueueOwner x y → first ≠ second →
    ∀ transportOwner ownerId ownerGeneration backing env address source byteCount,
    overlapsReadIndex x.readPointer address byteCount = true →
    KeepsBytes y.controlWords backing (queueWrite state transportOwner ownerId ownerGeneration
      x backing env address source byteCount).2

/-- What the control law rests on. -/
structure ControlSound (state : HostGPUKmtState) : Prop where
  shaped : Shaped state
  sound : SessionsSound state
  controlled : Controlled state

/-- The owner id of an object names its session. -/
theorem ControlSound.queue_held (known : ControlSound state) {slot : Fin MaximumOwners}
    {index : Fin MaximumQueues} {queue : Queue} (live : state.sessions slot = some session)
    (found : state.queues index = some queue) (sameId : queue.ownerId = session.ownerId) :
    session.HoldsQueue queue := by
  obtain ⟨other, holder, there, holds⟩ := known.controlled.queues index queue found
  have owner := (owns_iff.mp holds.owned).1
  obtain rfl := known.sound.slot_unique live there (sameId.symm.trans owner)
  obtain rfl := Option.some.inj (live.symm.trans there)
  exact holds

theorem ControlSound.allocation_held (known : ControlSound state) {slot : Fin MaximumOwners}
    {index : Fin MaximumAllocations} {allocation : Allocation}
    (live : state.sessions slot = some session)
    (found : state.allocations index = some allocation)
    (sameId : allocation.ownerId = session.ownerId) : session.HoldsAllocation allocation := by
  obtain ⟨other, holder, there, holds⟩ := known.controlled.allocations index allocation found
  have owner := (owns_iff.mp holds.owned).1
  obtain rfl := known.sound.slot_unique live there (sameId.symm.trans owner)
  obtain rfl := Option.some.inj (live.symm.trans there)
  exact holds

/-- The words of two queues of one owner never meet. -/
theorem ControlSound.queuesApart (known : ControlSound state) {first second : Fin MaximumQueues}
    {x y : Queue} (foundX : state.queues first = some x) (foundY : state.queues second = some y)
    (same : SameQueueOwner x y) (differ : first ≠ second) :
    Disjoint x.controlWords y.controlWords := by
  obtain ⟨slot, session, live, holdsX⟩ := known.controlled.queues first x foundX
  have holdsY := known.queue_held live foundY (same.1.symm.trans (owns_iff.mp holdsX.owned).1)
  obtain ⟨slotX, clientX, large, doorbellX, completionX⟩ :=
    holdsX.words (known.shaped.backed slot session live)
  obtain ⟨slotY, clientY, -, doorbellY, completionY⟩ :=
    holdsY.words (known.shaped.backed slot session live)
  have apart : slotX.val ≠ slotY.val := by
    intro equal
    refine differ (known.controlled.distinct first second x y foundX foundY same.1 same.2 ?_)
    rw [clientX, clientY, equal]
  have smallX : slotX.val < 128 := slotX.isLt
  have smallY : slotY.val < 128 := slotY.isLt
  rw [Set.disjoint_left]
  intro byte inX inY
  rw [mem_controlWords, doorbellX, completionX] at inX
  rw [mem_controlWords, doorbellY, completionY] at inY
  omega

/-- A bounded write to eight bytes outside a set keeps the set. -/
theorem keepsBytes_write {bytes : Set ℕ} {backing : HostKmtSharedBacking} {env : WriteEnv}
    {offset : UInt64} {source : ℕ → UInt8} {count : UInt64}
    (apart : offset.toNat + count.toNat ≤ backing.byteCount.toNat → ∀ byte ∈ bytes,
      ¬ (offset.toNat ≤ byte ∧ byte < offset.toNat + count.toNat)) :
    KeepsBytes bytes backing (backing.write env offset source count).2 :=
  fun byte member => backing.write_frame env offset source count fun fits => apart fits byte member

theorem ControlSound.law (known : ControlSound state) : ControlLaw state where
  held := fun index queue found => by
    obtain ⟨slot, session, live, holds⟩ := known.controlled.queues index queue found
    exact ⟨slot, session, live, holds.owned⟩
  distinct := fun first second x y foundX foundY same differ sameClient =>
    differ (known.controlled.distinct first second x y foundX foundY same.1 same.2 sameClient)
  inside := fun slot session index queue live found owned byte member => by
    have holds := known.queue_held live found (owns_iff.mp owned).1
    obtain ⟨clientSlot, -, large, doorbell, completion⟩ :=
      holds.words (known.shaped.backed slot session live)
    have small : clientSlot.val < 128 := clientSlot.isLt
    rw [mem_controlWords, doorbell, completion] at member
    rw [Session.controlRegion, Set.mem_Ico]
    omega
  wordsApart := fun index queue found => by
    obtain ⟨slot, session, live, holds⟩ := known.controlled.queues index queue found
    obtain ⟨clientSlot, -, large, doorbell, completion⟩ :=
      holds.words (known.shaped.backed slot session live)
    have small : clientSlot.val < 128 := clientSlot.isLt
    rw [Set.disjoint_left]
    intro byte inDoorbell inCompletion
    rw [Queue.doorbellWord, Set.mem_Ico, doorbell] at inDoorbell
    rw [Queue.completionWord, Set.mem_Ico, completion] at inCompletion
    omega
  queuesApart := fun _ _ _ _ foundX foundY same differ =>
    known.queuesApart foundX foundY same differ
  spans := fun slot session index allocation live found owned ordinary => by
    have holds := known.allocation_held live found (owns_iff.mp owned).1
    obtain ⟨exported, below⟩ := holds.place ordinary
    rw [toNat_sub_exact (known.shaped.backed slot session live exported),
      toNat_doorbellRegion] at below
    rw [Set.disjoint_left]
    intro byte inSpan inRegion
    rw [Allocation.backingRange, Set.mem_Ico] at inSpan
    rw [Session.controlRegion, Set.mem_Ico] at inRegion
    omega
  doorbells := fun first second x y foundX foundY same differ backing env source => by
    have apart := Set.disjoint_left.mp (known.queuesApart foundX foundY same differ)
    exact keepsBytes_write fun _ byte member inside => apart (Or.inl inside) member
  completions := fun first second x y foundX foundY same differ _ _ _ backing env address source
      byteCount redirected => by
    have apart := Set.disjoint_left.mp (known.queuesApart foundX foundY same differ)
    unfold queueWrite
    split
    · exact fun _ _ => rfl
    · split
      · rename_i whole
        rw [whole.2]
        exact keepsBytes_write fun _ byte member inside => apart (Or.inr inside) member
      · exact fun _ _ => rfl

theorem controlSound_of_reachable (reach : KmtReachable state) : ControlSound state :=
  ⟨shaped_of_reachable reach, sessionsSound_of_reachable reach, controlled_of_reachable reach⟩

end Words

section NativeWrites

variable {state : HostGPUKmtState} {transportOwner : Owner}
  {ownerId ownerGeneration gpuVa byteCount : UInt64}

/-- A write by GPU VA that resolves to an ordinary allocation keeps the control words of
every queue of the owner, whatever the backing holds and however the write ends. -/
def NativeWriteLaw (state : HostGPUKmtState) (transportOwner : Owner)
    (ownerId ownerGeneration gpuVa byteCount : UInt64) : Prop :=
  ∀ index session slot allocation home queue,
    state.findSessionAs transportOwner ownerId ownerGeneration = some (index, session) →
    state.allocations slot = some allocation → allocation.ordinary →
    state.memoryInfo transportOwner ownerId ownerGeneration gpuVa byteCount =
      some (infoFor slot allocation) →
    state.queues home = some queue → session.owns queue.toIdentity = true →
    ∀ backing env source, backing.byteCount = session.sharedBackingBytes →
    KeepsBytes queue.controlWords backing
      (nativeWrite state transportOwner ownerId ownerGeneration backing env gpuVa source
        byteCount).2

/-- The first byte of the backing an access through the allocation uses. -/
def Allocation.accessStart (allocation : Allocation) (gpuVa : UInt64) : ℕ :=
  allocation.mmapOffset.toNat + (gpuVa.toNat - allocation.virtualAddress.toNat)

/-- The access ends exactly at `2 ^ 64`, the one allocation of its session that starts at a
nonzero VA not above it is ordinary, and its range of the backing fits the file and covers
a byte of a control word. -/
def EscapesIntoControl (state : HostGPUKmtState) (transportOwner : Owner)
    (ownerId ownerGeneration gpuVa byteCount : UInt64) : Prop :=
  gpuVa.toNat + byteCount.toNat = 2 ^ 64 ∧
    ∃ index session slot allocation home queue,
      state.findSessionAs transportOwner ownerId ownerGeneration = some (index, session) ∧
      state.allocations slot = some allocation ∧ allocation.ordinary ∧
      (∀ other, StartsBelow state session gpuVa other ↔ other = slot) ∧
      state.queues home = some queue ∧ session.owns queue.toIdentity = true ∧
      allocation.accessStart gpuVa + byteCount.toNat ≤ session.sharedBackingBytes.toNat ∧
      ∃ byte ∈ queue.controlWords, allocation.accessStart gpuVa ≤ byte ∧
        byte < allocation.accessStart gpuVa + byteCount.toNat

/-- A lookup that returns the record of a live allocation accepted that allocation alone. -/
theorem memoryInfo_infoFor {index : Fin MaximumOwners} {session : Session}
    {slot : Fin MaximumAllocations} {allocation : Allocation}
    (found : state.findSessionAs transportOwner ownerId ownerGeneration = some (index, session))
    (present : state.allocations slot = some allocation) :
    state.memoryInfo transportOwner ownerId ownerGeneration gpuVa byteCount =
        some (infoFor slot allocation) ↔
      byteCount ≠ 0 ∧ gpuVa.toNat + byteCount.toNat ≤ 2 ^ 64 ∧
        ∀ other, AcceptsAt state.allocations session gpuVa (gpuVa + byteCount) other ↔
          other = slot := by
  rw [memoryInfo_eq_some]
  constructor
  · rintro ⟨_, _, accepted, other, sameSession, positive, fits, live, accepts, record, alone⟩
    obtain ⟨rfl, rfl⟩ := Prod.mk.inj (Option.some.inj (found.symm.trans sameSession))
    have small : accepted.val < 1024 := accepted.isLt
    have slotSmall : slot.val < 1024 := slot.isLt
    have sameId : makeId AllocationPrefix accepted = makeId AllocationPrefix slot :=
      congrArg MemoryInfo.objectId record
    obtain rfl : accepted = slot :=
      Fin.ext ((makeId_inj (by decide) (by omega) (by omega)).mp sameId)
    refine ⟨positive, fits, fun candidate => ⟨alone candidate, ?_⟩⟩
    rintro rfl
    exact ⟨other, live, accepts⟩
  · rintro ⟨positive, fits, only⟩
    obtain ⟨other, live, accepts⟩ := (only slot).mpr rfl
    obtain rfl := Option.some.inj (present.symm.trans live)
    exact ⟨index, session, slot, allocation, found, positive, fits, present, accepts, rfl,
      fun candidate => (only candidate).mp⟩

/-- A write through an ordinary allocation is a write of the backing at its access start,
unless that does not fit a word. -/
theorem nativeWrite_ordinary {slot : Fin MaximumAllocations} {allocation : Allocation}
    (backing : HostKmtSharedBacking) (env : WriteEnv) (source : ℕ → UInt8)
    (resolved : state.memoryInfo transportOwner ownerId ownerGeneration gpuVa byteCount =
      some (infoFor slot allocation)) (ordinary : allocation.ordinary)
    (above : allocation.virtualAddress.toNat ≤ gpuVa.toNat) :
    (nativeWrite state transportOwner ownerId ownerGeneration backing env gpuVa source byteCount =
        (false, backing) ∧ 2 ^ 64 ≤ allocation.accessStart gpuVa) ∨
      ∃ offset, offset.toNat = allocation.accessStart gpuVa ∧
        nativeWrite state transportOwner ownerId ownerGeneration backing env gpuVa source
          byteCount = backing.write env offset source byteCount := by
  have relative := toNat_sub_exact above
  unfold nativeWrite
  rw [resolved]
  dsimp only [infoFor]
  split
  · rename_i past
    rw [gt_iff_lt, max_sub_lt_iff, relative] at past
    exact Or.inl ⟨rfl, past⟩
  · rename_i fits
    rw [gt_iff_lt, max_sub_lt_iff, relative] at fits
    rw [if_neg (by rw [ordinary.2.1]; decide)]
    refine Or.inr ⟨_, ?_, rfl⟩
    rw [toNat_add_exact (by rw [relative]; omega), relative, Allocation.accessStart]

/-- At the top of the address space the lookup takes the one allocation that starts below. -/
theorem memoryInfo_top (shaped : Shaped state) {index : Fin MaximumOwners} {session : Session}
    {slot : Fin MaximumAllocations} {allocation : Allocation}
    (top : gpuVa.toNat + byteCount.toNat = 2 ^ 64)
    (found : state.findSessionAs transportOwner ownerId ownerGeneration = some (index, session))
    (present : state.allocations slot = some allocation) :
    state.memoryInfo transportOwner ownerId ownerGeneration gpuVa byteCount =
        some (infoFor slot allocation) ↔
      ∀ other, StartsBelow state session gpuVa other ↔ other = slot := by
  have bound := gpuVa.toNat_lt
  have positive : byteCount ≠ 0 := ne_zero_iff_toNat_pos.mpr (by omega)
  rw [memoryInfo_infoFor found present, and_iff_right positive, and_iff_right top.le]
  exact forall_congr' fun other => iff_congr (acceptsAt_top shaped top other) Iff.rfl

theorem ControlSound.nativeWriteLaw (known : ControlSound state)
    (stays : ¬ EscapesIntoControl state transportOwner ownerId ownerGeneration gpuVa byteCount) :
    NativeWriteLaw state transportOwner ownerId ownerGeneration gpuVa byteCount := by
  intro index session slot allocation home queue found present ordinary resolved queued owned
    backing env source size
  obtain ⟨-, within, only⟩ := (memoryInfo_infoFor found present).mp resolved
  obtain ⟨other, live, accepts⟩ := (only slot).mpr rfl
  obtain rfl := Option.some.inj (present.symm.trans live)
  have wellShaped := known.shaped.allocations slot allocation present
  obtain ⟨mine, -, above, below⟩ := (lookupAccepts_iff wellShaped).mp accepts
  rcases nativeWrite_ordinary backing env source resolved ordinary above with ⟨same, -⟩ | ⟨offset, start, same⟩
  · rw [same]
    exact fun _ _ => rfl
  · rw [same]
    refine keepsBytes_write fun fits byte member inside => ?_
    rw [start] at fits inside
    rw [size] at fits
    rcases within.lt_or_eq with short | top
    · -- in bounds: the range lies in the span, which ends below the control region
      obtain ⟨sessionLive, -⟩ := findSessionAs_spec found
      have law := known.law
      have inRegion := law.inside index session home queue sessionLive queued owned member
      refine Set.disjoint_left.mp
        (law.spans index session slot allocation sessionLive present mine ordinary) ?_ inRegion
      rw [toNat_add_exact short] at below
      have span := (wellShaped.spanFits ordinary.2.1).1
      rw [Allocation.accessStart] at inside
      rw [Allocation.backingRange, Set.mem_Ico]
      omega
    · exact stays ⟨top, index, session, slot, allocation, home, queue, found, present, ordinary,
        (memoryInfo_top known.shaped top found present).mp resolved, queued, owned, fits, byte,
        member, inside⟩

/-- An escaping write of ones over zeroes shows in a control word. -/
theorem EscapesIntoControl.breaks (shaped : Shaped state)
    (escapes : EscapesIntoControl state transportOwner ownerId ownerGeneration gpuVa byteCount) :
    ¬ NativeWriteLaw state transportOwner ownerId ownerGeneration gpuVa byteCount := by
  obtain ⟨top, index, session, slot, allocation, home, queue, found, present, ordinary, alone,
    queued, owned, fits, byte, member, inside⟩ := escapes
  intro law
  have resolved := (memoryInfo_top shaped top found present).mpr alone
  obtain ⟨other, live, -, -, above⟩ := (alone slot).mpr rfl
  obtain rfl := Option.some.inj (present.symm.trans live)
  have bound := session.sharedBackingBytes.toNat_lt
  have addressBound := gpuVa.toNat_lt
  have positive : byteCount ≠ 0 := ne_zero_iff_toNat_pos.mpr (by omega)
  have kept := law index session slot allocation home queue found present ordinary resolved queued
    owned { byteCount := session.sharedBackingBytes, bytes := fun _ => 0 }
    { moved := byteCount.toNat } (fun _ => 1) rfl byte member
  rcases nativeWrite_ordinary
    { byteCount := session.sharedBackingBytes, bytes := fun _ => 0 }
    { moved := byteCount.toNat } (fun _ => 1) resolved ordinary above with
    ⟨-, past⟩ | ⟨offset, start, same⟩
  · omega
  · rw [same, HostKmtSharedBacking.write_inside positive (by rw [start]; exact fits) le_rfl
      (by rw [start]; exact inside.1) (by rw [start]; exact inside.2)] at kept
    have differs : (1 : UInt8) ≠ 0 := by decide
    exact differs kept

/-- Writes by GPU VA keep the control words exactly when they do not escape. -/
theorem ControlSound.nativeWriteLaw_iff (known : ControlSound state) :
    NativeWriteLaw state transportOwner ownerId ownerGeneration gpuVa byteCount ↔
      ¬ EscapesIntoControl state transportOwner ownerId ownerGeneration gpuVa byteCount :=
  ⟨fun law escapes => escapes.breaks known.shaped law, known.nativeWriteLaw⟩

/-- In every reachable state the control words lie apart, only their own queue's doorbell
and completion writes reach them, and so do writes by GPU VA exactly when they escape. -/
theorem controlWords_of_reachable (reach : KmtReachable state) :
    ControlLaw state ∧ ∀ transportOwner ownerId ownerGeneration gpuVa byteCount,
      NativeWriteLaw state transportOwner ownerId ownerGeneration gpuVa byteCount ↔
        ¬ EscapesIntoControl state transportOwner ownerId ownerGeneration gpuVa byteCount := by
  have known := controlSound_of_reachable reach
  exact ⟨known.law, fun _ _ _ _ _ => known.nativeWriteLaw_iff⟩

/-- A page at the start of a small backing with one queue, at a VA near the top. -/
def escapingRun : List Op :=
  acquireRun ++
    [clientSubmit (clientRequest .exportBacking 3 (backingWords 0x3000 0x1000)),
      clientSubmit (queueRequest 4 16 0x10000 0x20000 0x20008),
      clientSubmit (clientRequest .allocateMemoryOfGpu 5
        (gpuWords 0xffffffffffffd000 0x1000 0 0))]

/-- The control law and the write law of the escaping run's last state. -/
theorem controlWords_escapingRun :
    ControlLaw (runFrom step bootState escapingRun) ∧
      ∀ transportOwner ownerId ownerGeneration gpuVa byteCount,
        NativeWriteLaw (runFrom step bootState escapingRun) transportOwner ownerId
            ownerGeneration gpuVa byteCount ↔
          ¬ EscapesIntoControl (runFrom step bootState escapingRun) transportOwner ownerId
            ownerGeneration gpuVa byteCount :=
  controlWords_of_reachable (reachable_boot escapingRun)

/-- Two pages written two pages below the top, through an allocation three pages below it,
run over the doorbell word of the client's queue. -/
theorem nativeWrite_reaches_doorbell :
    ¬ ∀ (state : HostGPUKmtState), KmtReachable state →
      ∀ transportOwner ownerId ownerGeneration gpuVa byteCount,
        NativeWriteLaw state transportOwner ownerId ownerGeneration gpuVa byteCount := by
  intro always
  have reach := reachable_boot escapingRun
  have session : ((runFrom step bootState escapingRun).findSessionAs clientOwner clientOwnerId
      1).map (fun entry => entry.2.sharedBackingBytes) = some 0x3000 := by decide +kernel
  have allocation : ((runFrom step bootState escapingRun).allocations 0).map (fun allocation =>
      (allocation.gpuAllocation, allocation.memoryFlags, allocation.virtualAddress,
        allocation.mmapOffset)) = some (true, 0, 0xffffffffffffd000, 0) := by decide +kernel
  have queue : ((runFrom step bootState escapingRun).queues 0).map (fun queue =>
      (queue.ownerId, queue.ownerGeneration, queue.doorbellOffset)) =
        some (clientOwnerId, 1, 0x1000) := by decide +kernel
  have resolved : (runFrom step bootState escapingRun).memoryInfo clientOwner clientOwnerId 1
      0xffffffffffffe000 0x2000 =
        ((runFrom step bootState escapingRun).allocations 0).map (infoFor 0) := by decide +kernel
  obtain ⟨⟨index, session⟩, found, size⟩ := Option.map_eq_some_iff.mp session
  obtain ⟨allocation, present, fields⟩ := Option.map_eq_some_iff.mp allocation
  obtain ⟨queue, queued, words⟩ := Option.map_eq_some_iff.mp queue
  simp only [Prod.mk.injEq] at fields words
  obtain ⟨gpu, flags, address, offset⟩ := fields
  obtain ⟨queueOwner, queueGeneration, doorbell⟩ := words
  obtain ⟨-, -, sameId, sameGeneration⟩ := findSessionAs_spec found
  rw [present, Option.map_some] at resolved
  have top : (0xffffffffffffe000 : UInt64).toNat + (0x2000 : UInt64).toNat = 2 ^ 64 := by decide
  have start : allocation.accessStart 0xffffffffffffe000 = 0x1000 := by
    rw [Allocation.accessStart, address, offset]
    decide
  have escapes : EscapesIntoControl (runFrom step bootState escapingRun) clientOwner
      clientOwnerId 1 0xffffffffffffe000 0x2000 := by
    refine ⟨top, index, session, 0, allocation, 0, queue, found, present, ⟨gpu, ?_, ?_⟩,
      (memoryInfo_top (shaped_of_reachable reach) top found present).mp resolved, queued,
      owns_iff.mpr ⟨queueOwner.trans sameId.symm, queueGeneration.trans sameGeneration.symm⟩,
      ?_, 0x1000, Or.inl ?_, ?_⟩
    · rw [flags]
      decide
    · rw [flags]
      decide
    · rw [start, size]
      decide
    · rw [Queue.doorbellWord, doorbell, Set.mem_Ico]
      decide
    · rw [start]
      decide
  exact escapes.breaks (shaped_of_reachable reach) (always _ reach _ _ _ _ _)

end NativeWrites

end GemSim.Kmt
