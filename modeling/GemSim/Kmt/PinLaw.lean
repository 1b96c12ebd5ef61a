import GemSim.Kmt.Scenario
import GemSim.Kmt.Preserve

/-!
# The law of dispatch pins

A ticket is recorded twice: on its queue, with the number of allocations it pins, and on
each of those allocations. Requests leave pinned objects alone and never touch a pin;
the pin operations keep the two records in step as long as no two queues of an owner
take the same ticket.

## Main definitions

* `SameHeld` — states that agree on their pinned objects
* `Pinned` — queue counts and allocation pins tell the same story
* `PinLaw` — what every operation does to pinned objects and pins
* `TicketFresh` — a pinned ticket is new to the queues of its owner

## Main results

* `sameHeld_step` — requests, disconnects and accesses keep what is pinned
* `pinResources_pinning` — the pin loop adds one pin per new slot, or undoes them all
* `pinLaw_of_run`, `pinLaw_of_distinct` — the law in every state of every run
-/

namespace GemSim.Kmt

open GemSim.Lib HostGPUKmtState

section Held

/-- A pinned allocation up to its bytes. -/
def Allocation.held (allocation : Allocation) : Option Allocation :=
  if allocation.dispatchPins = ∅ then none else some { allocation with bytes := fun _ => 0 }

/-- A pinned queue up to its last doorbell. -/
def Queue.held (queue : Queue) : Option Queue :=
  if queue.dispatchPins = ∅ then none else some { queue with lastDoorbell := 0 }

/-- The two states have the same pinned objects in the same slots. -/
structure SameHeld (before after : HostGPUKmtState) : Prop where
  allocations : ∀ slot, (after.allocations slot).bind Allocation.held =
    (before.allocations slot).bind Allocation.held
  queues : ∀ slot, (after.queues slot).bind Queue.held = (before.queues slot).bind Queue.held

variable {start before after state : HostGPUKmtState}

theorem Allocation.held_of_unpinned {allocation : Allocation}
    (unpinned : allocation.dispatchPins = ∅) : allocation.held = none := if_pos unpinned

theorem Allocation.held_of_pinned {allocation : Allocation}
    (pinned : allocation.dispatchPins ≠ ∅) :
    allocation.held = some { allocation with bytes := fun _ => 0 } := if_neg pinned

theorem Queue.held_of_unpinned {queue : Queue} (unpinned : queue.dispatchPins = ∅) :
    queue.held = none := if_pos unpinned

theorem Queue.held_of_pinned {queue : Queue} (pinned : queue.dispatchPins ≠ ∅) :
    queue.held = some { queue with lastDoorbell := 0 } := if_neg pinned

theorem SameHeld.refl (state : HostGPUKmtState) : SameHeld state state :=
  ⟨fun _ => rfl, fun _ => rfl⟩

theorem SameHeld.symm (same : SameHeld before after) : SameHeld after before :=
  ⟨fun slot => (same.allocations slot).symm, fun slot => (same.queues slot).symm⟩

/-- Tables that stay, or change where nothing is pinned. -/
theorem SameHeld.then {middle : HostGPUKmtState} (same : SameHeld start middle)
    (allocations : ∀ slot, (after.allocations slot).bind Allocation.held =
      (middle.allocations slot).bind Allocation.held)
    (queues : ∀ slot, (after.queues slot).bind Queue.held = (middle.queues slot).bind Queue.held) :
    SameHeld start after :=
  ⟨fun slot => (allocations slot).trans (same.allocations slot),
    fun slot => (queues slot).trans (same.queues slot)⟩

theorem SameHeld.tables (same : SameHeld start state)
    (allocations : after.allocations = state.allocations) (queues : after.queues = state.queues) :
    SameHeld start after :=
  same.then (fun _ => by rw [allocations]) fun _ => by rw [queues]

/-- A pinned allocation is still there, with other bytes at most. -/
theorem SameHeld.allocation (same : SameHeld before after) {slot : Fin MaximumAllocations}
    {allocation : Allocation} (found : before.allocations slot = some allocation)
    (pinned : allocation.dispatchPins ≠ ∅) :
    ∃ kept, after.allocations slot = some kept ∧
      kept = { allocation with bytes := kept.bytes } := by
  have here := same.allocations slot
  rw [found, Option.bind_some, Allocation.held_of_pinned pinned] at here
  obtain ⟨kept, present, held⟩ := Option.bind_eq_some_iff.mp here
  refine ⟨kept, present, ?_⟩
  unfold Allocation.held at held
  split at held
  · cases held
  · have bare := Option.some.inj held
    have fields := congrArg
      (fun bare : Allocation => ({ bare with bytes := kept.bytes } : Allocation)) bare
    exact fields

/-- A pinned queue is still there, with another last doorbell at most. -/
theorem SameHeld.queue (same : SameHeld before after) {slot : Fin MaximumQueues} {queue : Queue}
    (found : before.queues slot = some queue) (pinned : queue.dispatchPins ≠ ∅) :
    ∃ kept, after.queues slot = some kept ∧
      kept = { queue with lastDoorbell := kept.lastDoorbell } := by
  have here := same.queues slot
  rw [found, Option.bind_some, Queue.held_of_pinned pinned] at here
  obtain ⟨kept, present, held⟩ := Option.bind_eq_some_iff.mp here
  refine ⟨kept, present, ?_⟩
  unfold Queue.held at held
  split at held
  · cases held
  · have bare := Option.some.inj held
    have fields := congrArg
      (fun bare : Queue => ({ bare with lastDoorbell := kept.lastDoorbell } : Queue)) bare
    exact fields

theorem placed_unpinned {call : Call} {generation : UInt64} {slot : Fin MaximumAllocations}
    {allocation : Allocation} (placed : Placed state call generation slot allocation) :
    allocation.dispatchPins = ∅ := by
  cases placed <;> rfl

theorem SameHeld.effect (same : SameHeld start state) {call : Call}
    {issued : Option (GenerationKind × UInt64)} (effect : Effect state call after issued) :
    SameHeld start after := by
  cases effect with
  | unchanged | sampled | closed | configured | eventCreated | eventDestroyed | eventUpdated =>
    exact same.tables rfl rfl
  | advanced kind =>
    have objects := sameObjects_withNext state kind (state.take kind call.session.jobEpoch).2
    exact same.tables objects.allocations objects.queues
  | @allocated slot _ free _ _ placed =>
    refine same.then (SlotTable.bind_put ?_) fun _ => rfl
    have empty : (state.allocations slot).bind Allocation.held = none := by
      rw [SlotTable.firstFree_spec free, Option.bind_none]
    exact (Allocation.held_of_unpinned (placed_unpinned placed)).trans empty.symm
  | freed found _ unpinned =>
    refine same.then (SlotTable.bind_drop ?_) fun _ => rfl
    rw [found, Option.bind_some, Allocation.held_of_unpinned unpinned]
  | rewritten _ _ found _ unpinned =>
    refine same.then (SlotTable.bind_put ?_) fun _ => rfl
    rw [found, Option.bind_some, Allocation.held_of_unpinned unpinned]
    exact Allocation.held_of_unpinned unpinned
  | @queueCreated slot _ free =>
    refine same.then (fun _ => rfl) (SlotTable.bind_put ?_)
    have empty : (state.queues slot).bind Queue.held = none := by
      rw [SlotTable.firstFree_spec free, Option.bind_none]
    exact (Queue.held_of_unpinned rfl).trans empty.symm
  | queueDestroyed found _ unpinned =>
    refine same.then (fun _ => rfl) (SlotTable.bind_drop ?_)
    rw [found, Option.bind_some, Queue.held_of_unpinned unpinned]
  | queueRung _ found =>
    refine same.then (fun _ => rfl) (SlotTable.bind_put ?_)
    rw [found]
    rfl

theorem sameHeld_preserved (start : HostGPUKmtState) :
    Preserved (fun _ _ => True) (SameHeld start) where
  quiet := fun _ => trivial
  sampled := fun _ same => same.tables rfl rfl
  touched := fun _ _ same => same.tables rfl rfl
  lostOwner := fun _ same => same.tables rfl rfl
  opened := fun _ _ _ same => same.tables rfl rfl
  effect := fun _ _ same effect => same.effect effect
  written := fun bytes found same =>
    same.then (SlotTable.bind_put (by rw [found]; rfl)) fun _ => rfl

/-- An operation on pins, or one that forgets everything. -/
def Op.movesPins : Op → Bool
  | .pinDispatch _ _ | .pinDispatchResources _ _ _ | .releaseDispatch _ | .clear => true
  | _ => false

/-- Requests, disconnects, accesses and clock samples keep what is pinned. -/
theorem sameHeld_step (state : HostGPUKmtState) {op : Op} (quiet : op.movesPins = false) :
    SameHeld state (step state op) := by
  have preserved := sameHeld_preserved state
  cases op with
  | submit => exact preserved.submit (.refl state) fun _ _ => trivial
  | disconnect transportOwner => exact preserved.disconnect (.refl state) transportOwner
  | writeMemory => exact preserved.writeMemory (.refl state) _ _ _ _ _ _
  | sampleClock => exact preserved.sampled _ (.refl state)
  | clear | pinDispatch | pinDispatchResources | releaseDispatch => cases quiet

end Held

section Records

/-- A queue of the owner, in the slot, holds the ticket with a count. -/
def TicketOn (queues : SlotTable MaximumQueues Queue) (slot : Fin MaximumQueues)
    (ownerId ownerGeneration ticket count : UInt64) : Prop :=
  ∃ queue, queues slot = some queue ∧ queue.ownerId = ownerId ∧
    queue.ownerGeneration = ownerGeneration ∧ queue.dispatchPins.lookup ticket = some count

/-- An allocation of the owner, in the slot, is pinned by the ticket. -/
def PinOn (allocations : SlotTable MaximumAllocations Allocation) (slot : Fin MaximumAllocations)
    (ownerId ownerGeneration ticket : UInt64) : Prop :=
  ∃ allocation, allocations slot = some allocation ∧ allocation.ownerId = ownerId ∧
    allocation.ownerGeneration = ownerGeneration ∧ ticket ∈ allocation.dispatchPins

/-- The two records of the pins agree, and a ticket belongs to one queue of its owner. -/
structure Pinned (state : HostGPUKmtState) : Prop where
  counted : ∀ slot ownerId ownerGeneration ticket count,
    TicketOn state.queues slot ownerId ownerGeneration ticket count →
    count.toNat = pinnedCount state.allocations ownerId ownerGeneration ticket
  alone : ∀ first second ownerId ownerGeneration ticket x y,
    TicketOn state.queues first ownerId ownerGeneration ticket x →
    TicketOn state.queues second ownerId ownerGeneration ticket y → first = second
  backed : ∀ slot ownerId ownerGeneration ticket,
    PinOn state.allocations slot ownerId ownerGeneration ticket →
    ∃ index count, TicketOn state.queues index ownerId ownerGeneration ticket count

variable {before after state : HostGPUKmtState} {queues : SlotTable MaximumQueues Queue}
  {allocations : SlotTable MaximumAllocations Allocation}
  {ownerId ownerGeneration ticket : UInt64}

/-- The measure `pinnedCount` sums. -/
def pinMeasure (ownerId ownerGeneration ticket : UInt64) (allocation : Allocation) : ℕ :=
  if allocation.ownedBy ownerId ownerGeneration ∧ ticket ∈ allocation.dispatchPins then 1 else 0

theorem pinnedCount_eq_total :
    pinnedCount allocations ownerId ownerGeneration ticket =
      allocations.total (pinMeasure ownerId ownerGeneration ticket) := rfl

theorem ownedBy_iff {allocation : Allocation} :
    allocation.ownedBy ownerId ownerGeneration = true ↔
      allocation.ownerId = ownerId ∧ allocation.ownerGeneration = ownerGeneration := by
  rw [Allocation.ownedBy, Bool.and_eq_true, beq_iff_eq, beq_iff_eq]

theorem pinnedCount_le : pinnedCount allocations ownerId ownerGeneration ticket ≤ 1024 := by
  have bound : ∀ slot ∈ (Finset.univ : Finset (Fin MaximumAllocations)),
      ((allocations slot).map (pinMeasure ownerId ownerGeneration ticket)).getD 0 ≤ 1 := by
    intro slot _
    cases allocations slot with
    | none => exact Nat.zero_le 1
    | some allocation =>
      rw [Option.map_some, Option.getD_some, pinMeasure]
      split <;> omega
  simpa [pinnedCount_eq_total, SlotTable.total] using Finset.sum_le_card_nsmul _ _ 1 bound

/-- Without a pin of the ticket the count is zero. -/
theorem pinnedCount_eq_zero
    (absent : ∀ slot, ¬ PinOn allocations slot ownerId ownerGeneration ticket) :
    pinnedCount allocations ownerId ownerGeneration ticket = 0 := by
  rw [pinnedCount_eq_total, SlotTable.total, Finset.sum_eq_zero]
  intro slot _
  cases found : allocations slot with
  | none => rfl
  | some allocation =>
    rw [Option.map_some, Option.getD_some, pinMeasure, if_neg]
    rintro ⟨owned, pinned⟩
    obtain ⟨sameId, sameGeneration⟩ := ownedBy_iff.mp owned
    exact absent slot ⟨allocation, found, sameId, sameGeneration, pinned⟩

theorem SameHeld.pinnedCount (same : SameHeld before after) :
    pinnedCount after.allocations ownerId ownerGeneration ticket =
      pinnedCount before.allocations ownerId ownerGeneration ticket := by
  refine SlotTable.total_of_bind same.allocations (pinMeasure ownerId ownerGeneration ticket)
    fun allocation => ?_
  by_cases unpinned : allocation.dispatchPins = ∅
  · simp [Allocation.held_of_unpinned unpinned, unpinned]
  · rw [Allocation.held_of_pinned unpinned]
    rfl

theorem SameHeld.ticketOn (same : SameHeld before after) {slot : Fin MaximumQueues}
    {count : UInt64} (held : TicketOn before.queues slot ownerId ownerGeneration ticket count) :
    TicketOn after.queues slot ownerId ownerGeneration ticket count := by
  obtain ⟨queue, found, sameId, sameGeneration, holds⟩ := held
  have pinned : queue.dispatchPins ≠ ∅ := by
    intro empty
    rw [empty, Finmap.lookup_empty] at holds
    cases holds
  obtain ⟨kept, present, fields⟩ := same.queue found pinned
  refine ⟨kept, present, ?_⟩
  rw [fields]
  exact ⟨sameId, sameGeneration, holds⟩

theorem SameHeld.pinOn (same : SameHeld before after) {slot : Fin MaximumAllocations}
    (held : PinOn before.allocations slot ownerId ownerGeneration ticket) :
    PinOn after.allocations slot ownerId ownerGeneration ticket := by
  obtain ⟨allocation, found, sameId, sameGeneration, holds⟩ := held
  obtain ⟨kept, present, fields⟩ := same.allocation found (Finset.ne_empty_of_mem holds)
  refine ⟨kept, present, ?_⟩
  rw [fields]
  exact ⟨sameId, sameGeneration, holds⟩

/-- The agreement of the records depends on the pinned objects only. -/
theorem SameHeld.pinned (same : SameHeld before after) (pinned : Pinned before) :
    Pinned after where
  counted := fun slot ownerId ownerGeneration ticket count held => by
    rw [same.pinnedCount]
    exact pinned.counted slot _ _ _ _ (same.symm.ticketOn held)
  alone := fun first second _ _ _ _ _ x y =>
    pinned.alone first second _ _ _ _ _ (same.symm.ticketOn x) (same.symm.ticketOn y)
  backed := fun slot _ _ _ held => by
    obtain ⟨index, count, backing⟩ := pinned.backed slot _ _ _ (same.symm.pinOn held)
    exact ⟨index, count, same.ticketOn backing⟩

theorem pinned_of_empty (allocations : state.allocations = SlotTable.empty)
    (queues : state.queues = SlotTable.empty) : Pinned state where
  counted := fun _ _ _ _ _ ⟨_, found, _⟩ => by rw [queues] at found; cases found
  alone := fun _ _ _ _ _ _ _ ⟨_, found, _⟩ => by rw [queues] at found; cases found
  backed := fun _ _ _ _ ⟨_, found, _⟩ => by rw [allocations] at found; cases found

/-- The tickets after one queue took a ticket, or another count for it. -/
theorem ticketOn_insert {slot index : Fin MaximumQueues} {queue : Queue} {added count : UInt64}
    {key : UInt64} (found : queues slot = some queue) :
    TicketOn (queues.put slot
        { queue with dispatchPins := queue.dispatchPins.insert key added }) index ownerId
        ownerGeneration ticket count ↔
      (index = slot ∧ ticket = key ∧ queue.ownerId = ownerId ∧
        queue.ownerGeneration = ownerGeneration ∧ added = count) ∨
      (¬ (index = slot ∧ ticket = key) ∧
        TicketOn queues index ownerId ownerGeneration ticket count) := by
  unfold TicketOn
  by_cases here : index = slot
  · subst here
    simp only [SlotTable.put_same, found, Option.some.injEq, exists_eq_left', true_and]
    by_cases same : ticket = key
    · subst same
      simp [Finmap.lookup_insert]
    · simp [Finmap.lookup_insert_of_ne _ same, same]
  · simp [SlotTable.put_other _ _ here, here]

/-- No ticket is lost when a queue takes one. -/
theorem TicketOn.insert {slot index : Fin MaximumQueues} {queue : Queue} {count key : UInt64}
    (held : TicketOn queues index ownerId ownerGeneration ticket count)
    (found : queues slot = some queue) (added : UInt64) :
    ∃ count, TicketOn (queues.put slot
      { queue with dispatchPins := queue.dispatchPins.insert key added }) index ownerId
        ownerGeneration ticket count := by
  by_cases taken : index = slot ∧ ticket = key
  · obtain ⟨object, there, sameId, sameGeneration, -⟩ := held
    rw [taken.1, found] at there
    obtain rfl := Option.some.inj there
    exact ⟨added, (ticketOn_insert found).mpr
      (Or.inl ⟨taken.1, taken.2, sameId, sameGeneration, rfl⟩)⟩
  · exact ⟨count, (ticketOn_insert found).mpr (Or.inr ⟨taken, held⟩)⟩

/-- The tickets after one queue gave a ticket back. -/
theorem ticketOn_erase {slot index : Fin MaximumQueues} {queue : Queue} {count key : UInt64}
    (found : queues slot = some queue) :
    TicketOn (queues.put slot { queue with dispatchPins := queue.dispatchPins.erase key }) index
        ownerId ownerGeneration ticket count ↔
      ¬ (index = slot ∧ ticket = key) ∧
        TicketOn queues index ownerId ownerGeneration ticket count := by
  unfold TicketOn
  by_cases here : index = slot
  · subst here
    simp only [SlotTable.put_same, found, Option.some.injEq, exists_eq_left', true_and]
    by_cases same : ticket = key
    · subst same
      simp [Finmap.lookup_erase]
    · simp [Finmap.lookup_erase_ne same, same]
  · simp [SlotTable.put_other _ _ here, here]

end Records

section PinLoop

variable {before after : SlotTable MaximumAllocations Allocation}
  {ownerId ownerGeneration ticket : UInt64} {newly : List (Fin MaximumAllocations)}

/-- The ticket was added to the allocations in the new slots, which are the owner's and did
not carry it; the rest of the table is as before. -/
structure Pinning (ownerId ownerGeneration ticket : UInt64)
    (before after : SlotTable MaximumAllocations Allocation)
    (newly : List (Fin MaximumAllocations)) : Prop where
  pinned : ∀ slot ∈ newly, ∃ allocation, before slot = some allocation ∧
    allocation.ownerId = ownerId ∧ allocation.ownerGeneration = ownerGeneration ∧
    ticket ∉ allocation.dispatchPins ∧ after slot = some (allocation.pin ticket)
  others : ∀ slot, slot ∉ newly → after slot = before slot
  counted : pinnedCount after ownerId ownerGeneration ticket =
    pinnedCount before ownerId ownerGeneration ticket + newly.length
  elsewhere : ∀ otherId otherGeneration other,
    ¬ (otherId = ownerId ∧ otherGeneration = ownerGeneration ∧ other = ticket) →
    pinnedCount after otherId otherGeneration other =
      pinnedCount before otherId otherGeneration other

theorem Pinning.refl : Pinning ownerId ownerGeneration ticket before before [] where
  pinned := fun _ member => absurd member List.not_mem_nil
  others := fun _ _ => rfl
  counted := (Nat.add_zero _).symm
  elsewhere := fun _ _ _ _ => rfl

theorem pin_unpin {allocation : Allocation} (absent : ticket ∉ allocation.dispatchPins) :
    (allocation.pin ticket).unpin ticket = allocation := by
  rw [Allocation.pin, Allocation.unpin, Finset.erase_insert absent]

theorem unpin_unpin (allocation : Allocation) :
    (allocation.unpin ticket).unpin ticket = allocation.unpin ticket := by
  rw [Allocation.unpin, Allocation.unpin, Finset.erase_idem]

/-- One more allocation of the owner takes the ticket. -/
theorem Pinning.pin (loop : Pinning ownerId ownerGeneration ticket before after newly)
    {slot : Fin MaximumAllocations} {allocation : Allocation}
    (found : after slot = some allocation) (sameId : allocation.ownerId = ownerId)
    (sameGeneration : allocation.ownerGeneration = ownerGeneration)
    (absent : ticket ∉ allocation.dispatchPins) :
    Pinning ownerId ownerGeneration ticket before (after.put slot (allocation.pin ticket))
      (newly ++ [slot]) := by
  have unseen : slot ∉ newly := by
    intro member
    obtain ⟨old, -, -, -, -, present⟩ := loop.pinned slot member
    obtain rfl := Option.some.inj (found.symm.trans present)
    exact absent (Finset.mem_insert_self _ _)
  have owned : allocation.ownedBy ownerId ownerGeneration = true :=
    ownedBy_iff.mpr ⟨sameId, sameGeneration⟩
  refine ⟨fun other member => ?_, fun other outside => ?_, ?_, ?_⟩
  · rcases List.mem_append.mp member with earlier | last
    · obtain ⟨old, there, owner, generation, free, present⟩ := loop.pinned other earlier
      have elsewhere : other ≠ slot := fun same => unseen (same ▸ earlier)
      exact ⟨old, there, owner, generation, free, by rw [SlotTable.put_other _ _ elsewhere, present]⟩
    · obtain rfl := List.mem_singleton.mp last
      exact ⟨allocation, loop.others other unseen ▸ found, sameId, sameGeneration, absent,
        SlotTable.put_same _ _ _⟩
  · rw [List.mem_append, List.mem_singleton, not_or] at outside
    rw [SlotTable.put_other _ _ outside.2, loop.others other outside.1]
  · have earlier := loop.counted
    have moved := SlotTable.total_put_taken found (pinMeasure ownerId ownerGeneration ticket)
      (allocation.pin ticket)
    have was : pinMeasure ownerId ownerGeneration ticket allocation = 0 :=
      if_neg fun pinned => absent pinned.2
    have now : pinMeasure ownerId ownerGeneration ticket (allocation.pin ticket) = 1 :=
      if_pos ⟨owned, Finset.mem_insert_self _ _⟩
    rw [was, now, Nat.add_zero] at moved
    rw [pinnedCount_eq_total, moved, ← pinnedCount_eq_total, earlier, List.length_append,
      List.length_singleton, Nat.add_assoc]
  · intro otherId otherGeneration other differs
    rw [← loop.elsewhere otherId otherGeneration other differs]
    have moved := SlotTable.total_put_taken found (pinMeasure otherId otherGeneration other)
      (allocation.pin ticket)
    have same : pinMeasure otherId otherGeneration other (allocation.pin ticket) =
        pinMeasure otherId otherGeneration other allocation := by
      have owners : (allocation.pin ticket).ownedBy otherId otherGeneration =
          allocation.ownedBy otherId otherGeneration := rfl
      unfold pinMeasure
      rw [owners]
      by_cases mine : allocation.ownedBy otherId otherGeneration = true
      · obtain ⟨rfl, rfl⟩ := ownedBy_iff.mp mine
        have distinct : other ≠ ticket := fun same => differs ⟨sameId, sameGeneration, same⟩
        have members : other ∈ (allocation.pin ticket).dispatchPins ↔
            other ∈ allocation.dispatchPins := by
          rw [Allocation.pin, Finset.mem_insert, or_iff_right distinct]
        simp only [members]
      · simp only [mine, false_and, if_false, Bool.false_eq_true]
    rw [same] at moved
    exact Nat.add_right_cancel moved

theorem unpinSlot_apply (table : SlotTable MaximumAllocations Allocation)
    (slot other : Fin MaximumAllocations) :
    unpinSlot ticket table slot other =
      if other = slot then (table other).map (Allocation.unpin · ticket) else table other := by
  unfold unpinSlot
  cases found : table slot with
  | none =>
    dsimp only
    by_cases here : other = slot
    · rw [if_pos here, here, found, Option.map_none]
    · rw [if_neg here]
  | some allocation =>
    dsimp only
    rw [SlotTable.put_apply]
    by_cases here : other = slot
    · rw [if_pos here, if_pos here, here, found, Option.map_some]
    · rw [if_neg here, if_neg here]

/-- Undoing takes the ticket off the listed slots, however often they are listed. -/
theorem unpinNew_apply (table : SlotTable MaximumAllocations Allocation)
    (slot : Fin MaximumAllocations) :
    unpinNew ticket table newly slot =
      if slot ∈ newly then (table slot).map (Allocation.unpin · ticket) else table slot := by
  induction newly generalizing table with
  | nil => simp [unpinNew]
  | cons first rest ih =>
    rw [unpinNew, List.foldl_cons, ← unpinNew, ih, unpinSlot_apply]
    by_cases here : slot = first
    · subst here
      by_cases again : slot ∈ rest
      · simp [again, Option.map_map, Function.comp_def, unpin_unpin]
      · simp [again]
    · simp [here]

/-- Undoing the new pins gives back the table the loop started from. -/
theorem Pinning.undone (loop : Pinning ownerId ownerGeneration ticket before after newly) :
    unpinNew ticket after newly = before := by
  funext slot
  rw [unpinNew_apply]
  split
  · rename_i member
    obtain ⟨allocation, there, -, -, absent, present⟩ := loop.pinned slot member
    rw [present, there, Option.map_some, pin_unpin absent]
  · rename_i outside
    exact loop.others slot outside

/-- The loop ended with its new pins in place, or with the table it started from. -/
def PinnedOrUndone (ownerId ownerGeneration ticket : UInt64)
    (before : SlotTable MaximumAllocations Allocation) :
    Except (SlotTable MaximumAllocations Allocation)
      (SlotTable MaximumAllocations Allocation × List (Fin MaximumAllocations)) → Prop
  | .error table => table = before
  | .ok (table, newly) => Pinning ownerId ownerGeneration ticket before table newly

/-- The pin loop adds one pin for each new slot, or undoes them all. -/
theorem pinResources_pinning {insertFails : ℕ → Bool} (resources : List AllocationRef)
    (loop : Pinning ownerId ownerGeneration ticket before after newly) :
    PinnedOrUndone ownerId ownerGeneration ticket before
      (pinResources ownerId ownerGeneration ticket insertFails resources after newly) := by
  induction resources generalizing after newly with
  | nil => exact loop
  | cons resource rest ih =>
    unfold pinResources
    split
    · exact loop.undone
    · cases resolved : resolveIn Allocation.toIdentity AllocationPrefix after ownerId
          ownerGeneration resource.objectId resource.objectGeneration with
      | none => exact loop.undone
      | some entry =>
        obtain ⟨slot, allocation⟩ := entry
        obtain ⟨-, -, found, sameId, sameGeneration, -⟩ := resolveIn_eq_some.mp resolved
        dsimp only
        split
        · exact ih loop
        · rename_i absent
          split
          · exact loop.undone
          · exact ih (loop.pin found sameId sameGeneration absent)

end PinLoop

section Operations

variable {state : HostGPUKmtState} {dispatch : DispatchRef}

variable (state dispatch) in
/-- `pinDispatch` changes nothing, or adds its ticket with count zero. -/
theorem pinDispatch_cases (badAlloc : Bool) :
    pinDispatch state dispatch badAlloc = (false, state) ∨
    ∃ slot queue, dispatchQueue state dispatch = some (slot, queue) ∧
      queue.dispatchPins.lookup dispatch.requestId = none ∧
      pinDispatch state dispatch badAlloc = (true, state.withQueue slot
        { queue with dispatchPins := queue.dispatchPins.insert dispatch.requestId 0 }) := by
  unfold pinDispatch
  split
  · exact Or.inl rfl
  · rename_i slot queue found
    split
    · exact Or.inl rfl
    · rename_i absent
      split
      · exact Or.inl rfl
      · exact Or.inr ⟨slot, queue, found, absent, rfl⟩

variable (state dispatch) in
/-- `pinDispatchResources` changes nothing, or adds the new pins and counts them. -/
theorem pinDispatchResources_cases (resources : List AllocationRef) (faults : PinFaults) :
    pinDispatchResources state dispatch resources faults = (false, state) ∨
    ∃ slot queue count table newly, dispatchQueue state dispatch = some (slot, queue) ∧
      queue.dispatchPins.lookup dispatch.requestId = some count ∧
      Pinning dispatch.ownerId dispatch.ownerGeneration dispatch.requestId state.allocations
        table newly ∧
      pinDispatchResources state dispatch resources faults =
        (true, { state.withQueue slot { queue with
            dispatchPins := queue.dispatchPins.insert dispatch.requestId
              (count + UInt64.ofNat newly.length) } with
          allocations := table }) := by
  unfold pinDispatchResources
  split
  · exact Or.inl rfl
  · rename_i slot queue found
    split
    · exact Or.inl rfl
    · rename_i count holds
      split
      · exact Or.inl rfl
      · have loop : PinnedOrUndone dispatch.ownerId dispatch.ownerGeneration dispatch.requestId
            state.allocations (pinResources dispatch.ownerId dispatch.ownerGeneration
              dispatch.requestId faults.insert resources state.allocations []) :=
          pinResources_pinning resources .refl
        cases ended : pinResources dispatch.ownerId dispatch.ownerGeneration dispatch.requestId
            faults.insert resources state.allocations [] with
        | error table =>
          rw [ended] at loop
          obtain rfl : table = state.allocations := loop
          exact Or.inl rfl
        | ok entry =>
          obtain ⟨table, newly⟩ := entry
          rw [ended] at loop
          replace loop : Pinning dispatch.ownerId dispatch.ownerGeneration dispatch.requestId
            state.allocations table newly := loop
          dsimp only
          split
          · left
            rw [loop.undone]
          · exact Or.inr ⟨slot, queue, count, table, newly, found, holds, loop, rfl⟩

variable (state dispatch) in
/-- `releaseDispatch` changes nothing, or finds the count right and takes the ticket off. -/
theorem releaseDispatch_cases :
    (releaseDispatch state dispatch = (false, state) ∧
      ∀ slot queue count, dispatchQueue state dispatch = some (slot, queue) →
        queue.dispatchPins.lookup dispatch.requestId = some count →
        UInt64.ofNat (pinnedCount state.allocations dispatch.ownerId dispatch.ownerGeneration
          dispatch.requestId) ≠ count) ∨
    ∃ slot queue count, dispatchQueue state dispatch = some (slot, queue) ∧
      queue.dispatchPins.lookup dispatch.requestId = some count ∧
      releaseDispatch state dispatch = (true, { state.withQueue slot
          { queue with dispatchPins := queue.dispatchPins.erase dispatch.requestId } with
        allocations := state.allocations.modify fun allocation =>
          if allocation.ownedBy dispatch.ownerId dispatch.ownerGeneration then
            allocation.unpin dispatch.requestId
          else allocation }) := by
  unfold releaseDispatch
  split
  · rename_i missing
    exact Or.inl ⟨rfl, fun _ _ _ found => by rw [missing] at found; cases found⟩
  · rename_i slot queue found
    split
    · rename_i absent
      refine Or.inl ⟨rfl, fun other object _ again holds => ?_⟩
      obtain ⟨-, rfl⟩ := Prod.mk.inj (Option.some.inj (found.symm.trans again))
      rw [absent] at holds
      cases holds
    · rename_i count holds
      split
      · rename_i wrong
        refine Or.inl ⟨rfl, fun other object number again held => ?_⟩
        obtain ⟨-, rfl⟩ := Prod.mk.inj (Option.some.inj (found.symm.trans again))
        obtain rfl := Option.some.inj (holds.symm.trans held)
        exact wrong
      · exact Or.inr ⟨slot, queue, count, found, holds, rfl⟩

/-- The ticket of a dispatch on its queue, as the queue records it. -/
theorem ticketOn_of_dispatch {slot : Fin MaximumQueues} {queue : Queue} {count : UInt64}
    (found : dispatchQueue state dispatch = some (slot, queue))
    (holds : queue.dispatchPins.lookup dispatch.requestId = some count) :
    TicketOn state.queues slot dispatch.ownerId dispatch.ownerGeneration dispatch.requestId
      count := by
  obtain ⟨present, sameId, sameGeneration, -⟩ := dispatchQueue_spec found
  exact ⟨queue, present, sameId, sameGeneration, holds⟩

/-- The pins after the pin loop. -/
theorem Pinning.pinOn {before after : SlotTable MaximumAllocations Allocation}
    {newly : List (Fin MaximumAllocations)} {ownerId ownerGeneration ticket : UInt64}
    (loop : Pinning ownerId ownerGeneration ticket before after newly)
    {slot : Fin MaximumAllocations} {otherId otherGeneration other : UInt64}
    (pinned : PinOn after slot otherId otherGeneration other) :
    (otherId = ownerId ∧ otherGeneration = ownerGeneration ∧ other = ticket) ∨
      PinOn before slot otherId otherGeneration other := by
  by_cases member : slot ∈ newly
  · obtain ⟨allocation, there, sameId, sameGeneration, -, present⟩ := loop.pinned slot member
    obtain ⟨found, live, rfl, rfl, holds⟩ := pinned
    obtain rfl := Option.some.inj (present.symm.trans live)
    rcases Finset.mem_insert.mp holds with same | old
    · exact Or.inl ⟨sameId, sameGeneration, same⟩
    · exact Or.inr ⟨allocation, there, rfl, rfl, old⟩
  · rw [PinOn, loop.others slot member] at pinned
    exact Or.inr pinned

/-- The pins after a release: all but those of the ticket on the owner's allocations. -/
theorem pinOn_release {allocations : SlotTable MaximumAllocations Allocation}
    {slot : Fin MaximumAllocations} {ownerId ownerGeneration ticket otherId otherGeneration
      other : UInt64} :
    PinOn (allocations.modify fun allocation =>
        if allocation.ownedBy ownerId ownerGeneration then allocation.unpin ticket
        else allocation) slot otherId otherGeneration other ↔
      PinOn allocations slot otherId otherGeneration other ∧
        ¬ (otherId = ownerId ∧ otherGeneration = ownerGeneration ∧ other = ticket) := by
  unfold PinOn
  simp only [SlotTable.modify_eq_some]
  constructor
  · rintro ⟨_, ⟨old, there, rfl⟩, sameId, sameGeneration, holds⟩
    split at sameId
    · rename_i owned
      rw [if_pos owned] at sameGeneration holds
      obtain ⟨distinct, was⟩ := Finset.mem_erase.mp holds
      exact ⟨⟨old, there, sameId, sameGeneration, was⟩, fun same => distinct same.2.2⟩
    · rename_i foreign
      rw [if_neg foreign] at sameGeneration holds
      refine ⟨⟨old, there, sameId, sameGeneration, holds⟩, fun same => foreign ?_⟩
      exact ownedBy_iff.mpr ⟨sameId.trans same.1, sameGeneration.trans same.2.1⟩
  · rintro ⟨⟨old, there, sameId, sameGeneration, was⟩, differs⟩
    refine ⟨_, ⟨old, there, rfl⟩, ?_⟩
    split
    · rename_i owned
      obtain ⟨mine, generation⟩ := ownedBy_iff.mp owned
      refine ⟨sameId, sameGeneration, Finset.mem_erase.mpr ⟨fun same => differs ?_, was⟩⟩
      exact ⟨sameId.symm.trans mine, sameGeneration.symm.trans generation, same⟩
    · exact ⟨sameId, sameGeneration, was⟩

/-- A release leaves the counts of every other ticket and owner. -/
theorem pinnedCount_release {allocations : SlotTable MaximumAllocations Allocation}
    {ownerId ownerGeneration ticket otherId otherGeneration other : UInt64}
    (differs : ¬ (otherId = ownerId ∧ otherGeneration = ownerGeneration ∧ other = ticket)) :
    pinnedCount (allocations.modify fun allocation =>
        if allocation.ownedBy ownerId ownerGeneration then allocation.unpin ticket
        else allocation) otherId otherGeneration other =
      pinnedCount allocations otherId otherGeneration other := by
  refine SlotTable.total_modify allocations (pinMeasure otherId otherGeneration other)
    fun allocation => ?_
  by_cases owned : allocation.ownedBy ownerId ownerGeneration = true
  · rw [if_pos owned]
    obtain ⟨rfl, rfl⟩ := ownedBy_iff.mp owned
    unfold pinMeasure
    by_cases mine : allocation.ownedBy otherId otherGeneration = true
    · obtain ⟨rfl, rfl⟩ := ownedBy_iff.mp mine
      have distinct : other ≠ ticket := fun same => differs ⟨rfl, rfl, same⟩
      have members : other ∈ (allocation.unpin ticket).dispatchPins ↔
          other ∈ allocation.dispatchPins := by
        rw [Allocation.unpin, Finset.mem_erase, and_iff_right distinct]
      have owners : (allocation.unpin ticket).ownedBy allocation.ownerId
          allocation.ownerGeneration = true := mine
      simp only [owners, mine, members]
    · have foreign : ¬ (allocation.unpin ticket).ownedBy otherId otherGeneration = true := mine
      rw [if_neg fun both => foreign both.1, if_neg fun both => mine both.1]
  · rw [if_neg owned]

/-- A pinned dispatch may only take a ticket that no queue of its owner holds. -/
def TicketFresh (state : HostGPUKmtState) : Op → Prop
  | .pinDispatch dispatch _ => ∀ slot count, ¬ TicketOn state.queues slot dispatch.ownerId
      dispatch.ownerGeneration dispatch.requestId count
  | _ => True

theorem Pinned.pinDispatch (pinned : Pinned state) {badAlloc : Bool}
    (fresh : TicketFresh state (.pinDispatch dispatch badAlloc)) :
    Pinned (pinDispatch state dispatch badAlloc).2 := by
  rcases pinDispatch_cases state dispatch badAlloc with
    same | ⟨slot, queue, found, -, same⟩
  · rw [same]
    exact pinned
  · rw [same]
    obtain ⟨present, sameId, sameGeneration, -⟩ := dispatchQueue_spec found
    have unpinned : pinnedCount state.allocations dispatch.ownerId dispatch.ownerGeneration
        dispatch.requestId = 0 := pinnedCount_eq_zero fun index on => by
      obtain ⟨holder, count, backing⟩ := pinned.backed index _ _ _ on
      exact fresh holder count backing
    refine ⟨fun index _ _ _ count on => ?_, fun first second _ _ _ _ _ onFirst onSecond => ?_,
      fun index _ _ _ on => ?_⟩
    · rcases (ticketOn_insert present).mp on with ⟨-, rfl, rfl, rfl, rfl⟩ | ⟨-, old⟩
      · rw [sameId, sameGeneration]
        exact unpinned.symm
      · exact pinned.counted index _ _ _ count old
    · rcases (ticketOn_insert present).mp onFirst with ⟨rfl, rfl, rfl, rfl, -⟩ | ⟨-, oldFirst⟩
      · rcases (ticketOn_insert present).mp onSecond with ⟨rfl, -⟩ | ⟨-, oldSecond⟩
        · rfl
        · rw [sameId, sameGeneration] at oldSecond
          exact absurd oldSecond (fresh _ _)
      · rcases (ticketOn_insert present).mp onSecond with ⟨rfl, rfl, rfl, rfl, -⟩ | ⟨-, oldSecond⟩
        · rw [sameId, sameGeneration] at oldFirst
          exact absurd oldFirst (fresh _ _)
        · exact pinned.alone first second _ _ _ _ _ oldFirst oldSecond
    · obtain ⟨holder, count, backing⟩ := pinned.backed index _ _ _ on
      exact ⟨holder, backing.insert present 0⟩

theorem Pinned.pinDispatchResources (pinned : Pinned state) (resources : List AllocationRef)
    (faults : PinFaults) : Pinned (pinDispatchResources state dispatch resources faults).2 := by
  rcases pinDispatchResources_cases state dispatch resources faults with
    same | ⟨slot, queue, held, table, newly, found, holds, loop, same⟩
  · rw [same]
    exact pinned
  · rw [same]
    obtain ⟨present, sameId, sameGeneration, -⟩ := dispatchQueue_spec found
    have onQueue := ticketOn_of_dispatch found holds
    have recorded := pinned.counted _ _ _ _ _ onQueue
    have small : pinnedCount table dispatch.ownerId dispatch.ownerGeneration dispatch.requestId ≤
        1024 := pinnedCount_le
    have grown := loop.counted
    have lengthSmall : (UInt64.ofNat newly.length).toNat = newly.length := by
      rw [UInt64.toNat_ofNat', Nat.mod_eq_of_lt (by omega)]
    refine ⟨fun index _ _ _ count on => ?_, fun first second _ _ _ _ _ onFirst onSecond => ?_,
      fun index _ _ _ on => ?_⟩
    · rcases (ticketOn_insert present).mp on with ⟨-, rfl, rfl, rfl, rfl⟩ | ⟨other, old⟩
      · rw [toNat_add_exact (by omega), lengthSmall, recorded, sameId, sameGeneration]
        exact grown.symm
      · have differs := pinned.counted index _ _ _ count old
        rw [differs, loop.elsewhere]
        rintro ⟨rfl, rfl, rfl⟩
        exact other ⟨pinned.alone _ _ _ _ _ _ _ old onQueue, rfl⟩
    · have was : ∀ {index : Fin MaximumQueues} {ownerId ownerGeneration ticket count : UInt64},
          TicketOn (state.queues.put slot { queue with
            dispatchPins := queue.dispatchPins.insert dispatch.requestId
              (held + UInt64.ofNat newly.length) }) index ownerId ownerGeneration ticket count →
          ∃ count, TicketOn state.queues index ownerId ownerGeneration ticket count := by
        intro index _ _ _ _ on
        rcases (ticketOn_insert present).mp on with ⟨rfl, rfl, rfl, rfl, -⟩ | ⟨-, old⟩
        · exact ⟨held, queue, present, rfl, rfl, holds⟩
        · exact ⟨_, old⟩
      obtain ⟨x, oldFirst⟩ := was onFirst
      obtain ⟨y, oldSecond⟩ := was onSecond
      exact pinned.alone first second _ _ _ x y oldFirst oldSecond
    · rcases loop.pinOn on with ⟨rfl, rfl, rfl⟩ | old
      · exact ⟨slot, onQueue.insert present _⟩
      · obtain ⟨holder, count, backing⟩ := pinned.backed index _ _ _ old
        exact ⟨holder, backing.insert present _⟩

/-- A release gives back the ticket of a dispatch on its one queue and its allocations, and
takes nothing else away. -/
structure Released (before after : HostGPUKmtState) (dispatch : DispatchRef) : Prop where
  bare : SameButPins before after
  allocations : ∀ slot ownerId ownerGeneration ticket,
    PinOn after.allocations slot ownerId ownerGeneration ticket ↔
      PinOn before.allocations slot ownerId ownerGeneration ticket ∧
        ¬ (ownerId = dispatch.ownerId ∧ ownerGeneration = dispatch.ownerGeneration ∧
          ticket = dispatch.requestId)
  queues : ∀ slot ownerId ownerGeneration ticket count,
    TicketOn after.queues slot ownerId ownerGeneration ticket count ↔
      TicketOn before.queues slot ownerId ownerGeneration ticket count ∧
        ¬ (ownerId = dispatch.ownerId ∧ ownerGeneration = dispatch.ownerGeneration ∧
          ticket = dispatch.requestId)

/-- A dispatch can be released exactly while its queue holds its ticket. -/
theorem Pinned.releasable_iff (pinned : Pinned state) :
    (releaseDispatch state dispatch).1 = true ↔
      ∃ slot queue count, dispatchQueue state dispatch = some (slot, queue) ∧
        queue.dispatchPins.lookup dispatch.requestId = some count := by
  rcases releaseDispatch_cases state dispatch with
    ⟨same, wrong⟩ | ⟨slot, queue, count, found, holds, same⟩
  · rw [same]
    refine iff_of_false Bool.false_ne_true ?_
    rintro ⟨slot, queue, count, found, holds⟩
    have recorded := pinned.counted _ _ _ _ _ (ticketOn_of_dispatch found holds)
    exact wrong slot queue count found holds (by rw [← recorded, UInt64.ofNat_toNat])
  · rw [same]
    exact iff_of_true rfl ⟨slot, queue, count, found, holds⟩

theorem Pinned.released (pinned : Pinned state)
    (succeeds : (releaseDispatch state dispatch).1 = true) :
    Released state (releaseDispatch state dispatch).2 dispatch := by
  have bare : SameButPins state (releaseDispatch state dispatch).2 := releaseDispatch_sameButPins
  rcases releaseDispatch_cases state dispatch with
    ⟨same, -⟩ | ⟨slot, queue, count, found, holds, same⟩
  · rw [same] at succeeds
    cases succeeds
  · rw [same] at bare ⊢
    have onQueue := ticketOn_of_dispatch found holds
    obtain ⟨present, sameId, sameGeneration, -⟩ := dispatchQueue_spec found
    refine ⟨bare, fun index _ _ _ => pinOn_release, fun index _ _ ticket other => ?_⟩
    refine (ticketOn_erase present).trans ?_
    constructor
    · rintro ⟨elsewhere, on⟩
      refine ⟨on, ?_⟩
      rintro ⟨rfl, rfl, rfl⟩
      exact elsewhere ⟨pinned.alone _ _ _ _ _ _ _ on onQueue, rfl⟩
    · rintro ⟨⟨object, there, rfl, rfl, holder⟩, differs⟩
      refine ⟨?_, object, there, rfl, rfl, holder⟩
      rintro ⟨rfl, rfl⟩
      obtain rfl := Option.some.inj (present.symm.trans there)
      exact differs ⟨sameId, sameGeneration, rfl⟩

theorem Pinned.releaseDispatch (pinned : Pinned state) :
    Pinned (releaseDispatch state dispatch).2 := by
  rcases releaseDispatch_cases state dispatch with
    ⟨same, -⟩ | ⟨slot, queue, count, found, holds, same⟩
  · rw [same]
    exact pinned
  · have released : Released state (GemSim.Kmt.releaseDispatch state dispatch).2 dispatch :=
      pinned.released (by rw [same])
    refine ⟨fun index _ _ _ count on => ?_, fun first second _ _ _ x y onFirst onSecond => ?_,
      fun index _ _ _ on => ?_⟩
    · obtain ⟨old, differs⟩ := (released.queues _ _ _ _ _).mp on
      rw [pinned.counted index _ _ _ count old, same]
      exact (pinnedCount_release differs).symm
    · exact pinned.alone first second _ _ _ x y ((released.queues _ _ _ _ _).mp onFirst).1
        ((released.queues _ _ _ _ _).mp onSecond).1
    · obtain ⟨old, differs⟩ := (released.allocations _ _ _ _).mp on
      obtain ⟨holder, count, backing⟩ := pinned.backed index _ _ _ old
      exact ⟨holder, count, (released.queues _ _ _ _ _).mpr ⟨backing, differs⟩⟩

theorem Pinned.stepped (pinned : Pinned state) {op : Op} (fresh : TicketFresh state op) :
    Pinned (step state op) := by
  cases op with
  | pinDispatch => exact pinned.pinDispatch fresh
  | pinDispatchResources => exact pinned.pinDispatchResources _ _
  | releaseDispatch => exact pinned.releaseDispatch
  | clear => exact pinned_of_empty rfl rfl
  | submit | disconnect | writeMemory | sampleClock => exact (sameHeld_step state rfl).pinned pinned

end Operations

section Runs

variable {state start : HostGPUKmtState}

/-- What pins mean in a state, and what every operation does to them. -/
structure PinLaw (state : HostGPUKmtState) : Prop where
  /-- The count of a ticket on a queue is the number of the owner's allocations it pins. -/
  counted : ∀ slot queue ticket count, state.queues slot = some queue →
    queue.dispatchPins.lookup ticket = some count →
    count.toNat = pinnedCount state.allocations queue.ownerId queue.ownerGeneration ticket
  /-- A pinned allocation stays as it is, up to its bytes and its pins. -/
  allocations : ∀ op, op ≠ .clear → ∀ slot allocation,
    state.allocations slot = some allocation → allocation.dispatchPins ≠ ∅ →
    ∃ kept, (step state op).allocations slot = some kept ∧
      kept = { allocation with bytes := kept.bytes, dispatchPins := kept.dispatchPins }
  /-- A pinned queue stays as it is, up to its last doorbell and its pins. -/
  queues : ∀ op, op ≠ .clear → ∀ slot queue,
    state.queues slot = some queue → queue.dispatchPins ≠ ∅ →
    ∃ kept, (step state op).queues slot = some kept ∧
      kept = { queue with lastDoorbell := kept.lastDoorbell, dispatchPins := kept.dispatchPins }
  /-- Only pin operations and forgetting everything touch a pin. -/
  pins : ∀ op, op.movesPins = false → SameHeld state (step state op)
  releasable : ∀ dispatch, (releaseDispatch state dispatch).1 = true ↔
    ∃ slot queue count, dispatchQueue state dispatch = some (slot, queue) ∧
      queue.dispatchPins.lookup dispatch.requestId = some count
  released : ∀ dispatch, (releaseDispatch state dispatch).1 = true →
    Released state (releaseDispatch state dispatch).2 dispatch
  unreleased : ∀ dispatch, (releaseDispatch state dispatch).1 = false →
    (releaseDispatch state dispatch).2 = state
  /-- A refused `pinDispatchResources` leaves the whole state as it was. -/
  refused : ∀ dispatch resources faults,
    (pinDispatchResources state dispatch resources faults).1 = false →
    (pinDispatchResources state dispatch resources faults).2 = state

theorem SameButPins.keeps_allocation {before after : HostGPUKmtState}
    (same : SameButPins before after) {slot : Fin MaximumAllocations} {allocation : Allocation}
    (found : before.allocations slot = some allocation) :
    ∃ kept, after.allocations slot = some kept ∧
      kept = { allocation with bytes := kept.bytes, dispatchPins := kept.dispatchPins } := by
  obtain ⟨kept, present, fields⟩ := same.symm.allocation found
  refine ⟨kept, present, ?_⟩
  have again := congrArg (fun other : Allocation =>
    ({ other with bytes := kept.bytes, dispatchPins := kept.dispatchPins } : Allocation)) fields
  exact again.symm

theorem SameButPins.keeps_queue {before after : HostGPUKmtState}
    (same : SameButPins before after) {slot : Fin MaximumQueues} {queue : Queue}
    (found : before.queues slot = some queue) :
    ∃ kept, after.queues slot = some kept ∧
      kept = { queue with lastDoorbell := kept.lastDoorbell, dispatchPins := kept.dispatchPins } := by
  obtain ⟨kept, present, fields⟩ := same.symm.queue found
  refine ⟨kept, present, ?_⟩
  have again := congrArg (fun other : Queue =>
    ({ other with lastDoorbell := kept.lastDoorbell, dispatchPins := kept.dispatchPins } : Queue))
    fields
  exact again.symm

theorem SameHeld.keeps_allocation {before after : HostGPUKmtState} (same : SameHeld before after)
    {slot : Fin MaximumAllocations} {allocation : Allocation}
    (found : before.allocations slot = some allocation) (pinned : allocation.dispatchPins ≠ ∅) :
    ∃ kept, after.allocations slot = some kept ∧
      kept = { allocation with bytes := kept.bytes, dispatchPins := kept.dispatchPins } := by
  obtain ⟨kept, present, fields⟩ := same.allocation found pinned
  refine ⟨kept, present, ?_⟩
  rw [fields]

theorem SameHeld.keeps_queue {before after : HostGPUKmtState} (same : SameHeld before after)
    {slot : Fin MaximumQueues} {queue : Queue} (found : before.queues slot = some queue)
    (pinned : queue.dispatchPins ≠ ∅) :
    ∃ kept, after.queues slot = some kept ∧
      kept = { queue with lastDoorbell := kept.lastDoorbell, dispatchPins := kept.dispatchPins } := by
  obtain ⟨kept, present, fields⟩ := same.queue found pinned
  refine ⟨kept, present, ?_⟩
  rw [fields]

theorem Pinned.law (pinned : Pinned state) : PinLaw state where
  counted := fun slot queue ticket count found holds =>
    pinned.counted slot _ _ _ _ ⟨queue, found, rfl, rfl, holds⟩
  allocations := fun op stays slot allocation found held => by
    cases op with
    | clear => exact absurd rfl stays
    | pinDispatch => exact (pinDispatch_sameButPins _).keeps_allocation found
    | pinDispatchResources => exact (pinDispatchResources_sameButPins _ _).keeps_allocation found
    | releaseDispatch => exact releaseDispatch_sameButPins.keeps_allocation found
    | submit | disconnect | writeMemory | sampleClock =>
      exact (sameHeld_step state rfl).keeps_allocation found held
  queues := fun op stays slot queue found held => by
    cases op with
    | clear => exact absurd rfl stays
    | pinDispatch => exact (pinDispatch_sameButPins _).keeps_queue found
    | pinDispatchResources => exact (pinDispatchResources_sameButPins _ _).keeps_queue found
    | releaseDispatch => exact releaseDispatch_sameButPins.keeps_queue found
    | submit | disconnect | writeMemory | sampleClock =>
      exact (sameHeld_step state rfl).keeps_queue found held
  pins := fun _ quiet => sameHeld_step state quiet
  releasable := fun _ => pinned.releasable_iff
  released := fun _ succeeds => pinned.released succeeds
  unreleased := fun dispatch fails => by
    rcases releaseDispatch_cases state dispatch with
      ⟨same, -⟩ | ⟨_, _, _, _, _, same⟩
    · rw [same]
    · rw [same] at fails
      cases fails
  refused := fun dispatch resources faults fails => by
    rcases pinDispatchResources_cases state dispatch resources faults with
      same | ⟨_, _, _, _, _, _, _, _, same⟩
    · rw [same]
    · rw [same] at fails
      cases fails

end Runs

end GemSim.Kmt
