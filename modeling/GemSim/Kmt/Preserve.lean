import GemSim.Kmt.Effect
import GemSim.Kmt.Machine

/-!
# Preservation along runs

An invariant of the KMT state is shown once for each kind of update; this file lifts
that to `submit`, `disconnect` and whole runs. Dropping a connection is the same
chain of updates an orderly client would make: free every object, then close.

## Main definitions

* `Preserved` — the one-update obligations of an invariant
* `SameButPins` — states that differ only in their dispatch pins

## Main results

* `Preserved.submit`, `Preserved.disconnect`, `Preserved.step`
* `pinDispatch_sameButPins` and its like — pin operations change only pins
-/

namespace GemSim.Kmt

open GemSim.Lib HostGPUKmtState

section Teardown

variable {n : ℕ} {α : Type} {table : HostGPUKmtState → SlotTable n α} {identity : α → Identity}
  {release : HostGPUKmtState → Fin n → α → HostGPUKmtState} {session : Session}

variable (table identity release session) in
/-- What every single release preserves, the release loop preserves. -/
theorem releaseOwned_induct (inv : HostGPUKmtState → Prop)
    (preserved : ∀ state slot object, inv state → table state slot = some object →
      session.owns (identity object) = true → inv (release state slot object))
    {state : HostGPUKmtState} (start : inv state) :
    inv (releaseOwned table identity release session state) := by
  unfold releaseOwned
  induction List.finRange n generalizing state with
  | nil => exact start
  | cons slot rest ih =>
    rw [List.foldl_cons]
    apply ih
    unfold releaseSlot
    split
    · exact start
    · rename_i object found
      split
      · rename_i owned
        exact preserved state slot object start found owned
      · exact start

variable (table release) in
/-- After the release loop no object of the session is left in the table. -/
theorem releaseOwned_gone
    (drops : ∀ state slot object, table (release state slot object) = (table state).drop slot)
    (state : HostGPUKmtState) {slot : Fin n} {object : α}
    (found : table (releaseOwned table identity release session state) slot = some object) :
    session.owns (identity object) = false := by
  have general : ∀ (slots : List (Fin n)) (state : HostGPUKmtState),
      (slot ∈ slots ∨ ∀ object, table state slot = some object →
        session.owns (identity object) = false) →
      ∀ object, table (slots.foldl (releaseSlot table identity release session) state) slot =
        some object → session.owns (identity object) = false := by
    intro slots
    induction slots with
    | nil =>
      rintro state (absent | gone) object present
      · exact absurd absent List.not_mem_nil
      · exact gone object present
    | cons first rest ih =>
      intro state known
      rw [List.foldl_cons]
      apply ih
      by_cases here : slot = first
      · right
        subst here
        intro object present
        unfold releaseSlot at present
        split at present
        · rename_i free
          rw [free] at present
          contradiction
        · rename_i taken
          split at present
          · rw [drops, SlotTable.drop_same] at present
            contradiction
          · rename_i foreign
            rw [taken] at present
            obtain rfl := Option.some.inj present
            simpa using foreign
      · rcases known with member | gone
        · exact Or.inl ((List.mem_cons.mp member).resolve_left here)
        · right
          intro object present
          unfold releaseSlot at present
          split at present
          · exact gone object present
          · split at present
            · rw [drops, SlotTable.drop_other _ here] at present
              exact gone object present
            · exact gone object present
  exact general (List.finRange n) state (Or.inl (List.mem_finRange slot)) object found

end Teardown

-- The loops run over a thousand slots: nothing below may unfold them.
attribute [local irreducible] releaseOwned

section Preservation

/-- What an invariant has to be shown for: each update a step can make. `allowed`
restricts the handled requests. -/
structure Preserved (allowed : HostGPUKmtState → Call → Prop) (inv : HostGPUKmtState → Prop) :
    Prop where
  quiet : ∀ {state : HostGPUKmtState} {call : Call},
    call.request.operation = .openKfd → allowed state call
  sampled : ∀ {state : HostGPUKmtState} (value : UInt64), inv state →
    inv { state with lastClockNanoseconds := value }
  touched : ∀ {state : HostGPUKmtState} {slot : Fin MaximumOwners} {session : Session}
    {sequence : UInt64}, state.sessions slot = some session → session.lastSequence ≤ sequence →
    inv state → inv (state.withSession slot { session with lastSequence := sequence })
  lostOwner : ∀ {state : HostGPUKmtState} (jobEpoch : UInt64), inv state →
    inv (state.withNext .owner (state.take .owner jobEpoch).2)
  opened : ∀ {state : HostGPUKmtState} {transportOwner : Owner} {slot : Fin MaximumOwners}
    {jobEpoch : UInt64}, state.findSession transportOwner = none →
    state.sessions.firstFree = some slot → (state.take .owner jobEpoch).1 ≠ 0 → inv state →
    inv ((state.withNext .owner (state.take .owner jobEpoch).2).addSession slot
      (openedSession transportOwner slot (state.take .owner jobEpoch).1 jobEpoch))
  effect : ∀ {state after : HostGPUKmtState} {call : Call}
    {issued : Option (GenerationKind × UInt64)},
    state.sessions call.slot = some call.session → allowed state call → inv state →
    Effect state call after issued → inv after
  written : ∀ {state : HostGPUKmtState} {slot : Fin MaximumAllocations}
    {allocation : Allocation} (bytes : SparseBytes), state.allocations slot = some allocation →
    inv state → inv (state.withAllocation slot { allocation with bytes := bytes })

/-- The obligations of a law whose proofs may use an invariant already established. -/
structure PreservedUnder (base : HostGPUKmtState → Prop)
    (allowed : HostGPUKmtState → Call → Prop) (law : HostGPUKmtState → Prop) : Prop where
  quiet : ∀ {state : HostGPUKmtState} {call : Call},
    call.request.operation = .openKfd → allowed state call
  sampled : ∀ {state : HostGPUKmtState} (value : UInt64), base state → law state →
    law { state with lastClockNanoseconds := value }
  touched : ∀ {state : HostGPUKmtState} {slot : Fin MaximumOwners} {session : Session}
    {sequence : UInt64}, state.sessions slot = some session → session.lastSequence ≤ sequence →
    base state → law state → law (state.withSession slot { session with lastSequence := sequence })
  lostOwner : ∀ {state : HostGPUKmtState} (jobEpoch : UInt64), base state → law state →
    law (state.withNext .owner (state.take .owner jobEpoch).2)
  opened : ∀ {state : HostGPUKmtState} {transportOwner : Owner} {slot : Fin MaximumOwners}
    {jobEpoch : UInt64}, state.findSession transportOwner = none →
    state.sessions.firstFree = some slot → (state.take .owner jobEpoch).1 ≠ 0 → base state →
    law state →
    law ((state.withNext .owner (state.take .owner jobEpoch).2).addSession slot
      (openedSession transportOwner slot (state.take .owner jobEpoch).1 jobEpoch))
  effect : ∀ {state after : HostGPUKmtState} {call : Call}
    {issued : Option (GenerationKind × UInt64)},
    state.sessions call.slot = some call.session → allowed state call → base state → law state →
    Effect state call after issued → law after
  written : ∀ {state : HostGPUKmtState} {slot : Fin MaximumAllocations}
    {allocation : Allocation} (bytes : SparseBytes), state.allocations slot = some allocation →
    base state → law state → law (state.withAllocation slot { allocation with bytes := bytes })

/-- A law proved over an established invariant joins it. -/
theorem PreservedUnder.and {base law : HostGPUKmtState → Prop}
    {allowed : HostGPUKmtState → Call → Prop} (under : PreservedUnder base allowed law)
    (established : Preserved (fun _ _ => True) base) :
    Preserved allowed (fun state => base state ∧ law state) where
  quiet := under.quiet
  sampled := fun value known =>
    ⟨established.sampled value known.1, under.sampled value known.1 known.2⟩
  touched := fun present le known =>
    ⟨established.touched present le known.1, under.touched present le known.1 known.2⟩
  lostOwner := fun jobEpoch known =>
    ⟨established.lostOwner jobEpoch known.1, under.lostOwner jobEpoch known.1 known.2⟩
  opened := fun fresh free taken known =>
    ⟨established.opened fresh free taken known.1, under.opened fresh free taken known.1 known.2⟩
  effect := fun present admitted known effect =>
    ⟨established.effect present trivial known.1 effect,
      under.effect present admitted known.1 known.2 effect⟩
  written := fun bytes found known =>
    ⟨established.written bytes found known.1, under.written bytes found known.1 known.2⟩

variable {allowed : HostGPUKmtState → Call → Prop} {inv : HostGPUKmtState → Prop}
  {state : HostGPUKmtState}

/-- The calls a submission may hand to a handler are allowed. -/
def SubmitAllowed (allowed : HostGPUKmtState → Call → Prop) (state : HostGPUKmtState) (env : Env)
    (transportOwner : Owner) (header : Header) (request : KmtRequest) : Prop :=
  ∀ call, handledCall state env transportOwner header request = some call →
    allowed (state.withSession call.slot call.session) call

instance decidableSubmitAllowed [∀ state call, Decidable (allowed state call)] (env : Env)
    (transportOwner : Owner) (header : Header) (request : KmtRequest) :
    Decidable (SubmitAllowed allowed state env transportOwner header request) :=
  decidableForallSome _ _

theorem Preserved.submit (preserved : Preserved allowed inv) {env : Env} {transportOwner : Owner}
    {header : Header} {request : KmtRequest} (start : inv state)
    (admitted : SubmitAllowed allowed state env transportOwner header request) :
    inv (submit state env transportOwner header request).state := by
  have ends : SubmitCases state env transportOwner header request
      (GemSim.Kmt.submit state env transportOwner header request) := submit_cases
  generalize GemSim.Kmt.submit state env transportOwner header request = out at ends
  cases ends with
  | rejected => exact start
  | reopened found _ later =>
    exact preserved.touched (findSession_spec found).1 (UInt64.le_of_lt later) start
  | lostOwner => exact preserved.lostOwner _ start
  | opened fresh free _ taken => exact preserved.opened fresh free taken start
  | handled handled spec =>
    refine preserved.effect (SlotTable.put_same _ _ _) (admitted _ handled) ?_ spec.effect
    obtain ⟨slot, session, -, found, -, sequence, rfl⟩ := handledCall_eq_some.mp handled
    exact preserved.touched (findSessionAs_spec found).1 (UInt64.le_of_lt sequence.1) start

/-- The call that stands for a transport teardown. -/
def teardownCall (slot : Fin MaximumOwners) (session : Session) : Call where
  env := {}
  header := {}
  request := {}
  slot := slot
  session := session

/-- The session is in place and none of its objects is pinned. -/
structure Detachable (slot : Fin MaximumOwners) (session : Session) (state : HostGPUKmtState) :
    Prop where
  present : state.sessions slot = some session
  allocations : ∀ index allocation, state.allocations index = some allocation →
    session.owns allocation.toIdentity = true → allocation.dispatchPins = ∅
  queues : ∀ index queue, state.queues index = some queue →
    session.owns queue.toIdentity = true → queue.dispatchPins = ∅

theorem Preserved.releaseSessionObjects (preserved : Preserved allowed inv)
    {slot : Fin MaximumOwners} {session : Session} (start : inv state)
    (detachable : Detachable slot session state) :
    inv (releaseSessionObjects state session) ∧
      Detachable slot session (GemSim.Kmt.releaseSessionObjects state session) := by
  have step : ∀ {state after : HostGPUKmtState}, inv state → Detachable slot session state →
      Effect state (teardownCall slot session) after none → inv after :=
    fun start detachable effect => preserved.effect detachable.present (preserved.quiet rfl) start
      effect
  have freed : inv (releaseOwned allocations Allocation.toIdentity releaseAllocation session state) ∧
      Detachable slot session
        (releaseOwned allocations Allocation.toIdentity releaseAllocation session state) := by
    refine releaseOwned_induct _ _ _ _ (fun state => inv state ∧ Detachable slot session state)
      ?_ ⟨start, detachable⟩
    rintro state index allocation ⟨start, detachable⟩ found owned
    refine ⟨step start detachable
      (.freed found owned (detachable.allocations index allocation found owned)), ?_⟩
    refine ⟨detachable.present, fun other object present => ?_, detachable.queues⟩
    exact detachable.allocations other object (SlotTable.drop_eq_some.mp present).2
  have dequeued := releaseOwned_induct queues Queue.toIdentity releaseQueue session
    (fun state => inv state ∧ Detachable slot session state)
    (fun state index queue known found owned =>
      ⟨step known.1 known.2 (.queueDestroyed found owned (known.2.queues index queue found owned)),
        known.2.present, known.2.allocations, fun other object present =>
          known.2.queues other object (SlotTable.drop_eq_some.mp present).2⟩) freed
  exact releaseOwned_induct events Event.toIdentity releaseEvent session
    (fun state => inv state ∧ Detachable slot session state)
    (fun state index event known found owned =>
      ⟨step known.1 known.2 (.eventDestroyed found owned), known.2.present, known.2.allocations,
        known.2.queues⟩) dequeued

/-- After the three loops the session holds no object. -/
theorem releaseSessionObjects_idle (state : HostGPUKmtState) (session : Session) :
    (GemSim.Kmt.releaseSessionObjects state session).holdsObjects session = false := by
  set freed := releaseOwned allocations Allocation.toIdentity releaseAllocation session state
    with hfreed
  set dequeued := releaseOwned queues Queue.toIdentity releaseQueue session freed with hdequeued
  set final := releaseOwned events Event.toIdentity releaseEvent session dequeued with hfinal
  have sameQueues : final.queues = dequeued.queues :=
    releaseOwned_induct events Event.toIdentity releaseEvent session
      (fun state => state.queues = dequeued.queues) (fun _ _ _ same _ _ => same) rfl
  have dequeuedAllocations : dequeued.allocations = freed.allocations :=
    releaseOwned_induct queues Queue.toIdentity releaseQueue session
      (fun state => state.allocations = freed.allocations) (fun _ _ _ same _ _ => same) rfl
  have sameAllocations : final.allocations = freed.allocations :=
    releaseOwned_induct events Event.toIdentity releaseEvent session
      (fun state => state.allocations = freed.allocations) (fun _ _ _ same _ _ => same) dequeuedAllocations
  change final.holdsObjects session = false
  rw [holdsObjects, Bool.or_eq_false_iff, Bool.or_eq_false_iff]
  refine ⟨⟨?_, ?_⟩, ?_⟩
  · rw [SlotTable.holds_eq_false, sameAllocations]
    exact fun _ _ found => releaseOwned_gone allocations releaseAllocation
      (fun _ _ _ => rfl) state found
  · rw [SlotTable.holds_eq_false, sameQueues]
    exact fun _ _ found => releaseOwned_gone queues releaseQueue
      (fun _ _ _ => rfl) freed found
  · rw [SlotTable.holds_eq_false]
    exact fun _ _ found => releaseOwned_gone events releaseEvent
      (fun _ _ _ => rfl) dequeued found

theorem detachable_of_unpinned {transportOwner : Owner} {slot : Fin MaximumOwners}
    {session : Session} (found : state.findSession transportOwner = some (slot, session))
    (unpinned : state.ownerHasDispatchPins transportOwner = false) :
    Detachable slot session state := by
  rw [ownerHasDispatchPins, found] at unpinned
  obtain ⟨noAllocation, noQueue⟩ := Bool.or_eq_false_iff.mp unpinned
  refine ⟨(findSession_spec found).1, fun index allocation present owned => ?_,
    fun index queue present owned => ?_⟩
  · have := SlotTable.holds_eq_false.mp noAllocation index allocation present
    simpa [owned] using this
  · have := SlotTable.holds_eq_false.mp noQueue index queue present
    simpa [owned] using this

theorem Preserved.disconnect (preserved : Preserved allowed inv) (start : inv state)
    (transportOwner : Owner) : inv (disconnect state transportOwner) := by
  unfold GemSim.Kmt.disconnect
  split
  · exact start
  · rename_i slot session found
    split
    · exact start
    · rename_i unpinned
      obtain ⟨released, detached⟩ := preserved.releaseSessionObjects start
        (detachable_of_unpinned found (by simpa using unpinned))
      have closed : Effect (GemSim.Kmt.releaseSessionObjects state session)
          (teardownCall slot session)
          ((GemSim.Kmt.releaseSessionObjects state session).releaseSession slot) none :=
        .closed (Or.inr rfl) (releaseSessionObjects_idle state session)
      exact preserved.effect detached.present (preserved.quiet rfl) released closed

theorem Preserved.writeMemory (preserved : Preserved allowed inv) (start : inv state)
    (transportOwner : Owner) (ownerId ownerGeneration gpuVa : UInt64) (source : ℕ → UInt8)
    (byteCount : UInt64) :
    inv (writeMemory state transportOwner ownerId ownerGeneration gpuVa source byteCount).2 := by
  unfold HostGPUKmtState.writeMemory
  split
  · exact start
  · split
    · exact start
    · split
      · exact start
      · rename_i slot allocation found
        exact preserved.written _ (allocationOf_spec found).1 start

end Preservation

section Pins

/-- An allocation or queue without its pins. -/
def Allocation.bare (allocation : Allocation) : Allocation := { allocation with dispatchPins := ∅ }

def Queue.bare (queue : Queue) : Queue := { queue with dispatchPins := ∅ }

/-- The two states differ at most in the pins of allocations and queues. -/
structure SameButPins (before after : HostGPUKmtState) : Prop where
  allocations : (fun slot => (after.allocations slot).map Allocation.bare) =
    fun slot => (before.allocations slot).map Allocation.bare
  queues : (fun slot => (after.queues slot).map Queue.bare) =
    fun slot => (before.queues slot).map Queue.bare
  rest : after = { before with allocations := after.allocations, queues := after.queues }

theorem SameButPins.refl (state : HostGPUKmtState) : SameButPins state state := ⟨rfl, rfl, rfl⟩

theorem SameButPins.symm {before after : HostGPUKmtState} (same : SameButPins before after) :
    SameButPins after before :=
  ⟨same.allocations.symm, same.queues.symm, by rw [same.rest]⟩

/-- An allocation after pinning is one from before with other pins. -/
theorem SameButPins.allocation {before after : HostGPUKmtState} (same : SameButPins before after)
    {slot : Fin MaximumAllocations} {allocation : Allocation}
    (found : after.allocations slot = some allocation) :
    ∃ old, before.allocations slot = some old ∧
      allocation = { old with dispatchPins := allocation.dispatchPins } := by
  have here := congrFun same.allocations slot
  simp only [found, Option.map_some] at here
  obtain ⟨old, present, bare⟩ := Option.map_eq_some_iff.mp here.symm
  refine ⟨old, present, ?_⟩
  have fields := congrArg (fun bare : Allocation =>
    ({ bare with dispatchPins := allocation.dispatchPins } : Allocation)) bare
  exact fields.symm

theorem SameButPins.queue {before after : HostGPUKmtState} (same : SameButPins before after)
    {slot : Fin MaximumQueues} {queue : Queue} (found : after.queues slot = some queue) :
    ∃ old, before.queues slot = some old ∧
      queue = { old with dispatchPins := queue.dispatchPins } := by
  have here := congrFun same.queues slot
  simp only [found, Option.map_some] at here
  obtain ⟨old, present, bare⟩ := Option.map_eq_some_iff.mp here.symm
  refine ⟨old, present, ?_⟩
  have fields := congrArg (fun bare : Queue =>
    ({ bare with dispatchPins := queue.dispatchPins } : Queue)) bare
  exact fields.symm

variable {state : HostGPUKmtState} {dispatch : DispatchRef}

theorem dispatchQueue_spec {slot : Fin MaximumQueues} {queue : Queue}
    (found : dispatchQueue state dispatch = some (slot, queue)) :
    state.queues slot = some queue ∧ queue.ownerId = dispatch.ownerId ∧
      queue.ownerGeneration = dispatch.ownerGeneration ∧ dispatch.requestId ≠ 0 := by
  unfold dispatchQueue at found
  split at found
  · contradiction
  · split at found
    · contradiction
    · rename_i nonzero
      obtain ⟨-, -, present, sameOwner, sameGeneration, -⟩ := resolveIn_eq_some.mp found
      exact ⟨present, sameOwner, sameGeneration, nonzero⟩

theorem pinDispatch_sameButPins (badAlloc : Bool) :
    SameButPins state (pinDispatch state dispatch badAlloc).2 := by
  unfold pinDispatch
  split
  · exact .refl state
  · rename_i slot queue found
    split
    · exact .refl state
    · split
      · exact .refl state
      · exact ⟨rfl, SlotTable.modify_put_same (dispatchQueue_spec found).1 rfl, rfl⟩

theorem unpinNew_bare (ticket : UInt64) (newlyPinned : List (Fin MaximumAllocations))
    (allocations : SlotTable MaximumAllocations Allocation) :
    (fun slot => (unpinNew ticket allocations newlyPinned slot).map Allocation.bare) =
      fun slot => (allocations slot).map Allocation.bare := by
  induction newlyPinned generalizing allocations with
  | nil => rfl
  | cons slot rest ih =>
    rw [unpinNew, List.foldl_cons]
    refine (ih (unpinSlot ticket allocations slot)).trans ?_
    cases found : allocations slot with
    | none => simp only [unpinSlot, found]
    | some allocation =>
      simp only [unpinSlot, found]
      exact SlotTable.modify_put_same found rfl

/-- The table of a finished pin loop, whether it went through or was undone. -/
def pinOutcome : Except (SlotTable MaximumAllocations Allocation)
    (SlotTable MaximumAllocations Allocation × List (Fin MaximumAllocations)) →
      SlotTable MaximumAllocations Allocation
  | .ok (after, _) => after
  | .error after => after

theorem pinResources_bare (ownerId ownerGeneration ticket : UInt64) (insertFails : ℕ → Bool)
    (resources : List AllocationRef) (allocations : SlotTable MaximumAllocations Allocation)
    (newlyPinned : List (Fin MaximumAllocations)) :
    (fun slot => (pinOutcome (pinResources ownerId ownerGeneration ticket insertFails resources
      allocations newlyPinned) slot).map Allocation.bare) =
        fun slot => (allocations slot).map Allocation.bare := by
  induction resources generalizing allocations newlyPinned with
  | nil => rfl
  | cons resource rest ih =>
    unfold pinResources
    split
    · exact unpinNew_bare ticket newlyPinned allocations
    · split
      · exact unpinNew_bare ticket newlyPinned allocations
      · rename_i slot allocation resolved
        split
        · exact ih allocations newlyPinned
        · split
          · exact unpinNew_bare ticket newlyPinned allocations
          · have found := (resolveIn_eq_some.mp resolved).2.2.1
            exact (ih (allocations.put slot (allocation.pin ticket)) (newlyPinned ++ [slot])).trans
              (SlotTable.modify_put_same found rfl)

theorem pinDispatchResources_sameButPins (resources : List AllocationRef) (faults : PinFaults) :
    SameButPins state (pinDispatchResources state dispatch resources faults).2 := by
  unfold pinDispatchResources
  split
  · exact .refl state
  · rename_i slot queue found
    split
    · exact .refl state
    · split
      · exact .refl state
      · have bare := pinResources_bare dispatch.ownerId dispatch.ownerGeneration
          dispatch.requestId faults.insert resources state.allocations []
        split
        · rename_i allocations failed
          rw [failed] at bare
          exact ⟨bare, rfl, rfl⟩
        · rename_i allocations newlyPinned pinned
          rw [pinned] at bare
          split
          · exact ⟨(unpinNew_bare _ _ _).trans bare, rfl, rfl⟩
          · exact ⟨bare, SlotTable.modify_put_same (dispatchQueue_spec found).1 rfl, rfl⟩

theorem releaseDispatch_sameButPins : SameButPins state (releaseDispatch state dispatch).2 := by
  unfold releaseDispatch
  split
  · exact .refl state
  · rename_i slot queue found
    split
    · exact .refl state
    · split
      · exact .refl state
      · refine ⟨?_, SlotTable.modify_put_same (dispatchQueue_spec found).1 rfl, rfl⟩
        funext index
        change Option.map Allocation.bare (Option.map _ (state.allocations index)) = _
        cases state.allocations index with
        | none => rfl
        | some allocation =>
          simp only [Option.map_some]
          split <;> rfl

end Pins

section Steps

variable {allowed : HostGPUKmtState → Call → Prop} {inv : HostGPUKmtState → Prop}
  {state : HostGPUKmtState}

/-- An operation whose handled requests are allowed. -/
def OpAllowed (allowed : HostGPUKmtState → Call → Prop) (state : HostGPUKmtState) : Op → Prop
  | .submit env transportOwner header request =>
    SubmitAllowed allowed state env transportOwner header request
  | _ => True

instance decidableOpAllowed [∀ state call, Decidable (allowed state call)] (op : Op) :
    Decidable (OpAllowed allowed state op) :=
  match op with
  | .submit env transportOwner header request =>
    inferInstanceAs (Decidable (SubmitAllowed allowed state env transportOwner header request))
  | .disconnect _ | .clear | .pinDispatch _ _ | .pinDispatchResources _ _ _ | .releaseDispatch _
  | .writeMemory _ _ _ _ _ _ | .sampleClock _ => isTrue trivial

/-- An invariant with its one-update obligations, blind to pins and true of a cleared
state, survives every allowed step. -/
theorem Preserved.step (preserved : Preserved allowed inv)
    (pinBlind : ∀ {before after : HostGPUKmtState}, SameButPins before after → inv before →
      inv after)
    (cleared : ∀ {state : HostGPUKmtState}, inv state → inv (clear state))
    (start : inv state) {op : Op} (admitted : OpAllowed allowed state op) :
    inv (step state op) := by
  cases op with
  | submit => exact preserved.submit start admitted
  | disconnect transportOwner => exact preserved.disconnect start transportOwner
  | clear => exact cleared start
  | pinDispatch => exact pinBlind (pinDispatch_sameButPins _) start
  | pinDispatchResources => exact pinBlind (pinDispatchResources_sameButPins _ _) start
  | releaseDispatch => exact pinBlind releaseDispatch_sameButPins start
  | writeMemory => exact preserved.writeMemory start _ _ _ _ _ _
  | sampleClock => exact preserved.sampled _ start

end Steps

end GemSim.Kmt
