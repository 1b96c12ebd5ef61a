import GemSim.Kmt.Scenario
import GemSim.Kmt.Sessions

/-!
# Generation-safe handles

A handle names a kind, a slot and the generation the slot was filled with. Every step
keeps the records it does not create, and what it creates carries the generation the
step took from the counter of its kind. Counters only move forward, so a generation
is taken once, and a handle that stopped resolving never resolves again.

## Main definitions

* `Handle`, `Holds` — the records of a state as handles with their owners
* `Progress` — what a step does to counters and handles
* `Resolves` — an owner resolves an object id and a generation
* `GenerationSafe` — the properties of all runs from a start state

## Main results

* `step_progress`, `holds_of_run` — one step, and a whole run
* `generationSafe_of_construct` — every run of the machine is generation safe
-/

namespace GemSim.Kmt

open GemSim.Lib HostGPUKmtState

section Definitions

/-- A record of a table as its handle sees it. The handle of a session also names its
transport owner. -/
structure Handle where
  kind : GenerationKind
  slot : ℕ
  identity : Identity
  transportOwner : Option Owner := none

/-- The part of a session its handle shows. -/
def Session.connection (session : Session) : UInt64 × UInt64 × Owner :=
  (session.ownerId, session.ownerGeneration, session.transportOwner)

def Session.handle (slot : Fin MaximumOwners) (session : Session) : Handle where
  kind := .owner
  slot := slot
  identity := ⟨session.ownerId, session.ownerGeneration, session.ownerGeneration⟩
  transportOwner := some session.transportOwner

/-- The handles of the live records. -/
inductive Holds (state : HostGPUKmtState) : Handle → Prop
  | session {slot : Fin MaximumOwners} {session : Session}
      (found : state.sessions slot = some session) : Holds state (session.handle slot)
  | allocation {slot : Fin MaximumAllocations} {allocation : Allocation}
      (found : state.allocations slot = some allocation) :
      Holds state { kind := .allocation, slot := slot, identity := allocation.toIdentity }
  | queue {slot : Fin MaximumQueues} {queue : Queue} (found : state.queues slot = some queue) :
      Holds state { kind := .queue, slot := slot, identity := queue.toIdentity }
  | event {slot : Fin MaximumEvents} {event : Event} (found : state.events slot = some event) :
      Holds state { kind := .event, slot := slot, identity := event.toIdentity }

/-- Counters move forward, an issued generation lies between the counters, and a handle
that is new carries the issued generation. -/
structure Progress (before after : HostGPUKmtState)
    (issued : Option (GenerationKind × UInt64)) : Prop where
  counters : ∀ kind, (before.nextGeneration kind).toNat ≤ (after.nextGeneration kind).toNat
  range : ∀ kind generation, issued = some (kind, generation) →
    (before.nextGeneration kind).toNat ≤ generation.toNat ∧
      generation.toNat < (after.nextGeneration kind).toNat
  held : ∀ handle, Holds after handle →
    Holds before handle ∨ issued = some (handle.kind, handle.identity.generation)

end Definitions

section Updates

variable {before after : HostGPUKmtState}

theorem Progress.of_held
    (counters : ∀ kind, after.nextGeneration kind = before.nextGeneration kind)
    (held : ∀ handle, Holds after handle → Holds before handle) :
    Progress before after none where
  counters := fun kind => by rw [counters kind]
  range := fun _ _ none => by cases none
  held := fun handle holds => Or.inl (held handle holds)

theorem Progress.refl (state : HostGPUKmtState) : Progress state state none :=
  .of_held (fun _ => rfl) fun _ => id

/-- A step that issues nothing may come first. -/
theorem Progress.trans {middle : HostGPUKmtState} {issued : Option (GenerationKind × UInt64)}
    (first : Progress before middle none) (second : Progress middle after issued) :
    Progress before after issued where
  counters := fun kind => (first.counters kind).trans (second.counters kind)
  range := fun kind generation same => by
    obtain ⟨low, high⟩ := second.range kind generation same
    exact ⟨(first.counters kind).trans low, high⟩
  held := fun handle holds => by
    rcases second.held handle holds with old | fresh
    · rcases first.held handle old with older | none
      · exact Or.inl older
      · cases none
    · exact Or.inr fresh

/-- The handles of a state follow from its four tables. -/
theorem holds_mono
    (sessions : ∀ slot session, after.sessions slot = some session →
      ∃ old, before.sessions slot = some old ∧ session.connection = old.connection)
    (allocations : ∀ slot allocation, after.allocations slot = some allocation →
      ∃ old, before.allocations slot = some old ∧ allocation.toIdentity = old.toIdentity)
    (queues : ∀ slot queue, after.queues slot = some queue →
      ∃ old, before.queues slot = some old ∧ queue.toIdentity = old.toIdentity)
    (events : ∀ slot event, after.events slot = some event →
      ∃ old, before.events slot = some old ∧ event.toIdentity = old.toIdentity)
    (handle : Handle) (holds : Holds after handle) : Holds before handle := by
  cases holds with
  | session found =>
    rename_i slot session
    obtain ⟨old, present, same⟩ := sessions slot session found
    simp only [Session.connection, Prod.mk.injEq] at same
    rw [Session.handle, same.1, same.2.1, same.2.2]
    exact .session present
  | allocation found =>
    obtain ⟨old, present, same⟩ := allocations _ _ found
    rw [same]
    exact .allocation present
  | queue found =>
    obtain ⟨old, present, same⟩ := queues _ _ found
    rw [same]
    exact .queue present
  | event found =>
    obtain ⟨old, present, same⟩ := events _ _ found
    rw [same]
    exact .event present

/-- A table that only lost records or rewrote one in place. -/
theorem put_origin {n : ℕ} {α β : Type*} {table : SlotTable n α} {view : α → β} {slot : Fin n}
    {old record : α} (present : table slot = some old) (same : view record = view old)
    (other : Fin n) (found : α) (live : table.put slot record other = some found) :
    ∃ origin, table other = some origin ∧ view found = view origin := by
  rcases SlotTable.put_eq_some.mp live with ⟨rfl, rfl⟩ | ⟨-, untouched⟩
  · exact ⟨old, present, same⟩
  · exact ⟨found, untouched, rfl⟩

theorem drop_origin {n : ℕ} {α β : Type*} {table : SlotTable n α} (view : α → β) {slot : Fin n}
    (other : Fin n) (found : α) (live : table.drop slot other = some found) :
    ∃ origin, table other = some origin ∧ view found = view origin :=
  ⟨found, (SlotTable.drop_eq_some.mp live).2, rfl⟩

theorem same_origin {n : ℕ} {α β : Type*} {table : SlotTable n α} (view : α → β) (slot : Fin n)
    (found : α) (live : table slot = some found) :
    ∃ origin, table slot = some origin ∧ view found = view origin := ⟨found, live, rfl⟩

theorem Session.Continues.connection {old session : Session}
    (continues : old.Continues session) : session.connection = old.connection := by
  rw [Session.connection, Session.connection, continues.transportOwner, continues.ownerId,
    continues.ownerGeneration]

/-- A step that issues nothing and only drops records or rewrites them in place. -/
theorem Progress.of_tables
    (counters : ∀ kind, after.nextGeneration kind = before.nextGeneration kind)
    (sessions : ∀ slot session, after.sessions slot = some session →
      ∃ old, before.sessions slot = some old ∧ session.connection = old.connection)
    (allocations : ∀ slot allocation, after.allocations slot = some allocation →
      ∃ old, before.allocations slot = some old ∧ allocation.toIdentity = old.toIdentity)
    (queues : ∀ slot queue, after.queues slot = some queue →
      ∃ old, before.queues slot = some old ∧ queue.toIdentity = old.toIdentity)
    (events : ∀ slot event, after.events slot = some event →
      ∃ old, before.events slot = some old ∧ event.toIdentity = old.toIdentity) :
    Progress before after none :=
  .of_held counters (holds_mono sessions allocations queues events)

theorem progress_withSession {slot : Fin MaximumOwners} {old session : Session}
    (present : before.sessions slot = some old) (continues : old.Continues session) :
    Progress before (before.withSession slot session) none :=
  .of_tables (fun kind => by cases kind <;> rfl) (put_origin present continues.connection)
    (same_origin _) (same_origin _) (same_origin _)

@[simp] theorem nextGeneration_withNext_same (state : HostGPUKmtState) (kind : GenerationKind)
    (counter : UInt64) : (state.withNext kind counter).nextGeneration kind = counter := by
  cases kind <;> rfl

theorem nextGeneration_withNext_other (state : HostGPUKmtState) {kind other : GenerationKind}
    (counter : UInt64) (ne : other ≠ kind) :
    (state.withNext kind counter).nextGeneration other = state.nextGeneration other := by
  cases kind <;> cases other <;> first | rfl | exact absurd rfl ne

/-- Taking a generation moves its counter past it, and creates nothing. -/
theorem progress_take (state : HostGPUKmtState) (kind : GenerationKind) (jobEpoch : UInt64) :
    Progress state (state.withNext kind (state.take kind jobEpoch).2)
      (issuedAs kind (state.take kind jobEpoch).1) := by
  have cases := takeGeneration_cases state.initialEpoch (state.nextGeneration kind) jobEpoch
  have moved : (state.nextGeneration kind).toNat ≤ (state.take kind jobEpoch).2.toNat := by
    rcases cases with ⟨-, le⟩ | ⟨-, le, next⟩
    · exact le
    · change _ ≤ (takeGeneration _ _ _).2.toNat
      omega
  refine ⟨fun other => ?_, fun other generation same => ?_, fun handle holds => Or.inl ?_⟩
  · by_cases here : other = kind
    · rw [here, nextGeneration_withNext_same]
      exact moved
    · rw [nextGeneration_withNext_other _ _ here]
  · by_cases lost : (state.take kind jobEpoch).1 = 0
    · rw [issuedAs_of_eq lost] at same
      cases same
    · rw [issuedAs_of_ne lost] at same
      obtain ⟨rfl, rfl⟩ := Prod.mk.inj (Option.some.inj same)
      rcases cases with ⟨zero, -⟩ | ⟨-, le, next⟩
      · exact absurd zero lost
      · rw [nextGeneration_withNext_same]
        exact ⟨le, by change (takeGeneration _ _ _).1.toNat < (takeGeneration _ _ _).2.toNat; omega⟩
  · have same := sameObjects_withNext state kind (state.take kind jobEpoch).2
    refine holds_mono ?_ ?_ ?_ ?_ handle holds
    · rw [same.sessions]; exact same_origin _
    · rw [same.allocations]; exact same_origin _
    · rw [same.queues]; exact same_origin _
    · rw [same.events]; exact same_origin _

/-- Taking a generation and filling one slot with a record that carries it. -/
theorem progress_create {kind : GenerationKind} {jobEpoch : UInt64}
    (taken : (before.take kind jobEpoch).1 ≠ 0)
    (counters : ∀ other, after.nextGeneration other =
      (before.withNext kind (before.take kind jobEpoch).2).nextGeneration other)
    (held : ∀ handle, Holds after handle →
      Holds (before.withNext kind (before.take kind jobEpoch).2) handle ∨
        (handle.kind = kind ∧ handle.identity.generation = (before.take kind jobEpoch).1)) :
    Progress before after (issuedAs kind (before.take kind jobEpoch).1) := by
  have base := progress_take before kind jobEpoch
  refine ⟨fun other => counters other ▸ base.counters other, fun other generation same =>
    counters other ▸ base.range other generation same, fun handle holds => ?_⟩
  rcases held handle holds with old | ⟨sameKind, sameGeneration⟩
  · exact base.held handle old
  · right
    rw [issuedAs_of_ne taken, sameKind, sameGeneration]

theorem generation_of_placed {call : Call} {generation : UInt64} {slot : Fin MaximumAllocations}
    {allocation : Allocation} (placed : Placed before call generation slot allocation) :
    allocation.toIdentity = ⟨call.session.ownerId, call.session.ownerGeneration, generation⟩ := by
  cases placed <;> rfl

theorem progress_addAllocation {call : Call} {slot : Fin MaximumAllocations}
    {allocation : Allocation} (taken : (before.take .allocation call.session.jobEpoch).1 ≠ 0)
    (placed : Placed before call (before.take .allocation call.session.jobEpoch).1 slot
      allocation) :
    Progress before ((before.withNext .allocation
      (before.take .allocation call.session.jobEpoch).2).addAllocation slot allocation)
      (issuedAs .allocation (before.take .allocation call.session.jobEpoch).1) := by
  refine progress_create taken (fun other => by cases other <;> rfl) fun handle holds => ?_
  cases holds with
  | session found => exact Or.inl (.session found)
  | queue found => exact Or.inl (.queue found)
  | event found => exact Or.inl (.event found)
  | allocation found =>
    rcases SlotTable.put_eq_some.mp found with ⟨-, rfl⟩ | ⟨-, old⟩
    · exact Or.inr ⟨rfl, by rw [generation_of_placed placed]⟩
    · exact Or.inl (.allocation old)

theorem progress_addQueue {jobEpoch : UInt64} {slot : Fin MaximumQueues} {queue : Queue}
    (taken : (before.take .queue jobEpoch).1 ≠ 0)
    (same : queue.generation = (before.take .queue jobEpoch).1) :
    Progress before ((before.withNext .queue (before.take .queue jobEpoch).2).addQueue slot queue)
      (issuedAs .queue (before.take .queue jobEpoch).1) := by
  refine progress_create taken (fun other => by cases other <;> rfl) fun handle holds => ?_
  cases holds with
  | session found => exact Or.inl (.session found)
  | allocation found => exact Or.inl (.allocation found)
  | event found => exact Or.inl (.event found)
  | queue found =>
    rcases SlotTable.put_eq_some.mp found with ⟨-, rfl⟩ | ⟨-, old⟩
    · exact Or.inr ⟨rfl, same⟩
    · exact Or.inl (.queue old)

theorem progress_addEvent {jobEpoch : UInt64} {slot : Fin MaximumEvents} {event : Event}
    (taken : (before.take .event jobEpoch).1 ≠ 0)
    (same : event.generation = (before.take .event jobEpoch).1) :
    Progress before ((before.withNext .event (before.take .event jobEpoch).2).addEvent slot event)
      (issuedAs .event (before.take .event jobEpoch).1) := by
  refine progress_create taken (fun other => by cases other <;> rfl) fun handle holds => ?_
  cases holds with
  | session found => exact Or.inl (.session found)
  | allocation found => exact Or.inl (.allocation found)
  | queue found => exact Or.inl (.queue found)
  | event found =>
    rcases SlotTable.put_eq_some.mp found with ⟨-, rfl⟩ | ⟨-, old⟩
    · exact Or.inr ⟨rfl, same⟩
    · exact Or.inl (.event old)

theorem progress_addSession {jobEpoch : UInt64} {slot : Fin MaximumOwners} {session : Session}
    (taken : (before.take .owner jobEpoch).1 ≠ 0)
    (same : session.ownerGeneration = (before.take .owner jobEpoch).1) :
    Progress before
      ((before.withNext .owner (before.take .owner jobEpoch).2).addSession slot session)
      (issuedAs .owner (before.take .owner jobEpoch).1) := by
  refine progress_create taken (fun other => by cases other <;> rfl) fun handle holds => ?_
  cases holds with
  | allocation found => exact Or.inl (.allocation found)
  | queue found => exact Or.inl (.queue found)
  | event found => exact Or.inl (.event found)
  | session found =>
    rcases SlotTable.put_eq_some.mp found with ⟨-, rfl⟩ | ⟨-, old⟩
    · exact Or.inr ⟨rfl, same⟩
    · exact Or.inl (.session old)

end Updates

section Steps

variable {state : HostGPUKmtState}

theorem effect_progress {call : Call} {after : HostGPUKmtState}
    {issued : Option (GenerationKind × UInt64)}
    (present : state.sessions call.slot = some call.session)
    (effect : Effect state call after issued) : Progress state after issued := by
  have keeps {after : HostGPUKmtState}
      (same : after = { state with
        sessions := after.sessions, allocations := after.allocations, queues := after.queues,
        events := after.events, lastClockNanoseconds := after.lastClockNanoseconds,
        liveOwners := after.liveOwners, liveAllocations := after.liveAllocations,
        liveQueues := after.liveQueues, liveEvents := after.liveEvents,
        legacyTotalBytes := after.legacyTotalBytes, totalBytes := after.totalBytes }) :
      ∀ kind, after.nextGeneration kind = state.nextGeneration kind := by
    intro kind
    rw [same]
    cases kind <;> rfl
  cases effect with
  | unchanged => exact .refl state
  | sampled =>
    exact .of_tables (keeps rfl) (same_origin _) (same_origin _) (same_origin _) (same_origin _)
  | closed =>
    exact .of_tables (keeps rfl) (drop_origin _) (same_origin _) (same_origin _) (same_origin _)
  | configured continues => exact progress_withSession present continues
  | advanced kind => exact progress_take state kind _
  | allocated _ taken _ placed => exact progress_addAllocation taken placed
  | freed =>
    exact .of_tables (keeps rfl) (same_origin _) (drop_origin _) (same_origin _) (same_origin _)
  | rewritten _ _ found =>
    exact .of_tables (keeps rfl) (same_origin _) (put_origin found rfl) (same_origin _)
      (same_origin _)
  | queueCreated _ _ _ taken => exact progress_addQueue taken rfl
  | queueDestroyed =>
    exact .of_tables (keeps rfl) (same_origin _) (same_origin _) (drop_origin _) (same_origin _)
  | queueRung _ found =>
    exact .of_tables (keeps rfl) (same_origin _) (same_origin _) (put_origin found rfl)
      (same_origin _)
  | eventCreated _ _ taken => exact progress_addEvent taken rfl
  | eventDestroyed =>
    exact .of_tables (keeps rfl) (same_origin _) (same_origin _) (same_origin _) (drop_origin _)
  | eventUpdated _ _ found =>
    exact .of_tables (keeps rfl) (same_origin _) (same_origin _) (same_origin _)
      (put_origin found rfl)

theorem submit_progress (env : Env) (transportOwner : Owner) (header : Header)
    (request : KmtRequest) :
    Progress state (submit state env transportOwner header request).state
      (submit state env transportOwner header request).issued := by
  have ends : SubmitCases state env transportOwner header request
      (submit state env transportOwner header request) := submit_cases
  generalize submit state env transportOwner header request = out at ends
  cases ends with
  | rejected => exact .refl state
  | reopened found _ later =>
    exact progress_withSession (findSession_spec found).1
      (touched_continues (UInt64.le_of_lt later))
  | lostOwner => exact progress_take state .owner _
  | opened _ _ _ taken => exact progress_addSession taken rfl
  | handled handled spec =>
    obtain ⟨slot, session, -, found, -, sequence, rfl⟩ := handledCall_eq_some.mp handled
    exact (progress_withSession (findSessionAs_spec found).1
      (touched_continues (UInt64.le_of_lt sequence.1))).trans
        (effect_progress (by exact SlotTable.put_same _ _ _) spec.effect)

/-- Releasing one object creates nothing. -/
theorem progress_releaseAllocation (state : HostGPUKmtState) (slot : Fin MaximumAllocations)
    (allocation : Allocation) : Progress state (state.releaseAllocation slot allocation) none :=
  .of_tables (fun kind => by cases kind <;> rfl) (same_origin _) (drop_origin _) (same_origin _)
    (same_origin _)

theorem progress_releaseQueue (state : HostGPUKmtState) (slot : Fin MaximumQueues)
    (queue : Queue) : Progress state (state.releaseQueue slot queue) none :=
  .of_tables (fun kind => by cases kind <;> rfl) (same_origin _) (same_origin _) (drop_origin _)
    (same_origin _)

theorem progress_releaseEvent (state : HostGPUKmtState) (slot : Fin MaximumEvents)
    (event : Event) : Progress state (state.releaseEvent slot event) none :=
  .of_tables (fun kind => by cases kind <;> rfl) (same_origin _) (same_origin _) (same_origin _)
    (drop_origin _)

theorem progress_releaseSession (state : HostGPUKmtState) (slot : Fin MaximumOwners) :
    Progress state (state.releaseSession slot) none :=
  .of_tables (fun kind => by cases kind <;> rfl) (drop_origin _) (same_origin _) (same_origin _)
    (same_origin _)

theorem releaseSessionObjects_progress (session : Session) :
    Progress state (releaseSessionObjects state session) none := by
  have freed : Progress state
      (releaseOwned allocations Allocation.toIdentity releaseAllocation session state) none :=
    releaseOwned_induct _ _ _ _ (fun middle => Progress state middle none)
      (fun middle slot object known _ _ =>
        known.trans (progress_releaseAllocation middle slot object)) (.refl state)
  have dequeued : Progress state (releaseOwned queues Queue.toIdentity releaseQueue session
      (releaseOwned allocations Allocation.toIdentity releaseAllocation session state)) none :=
    releaseOwned_induct _ _ _ _ (fun middle => Progress state middle none)
      (fun middle slot object known _ _ =>
        known.trans (progress_releaseQueue middle slot object)) freed
  exact releaseOwned_induct _ _ _ _ (fun middle => Progress state middle none)
    (fun middle slot object known _ _ =>
      known.trans (progress_releaseEvent middle slot object)) dequeued

theorem disconnect_progress (transportOwner : Owner) :
    Progress state (disconnect state transportOwner) none := by
  unfold disconnect
  split
  · exact .refl state
  · split
    · exact .refl state
    · exact (releaseSessionObjects_progress _).trans (progress_releaseSession _ _)

theorem SameButPins.progress {before after : HostGPUKmtState} (same : SameButPins before after) :
    Progress before after none := by
  refine .of_tables (fun kind => ?_) ?_ (fun slot allocation found => ?_)
    (fun slot queue found => ?_) ?_
  · rw [same.rest]
    cases kind <;> rfl
  · rw [same.rest]
    exact same_origin _
  · obtain ⟨old, present, bare⟩ := same.allocation found
    exact ⟨old, present, by rw [bare]⟩
  · obtain ⟨old, present, bare⟩ := same.queue found
    exact ⟨old, present, by rw [bare]⟩
  · rw [same.rest]
    exact same_origin _

theorem writeMemory_progress (transportOwner : Owner) (ownerId ownerGeneration gpuVa : UInt64)
    (source : ℕ → UInt8) (byteCount : UInt64) :
    Progress state
      (writeMemory state transportOwner ownerId ownerGeneration gpuVa source byteCount).2 none := by
  unfold writeMemory
  split
  · exact .refl state
  · split
    · exact .refl state
    · split
      · exact .refl state
      · rename_i slot allocation found
        exact .of_tables (fun kind => by cases kind <;> rfl) (same_origin _)
          (put_origin (allocationOf_spec found).1 rfl) (same_origin _) (same_origin _)

theorem clear_progress : Progress state (clear state) none :=
  .of_tables (fun kind => by cases kind <;> rfl) (fun _ _ found => by cases found)
    (fun _ _ found => (by cases found)) (fun _ _ found => (by cases found))
    (fun _ _ found => (by cases found))

/-- The generation an operation takes, if it takes one. -/
def issuedBy (state : HostGPUKmtState) : Op → Option (GenerationKind × UInt64)
  | .submit env transportOwner header request =>
    (submit state env transportOwner header request).issued
  | _ => none

theorem step_progress (state : HostGPUKmtState) (op : Op) :
    Progress state (step state op) (issuedBy state op) := by
  cases op with
  | submit env transportOwner header request =>
    exact submit_progress env transportOwner header request
  | disconnect transportOwner => exact disconnect_progress transportOwner
  | clear => exact clear_progress
  | pinDispatch => exact (pinDispatch_sameButPins _).progress
  | pinDispatchResources => exact (pinDispatchResources_sameButPins _ _).progress
  | releaseDispatch => exact releaseDispatch_sameButPins.progress
  | writeMemory => exact writeMemory_progress _ _ _ _ _ _
  | sampleClock =>
    exact .of_tables (fun kind => by cases kind <;> rfl) (same_origin _) (same_origin _)
      (same_origin _) (same_origin _)

end Steps

section Runs

variable {state start : HostGPUKmtState}

/-- Every live handle carries a generation its counter has passed. -/
def Bounded (state : HostGPUKmtState) : Prop :=
  ∀ handle, Holds state handle →
    handle.identity.generation.toNat < (state.nextGeneration handle.kind).toNat

theorem bounded_step (bounded : Bounded state) (op : Op) : Bounded (step state op) := by
  intro handle holds
  have progress := step_progress state op
  rcases progress.held handle holds with old | fresh
  · exact (bounded handle old).trans_le (progress.counters handle.kind)
  · exact (progress.range _ _ fresh).2

theorem bounded_construct {epoch ticksPerNanosecond : UInt64}
    (constructed : construct epoch ticksPerNanosecond = some start) : Bounded start := by
  obtain rfl := eq_of_construct constructed
  rintro handle (found | found | found | found) <;> cases found

/-- After a run a live handle is one from before, or its generation was taken since. -/
theorem holds_of_run {ops : List Op} {handle : Handle}
    (holds : Holds (runFrom step state ops) handle) :
    Holds state handle ∨
      (state.nextGeneration handle.kind).toNat ≤ handle.identity.generation.toNat := by
  refine held_before_or_above step Holds
    (fun state handle => (state.nextGeneration handle.kind).toNat)
    (fun handle => handle.identity.generation.toNat) ?_ ?_ holds
  · intro state op handle after
    have progress := step_progress state op
    rcases progress.held handle after with old | fresh
    · exact Or.inl old
    · exact Or.inr (progress.range _ _ fresh).1
  · exact fun state op handle => (step_progress state op).counters handle.kind

/-- A generation below its counter names after a run only what it named before. -/
theorem holds_of_below {ops : List Op} {handle : Handle}
    (below : handle.identity.generation.toNat < (state.nextGeneration handle.kind).toNat)
    (holds : Holds (runFrom step state ops) handle) : Holds state handle := by
  rcases holds_of_run holds with old | above
  · exact old
  · exact absurd below (Nat.not_lt.mpr above)

/-- A kind and a slot hold one record. -/
theorem Holds.unique {first second : Handle} (holdsFirst : Holds state first)
    (holdsSecond : Holds state second) (kind : first.kind = second.kind)
    (slot : first.slot = second.slot) : first = second := by
  have same {n : ℕ} {α : Type} {table : SlotTable n α} {i j : Fin n} {x y : α}
      (foundX : table i = some x) (foundY : table j = some y) (index : i.val = j.val) :
      i = j ∧ x = y := by
    obtain rfl := Fin.ext index
    exact ⟨rfl, Option.some.inj (foundX.symm.trans foundY)⟩
  cases holdsFirst with
  | session foundX =>
    cases holdsSecond with
    | session foundY =>
      obtain ⟨rfl, rfl⟩ := same foundX foundY slot
      rfl
    | allocation | queue | event => cases kind
  | allocation foundX =>
    cases holdsSecond with
    | allocation foundY =>
      obtain ⟨rfl, rfl⟩ := same foundX foundY slot
      rfl
    | session | queue | event => cases kind
  | queue foundX =>
    cases holdsSecond with
    | queue foundY =>
      obtain ⟨rfl, rfl⟩ := same foundX foundY slot
      rfl
    | session | allocation | event => cases kind
  | event foundX =>
    cases holdsSecond with
    | event foundY =>
      obtain ⟨rfl, rfl⟩ := same foundX foundY slot
      rfl
    | session | allocation | queue => cases kind

/-- The kinds of objects a session resolves. -/
inductive ObjectKind
  | allocation | queue | event
  deriving DecidableEq, Repr

def ObjectKind.generationKind : ObjectKind → GenerationKind
  | .allocation => .allocation
  | .queue => .queue
  | .event => .event

def ObjectKind.idPrefix : ObjectKind → UInt64
  | .allocation => AllocationPrefix
  | .queue => QueuePrefix
  | .event => EventPrefix

/-- An owner generation resolves an object id with a generation. -/
def Resolves (state : HostGPUKmtState) (kind : ObjectKind)
    (ownerId ownerGeneration objectId objectGeneration : UInt64) : Prop :=
  match kind with
  | .allocation =>
    (resolveIn Allocation.toIdentity AllocationPrefix state.allocations ownerId ownerGeneration
      objectId objectGeneration).isSome = true
  | .queue =>
    (resolveIn Queue.toIdentity QueuePrefix state.queues ownerId ownerGeneration objectId
      objectGeneration).isSome = true
  | .event =>
    (resolveIn Event.toIdentity EventPrefix state.events ownerId ownerGeneration objectId
      objectGeneration).isSome = true

/-- The handle an object id and a generation name for an owner. -/
def objectHandle (kind : ObjectKind)
    (ownerId ownerGeneration objectId objectGeneration : UInt64) : Handle where
  kind := kind.generationKind
  slot := idSlot objectId
  identity := ⟨ownerId, ownerGeneration, objectGeneration⟩

theorem isSome_resolveIn {n : ℕ} {α : Type*} {identity : α → Identity} {idPrefix : UInt64}
    {table : SlotTable n α} {ownerId ownerGeneration objectId objectGeneration : UInt64} :
    (resolveIn identity idPrefix table ownerId ownerGeneration objectId
      objectGeneration).isSome = true ↔
      idHasPrefix objectId idPrefix = true ∧ ∃ slot : Fin n, idSlot objectId = slot ∧
        ∃ object, table slot = some object ∧
          identity object = ⟨ownerId, ownerGeneration, objectGeneration⟩ := by
  rw [Option.isSome_iff_exists]
  constructor
  · rintro ⟨⟨slot, object⟩, resolved⟩
    obtain ⟨isKind, isSlot, present, owner, ownerGen, generation⟩ := resolveIn_eq_some.mp resolved
    refine ⟨isKind, slot, isSlot, object, present, ?_⟩
    rw [← owner, ← ownerGen, ← generation]
  · rintro ⟨isKind, slot, isSlot, object, present, same⟩
    exact ⟨(slot, object), resolveIn_eq_some.mpr
      ⟨isKind, isSlot, present, by rw [same], by rw [same], by rw [same]⟩⟩

/-- A resolved handle is held, under the prefix of its kind. -/
theorem resolves_iff {kind : ObjectKind}
    {ownerId ownerGeneration objectId objectGeneration : UInt64} :
    Resolves state kind ownerId ownerGeneration objectId objectGeneration ↔
      idHasPrefix objectId kind.idPrefix = true ∧
        Holds state (objectHandle kind ownerId ownerGeneration objectId objectGeneration) := by
  cases kind with
  | allocation =>
    refine isSome_resolveIn.trans (and_congr_right fun _ => ?_)
    constructor
    · rintro ⟨slot, isSlot, object, present, same⟩
      rw [objectHandle, isSlot, ← same]
      exact .allocation present
    · intro holds
      generalize handle : objectHandle .allocation ownerId ownerGeneration objectId
        objectGeneration = named at holds
      cases holds with
      | allocation found =>
        obtain ⟨-, isSlot, same, -⟩ := Handle.mk.inj handle
        exact ⟨_, isSlot, _, found, same.symm⟩
      | session | queue | event => cases (Handle.mk.inj handle).1
  | queue =>
    refine isSome_resolveIn.trans (and_congr_right fun _ => ?_)
    constructor
    · rintro ⟨slot, isSlot, object, present, same⟩
      rw [objectHandle, isSlot, ← same]
      exact .queue present
    · intro holds
      generalize handle : objectHandle .queue ownerId ownerGeneration objectId
        objectGeneration = named at holds
      cases holds with
      | queue found =>
        obtain ⟨-, isSlot, same, -⟩ := Handle.mk.inj handle
        exact ⟨_, isSlot, _, found, same.symm⟩
      | session | allocation | event => cases (Handle.mk.inj handle).1
  | event =>
    refine isSome_resolveIn.trans (and_congr_right fun _ => ?_)
    constructor
    · rintro ⟨slot, isSlot, object, present, same⟩
      rw [objectHandle, isSlot, ← same]
      exact .event present
    · intro holds
      generalize handle : objectHandle .event ownerId ownerGeneration objectId
        objectGeneration = named at holds
      cases holds with
      | event found =>
        obtain ⟨-, isSlot, same, -⟩ := Handle.mk.inj handle
        exact ⟨_, isSlot, _, found, same.symm⟩
      | session | allocation | queue => cases (Handle.mk.inj handle).1

/-- The generations of a kind an operation takes. -/
def issuedOf (kind : GenerationKind) (state : HostGPUKmtState) (op : Op) : List ℕ :=
  match issuedBy state op with
  | some (issued, generation) => if issued = kind then [generation.toNat] else []
  | none => []

theorem mem_issuedOf {kind : GenerationKind} {op : Op} {value : ℕ} :
    value ∈ issuedOf kind state op ↔
      ∃ generation, issuedBy state op = some (kind, generation) ∧ generation.toNat = value := by
  unfold issuedOf
  cases issuedBy state op with
  | none => simp
  | some entry =>
    obtain ⟨issued, generation⟩ := entry
    by_cases same : issued = kind
    · simp [same, eq_comm]
    · simp [same]

/-- The generations taken over a run are strictly increasing for each kind. -/
theorem issued_increasing (kind : GenerationKind) (start : HostGPUKmtState) (ops : List Op) :
    (outputs step (issuedOf kind) start ops).Pairwise (· < ·) := by
  refine (outputs_strictlyIncreasing step
    (fun state => (state.nextGeneration kind).toNat) (fun _ => True) (fun _ _ _ => trivial)
    ?_ ?_ ?_ trivial ops).1
  · intro state op _ value member
    obtain ⟨generation, issued, rfl⟩ := mem_issuedOf.mp member
    exact (step_progress state op).range kind generation issued
  · intro state op
    unfold issuedOf
    cases issuedBy state op with
    | none => exact List.Pairwise.nil
    | some entry =>
      obtain ⟨issued, generation⟩ := entry
      dsimp only
      split
      · exact List.pairwise_singleton _ _
      · exact List.Pairwise.nil
  · exact fun state op _ => (step_progress state op).counters kind

/-- The generation safety of all runs from a start state. -/
structure GenerationSafe (start : HostGPUKmtState) : Prop where
  /-- The generations taken for a kind are strictly increasing, as unbounded numbers. -/
  increasing : ∀ kind ops, (outputs step (issuedOf kind) start ops).Pairwise (· < ·)
  /-- A handle that resolved and then did not never resolves again, for any owner. -/
  gone : ∀ kind ops more last ownerId ownerGeneration otherId otherGeneration objectId
    objectGeneration,
    Resolves (runFrom step start ops) kind ownerId ownerGeneration objectId objectGeneration →
    ¬ Resolves (runFrom step start (ops ++ more)) kind ownerId ownerGeneration objectId
      objectGeneration →
    ¬ Resolves (runFrom step start (ops ++ more ++ last)) kind otherId otherGeneration objectId
      objectGeneration
  /-- A handle only ever resolves for the owner id and generation it first resolved for. -/
  creator : ∀ kind ops more ownerId ownerGeneration otherId otherGeneration objectId
    objectGeneration,
    Resolves (runFrom step start ops) kind ownerId ownerGeneration objectId objectGeneration →
    Resolves (runFrom step start (ops ++ more)) kind otherId otherGeneration objectId
      objectGeneration → otherId = ownerId ∧ otherGeneration = ownerGeneration
  /-- An owner id and generation belong to one transport owner for good. -/
  transport : ∀ ops more first second x y,
    (runFrom step start ops).sessions first = some x →
    (runFrom step start (ops ++ more)).sessions second = some y →
    x.ownerId = y.ownerId → x.ownerGeneration = y.ownerGeneration →
    x.transportOwner = y.transportOwner

/-- Every run of a constructed state is generation safe. -/
theorem generationSafe_of_construct {epoch ticksPerNanosecond : UInt64}
    (constructed : construct epoch ticksPerNanosecond = some start) : GenerationSafe start := by
  have bounded (ops : List Op) : Bounded (runFrom step start ops) :=
    invariant_runFrom step Bounded (fun _ op known => bounded_step known op)
      (bounded_construct constructed) ops
  have sound (ops : List Op) : SessionsSound (runFrom step start ops) :=
    invariant_runFrom step SessionsSound (fun _ op known => sessionsSound_step known op)
      (sessionsSound_construct constructed) ops
  have creator : ∀ kind ops more ownerId ownerGeneration otherId otherGeneration objectId
      objectGeneration,
      Resolves (runFrom step start ops) kind ownerId ownerGeneration objectId objectGeneration →
      Resolves (runFrom step start (ops ++ more)) kind otherId otherGeneration objectId
        objectGeneration → otherId = ownerId ∧ otherGeneration = ownerGeneration := by
    intro kind ops more ownerId ownerGeneration otherId otherGeneration objectId objectGeneration
      first later
    have holdsFirst := (resolves_iff.mp first).2
    have holdsLater := (resolves_iff.mp later).2
    rw [runFrom_append] at holdsLater
    have below := bounded ops _ holdsFirst
    have before := holds_of_below (by exact below) holdsLater
    have same := congrArg Handle.identity (before.unique holdsFirst rfl rfl)
    exact ⟨congrArg Identity.ownerId same, congrArg Identity.ownerGeneration same⟩
  refine ⟨fun kind ops => issued_increasing kind start ops, ?_, creator, ?_⟩
  · intro kind ops more last ownerId ownerGeneration otherId otherGeneration objectId
      objectGeneration first gone again
    have sameOwner := creator kind ops (more ++ last) ownerId ownerGeneration otherId
      otherGeneration objectId objectGeneration first (by rwa [← List.append_assoc])
    obtain ⟨rfl, rfl⟩ := sameOwner
    obtain ⟨isKind, holdsAgain⟩ := resolves_iff.mp again
    refine gone (resolves_iff.mpr ⟨isKind, ?_⟩)
    rw [runFrom_append] at holdsAgain
    refine holds_of_below (lt_of_lt_of_le (bounded ops _ (resolves_iff.mp first).2) ?_) holdsAgain
    rw [runFrom_append]
    exact runFrom_mono step
      (fun state => (state.nextGeneration kind.generationKind).toNat) (fun _ => True)
      (fun _ _ _ => trivial) (fun state op _ => (step_progress state op).counters _) trivial more
  · intro ops more first second x y foundX foundY sameId sameGeneration
    have holdsLater : Holds (runFrom step (runFrom step start ops) more) (y.handle second) := by
      rw [← runFrom_append]
      exact .session foundY
    have below := bounded ops _ (.session foundX)
    have before := holds_of_below
      (by
        change y.ownerGeneration.toNat < _
        rw [← sameGeneration]
        exact below) holdsLater
    generalize named : y.handle second = handle at before
    cases before with
    | @session slot old present =>
      obtain ⟨-, -, sameIdentity, sameTransport⟩ := Handle.mk.inj named
      have idY : y.ownerId = old.ownerId := congrArg Identity.ownerId sameIdentity
      obtain rfl := (sound ops).slot_unique foundX present (sameId.trans idY)
      obtain rfl := Option.some.inj (foundX.symm.trans present)
      exact (Option.some.inj sameTransport).symm
    | allocation | queue | event => cases (Handle.mk.inj named).1

/-- Generation safety of the boot state. -/
theorem generationSafe_bootState : GenerationSafe bootState :=
  generationSafe_of_construct construct_bootState

end Runs

end GemSim.Kmt
