import GemSim.Kmt.Handles

/-!
# Atomic submissions and replay

A submission that does not succeed leaves every object and counter alone, and reports
its sequence number as consumed exactly when the session took it. One answer breaks the
second half: a misshapen clock request reports its number as not consumed although its
session has moved to it. The numbers a session takes are strictly increasing in every
run all the same.

## Main definitions

* `lastSequenceOf` — the last sequence number of a transport owner's session
* `SubmitLaw` — atomicity and sequence report of one submission
* `acceptedSequences` — the numbers one session takes over a run
* `ReplaySafe` — they increase, and a number taken is never run again

## Main results

* `submitLaw_iff` — the law fails exactly at the misshapen clock request
* `replaySafe_of_construct` — every run is safe against replay
* `atomicSubmissions_of_construct` — both, for every run
-/

namespace GemSim.Kmt

open GemSim.Lib HostGPUKmtState

section Definitions

/-- The last sequence number the session of a transport owner took. -/
def lastSequenceOf (state : HostGPUKmtState) (transportOwner : Owner) : Option UInt64 :=
  (state.findSession transportOwner).map fun found => found.2.lastSequence

/-- The law of one submission that leads from `before` to `out`. -/
structure SubmitLaw (before : HostGPUKmtState) (transportOwner : Owner) (request : KmtRequest)
    (out : Submitted) : Prop where
  /-- Without success nothing but the sessions may differ. -/
  atomic : ¬ out.decision.Accepted →
    SameObjects { before with sessions := out.state.sessions } out.state
  changes : lastSequenceOf out.state transportOwner ≠ lastSequenceOf before transportOwner ↔
    out.decision.sequenceConsumed = true
  taken : out.decision.sequenceConsumed = true →
    lastSequenceOf out.state transportOwner = some request.operationSequence ∨
      request.operation = .closeKfd ∧ lastSequenceOf out.state transportOwner = none
  others : ∀ other, other ≠ transportOwner →
    lastSequenceOf out.state other = lastSequenceOf before other

/-- The session that takes the sequence number of a request: the one it was resolved to,
or the one its open created. -/
def acceptingSession (state : HostGPUKmtState) (env : Env) (transportOwner : Owner)
    (header : Header) (request : KmtRequest) : Option Session :=
  match handledCall state env transportOwner header request with
  | some call => some call.session
  | none =>
    let out := submit state env transportOwner header request
    if out.decision.sequenceConsumed then (out.state.findSession transportOwner).map Prod.snd
    else none

/-- The sequence numbers the session of an owner id and generation takes in a step. -/
def acceptedSequences (ownerId ownerGeneration : UInt64) (state : HostGPUKmtState) :
    Op → List ℕ
  | .submit env transportOwner header request =>
    match acceptingSession state env transportOwner header request with
    | some session =>
      if session.ownerId = ownerId ∧ session.ownerGeneration = ownerGeneration then
        [request.operationSequence.toNat]
      else []
    | none => []
  | _ => []

/-- Safety against replay of all runs from a start state. -/
structure ReplaySafe (start : HostGPUKmtState) : Prop where
  increasing : ∀ ownerId ownerGeneration ops,
    (outputs step (acceptedSequences ownerId ownerGeneration) start ops).Pairwise (· < ·)
  /-- Once a request reached its handler, only higher sequence numbers of its session do. -/
  once : ∀ ops env transportOwner header request call more laterEnv laterOwner laterHeader
    laterRequest laterCall,
    handledCall (runFrom step start ops) env transportOwner header request = some call →
    handledCall (runFrom step start (ops ++ .submit env transportOwner header request :: more))
      laterEnv laterOwner laterHeader laterRequest = some laterCall →
    laterRequest.ownerId = request.ownerId →
    laterRequest.ownerGeneration = request.ownerGeneration →
    request.operationSequence < laterRequest.operationSequence

end Definitions

section Sessions

variable {before after state : HostGPUKmtState} {call : Call}

/-- A handled request touches no session but its own, and keeps or closes that one. -/
structure CallSessions (before : HostGPUKmtState) (call : Call) (after : HostGPUKmtState) :
    Prop where
  others : ∀ slot, slot ≠ call.slot → after.sessions slot = before.sessions slot
  own : (∃ session, after.sessions call.slot = some session ∧ call.session.Continues session ∧
      session.lastSequence = call.session.lastSequence) ∨
    ((call.request.operation = .closeKfd ∨ call.request.operation = .openKfd) ∧
      after.sessions call.slot = none)

theorem CallSessions.of_same (present : before.sessions call.slot = some call.session)
    (same : after.sessions = before.sessions) : CallSessions before call after where
  others := fun slot _ => congrFun same slot
  own := Or.inl ⟨call.session, same ▸ present, .refl _, rfl⟩

theorem effect_sessions {issued : Option (GenerationKind × UInt64)}
    (present : before.sessions call.slot = some call.session)
    (effect : Effect before call after issued) : CallSessions before call after := by
  cases effect with
  | unchanged | sampled | freed | rewritten | queueDestroyed | queueRung
  | eventDestroyed | eventUpdated | allocated | queueCreated | eventCreated =>
    exact .of_same present rfl
  | advanced kind => exact .of_same present (sameObjects_withNext before kind _).sessions
  | closed closes =>
    exact
      { others := fun slot other => SlotTable.drop_other _ other
        own := Or.inr ⟨closes, SlotTable.drop_same _ _⟩ }
  | configured continues sequence =>
    exact
      { others := fun slot other => SlotTable.put_other _ _ other
        own := Or.inl ⟨_, SlotTable.put_same _ _ _, continues, sequence⟩ }

theorem SessionsSound.lastSequenceOf (sound : SessionsSound state) {slot : Fin MaximumOwners}
    {session : Session} (present : state.sessions slot = some session) :
    lastSequenceOf state session.transportOwner = some session.lastSequence := by
  rw [GemSim.Kmt.lastSequenceOf, sound.findSession present, Option.map_some]

/-- Transport owners with the same sessions have the same last sequence number. -/
theorem lastSequenceOf_congr {transportOwner : Owner}
    (same : ∀ slot, (after.sessions slot).filter (fun session =>
        session.transportOwner == transportOwner) =
      (before.sessions slot).filter fun session => session.transportOwner == transportOwner) :
    lastSequenceOf after transportOwner = lastSequenceOf before transportOwner := by
  rw [lastSequenceOf, lastSequenceOf, findSession, findSession, SlotTable.findSlot_congr same]

/-- Sessions that differ in one slot, in a session of one transport owner, look alike to
every other. -/
theorem lastSequenceOf_other {slot : Fin MaximumOwners} {transportOwner other : Owner}
    (elsewhere : ∀ index, index ≠ slot → after.sessions index = before.sessions index)
    (wasOwned : ∀ session, before.sessions slot = some session →
      session.transportOwner = transportOwner)
    (isOwned : ∀ session, after.sessions slot = some session →
      session.transportOwner = transportOwner)
    (differs : other ≠ transportOwner) : lastSequenceOf after other = lastSequenceOf before other := by
  have hidden : ∀ entry : Option Session,
      (∀ session, entry = some session → session.transportOwner = transportOwner) →
      entry.filter (fun session => session.transportOwner == other) = none := by
    intro entry owned
    rw [Option.filter_eq_none_iff]
    intro session present
    rw [owned session present, Bool.not_eq_true, beq_eq_false_iff_ne]
    exact differs.symm
  refine lastSequenceOf_congr fun index => ?_
  by_cases here : index = slot
  · rw [here, hidden _ wasOwned, hidden _ isOwned]
  · rw [elsewhere index here]

/-- A request names the session it is resolved to. -/
theorem handledCall_names {env : Env} {transportOwner : Owner} {header : Header}
    {request : KmtRequest}
    (handled : handledCall state env transportOwner header request = some call) :
    call.session.ownerId = request.ownerId ∧
      call.session.ownerGeneration = request.ownerGeneration := by
  obtain ⟨slot, session, -, found, -, -, rfl⟩ := handledCall_eq_some.mp handled
  exact (findSessionAs_spec found).2.2

/-- A request that reaches its handler is run by it. -/
theorem submit_of_handled {env : Env} {transportOwner : Owner} {header : Header}
    {request : KmtRequest}
    (handled : handledCall state env transportOwner header request = some call) :
    submit state env transportOwner header request =
      handle (state.withSession call.slot call.session) call := by
  obtain ⟨slot, session, operation, found, epoch, sequence, rfl⟩ := handledCall_eq_some.mp handled
  have later : ¬ request.operationSequence ≤ session.lastSequence := UInt64.not_le.mpr sequence.1
  simp only [submit, operation, if_false, found, epoch.1, epoch.2.symm, ne_eq, not_true_eq_false,
    or_self, later, sequence.2]
  rfl

end Sessions

section Law

variable {before : HostGPUKmtState} {env : Env} {transportOwner : Owner} {header : Header}
  {request : KmtRequest} {call : Call}

/-- A handled request moves its session to its sequence number, or closes it; no other
transport owner notices. -/
theorem handled_sequences (sound : SessionsSound before)
    (handled : handledCall before env transportOwner header request = some call) :
    (∃ last, lastSequenceOf before transportOwner = some last ∧
      last < request.operationSequence) ∧
    (lastSequenceOf (submit before env transportOwner header request).state transportOwner =
        some request.operationSequence ∨
      request.operation = .closeKfd ∧
        lastSequenceOf (submit before env transportOwner header request).state transportOwner =
          none) ∧
    ∀ other, other ≠ transportOwner →
      lastSequenceOf (submit before env transportOwner header request).state other =
        lastSequenceOf before other := by
  have soundAfter : SessionsSound (submit before env transportOwner header request).state :=
    sessionsSound_step sound (.submit env transportOwner header request)
  rw [submit_of_handled handled] at soundAfter ⊢
  obtain ⟨slot, session, operation, found, -, sequence, rfl⟩ := handledCall_eq_some.mp handled
  obtain ⟨present, transport, -, -⟩ := findSessionAs_spec found
  set call := resolvedCall env header request slot session
  have placed : (before.withSession slot call.session).sessions call.slot = some call.session :=
    SlotTable.put_same _ _ _
  have effect := effect_sessions placed (handle_spec _ call).effect
  set after := (handle (before.withSession slot call.session) call).state
  have elsewhere : ∀ index, index ≠ slot → after.sessions index = before.sessions index :=
    fun index other => (effect.others index other).trans (SlotTable.put_other _ _ other)
  have isOwned : ∀ found, after.sessions slot = some found →
      found.transportOwner = transportOwner := by
    intro found there
    rcases effect.own with ⟨kept, stays, continues, -⟩ | ⟨-, gone⟩
    · obtain rfl := Option.some.inj (stays.symm.trans there)
      exact continues.transportOwner.trans transport
    · exact absurd (gone.symm.trans there) (by simp)
  refine ⟨⟨session.lastSequence, transport ▸ sound.lastSequenceOf present, sequence.1⟩, ?_,
    fun other differs => lastSequenceOf_other elsewhere
      (fun found there => Option.some.inj (present.symm.trans there) ▸ transport) isOwned differs⟩
  rcases effect.own with ⟨kept, stays, continues, same⟩ | ⟨closes, gone⟩
  · left
    have last := soundAfter.lastSequenceOf stays
    rw [continues.transportOwner, same] at last
    exact transport ▸ last
  · right
    refine ⟨closes.resolve_right operation, ?_⟩
    rw [lastSequenceOf, Option.map_eq_none_iff, findSession_eq_none]
    intro index other there
    by_cases here : index = slot
    · exact absurd (gone.symm.trans (here ▸ there)) (by simp)
    · replace there : before.sessions index = some other := (elsewhere index here).symm.trans there
      intro same
      exact here (sound.transports index slot other session there present
        (same.trans transport.symm))

/-- The requests a handler refuses without reporting their sequence number. -/
def HandledMisshapenClock (before : HostGPUKmtState) (env : Env) (transportOwner : Owner)
    (header : Header) (request : KmtRequest) : Prop :=
  (handledCall before env transportOwner header request).isSome = true ∧
    misshapenClock request = true

theorem submitLaw_of_handled (sound : SessionsSound before)
    (handled : handledCall before env transportOwner header request = some call) :
    SubmitLaw before transportOwner request
        (submit before env transportOwner header request) ↔
      misshapenClock request = false := by
  obtain ⟨⟨last, was, lower⟩, now, others⟩ := handled_sequences sound handled
  have same : call.request = request := by
    obtain ⟨-, -, -, -, -, -, rfl⟩ := handledCall_eq_some.mp handled
    rfl
  have spec := handle_spec (before.withSession call.slot call.session) call
  rw [← submit_of_handled handled] at spec
  have changed : lastSequenceOf (submit before env transportOwner header request).state
      transportOwner ≠ lastSequenceOf before transportOwner := by
    rw [was]
    rcases now with moved | ⟨-, closed⟩
    · rw [moved]
      exact fun equal => UInt64.ne_of_lt lower (Option.some.inj equal).symm
    · rw [closed]
      exact (Option.some_ne_none last).symm
  constructor
  · intro law
    have consumed := law.changes.mp changed
    rw [spec.consumed, same] at consumed
    simpa using consumed
  · intro shaped
    have consumed : (submit before env transportOwner header request).decision.sequenceConsumed =
        true := by rw [spec.consumed, same, shaped]; rfl
    exact
      { atomic := fun rejected =>
          { spec.atomic rejected with sessions := rfl }
        changes := iff_of_true changed consumed
        taken := fun _ => now
        others := others }

/-- A submission that reaches no handler obeys the law. -/
theorem submitLaw_of_unhandled (sound : SessionsSound before)
    (unhandled : handledCall before env transportOwner header request = none) :
    SubmitLaw before transportOwner request
      (submit before env transportOwner header request) := by
  have soundAfter : SessionsSound (submit before env transportOwner header request).state :=
    sessionsSound_step sound (.submit env transportOwner header request)
  have ends : SubmitCases before env transportOwner header request
      (submit before env transportOwner header request) := submit_cases
  generalize submit before env transportOwner header request = out at ends soundAfter
  cases ends with
  | rejected failed unconsumed =>
    exact
      { atomic := fun _ => .refl before
        changes := iff_of_false (fun differs => differs rfl) (by simp [unconsumed])
        taken := fun consumed => absurd consumed (by simp [unconsumed])
        others := fun _ _ => rfl }
  | @reopened slot existing _ found first later =>
    -- a live session took at least the number of its own open, so an open never comes later
    have taken := sound.sequences slot existing (findSession_spec found).1
    rw [first, UInt64.lt_iff_toNat_lt] at later
    exact absurd taken (Nat.not_le.mpr later)
  | lostOwner failed unconsumed =>
    exact
      { atomic := fun _ => sameObjects_withNext before .owner _
        changes := iff_of_false (fun differs => differs rfl) (by simp [unconsumed])
        taken := fun consumed => absurd consumed (by simp [unconsumed])
        others := fun _ _ => rfl }
  | @opened slot decision fresh free first taken accepted consumed =>
    have now := soundAfter.lastSequenceOf (SlotTable.put_same _ slot _)
    have was : lastSequenceOf before transportOwner = none := by
      rw [lastSequenceOf, fresh, Option.map_none]
    refine
      { atomic := fun rejected => absurd accepted rejected
        changes := iff_of_true (fun same => ?_) consumed
        taken := fun _ => Or.inl (now.trans (by rw [first]; rfl))
        others := fun other differs => lastSequenceOf_other
          (fun index (elsewhere : index ≠ slot) => SlotTable.put_other _ _ elsewhere)
          (fun session there => ?_) (fun session there => ?_) differs }
    · rw [was] at same
      exact absurd (now.symm.trans same) (by simp)
    · exact absurd ((SlotTable.firstFree_spec free).symm.trans there) (by simp)
    · obtain rfl := Option.some.inj ((SlotTable.put_same _ _ _).symm.trans there)
      rfl
  | handled handled => rw [unhandled] at handled; cases handled

/-- The law of a submission fails exactly at a misshapen clock request that reaches its
handler. -/
theorem submitLaw_iff (sound : SessionsSound before) :
    SubmitLaw before transportOwner request
        (submit before env transportOwner header request) ↔
      ¬ HandledMisshapenClock before env transportOwner header request := by
  unfold HandledMisshapenClock
  cases handled : handledCall before env transportOwner header request with
  | none => simpa using submitLaw_of_unhandled sound handled
  | some call => simpa using submitLaw_of_handled sound handled

end Law

section Replay

variable {start state : HostGPUKmtState}

/-- The sessions of a state continue those of an earlier one, or carry a generation taken
since. -/
structure SessionsFrom (start state : HostGPUKmtState) : Prop where
  next : start.nextOwnerGeneration.toNat ≤ state.nextOwnerGeneration.toNat
  origin : ∀ slot session, state.sessions slot = some session →
    start.nextOwnerGeneration.toNat ≤ session.ownerGeneration.toNat ∨
      ∃ old, start.sessions slot = some old ∧ old.Continues session

theorem SessionsFrom.refl (state : HostGPUKmtState) : SessionsFrom state state :=
  ⟨le_rfl, fun _ session present => Or.inr ⟨session, present, .refl session⟩⟩

theorem SessionsFrom.same (origin : SessionsFrom start state) {after : HostGPUKmtState}
    (next : state.nextOwnerGeneration.toNat ≤ after.nextOwnerGeneration.toNat)
    (sessions : after.sessions = state.sessions) : SessionsFrom start after :=
  ⟨origin.next.trans next, sessions ▸ origin.origin⟩

theorem SessionsFrom.withSession (origin : SessionsFrom start state) {slot : Fin MaximumOwners}
    {old session : Session} (present : state.sessions slot = some old)
    (continues : old.Continues session) :
    SessionsFrom start (state.withSession slot session) := by
  refine ⟨origin.next, fun other found live => ?_⟩
  rcases SlotTable.put_eq_some.mp live with ⟨rfl, rfl⟩ | ⟨-, untouched⟩
  · rw [continues.ownerGeneration]
    rcases origin.origin _ old present with fresh | ⟨first, there, from_first⟩
    · exact Or.inl fresh
    · exact Or.inr ⟨first, there, from_first.trans continues⟩
  · exact origin.origin other found untouched

theorem SessionsFrom.drop (origin : SessionsFrom start state) {after : HostGPUKmtState}
    (next : after.nextOwnerGeneration = state.nextOwnerGeneration)
    (fewer : ∀ slot session, after.sessions slot = some session →
      state.sessions slot = some session) : SessionsFrom start after :=
  ⟨next ▸ origin.next, fun slot session live => origin.origin slot session (fewer slot session live)⟩

theorem SessionsFrom.effect (origin : SessionsFrom start state) {call : Call}
    {after : HostGPUKmtState} {issued : Option (GenerationKind × UInt64)}
    (present : state.sessions call.slot = some call.session)
    (effect : Effect state call after issued) : SessionsFrom start after := by
  have next := (effect_progress present effect).counters .owner
  cases effect with
  | unchanged | sampled | freed | rewritten | queueDestroyed | queueRung
  | eventDestroyed | eventUpdated | allocated | queueCreated | eventCreated =>
    exact origin.same next rfl
  | advanced kind => exact origin.same next (sameObjects_withNext state kind _).sessions
  | closed =>
    exact origin.drop rfl fun slot session live => (SlotTable.drop_eq_some.mp live).2
  | configured continues => exact origin.withSession present continues

theorem sessionsFrom_preserved (start : HostGPUKmtState) :
    Preserved (fun _ _ => True) (SessionsFrom start) where
  quiet := fun _ => trivial
  sampled := fun _ origin => origin.same le_rfl rfl
  touched := fun present le origin => origin.withSession present (touched_continues le)
  lostOwner := fun {state} jobEpoch origin =>
    origin.same ((progress_take state .owner jobEpoch).counters .owner) rfl
  opened := fun {state transportOwner slot jobEpoch} _ _ taken origin => by
    have progress := progress_take state .owner jobEpoch
    refine ⟨origin.next.trans (progress.counters .owner), fun other session live => ?_⟩
    rcases SlotTable.put_eq_some.mp live with ⟨rfl, rfl⟩ | ⟨-, untouched⟩
    · have range := progress.range .owner _ (issuedAs_of_ne taken)
      exact Or.inl (origin.next.trans range.1)
    · exact origin.origin other session untouched
  effect := fun present _ origin effect => origin.effect present effect
  written := fun _ _ origin => origin.same le_rfl rfl

theorem sessionsFrom_step (state : HostGPUKmtState) (op : Op) :
    SessionsFrom state (step state op) := by
  refine (sessionsFrom_preserved state).step (fun same origin => ?_) (fun origin => ?_)
    (.refl state) ?_
  · rw [same.rest]
    exact origin.same le_rfl rfl
  · exact origin.drop rfl fun _ _ found => by cases found
  · cases op <;> first | trivial | exact fun _ _ => trivial

/-- A bound below the sequence numbers a session can still take: one above its last
number while it is open, and out of reach once it is closed. -/
def sequenceFloor (ownerId ownerGeneration : UInt64) (state : HostGPUKmtState) : ℕ :=
  if state.nextOwnerGeneration.toNat ≤ ownerGeneration.toNat then 0
  else
    match state.sessions.findSlot fun session =>
        session.ownerId == ownerId && session.ownerGeneration == ownerGeneration with
    | some (_, session) => session.lastSequence.toNat + 1
    | none => 2 ^ 64

/-- The invariants under which owner id and generation name one session. -/
structure SessionsNamed (state : HostGPUKmtState) : Prop where
  sound : SessionsSound state
  bounded : Bounded state

theorem SessionsNamed.stepped (named : SessionsNamed state) (op : Op) :
    SessionsNamed (step state op) :=
  ⟨sessionsSound_step named.sound op, bounded_step named.bounded op⟩

theorem sessionsNamed_construct {epoch ticksPerNanosecond : UInt64}
    (constructed : construct epoch ticksPerNanosecond = some start) : SessionsNamed start :=
  ⟨sessionsSound_construct constructed, bounded_construct constructed⟩

theorem SessionsNamed.floor_open (named : SessionsNamed state) {slot : Fin MaximumOwners}
    {session : Session} (present : state.sessions slot = some session) :
    sequenceFloor session.ownerId session.ownerGeneration state =
      session.lastSequence.toNat + 1 := by
  have issued : ¬ state.nextOwnerGeneration.toNat ≤ session.ownerGeneration.toNat :=
    Nat.not_le.mpr (named.bounded _ (.session present))
  have alone : state.sessions.findSlot (fun other => other.ownerId == session.ownerId &&
      other.ownerGeneration == session.ownerGeneration) = some (slot, session) :=
    SlotTable.findSlot_unique present (by simp)
    fun other found live accepted => by
      simp only [Bool.and_eq_true, beq_iff_eq] at accepted
      exact named.sound.slot_unique live present accepted.1
  rw [sequenceFloor, if_neg issued, alone]

/-- A floor is zero before the generation is taken, one above the last number of an open
session, and `2 ^ 64` otherwise. -/
theorem sequenceFloor_cases (ownerId ownerGeneration : UInt64) (state : HostGPUKmtState) :
    (state.nextOwnerGeneration.toNat ≤ ownerGeneration.toNat ∧
      sequenceFloor ownerId ownerGeneration state = 0) ∨
    (∃ slot session, state.sessions slot = some session ∧ session.ownerId = ownerId ∧
      session.ownerGeneration = ownerGeneration ∧
      sequenceFloor ownerId ownerGeneration state = session.lastSequence.toNat + 1) ∨
    sequenceFloor ownerId ownerGeneration state = 2 ^ 64 := by
  unfold sequenceFloor
  split
  · rename_i unissued
    exact Or.inl ⟨unissued, rfl⟩
  · split
    · rename_i slot session found
      obtain ⟨present, accepted⟩ := SlotTable.findSlot_spec found
      simp only [Bool.and_eq_true, beq_iff_eq] at accepted
      exact Or.inr (Or.inl ⟨slot, session, present, accepted.1, accepted.2, rfl⟩)
    · exact Or.inr (Or.inr rfl)

theorem sequenceFloor_le (ownerId ownerGeneration : UInt64) (state : HostGPUKmtState) :
    sequenceFloor ownerId ownerGeneration state ≤ 2 ^ 64 := by
  rcases sequenceFloor_cases ownerId ownerGeneration state with
    ⟨-, zero⟩ | ⟨-, session, -, -, -, last⟩ | closed
  · omega
  · have small := session.lastSequence.toNat_lt
    omega
  · omega

theorem SessionsNamed.floor_mono (named : SessionsNamed state) (op : Op)
    (ownerId ownerGeneration : UInt64) :
    sequenceFloor ownerId ownerGeneration state ≤
      sequenceFloor ownerId ownerGeneration (step state op) := by
  have origin := sessionsFrom_step state op
  rcases sequenceFloor_cases ownerId ownerGeneration (step state op) with
    ⟨unissued, -⟩ | ⟨slot, session, present, rfl, rfl, last⟩ | closed
  · have zero : sequenceFloor ownerId ownerGeneration state = 0 :=
      if_pos (origin.next.trans unissued)
    omega
  · rcases origin.origin slot session present with fresh | ⟨old, there, continues⟩
    · have zero : sequenceFloor session.ownerId session.ownerGeneration state = 0 := if_pos fresh
      omega
    · have before := named.floor_open there
      rw [← continues.ownerId, ← continues.ownerGeneration] at before
      have le := UInt64.le_iff_toNat_le.mp continues.lastSequence
      omega
  · have le := sequenceFloor_le ownerId ownerGeneration state
    omega

/-- The floor of a session that is gone is out of reach. -/
theorem sequenceFloor_closed {ownerId ownerGeneration : UInt64}
    (issued : ownerGeneration.toNat < state.nextOwnerGeneration.toNat)
    (absent : ∀ slot session, state.sessions slot = some session → session.ownerId ≠ ownerId) :
    sequenceFloor ownerId ownerGeneration state = 2 ^ 64 := by
  rcases sequenceFloor_cases ownerId ownerGeneration state with
    ⟨unissued, -⟩ | ⟨slot, session, present, same, -, -⟩ | closed
  · exact absurd issued (Nat.not_lt.mpr unissued)
  · exact absurd same (absent slot session present)
  · exact closed

theorem SessionsNamed.floor_handled (named : SessionsNamed state) {env : Env}
    {transportOwner : Owner} {header : Header} {request : KmtRequest} {call : Call}
    (handled : handledCall state env transportOwner header request = some call) :
    sequenceFloor call.session.ownerId call.session.ownerGeneration state ≤
        request.operationSequence.toNat ∧
      request.operationSequence.toNat <
        sequenceFloor call.session.ownerId call.session.ownerGeneration
          (step state (.submit env transportOwner header request)) := by
  have namedAfter := named.stepped (.submit env transportOwner header request)
  have origin := sessionsFrom_step state (.submit env transportOwner header request)
  have after : step state (.submit env transportOwner header request) =
      (handle (state.withSession call.slot call.session) call).state :=
    congrArg Submitted.state (submit_of_handled handled)
  rw [after] at namedAfter origin ⊢
  obtain ⟨slot, session, -, found, -, sequence, rfl⟩ := handledCall_eq_some.mp handled
  obtain ⟨present, -⟩ := findSessionAs_spec found
  set call := resolvedCall env header request slot session
  have lower : session.lastSequence.toNat < request.operationSequence.toNat :=
    UInt64.lt_iff_toNat_lt.mp sequence.1
  constructor
  · have floor : sequenceFloor call.session.ownerId call.session.ownerGeneration state =
        session.lastSequence.toNat + 1 := named.floor_open present
    omega
  · have placed : (state.withSession slot call.session).sessions call.slot = some call.session :=
      SlotTable.put_same _ _ _
    have spec := (handle_spec (state.withSession slot call.session) call).effect
    rcases (effect_sessions placed spec).own with ⟨kept, stays, continues, same⟩ | ⟨-, gone⟩
    · have floor := namedAfter.floor_open stays
      rw [continues.ownerId, continues.ownerGeneration, same] at floor
      rw [floor]
      exact Nat.lt_succ_self _
    · have issued : call.session.ownerGeneration.toNat < state.nextOwnerGeneration.toNat :=
        named.bounded _ (.session present)
      rw [sequenceFloor_closed (issued.trans_le origin.next)]
      · exact request.operationSequence.toNat_lt
      · intro index other live same
        have here : index = slot := ownerId_inj
          ((namedAfter.sound.ids index other live).symm.trans
            (same.trans (named.sound.ids slot session present)))
        exact absurd (gone.symm.trans (here ▸ live)) (by simp)

/-- The number an open takes lies above the floor of the session it creates. -/
theorem SessionsNamed.floor_unhandled (named : SessionsNamed state) {env : Env}
    {transportOwner : Owner} {header : Header} {request : KmtRequest}
    {slot : Fin MaximumOwners} {session : Session}
    (unhandled : handledCall state env transportOwner header request = none)
    (consumed : (submit state env transportOwner header request).decision.sequenceConsumed = true)
    (found : (submit state env transportOwner header request).state.findSession transportOwner =
      some (slot, session)) :
    sequenceFloor session.ownerId session.ownerGeneration state ≤
        request.operationSequence.toNat ∧
      request.operationSequence.toNat <
        sequenceFloor session.ownerId session.ownerGeneration
          (step state (.submit env transportOwner header request)) := by
  have law := submitLaw_of_unhandled named.sound unhandled
  obtain ⟨present, rfl⟩ := findSession_spec found
  have last : session.lastSequence = request.operationSequence := by
    rcases law.taken consumed with taken | ⟨-, closed⟩
    · rw [lastSequenceOf, found, Option.map_some] at taken
      exact Option.some.inj taken
    · rw [lastSequenceOf, found] at closed
      cases closed
  constructor
  · rcases (sessionsFrom_step state (.submit env session.transportOwner header request)).origin
      slot session present with fresh | ⟨old, there, continues⟩
    · rw [sequenceFloor, if_pos fresh]
      exact Nat.zero_le _
    · have moved := law.changes.mpr consumed
      have floor := named.floor_open there
      have was := named.sound.lastSequenceOf there
      rw [← continues.transportOwner] at was
      rw [was, lastSequenceOf, found, Option.map_some, last] at moved
      rw [← continues.ownerId, ← continues.ownerGeneration] at floor
      have le := UInt64.le_iff_toNat_le.mp continues.lastSequence
      have ne : old.lastSequence.toNat ≠ request.operationSequence.toNat :=
        fun same => moved (congrArg some (UInt64.toNat_inj.mp same).symm)
      rw [last] at le
      omega
  · have floor := (named.stepped (.submit env session.transportOwner header request)).floor_open
      present
    rw [floor, last]
    exact Nat.lt_succ_self _

theorem mem_acceptedSequences {ownerId ownerGeneration : UInt64} {env : Env}
    {transportOwner : Owner} {header : Header} {request : KmtRequest} {value : ℕ} :
    value ∈ acceptedSequences ownerId ownerGeneration state
        (.submit env transportOwner header request) ↔
      ∃ session, acceptingSession state env transportOwner header request = some session ∧
        session.ownerId = ownerId ∧ session.ownerGeneration = ownerGeneration ∧
        request.operationSequence.toNat = value := by
  rw [acceptedSequences]
  cases acceptingSession state env transportOwner header request with
  | none => simp
  | some session =>
    by_cases names : session.ownerId = ownerId ∧ session.ownerGeneration = ownerGeneration
    · simp [names, eq_comm]
    · simp only [names, if_false, List.not_mem_nil, Option.some.injEq, false_iff]
      rintro ⟨other, rfl, sameId, sameGeneration, -⟩
      exact names ⟨sameId, sameGeneration⟩

/-- The number a step takes for a session lies between the floors before and after it. -/
theorem SessionsNamed.accepted_within (named : SessionsNamed state)
    {ownerId ownerGeneration : UInt64} {op : Op} {value : ℕ}
    (accepted : value ∈ acceptedSequences ownerId ownerGeneration state op) :
    sequenceFloor ownerId ownerGeneration state ≤ value ∧
      value < sequenceFloor ownerId ownerGeneration (step state op) := by
  cases op with
  | submit env transportOwner header request =>
    obtain ⟨session, accepting, rfl, rfl, rfl⟩ := mem_acceptedSequences.mp accepted
    unfold acceptingSession at accepting
    split at accepting
    · rename_i call handled
      obtain rfl := Option.some.inj accepting
      exact named.floor_handled handled
    · rename_i unhandled
      dsimp only at accepting
      split at accepting
      · rename_i consumed
        obtain ⟨⟨slot, created⟩, found, rfl⟩ := Option.map_eq_some_iff.mp accepting
        exact named.floor_unhandled unhandled consumed found
      · cases accepting
  | _ => cases accepted

theorem acceptedSequences_sorted (ownerId ownerGeneration : UInt64) (state : HostGPUKmtState)
    (op : Op) : (acceptedSequences ownerId ownerGeneration state op).Pairwise (· < ·) := by
  cases op with
  | submit env transportOwner header request =>
    rw [acceptedSequences]
    cases acceptingSession state env transportOwner header request with
    | none => exact List.Pairwise.nil
    | some session =>
      dsimp only
      split
      · exact List.pairwise_singleton _ _
      · exact List.Pairwise.nil
  | _ => exact List.Pairwise.nil

/-- Every run from a state whose sessions are named is safe against replay. -/
theorem SessionsNamed.replaySafe (named : SessionsNamed start) : ReplaySafe start := by
  have everywhere (ops : List Op) : SessionsNamed (runFrom step start ops) :=
    invariant_runFrom step SessionsNamed (fun _ op known => known.stepped op)
      named ops
  refine ⟨fun ownerId ownerGeneration ops => ?_, ?_⟩
  · exact (outputs_strictlyIncreasing step (sequenceFloor ownerId ownerGeneration) SessionsNamed
      (fun _ op known => known.stepped op)
      (fun _ _ known _ accepted => known.accepted_within accepted)
      (acceptedSequences_sorted ownerId ownerGeneration)
      (fun _ op known => known.floor_mono op ownerId ownerGeneration) named ops).1
  · intro ops env transportOwner header request call more laterEnv laterOwner laterHeader
      laterRequest laterCall handled again sameId sameGeneration
    rw [runFrom_append, runFrom_cons] at again
    have sooner := ((everywhere ops).floor_handled handled).2
    have after := (everywhere ops).stepped (.submit env transportOwner header request)
    have later := ((invariant_runFrom step SessionsNamed
      (fun _ op known => known.stepped op) after more).floor_handled again).1
    have between := runFrom_mono step
      (sequenceFloor call.session.ownerId call.session.ownerGeneration) SessionsNamed
      (fun _ op known => known.stepped op) (fun _ op known => known.floor_mono op _ _) after more
    have names := handledCall_names handled
    have laterNames := handledCall_names again
    rw [laterNames.1, laterNames.2, sameId, sameGeneration, ← names.1, ← names.2] at later
    exact UInt64.lt_iff_toNat_lt.mpr (sooner.trans_le (between.trans later))

/-- Every run of a constructed state obeys the law of submissions, with the misshapen clock
request as its only exception, and is safe against replay. -/
theorem atomicSubmissions_of_construct {epoch ticksPerNanosecond : UInt64}
    (constructed : construct epoch ticksPerNanosecond = some start) :
    (∀ ops env transportOwner header request,
      SubmitLaw (runFrom step start ops) transportOwner request
          (submit (runFrom step start ops) env transportOwner header request) ↔
        ¬ HandledMisshapenClock (runFrom step start ops) env transportOwner header
          request) ∧
    ReplaySafe start := by
  have named := sessionsNamed_construct constructed
  refine ⟨fun ops env transportOwner header request => ?_, named.replaySafe⟩
  exact submitLaw_iff (invariant_runFrom step SessionsSound
    (fun _ op sound => sessionsSound_step sound op) named.sound ops)

/-- The law and replay safety of the boot state. -/
theorem atomicSubmissions_bootState :
    (∀ ops env transportOwner header request,
      SubmitLaw (runFrom step bootState ops) transportOwner request
          (submit (runFrom step bootState ops) env transportOwner header request) ↔
        ¬ HandledMisshapenClock (runFrom step bootState ops) env transportOwner header
          request) ∧
    ReplaySafe bootState :=
  atomicSubmissions_of_construct construct_bootState

/-- A clock request for a GPU that is not there. -/
def strayClockRequest : KmtRequest := clientRequest .getClockCounters 2 zeroWords

/-- After the open, a clock request for a stray GPU id moves the session to its sequence
number and reports it as not consumed. -/
theorem submitLaw_fails_at_strayClock :
    ¬ ∀ (state : HostGPUKmtState), KmtReachable state →
      ∀ (env : Env) (transportOwner : Owner) (header : Header) (request : KmtRequest),
        SubmitLaw state transportOwner request
          (submit state env transportOwner header request) := by
  intro always
  have law := always _ (reachable_boot [clientSubmit openRequest]) {} clientOwner clientHeader
    strayClockRequest
  have unconsumed : (submit (runFrom step bootState [clientSubmit openRequest]) {}
      clientOwner clientHeader strayClockRequest).decision.sequenceConsumed = false := by
    decide +kernel
  have moved : lastSequenceOf (submit
      (runFrom step bootState [clientSubmit openRequest]) {} clientOwner clientHeader
        strayClockRequest).state clientOwner ≠
      lastSequenceOf (runFrom step bootState [clientSubmit openRequest])
        clientOwner := by
    decide +kernel
  exact absurd ((law.changes.mp moved).symm.trans unconsumed) (by decide)

end Replay

end GemSim.Kmt
