import GemSim.Kmt.Preserve

/-!
# Sound session tables

A transport owner has at most one session, and the owner id of a session names its
slot. Lookups by transport owner therefore find the session whenever it is there.

## Main definitions

* `SessionsSound` — owner ids, transport owners and sequence numbers of the sessions

## Main results

* `sessionsSound_of_reachable`
* `SessionsSound.findSession`, `SessionsSound.findSessionAs` — lookups are complete
* `SessionsSound.slot_unique` — an owner id belongs to one slot
-/

namespace GemSim.Kmt

open GemSim.Lib HostGPUKmtState

structure SessionsSound (state : HostGPUKmtState) : Prop where
  ids : ∀ slot session, state.sessions slot = some session →
    session.ownerId = makeId OwnerPrefix slot
  transports : ∀ first second x y, state.sessions first = some x →
    state.sessions second = some y → x.transportOwner = y.transportOwner → first = second
  sequences : ∀ slot session, state.sessions slot = some session →
    1 ≤ session.lastSequence.toNat

/-- Owner ids name slots. -/
theorem ownerId_inj {first second : Fin MaximumOwners}
    (same : makeId OwnerPrefix first = makeId OwnerPrefix second) : first = second := by
  have firstSmall : first.val < 64 := first.isLt
  have secondSmall : second.val < 64 := second.isLt
  exact Fin.ext ((makeId_inj (by decide) (by omega) (by omega)).mp same)

namespace SessionsSound

variable {state : HostGPUKmtState}

theorem slot_unique (sound : SessionsSound state) {first second : Fin MaximumOwners}
    {x y : Session} (foundX : state.sessions first = some x)
    (foundY : state.sessions second = some y) (same : x.ownerId = y.ownerId) :
    first = second := by
  rw [sound.ids first x foundX, sound.ids second y foundY] at same
  exact ownerId_inj same

/-- The session of a transport owner is found when it is there. -/
theorem findSession (sound : SessionsSound state) {slot : Fin MaximumOwners} {session : Session}
    (present : state.sessions slot = some session) :
    state.findSession session.transportOwner = some (slot, session) :=
  SlotTable.findSlot_unique present (beq_self_eq_true _) fun other found live accepted =>
    sound.transports other slot found session live present (beq_iff_eq.mp accepted)

theorem findSessionAs (sound : SessionsSound state) {slot : Fin MaximumOwners}
    {session : Session} (present : state.sessions slot = some session) :
    state.findSessionAs session.transportOwner session.ownerId session.ownerGeneration =
      some (slot, session) := by
  rw [HostGPUKmtState.findSessionAs, sound.findSession present]
  simp

/-- Replacing a session by one that continues it keeps the table sound. -/
theorem withSession (sound : SessionsSound state) {slot : Fin MaximumOwners}
    {old session : Session} (present : state.sessions slot = some old)
    (continues : old.Continues session) : SessionsSound (state.withSession slot session) := by
  have origin : ∀ other found, (state.withSession slot session).sessions other = some found →
      ∃ before, state.sessions other = some before ∧ before.Continues found := by
    intro other found live
    rcases SlotTable.put_eq_some.mp live with ⟨rfl, rfl⟩ | ⟨-, untouched⟩
    · exact ⟨old, present, continues⟩
    · exact ⟨found, untouched, touched_continues (UInt64.le_refl _)⟩
  refine ⟨fun other found live => ?_, fun first second x y foundX foundY same => ?_,
    fun other found live => ?_⟩
  · obtain ⟨before, there, continued⟩ := origin other found live
    rw [continued.ownerId]
    exact sound.ids other before there
  · obtain ⟨beforeX, thereX, continuedX⟩ := origin first x foundX
    obtain ⟨beforeY, thereY, continuedY⟩ := origin second y foundY
    rw [continuedX.transportOwner, continuedY.transportOwner] at same
    exact sound.transports first second beforeX beforeY thereX thereY same
  · obtain ⟨before, there, continued⟩ := origin other found live
    exact (sound.sequences other before there).trans
      (UInt64.le_iff_toNat_le.mp continued.lastSequence)

theorem same (sound : SessionsSound state) {after : HostGPUKmtState}
    (sessions : after.sessions = state.sessions) : SessionsSound after :=
  ⟨sessions ▸ sound.ids, sessions ▸ sound.transports, sessions ▸ sound.sequences⟩

theorem of_empty (sessions : state.sessions = SlotTable.empty) : SessionsSound state := by
  have absent : ∀ slot session, state.sessions slot ≠ some session := by
    intro slot session found
    rw [sessions] at found
    cases found
  exact ⟨fun slot session found => absurd found (absent slot session),
    fun first _ x _ found => absurd found (absent first x),
    fun slot session found => absurd found (absent slot session)⟩

theorem addSession (sound : SessionsSound state) {transportOwner : Owner}
    {slot : Fin MaximumOwners} (generation jobEpoch : UInt64)
    (fresh : state.findSession transportOwner = none) :
    SessionsSound (state.addSession slot
      (openedSession transportOwner slot generation jobEpoch)) := by
  have absent := findSession_eq_none.mp fresh
  refine ⟨fun other found live => ?_, fun first second x y foundX foundY same => ?_,
    fun other found live => ?_⟩
  · rcases SlotTable.put_eq_some.mp live with ⟨rfl, rfl⟩ | ⟨-, old⟩
    · rfl
    · exact sound.ids other found old
  · rcases SlotTable.put_eq_some.mp foundX with ⟨rfl, rfl⟩ | ⟨-, oldX⟩
    · rcases SlotTable.put_eq_some.mp foundY with ⟨rfl, -⟩ | ⟨-, oldY⟩
      · rfl
      · exact absurd same.symm (absent second y oldY)
    · rcases SlotTable.put_eq_some.mp foundY with ⟨rfl, rfl⟩ | ⟨-, oldY⟩
      · exact absurd same (absent first x oldX)
      · exact sound.transports first second x y oldX oldY same
  · rcases SlotTable.put_eq_some.mp live with ⟨rfl, rfl⟩ | ⟨-, old⟩
    · exact le_refl 1
    · exact sound.sequences other found old

theorem effect (sound : SessionsSound state) {call : Call} {after : HostGPUKmtState}
    {issued : Option (GenerationKind × UInt64)}
    (present : state.sessions call.slot = some call.session)
    (effect : Effect state call after issued) : SessionsSound after := by
  cases effect with
  | unchanged | sampled | freed | rewritten | queueDestroyed | queueRung
  | eventDestroyed | eventUpdated => exact sound.same rfl
  | allocated | queueCreated | eventCreated => exact sound.same rfl
  | advanced kind => exact sound.same (sameObjects_withNext state kind _).sessions
  | closed =>
    exact ⟨fun other found live => sound.ids other found (SlotTable.drop_eq_some.mp live).2,
      fun first second x y foundX foundY => sound.transports first second x y
        (SlotTable.drop_eq_some.mp foundX).2 (SlotTable.drop_eq_some.mp foundY).2,
      fun other found live => sound.sequences other found (SlotTable.drop_eq_some.mp live).2⟩
  | configured continues => exact sound.withSession present continues

end SessionsSound

theorem sessionsSound_preserved : Preserved (fun _ _ => True) SessionsSound where
  quiet := fun _ => trivial
  sampled := fun _ sound => sound.same rfl
  touched := fun present le sound => sound.withSession present (touched_continues le)
  lostOwner := fun _ sound => sound.same rfl
  opened := fun {state _ _ jobEpoch} fresh _ _ sound =>
    (show SessionsSound (state.withNext .owner (state.take .owner jobEpoch).2) from
      sound.same rfl).addSession _ _ fresh
  effect := fun present _ sound effect => sound.effect present effect
  written := fun _ _ sound => sound.same rfl

theorem sessionsSound_step {state : HostGPUKmtState} (sound : SessionsSound state) (op : Op) :
    SessionsSound (step state op) := by
  refine sessionsSound_preserved.step (fun same sound => ?_) (fun _ => ?_) sound ?_
  · exact sound.same (by rw [same.rest])
  · exact .of_empty rfl
  · cases op <;> first | trivial | exact fun _ _ => trivial

theorem sessionsSound_construct {epoch ticksPerNanosecond : UInt64} {start : HostGPUKmtState}
    (constructed : construct epoch ticksPerNanosecond = some start) : SessionsSound start := by
  obtain rfl := eq_of_construct constructed
  exact .of_empty rfl

theorem sessionsSound_of_reachable {state : HostGPUKmtState} (reach : KmtReachable state) :
    SessionsSound state := by
  obtain ⟨epoch, ticks, start, constructed, run⟩ := reach
  exact run.invariant step (fun _ op sound => sessionsSound_step sound op)
    (sessionsSound_construct constructed)

end GemSim.Kmt
