import GemSim.Bridge.SignalState

/-!
# What the operations do to the signals

Every operation either makes a signal, accepts a wait, sets the value of a signal, or is
quiet: a quiet operation at most drops signals and waits and marks a wait as popped. The
counters agree with the signals after each of them.

## Main definitions

* `Sound` — the counters are exact, and every generation was handed out before
* `Quiet` — the change a quiet operation may make
* `Effect` — what one operation does

## Main results

* `step_effect` — the effect of every operation
* `Sound.step` — every operation keeps the signals sound
-/

namespace GemSim.Bridge

open GemSim.Lib
open GemSim.Kmt (Status)

/-- The number of waits of a signal. -/
def Signal.waits (signal : Signal) : ℕ := if signal.wait.isSome then 1 else 0

/-- The waits agree but for the mark that one was popped. -/
structure Wait.Same (old new : Wait) : Prop where
  header : new.header = old.header
  sequence : new.sequence = old.sequence
  condition : new.condition = old.condition
  compareValue : new.compareValue = old.compareValue
  ready : new.ready = old.ready
  capturedValue : new.capturedValue = old.capturedValue
  readyTick : new.readyTick = old.readyTick
  queued : old.queued = true → new.queued = true

/-- The signal keeps its identity and value; its wait may be marked or dropped. -/
structure Signal.Same (old new : Signal) : Prop where
  owner : new.owner = old.owner
  generation : new.generation = old.generation
  value : new.value = old.value
  lastSequence : new.lastSequence = old.lastSequence
  wait : ∀ wait, new.wait = some wait → ∃ before, old.wait = some before ∧ before.Same wait

theorem Wait.Same.refl (wait : Wait) : wait.Same wait :=
  ⟨rfl, rfl, rfl, rfl, rfl, rfl, rfl, id⟩

theorem Wait.Same.trans {first second third : Wait} (one : first.Same second)
    (two : second.Same third) : first.Same third where
  header := two.header.trans one.header
  sequence := two.sequence.trans one.sequence
  condition := two.condition.trans one.condition
  compareValue := two.compareValue.trans one.compareValue
  ready := two.ready.trans one.ready
  capturedValue := two.capturedValue.trans one.capturedValue
  readyTick := two.readyTick.trans one.readyTick
  queued := fun queued => two.queued (one.queued queued)

theorem Signal.Same.refl (signal : Signal) : signal.Same signal :=
  ⟨rfl, rfl, rfl, rfl, fun wait here => ⟨wait, here, .refl wait⟩⟩

theorem Signal.Same.trans {first second third : Signal} (one : first.Same second)
    (two : second.Same third) : first.Same third where
  owner := two.owner.trans one.owner
  generation := two.generation.trans one.generation
  value := two.value.trans one.value
  lastSequence := two.lastSequence.trans one.lastSequence
  wait := by
    intro wait here
    obtain ⟨middle, there, same⟩ := two.wait wait here
    obtain ⟨before, first, older⟩ := one.wait middle there
    exact ⟨before, first, older.trans same⟩

theorem Signal.same_dropWait (signal : Signal) : signal.Same { signal with wait := none } :=
  ⟨rfl, rfl, rfl, rfl, fun _ none => by cases none⟩

/-- A value that is held keeps identity and waits of the signal. -/
theorem Signal.hold_spec (signal : Signal) (value : Int64) (now : UInt64) :
    (signal.hold value now).owner = signal.owner ∧
      (signal.hold value now).generation = signal.generation ∧
      (signal.hold value now).value = value ∧
      (signal.hold value now).lastSequence = signal.lastSequence ∧
      (signal.hold value now).wait.isSome = signal.wait.isSome := by
  unfold Signal.hold
  split
  · exact ⟨rfl, rfl, rfl, rfl, Option.isSome_map⟩
  · exact ⟨rfl, rfl, rfl, rfl, rfl⟩

/-- A wait that a value leaves was there before, and it was woken by the value or not. -/
theorem Signal.hold_wait {signal : Signal} {value : Int64} {now : UInt64} {wait : Wait}
    (here : (signal.hold value now).wait = some wait) :
    ∃ before, signal.wait = some before ∧
      ((signal.wakesArmed value = true ∧ before.ready = false ∧ before.satisfied value = true ∧
          wait = { before with
            ready := true
            capturedValue := value
            readyTick := now + SignalCompletionDelay }) ∨
        (signal.wakesArmed value = false ∧ wait = before)) := by
  unfold Signal.hold at here
  split at here
  · rename_i wakes
    obtain ⟨before, there, rfl⟩ := Option.map_eq_some_iff.mp here
    refine ⟨before, there, .inl ⟨wakes, ?_⟩⟩
    simp only [Signal.wakesArmed, there, Option.any_some, Bool.and_eq_true, Bool.not_eq_true'] at wakes
    exact ⟨wakes.1, wakes.2, rfl⟩
  · rename_i asleep
    exact ⟨wait, here, .inr ⟨by simpa using asleep, rfl⟩⟩

/-- A wait that a signal with the value accepts. -/
def newWait (header : Header) (sequence : UInt64) (condition : SignalCondition)
    (compareValue value : Int64) (now : UInt64) : Wait :=
  let ready := conditionSatisfied value condition compareValue
  { header := header
    sequence := sequence
    condition := condition
    compareValue := compareValue
    ready := ready
    capturedValue := if ready then value else 0
    readyTick := if ready then now + SignalCompletionDelay else 0 }

theorem maximumSignals_small : MaximumSignals < 2 ^ 64 := by
  unfold MaximumSignals
  omega

namespace HostGPUSignalState

variable {state after : HostGPUSignalState} {slot : Fin MaximumSignals} {old new : Signal}

/-- What holds of the signals after any run. -/
structure Sound (state : HostGPUSignalState) : Prop where
  signals : state.liveSignals.toNat = state.signals.live
  waits : state.liveWaits.toNat = state.signals.total Signal.waits
  stamped : SlotTable.StampedBelow Signal.generation id state.signals state.generations.bound
  latest : ∀ slot signal wait, state.signals slot = some signal → signal.wait = some wait →
    wait.sequence = signal.lastSequence

/-- The change a quiet operation may make. -/
structure Quiet (state after : HostGPUSignalState) : Prop where
  generations : after.generations = state.generations
  origin : ∀ slot new, after.signals slot = some new →
    ∃ old, state.signals slot = some old ∧ old.Same new

theorem Quiet.refl (state : HostGPUSignalState) : Quiet state state :=
  ⟨rfl, fun _ signal here => ⟨signal, here, .refl signal⟩⟩

theorem Quiet.trans {middle : HostGPUSignalState} (first : Quiet state middle)
    (second : Quiet middle after) : Quiet state after where
  generations := second.generations.trans first.generations
  origin := by
    intro slot new here
    obtain ⟨between, there, later⟩ := second.origin slot new here
    obtain ⟨old, before, sooner⟩ := first.origin slot between there
    exact ⟨old, before, sooner.trans later⟩

section Primitives

theorem quiet_put (here : state.signals slot = some old) (same : old.Same new)
    (generations : after.generations = state.generations)
    (signals : after.signals = state.signals.put slot new) : Quiet state after where
  generations := generations
  origin := by
    intro other signal found
    rw [signals] at found
    rcases SlotTable.put_eq_some.mp found with ⟨rfl, rfl⟩ | ⟨-, there⟩
    · exact ⟨old, here, same⟩
    · exact ⟨signal, there, .refl signal⟩

theorem quiet_drop (state : HostGPUSignalState) (slot : Fin MaximumSignals) :
    Quiet state (state.dropSignal slot) where
  generations := rfl
  origin := by
    intro other signal found
    exact ⟨signal, (SlotTable.drop_eq_some.mp found).2, .refl signal⟩

/-- A record is rewritten to one with as many waits. -/
theorem Sound.put (sound : Sound state) (here : state.signals slot = some old)
    (generation : new.generation = old.generation) (waits : new.wait.isSome = old.wait.isSome)
    (latest : ∀ wait, new.wait = some wait → wait.sequence = new.lastSequence) :
    Sound (state.setSignal slot new) where
  signals := sound.signals.trans (SlotTable.live_put_taken here new).symm
  waits := by
    have moved := SlotTable.total_put_taken here Signal.waits new
    have same : new.waits = old.waits := by rw [Signal.waits, Signal.waits, waits]
    have before := sound.waits
    simp only [setSignal]
    omega
  stamped := sound.stamped.replace here generation
  latest := by
    intro other signal wait found waiting
    rcases SlotTable.put_eq_some.mp found with ⟨rfl, rfl⟩ | ⟨-, there⟩
    · exact latest wait waiting
    · exact sound.latest other signal wait there waiting

theorem Sound.drop (sound : Sound state) (here : state.signals slot = some old)
    (idle : old.wait = none) : Sound (state.dropSignal slot) where
  signals := SlotTable.live_drop sound.signals here
  waits := by
    have moved := SlotTable.total_drop here Signal.waits
    have none : old.waits = 0 := by rw [Signal.waits, idle]; rfl
    have before := sound.waits
    simp only [dropSignal]
    omega
  stamped := sound.stamped.drop slot
  latest := by
    intro other signal wait found waiting
    exact sound.latest other signal wait (SlotTable.drop_eq_some.mp found).2 waiting

theorem Sound.dropWait (sound : Sound state) (here : state.signals slot = some old)
    (waiting : old.wait.isSome = true) : Sound (state.dropWait slot old) where
  signals := sound.signals.trans (SlotTable.live_put_taken here _).symm
  waits := by
    have moved := SlotTable.total_put_taken here Signal.waits { old with wait := none }
    have one : old.waits = 1 := by rw [Signal.waits, if_pos waiting]
    have none : Signal.waits { old with wait := none } = 0 := rfl
    have before := sound.waits
    have positive : (1 : UInt64).toNat ≤ state.liveWaits.toNat := by
      rw [UInt64.toNat_one]
      omega
    simp only [HostGPUSignalState.dropWait]
    rw [toNat_sub_exact positive, UInt64.toNat_one]
    omega
  stamped := sound.stamped.replace here rfl
  latest := by
    intro other signal wait found waits
    rcases SlotTable.put_eq_some.mp found with ⟨rfl, rfl⟩ | ⟨-, there⟩
    · cases waits
    · exact sound.latest other signal wait there waits

/-- The end of an owner is the end of the waits of one signal, and maybe of the signal. -/
theorem release_spec (sound : Sound state) (here : state.signals slot = some old) :
    Sound (release slot old state) ∧ Quiet state (release slot old state) := by
  have first : ∃ middle left, (if old.wait.isSome then state.dropWait slot old else state) = middle ∧
      Sound middle ∧ Quiet state middle ∧ middle.signals slot = some left ∧ left.wait = none := by
    by_cases waiting : old.wait.isSome = true
    · refine ⟨_, _, if_pos waiting, sound.dropWait here waiting, ?_, SlotTable.put_same _ _ _, rfl⟩
      exact quiet_put here (Signal.same_dropWait old) rfl rfl
    · refine ⟨_, old, if_neg waiting, sound, .refl state, here, ?_⟩
      simpa using waiting
  obtain ⟨middle, left, same, whole, quiet, there, idle⟩ := first
  unfold release
  rw [same]
  dsimp only
  split
  · exact ⟨whole.drop there idle, quiet.trans (quiet_drop middle slot)⟩
  · exact ⟨whole, quiet⟩

/-- What the end of an owner leaves is sound, and nothing new. -/
theorem disconnect_spec (sound : Sound state) (owner : Owner) :
    Sound (state.disconnect owner) ∧ Quiet state (state.disconnect owner) := by
  refine SlotTable.sweep_induct (fun after => Sound after ∧ Quiet state after) ?_
    ⟨sound, .refl state⟩
  rintro middle slot signal ⟨whole, quiet⟩ here -
  obtain ⟨kept, later⟩ := release_spec whole here
  exact ⟨kept, quiet.trans later⟩

theorem clear_spec (state : HostGPUSignalState) : Sound state.clear ∧ Quiet state state.clear := by
  refine ⟨⟨?_, ?_, SlotTable.stampedBelow_empty, ?_⟩, rfl, ?_⟩
  · exact SlotTable.live_empty.symm
  · exact (SlotTable.total_empty _).symm
  · intro slot signal wait found
    cases found
  · intro slot new found
    cases found

end Primitives

section Resolution

theorem resolve_eq_some {owner : Owner} {signalId generation : UInt64} {signal : Signal} :
    state.resolve owner signalId generation = some (slot, signal) ↔
      slotOfId MaximumSignals signalId = some slot ∧ state.signals slot = some signal ∧
        signal.owner = owner ∧ signal.generation = generation := by
  unfold resolve
  split
  · rename_i unnamed
    simp [unnamed]
  rename_i named which
  rw [which]
  split
  · rename_i free
    simp only [reduceCtorEq, Option.some.injEq, false_iff, not_and]
    rintro rfl found
    rw [free] at found
    cases found
  rename_i there here
  split
  · rename_i mine
    simp only [Option.some.injEq, Prod.mk.injEq]
    constructor
    · rintro ⟨rfl, rfl⟩
      exact ⟨rfl, here, mine⟩
    · rintro ⟨rfl, found, -⟩
      exact ⟨rfl, Option.some.inj (here.symm.trans found)⟩
  · rename_i other
    simp only [reduceCtorEq, Option.some.injEq, false_iff, not_and]
    rintro rfl found owned stamped
    obtain rfl := Option.some.inj (here.symm.trans found)
    exact other ⟨owned, stamped⟩

/-- The wait that is popped is ready, due and was not popped before. -/
theorem selectReady_spec {now : UInt64} {slots : List (Fin MaximumSignals)}
    {selected : Option (Fin MaximumSignals × Signal × Wait)} {signal : Signal} {wait : Wait}
    (start : ∀ slot signal wait, selected = some (slot, signal, wait) →
      state.signals slot = some signal ∧ signal.wait = some wait ∧ wait.ready = true ∧
        wait.queued = false)
    (found : state.selectReady now slots selected = some (slot, signal, wait)) :
    state.signals slot = some signal ∧ signal.wait = some wait ∧ wait.ready = true ∧
      wait.queued = false := by
  induction slots generalizing selected with
  | nil => exact start slot signal wait found
  | cons first rest ih =>
    unfold selectReady at found
    split at found
    · exact ih start found
    rename_i here record
    split at found
    · exact ih start found
    rename_i due waiting
    refine ih ?_ found
    intro other candidate choice chosen
    unfold prefer at chosen
    split at chosen
    · exact start other candidate choice chosen
    rename_i ready
    simp only [Bool.not_eq_true', not_or, Bool.not_eq_false, Bool.not_eq_true] at ready
    split at chosen
    · obtain ⟨rfl, rfl, rfl⟩ := by simpa using chosen
      exact ⟨record, waiting, ready.1, ready.2.1⟩
    split at chosen
    · obtain ⟨rfl, rfl, rfl⟩ := by simpa using chosen
      exact ⟨record, waiting, ready.1, ready.2.1⟩
    · exact start other candidate choice chosen

end Resolution

section Effects

/-- The value an operation gives a signal, with its tick. -/
def sets (state : HostGPUSignalState) : Input → Option (Fin MaximumSignals × Int64 × UInt64)
  | .submit owner header request now =>
    if request.opcode = .store ∧ (state.submit owner header request now).1.status = .ok then
      (slotOfId MaximumSignals request.signalId).map fun slot => (slot, request.value, now)
    else none
  | .mirrorPinnedDispatchCompletion owner signalId generation requestId value now =>
    if (state.mirrorPinnedDispatchCompletion owner signalId generation requestId value now).1 then
      (slotOfId MaximumSignals signalId).map fun slot => (slot, value, now)
    else none
  | _ => none

/-- The signal whose wait an operation accepts, with the sequence number and the tick. -/
def accepts (state : HostGPUSignalState) :
    Input → Option (Fin MaximumSignals × UInt64 × UInt64 × UInt64)
  | .submit owner header request now =>
    if request.opcode = .wait ∧ (state.submit owner header request now).1.status = .ok then
      (slotOfId MaximumSignals request.signalId).map fun slot =>
        (slot, request.generation, request.sequence, now)
    else none
  | _ => none

/-- What an operation does. -/
inductive Effect (state : HostGPUSignalState) (input : Input) : HostGPUSignalState → Prop where
  | quiet {after : HostGPUSignalState} (sets : state.sets input = none)
      (accepts : state.accepts input = none) (sound : Sound after) (quiet : Quiet state after) :
      Effect state input after
  | created (slot : Fin MaximumSignals) (owner : Owner) (value : Int64) (generation : UInt64)
      (generations : IssueCounter) (sets : state.sets input = none)
      (accepts : state.accepts input = none) (free : state.signals slot = none)
      (taken : state.generations.take = some (generation, generations)) :
      Effect state input { state with
        signals := state.signals.put slot { owner := owner, generation := generation, value := value }
        generations := generations
        liveSignals := state.liveSignals + 1 }
  | stored (slot : Fin MaximumSignals) (old : Signal) (value : Int64) (now : UInt64)
      (sets : state.sets input = some (slot, value, now)) (accepts : state.accepts input = none)
      (here : state.signals slot = some old) (due : old.wakesArmed value = true → now ≠ u64Max) :
      Effect state input (state.setSignal slot (old.hold value now))
  | waited (slot : Fin MaximumSignals) (old : Signal) (header : Header) (sequence : UInt64)
      (condition : SignalCondition) (compareValue : Int64) (now : UInt64)
      (sets : state.sets input = none)
      (accepts : state.accepts input = some (slot, old.generation, sequence, now))
      (here : state.signals slot = some old) (idle : old.wait = none)
      (next : isNextSequence old.lastSequence sequence = true)
      (room : state.liveWaits < MaximumWaits) (due : now ≠ u64Max) :
      Effect state input { state with
        signals := state.signals.put slot { old with
          wait := some (newWait header sequence condition compareValue old.value now)
          lastSequence := sequence }
        liveWaits := state.liveWaits + 1 }

theorem Effect.same {input : Input} (sound : Sound state) (sets : state.sets input = none)
    (accepts : state.accepts input = none) : Effect state input state :=
  .quiet sets accepts sound (.refl state)

theorem create_effect (sound : Sound state) (owner : Owner) (header : Header)
    (request : SignalRequest) (now : UInt64) (opcode : request.opcode = .create) :
    Effect state (.submit owner header request now) (state.create owner request now).2 := by
  have sets : state.sets (.submit owner header request now) = none := by simp [sets, opcode]
  have accepts : state.accepts (.submit owner header request now) = none := by
    simp [accepts, opcode]
  unfold create
  dsimp only
  split
  · exact .same sound sets accepts
  split
  · exact .same sound sets accepts
  rename_i slot free
  split
  · exact .same sound sets accepts
  rename_i generation generations taken
  exact .created slot owner request.value generation generations sets accepts
    (SlotTable.firstFree_spec free) taken

theorem submit_effect (sound : Sound state) (owner : Owner) (header : Header)
    (request : SignalRequest) (now : UInt64) :
    Effect state (.submit owner header request now) (state.submit owner header request now).2 := by
  by_cases creates : request.opcode = .create
  · have same : state.submit owner header request now = state.create owner request now :=
      if_pos creates
    rw [same]
    exact create_effect sound owner header request now creates
  generalize result : state.submit owner header request now = reply
  have replied := result
  have sets : (request.opcode = .store → reply.1.status ≠ .ok) →
      state.sets (.submit owner header request now) = none := by
    intro other
    rw [HostGPUSignalState.sets, result, if_neg fun both => other both.1 both.2]
  have accepts : (request.opcode = .wait → reply.1.status ≠ .ok) →
      state.accepts (.submit owner header request now) = none := by
    intro other
    rw [HostGPUSignalState.accepts, result, if_neg fun both => other both.1 both.2]
  rw [submit, if_neg creates] at replied
  dsimp only at replied
  split at replied
  · obtain rfl := replied
    exact .same sound (sets fun _ => nofun) (accepts fun _ => nofun)
  rename_i slot signal found
  obtain ⟨named, here, -, stamped⟩ := resolve_eq_some.mp found
  split at replied
  · obtain rfl := replied
    exact .same sound (sets fun _ => nofun) (accepts fun _ => nofun)
  · rename_i destroys
    split at replied
    · obtain rfl := replied
      exact .same sound (sets fun _ => nofun) (accepts fun _ => nofun)
    · rename_i idle
      obtain rfl := replied
      rw [not_or, Bool.not_eq_true, Option.isSome_eq_false_iff, Option.isNone_iff_eq_none] at idle
      exact .quiet (sets fun stores => by rw [destroys] at stores; cases stores)
        (accepts fun waits => by rw [destroys] at waits; cases waits) (sound.drop here idle.1)
        (quiet_drop state slot)
  · rename_i loads
    obtain rfl := replied
    exact .same sound (sets fun stores => by rw [loads] at stores; cases stores)
      (accepts fun waits => by rw [loads] at waits; cases waits)
  · rename_i stores
    have nothing : state.accepts (.submit owner header request now) = none :=
      accepts fun waits => by rw [stores] at waits; cases waits
    split at replied
    · obtain rfl := replied
      exact .same sound (sets fun _ => nofun) nothing
    split at replied
    · obtain rfl := replied
      exact .same sound (sets fun _ => nofun) nothing
    · rename_i free due
      obtain rfl := replied
      refine .stored slot signal request.value now ?_ nothing here fun wakes last => due ⟨wakes, last⟩
      rw [HostGPUSignalState.sets, result, if_pos ⟨stores, rfl⟩, named]
      rfl
  · rename_i waits
    have nothing : state.sets (.submit owner header request now) = none :=
      sets fun stores => by rw [waits] at stores; cases stores
    split at replied
    · obtain rfl := replied
      exact .same sound nothing (accepts fun _ => nofun)
    rename_i next
    split at replied
    · obtain rfl := replied
      exact .same sound nothing (accepts fun _ => nofun)
    rename_i idle
    split at replied
    · obtain rfl := replied
      exact .same sound nothing (accepts fun _ => nofun)
    rename_i room
    split at replied
    · obtain rfl := replied
      exact .same sound nothing (accepts fun _ => nofun)
    rename_i due
    obtain rfl := replied
    refine .waited slot signal header request.sequence request.condition request.value now nothing
      ?_ here (by simpa using idle) (by simpa using next) (UInt64.not_le.mp room) due
    rw [HostGPUSignalState.accepts, result, if_pos ⟨waits, rfl⟩, named, stamped]
    rfl

theorem popReady_effect (sound : Sound state) (now : UInt64) :
    Effect state (.popReady now) (state.popReady now).2 := by
  unfold popReady
  split
  · exact .same sound rfl rfl
  rename_i slot signal wait selected
  obtain ⟨here, waiting, -, -⟩ := selectReady_spec (fun _ _ _ none => by cases none) selected
  refine .quiet rfl rfl (sound.put here rfl (by rw [waiting]; rfl) ?_) (quiet_put here ?_ rfl rfl)
  · intro popped same
    obtain rfl := Option.some.inj same
    exact sound.latest slot signal wait here waiting
  · refine ⟨rfl, rfl, rfl, rfl, fun popped same => ⟨wait, waiting, ?_⟩⟩
    obtain rfl := Option.some.inj same
    exact ⟨rfl, rfl, rfl, rfl, rfl, rfl, rfl, fun _ => rfl⟩

theorem complete_effect (sound : Sound state) (completion : Completion) :
    Effect state (.complete completion) (state.complete completion).2 := by
  unfold complete
  split
  · exact .same sound rfl rfl
  rename_i slot signal found
  obtain ⟨-, here, -, -⟩ := resolve_eq_some.mp found
  split
  · exact .same sound rfl rfl
  rename_i queued
  have waiting : signal.wait.isSome = true := by
    cases wait : signal.wait with
    | none => simp [wait] at queued
    | some wait => rfl
  exact .quiet rfl rfl (sound.dropWait here waiting)
    (quiet_put here (Signal.same_dropWait signal) rfl rfl)

/-- A pin or its release changes nothing but the pin. -/
theorem pin_spec (sound : Sound state) (here : state.signals slot = some old) (requestId : UInt64) :
    Sound (state.setSignal slot { old with dispatchRequestId := requestId }) ∧
      Quiet state (state.setSignal slot { old with dispatchRequestId := requestId }) := by
  refine ⟨sound.put here rfl rfl fun wait waiting => sound.latest slot old wait here waiting, ?_⟩
  exact @quiet_put state _ slot old { old with dispatchRequestId := requestId } here
    ⟨rfl, rfl, rfl, rfl, fun wait waiting => ⟨wait, waiting, .refl wait⟩⟩ rfl rfl

theorem pinned_effect (sound : Sound state) (status : Status) (owner : Owner)
    (signalId generation requestId : UInt64) :
    Sound (state.pin status owner signalId generation requestId).2 ∧
      Quiet state (state.pin status owner signalId generation requestId).2 := by
  unfold pin
  split
  · exact ⟨sound, .refl state⟩
  split
  · exact ⟨sound, .refl state⟩
  · rename_i slot signal found
    exact pin_spec sound (resolve_eq_some.mp found).2.1 requestId

theorem resolvePinned_eq_some {owner : Owner} {signalId generation requestId : UInt64}
    (found : state.resolvePinned owner signalId generation requestId = some (slot, old)) :
    slotOfId MaximumSignals signalId = some slot ∧ state.signals slot = some old := by
  unfold resolvePinned at found
  split at found
  · cases found
  · obtain ⟨resolved, -⟩ := Option.filter_eq_some_iff.mp found
    obtain ⟨named, here, -⟩ := resolve_eq_some.mp resolved
    exact ⟨named, here⟩

theorem mirror_effect (sound : Sound state) (owner : Owner)
    (signalId generation requestId : UInt64) (value : Int64) (now : UInt64) :
    Effect state (.mirrorPinnedDispatchCompletion owner signalId generation requestId value now)
      (state.mirrorPinnedDispatchCompletion owner signalId generation requestId value now).2 := by
  generalize result : state.mirrorPinnedDispatchCompletion owner signalId generation requestId value
    now = reply
  have replied := result
  unfold mirrorPinnedDispatchCompletion at replied
  have refused : reply.1 = false →
      state.sets (.mirrorPinnedDispatchCompletion owner signalId generation requestId value now) =
        none := by
    intro failed
    rw [sets, result, failed, if_neg Bool.false_ne_true]
  split at replied
  · obtain rfl := replied
    exact .same sound (refused rfl) rfl
  rename_i slot signal found
  obtain ⟨named, here⟩ := resolvePinned_eq_some found
  split at replied
  · obtain rfl := replied
    exact .same sound (refused rfl) rfl
  rename_i due
  obtain rfl := replied
  refine .stored slot signal value now ?_ rfl here fun wakes last => due ⟨wakes, last⟩
  rw [sets, result, if_pos rfl, named]
  rfl

theorem releasePinned_effect (sound : Sound state) (owner : Owner)
    (signalId generation requestId : UInt64) :
    Sound (state.releasePinnedDispatchSignal owner signalId generation requestId).2 ∧
      Quiet state (state.releasePinnedDispatchSignal owner signalId generation requestId).2 := by
  unfold releasePinnedDispatchSignal
  split
  · exact ⟨sound, .refl state⟩
  · rename_i slot signal found
    exact pin_spec sound (resolvePinned_eq_some found).2 0

/-- The effect of every operation. -/
theorem step_effect (sound : Sound state) (input : Input) : Effect state input (state.step input) := by
  cases input with
  | submit owner header request now => exact submit_effect sound owner header request now
  | popReady now => exact popReady_effect sound now
  | complete completion => exact complete_effect sound completion
  | disconnect owner =>
    obtain ⟨whole, quiet⟩ := disconnect_spec sound owner
    exact .quiet rfl rfl whole quiet
  | clear =>
    obtain ⟨whole, quiet⟩ := clear_spec state
    exact .quiet rfl rfl whole quiet
  | pinPinnedDispatchSignal owner signalId generation requestId =>
    obtain ⟨whole, quiet⟩ := pinned_effect sound _ owner signalId generation requestId
    exact .quiet rfl rfl whole quiet
  | pinGenericDispatchSignal owner signalId generation requestId =>
    obtain ⟨whole, quiet⟩ := pinned_effect sound _ owner signalId generation requestId
    exact .quiet rfl rfl whole quiet
  | mirrorPinnedDispatchCompletion owner signalId generation requestId value now =>
    exact mirror_effect sound owner signalId generation requestId value now
  | releasePinnedDispatchSignal owner signalId generation requestId =>
    obtain ⟨whole, quiet⟩ := releasePinned_effect sound owner signalId generation requestId
    exact .quiet rfl rfl whole quiet

/-- Every operation keeps the signals sound. -/
theorem Sound.effect {input : Input} (sound : Sound state) (effect : Effect state input after) :
    Sound after := by
  cases effect with
  | quiet sets accepts whole quiet => exact whole
  | created slot owner value generation generations sets accepts free taken =>
    obtain ⟨-, issued, moved⟩ := IssueCounter.take_spec taken
    have grown : state.generations.bound ≤ generations.bound := by omega
    have below : generation.toNat < generations.bound := by omega
    exact
      { signals := SlotTable.live_put_free maximumSignals_small sound.signals free _
        waits := by
          have made := SlotTable.total_put_free free Signal.waits
            { owner := owner, generation := generation, value := value }
          have none : Signal.waits { owner := owner, generation := generation, value := value } = 0 :=
            rfl
          rw [none, Nat.add_zero] at made
          exact sound.waits.trans made.symm
        stamped := sound.stamped.put grown below
        latest := by
          intro other signal wait found waiting
          rcases SlotTable.put_eq_some.mp found with ⟨rfl, rfl⟩ | ⟨-, there⟩
          · cases waiting
          · exact sound.latest other signal wait there waiting }
  | stored slot old value now sets accepts here due =>
    obtain ⟨-, generation, -, last, waits⟩ := old.hold_spec value now
    refine sound.put here generation waits fun wait waiting => ?_
    obtain ⟨before, there, ⟨-, -, -, rfl⟩ | ⟨-, rfl⟩⟩ := Signal.hold_wait waiting
    · exact (sound.latest slot old before here there).trans last.symm
    · exact (sound.latest slot old wait here there).trans last.symm
  | waited slot old header sequence condition compareValue now sets accepts here idle next room due =>
    exact
      { signals := sound.signals.trans (SlotTable.live_put_taken here _).symm
        waits := by
          have moved := SlotTable.total_put_taken here Signal.waits { old with
            wait := some (newWait header sequence condition compareValue old.value now)
            lastSequence := sequence }
          have none : old.waits = 0 := by rw [Signal.waits, idle]; rfl
          have one : Signal.waits { old with
            wait := some (newWait header sequence condition compareValue old.value now)
            lastSequence := sequence } = 1 := rfl
          have before := sound.waits
          have few := UInt64.lt_iff_toNat_lt.mp room
          have limit : MaximumWaits.toNat = 8 := rfl
          dsimp only
          rw [toNat_add_exact (by rw [UInt64.toNat_one]; omega), UInt64.toNat_one]
          omega
        stamped := sound.stamped.replace here rfl
        latest := by
          intro other signal wait found waiting
          rcases SlotTable.put_eq_some.mp found with ⟨rfl, rfl⟩ | ⟨-, there⟩
          · obtain rfl := Option.some.inj waiting
            rfl
          · exact sound.latest other signal wait there waiting }

theorem Sound.step (sound : Sound state) (input : Input) : Sound (state.step input) :=
  sound.effect (step_effect sound input)

theorem sound_boot : Sound boot where
  signals := SlotTable.live_empty.symm
  waits := (SlotTable.total_empty _).symm
  stamped := SlotTable.stampedBelow_empty
  latest := by
    intro slot signal wait found
    cases found

end Effects

end HostGPUSignalState

end GemSim.Bridge
