import GemSim.Bridge.SignalEffect

/-!
# What waits are told

A wait that is pending has not missed a value that satisfies it: it is ready exactly if the
signal held such a value since the wait was accepted, and it has captured the first one. A
wait is popped at most once and completed at most once, and the waits of a signal are numbered
from one on. A handle whose signal is gone never names a signal again.

## Main definitions

* `recordStep` — a step, with the values every signal held since its wait was accepted
* `Captures` — what a pending wait knows of the values its signal held
* `SignalLaw` — what holds of every run

## Main results

* `signalLaw` — every run meets the law
-/

namespace GemSim.Bridge

open GemSim.Lib
open GemSim.Kmt (Status)

/-- The values a signal held, with the ticks at which it was given them. -/
abbrev Values := List (Int64 × UInt64)

/-- What a pending wait knows of the values its signal held since it was accepted. -/
structure Captures (signal : Signal) (wait : Wait) (values : Values) : Prop where
  current : values.getLast?.map Prod.fst = some signal.value
  armed : wait.ready = false → ∀ value ∈ values, wait.satisfied value.1 = false
  first : wait.ready = true → ∃ value,
    values.find? (fun value => wait.satisfied value.1) = some value ∧
      wait.capturedValue = value.1 ∧ wait.readyTick.toNat = value.2.toNat + 1

/-- What a pending wait knows does not depend on whether it was popped. -/
theorem Captures.same {old new : Signal} {before wait : Wait} {values : Values}
    (captures : Captures old before values) (value : new.value = old.value)
    (same : before.Same wait) : Captures new wait values where
  current := by rw [value, captures.current]
  armed := by
    intro asleep held member
    rw [Wait.satisfied, same.condition, same.compareValue]
    exact captures.armed (same.ready.symm.trans asleep) held member
  first := by
    intro ready
    obtain ⟨held, found, captured, tick⟩ := captures.first (same.ready.symm.trans ready)
    refine ⟨held, ?_, same.capturedValue.trans captured, by rw [same.readyTick, tick]⟩
    simpa only [Wait.satisfied, same.condition, same.compareValue] using found

theorem toNat_readyTick {now : UInt64} (due : now ≠ u64Max) :
    (now + SignalCompletionDelay).toNat = now.toNat + 1 := toNat_succ due

/-- A wait that was accepted knows the value the signal held then. -/
theorem captures_newWait (old : Signal) (header : Header) (sequence : UInt64)
    (condition : SignalCondition) (compareValue : Int64) {now : UInt64} (due : now ≠ u64Max) :
    Captures { old with
        wait := some (newWait header sequence condition compareValue old.value now)
        lastSequence := sequence }
      (newWait header sequence condition compareValue old.value now) [(old.value, now)] where
  current := rfl
  armed := by
    intro asleep held member
    obtain rfl := List.mem_singleton.mp member
    exact asleep
  first := by
    intro ready
    have wakes : conditionSatisfied old.value condition compareValue = true := ready
    refine ⟨(old.value, now), ?_, ?_, ?_⟩
    · exact List.find?_cons_of_pos wakes
    · simp only [newWait, wakes, if_true]
    · simp only [newWait, wakes, if_true]
      exact toNat_readyTick due

/-- A value that is set is seen by the wait. -/
theorem Captures.hold {old : Signal} {before wait : Wait} {values : Values} {value : Int64}
    {now : UInt64} (captures : Captures old before values) (there : old.wait = some before)
    (here : (old.hold value now).wait = some wait)
    (due : old.wakesArmed value = true → now ≠ u64Max) :
    Captures (old.hold value now) wait (values ++ [(value, now)]) := by
  have current : (values ++ [(value, now)]).getLast?.map Prod.fst =
      some (old.hold value now).value := by
    rw [List.getLast?_concat, (old.hold_spec value now).2.2.1]
    rfl
  obtain ⟨origin, found, ⟨wakes, asleep, satisfied, rfl⟩ | ⟨quiet, rfl⟩⟩ := Signal.hold_wait here
  · obtain rfl := Option.some.inj (there.symm.trans found)
    refine ⟨current, fun awake => (by cases awake), fun _ => ⟨(value, now), ?_, rfl, ?_⟩⟩
    · -- no value before this one satisfied the wait
      rw [List.find?_append, List.find?_eq_none.mpr fun held member => ?_, Option.none_or]
      · exact List.find?_cons_of_pos satisfied
      · exact Bool.eq_false_iff.mp (captures.armed asleep held member)
    · exact toNat_readyTick (due wakes)
  · obtain rfl := Option.some.inj (there.symm.trans found)
    refine ⟨current, fun asleep held member => ?_, fun ready => ?_⟩
    · rcases List.mem_append.mp member with old | new
      · exact captures.armed asleep held old
      · obtain rfl := List.mem_singleton.mp new
        simpa [Signal.wakesArmed, there, asleep] using quiet
    · obtain ⟨held, first, captured, tick⟩ := captures.first ready
      exact ⟨held, by rw [List.find?_append, first, Option.some_or], captured, tick⟩

namespace HostGPUSignalState

variable {state after : HostGPUSignalState} {slot : Fin MaximumSignals} {input : Input}

/-- The values the signals held since their waits were accepted, after an operation. -/
def record (state : HostGPUSignalState) (input : Input) (values : Fin MaximumSignals → Values) :
    Fin MaximumSignals → Values :=
  match state.accepts input, state.sets input with
  | some (slot, _, _, now), _ =>
    Function.update values slot (((state.signals slot).map fun signal => (signal.value, now)).toList)
  | none, some (slot, value, now) => Function.update values slot (values slot ++ [(value, now)])
  | none, none => values

/-- A step, with the values every signal held since its wait was accepted. -/
def recordStep (recorded : HostGPUSignalState × (Fin MaximumSignals → Values)) (input : Input) :
    HostGPUSignalState × (Fin MaximumSignals → Values) :=
  (recorded.1.step input, recorded.1.record input recorded.2)

theorem recordStep_run (recorded : HostGPUSignalState × (Fin MaximumSignals → Values))
    (inputs : List Input) :
    (runFrom recordStep recorded inputs).1 = runFrom step recorded.1 inputs := by
  induction inputs generalizing recorded with
  | nil => rfl
  | cons input rest ih => exact ih _

/-- Every pending wait knows of the values its signal held. -/
def Captured (recorded : HostGPUSignalState × (Fin MaximumSignals → Values)) : Prop :=
  ∀ slot signal wait, recorded.1.signals slot = some signal → signal.wait = some wait →
    Captures signal wait (recorded.2 slot)

section Records

variable {values : Fin MaximumSignals → Values}

theorem record_of_none (accepts : state.accepts input = none) (sets : state.sets input = none) :
    state.record input values = values := by
  rw [record, accepts, sets]

theorem record_of_sets {value : Int64} {now : UInt64} (accepts : state.accepts input = none)
    (sets : state.sets input = some (slot, value, now)) :
    state.record input values = Function.update values slot (values slot ++ [(value, now)]) := by
  rw [record, accepts, sets]

theorem record_of_accepts {generation sequence now : UInt64} {signal : Signal}
    (accepts : state.accepts input = some (slot, generation, sequence, now))
    (here : state.signals slot = some signal) :
    state.record input values = Function.update values slot [(signal.value, now)] := by
  rw [record, accepts]
  dsimp only
  rw [here]
  rfl

end Records

theorem captured_effect {values : Fin MaximumSignals → Values} (captured : Captured (state, values))
    (effect : Effect state input after) : Captured (after, state.record input values) := by
  cases effect with
  | quiet sets accepts whole quiet =>
    rw [record_of_none accepts sets]
    intro slot new wait found waiting
    obtain ⟨old, there, same⟩ := quiet.origin slot new found
    obtain ⟨before, waited, alike⟩ := same.wait wait waiting
    exact (captured slot old before there waited).same same.value alike
  | created slot owner value generation generations sets accepts free taken =>
    rw [record_of_none accepts sets]
    intro other new wait found waiting
    rcases SlotTable.put_eq_some.mp found with ⟨rfl, rfl⟩ | ⟨-, there⟩
    · cases waiting
    · exact captured other new wait there waiting
  | stored slot old value now sets accepts here due =>
    rw [record_of_sets accepts sets]
    intro other new wait found waiting
    rcases SlotTable.put_eq_some.mp found with ⟨rfl, rfl⟩ | ⟨ne, there⟩
    · obtain ⟨before, waited, -⟩ := Signal.hold_wait waiting
      dsimp only
      rw [Function.update_self]
      exact (captured other old before here waited).hold waited waiting due
    · dsimp only
      rw [Function.update_of_ne ne]
      exact captured other new wait there waiting
  | waited slot old header sequence condition compareValue now sets accepts here idle next room due =>
    rw [record_of_accepts accepts here]
    intro other new wait found waiting
    rcases SlotTable.put_eq_some.mp found with ⟨rfl, rfl⟩ | ⟨ne, there⟩
    · obtain rfl := Option.some.inj waiting
      dsimp only
      rw [Function.update_self]
      exact captures_newWait old header sequence condition compareValue due
    · dsimp only
      rw [Function.update_of_ne ne]
      exact captured other new wait there waiting

theorem captured_run (inputs : List Input) :
    Captured (runFrom recordStep (boot, fun _ => []) inputs) := by
  have start : Sound boot ∧ Captured (boot, fun _ => []) := by
    refine ⟨sound_boot, ?_⟩
    intro slot signal wait found
    cases found
  refine (invariant_runFrom recordStep (fun recorded => Sound recorded.1 ∧ Captured recorded) ?_
    start inputs).2
  rintro ⟨state, values⟩ input ⟨sound, captured⟩
  exact ⟨sound.step input, captured_effect captured (step_effect sound input)⟩

section Sequences

/-- The sequence number of the next wait of a signal, if the record is that signal. -/
def nextOf (entry : Option Signal) (generation : UInt64) : Option ℕ :=
  (entry.filter fun signal => signal.generation == generation).map fun signal =>
    signal.lastSequence.toNat + 1

/-- The sequence number of the next wait of a signal that is or will be there. -/
def nextSequence (slot : Fin MaximumSignals) (generation : UInt64) (state : HostGPUSignalState) :
    Option ℕ :=
  if state.generations.bound ≤ generation.toNat then some 1
  else nextOf (state.signals slot) generation

/-- The sequence number of the wait of the signal that an operation accepts. -/
def acceptedWait (slot : Fin MaximumSignals) (generation : UInt64) (state : HostGPUSignalState)
    (input : Input) : List ℕ :=
  match state.accepts input with
  | none => []
  | some (other, stamp, sequence, _) =>
    if other = slot ∧ stamp = generation then [sequence.toNat] else []

theorem nextOf_same {old new : Signal} (generation : UInt64)
    (same : new.generation = old.generation) (last : new.lastSequence = old.lastSequence) :
    nextOf (some new) generation = nextOf (some old) generation := by
  unfold nextOf
  by_cases mine : old.generation = generation
  · simp [Option.filter_some, same, mine, last]
  · simp [Option.filter_some, same, mine]

theorem nextOf_other {signal : Signal} {generation : UInt64} (other : signal.generation ≠ generation) :
    nextOf (some signal) generation = none := by
  simp [nextOf, Option.filter_some, other]

theorem nextOf_mine (signal : Signal) :
    nextOf (some signal) signal.generation = some (signal.lastSequence.toNat + 1) := by
  simp [nextOf, Option.filter_some]

/-- A record that is replaced by one of the same signal and number. -/
theorem nextSequence_put {old new : Signal} (here : state.signals slot = some old)
    (same : new.generation = old.generation) (last : new.lastSequence = old.lastSequence)
    (other : Fin MaximumSignals) (generation : UInt64) :
    nextSequence other generation (state.setSignal slot new) =
      nextSequence other generation state := by
  unfold nextSequence setSignal
  dsimp only
  split
  · rfl
  · rw [SlotTable.put_apply]
    split
    · rename_i hit
      rw [hit, here, nextOf_same generation same last]
    · rfl

theorem next_effect (sound : Sound state) (effect : Effect state input after)
    (slot : Fin MaximumSignals) (generation : UInt64) :
    (acceptedWait slot generation state input = [] ∧
      (nextSequence slot generation after = nextSequence slot generation state ∨
        nextSequence slot generation after = none)) ∨
    ∃ number, nextSequence slot generation state = some number ∧
      acceptedWait slot generation state input = [number] ∧
      nextSequence slot generation after = some (number + 1) := by
  have nothing : state.accepts input = none → acceptedWait slot generation state input = [] := by
    intro accepts
    rw [acceptedWait, accepts]
  cases effect with
  | quiet sets accepts whole quiet =>
    refine .inl ⟨nothing accepts, ?_⟩
    unfold nextSequence
    rw [quiet.generations]
    split
    · exact .inl rfl
    cases found : after.signals slot with
    | none => exact .inr rfl
    | some new =>
      obtain ⟨old, there, same⟩ := quiet.origin slot new found
      rw [there]
      exact .inl (nextOf_same generation same.generation same.lastSequence)
  | created free owner value issued generations sets accepts open_ taken =>
    refine .inl ⟨nothing accepts, ?_⟩
    obtain ⟨-, first, moved⟩ := IssueCounter.take_spec taken
    unfold nextSequence
    dsimp only
    rw [SlotTable.put_apply]
    by_cases late : generations.bound ≤ generation.toNat
    · rw [if_pos late, if_pos (by omega)]
      exact .inl rfl
    rw [if_neg late]
    by_cases fresh : state.generations.bound ≤ generation.toNat
    · -- the generation is the one handed out now
      obtain rfl : issued = generation := UInt64.toNat_inj.mp (by omega)
      rw [if_pos fresh]
      split
      · exact .inl (nextOf_mine _)
      · cases found : state.signals slot with
        | none => exact .inr rfl
        | some signal =>
          have before : signal.generation.toNat < _ := sound.stamped slot signal found
          refine .inr (nextOf_other ?_)
          rintro rfl
          omega
    · rw [if_neg fresh]
      split
      · refine .inr (nextOf_other ?_)
        rintro rfl
        exact fresh first.ge
      · exact .inl rfl
  | stored which old value now sets accepts here due =>
    obtain ⟨-, same, -, last, -⟩ := old.hold_spec value now
    exact .inl ⟨nothing accepts, .inl (nextSequence_put here same last slot generation)⟩
  | waited which old header sequence condition compareValue now sets accepts here idle next room due =>
    by_cases mine : which = slot ∧ old.generation = generation
    · obtain ⟨rfl, rfl⟩ := mine
      have before : ¬ state.generations.bound ≤ old.generation.toNat :=
        not_le.mpr (sound.stamped which old here)
      have counted := toNat_of_isNextSequence next
      refine .inr ⟨old.lastSequence.toNat + 1, ?_, ?_, ?_⟩
      · rw [nextSequence, if_neg before, here, nextOf_mine]
      · rw [acceptedWait, accepts]
        dsimp only
        rw [if_pos ⟨rfl, rfl⟩, counted]
      · rw [nextSequence]
        dsimp only
        rw [if_neg before, SlotTable.put_same, ← counted]
        exact nextOf_mine _
    · refine .inl ⟨?_, ?_⟩
      · rw [acceptedWait, accepts]
        exact if_neg mine
      unfold nextSequence
      dsimp only
      split
      · exact .inl rfl
      rw [SlotTable.put_apply]
      split
      · rename_i hit
        exact .inr (nextOf_other fun same => mine ⟨hit.symm, same⟩)
      · exact .inl rfl

/-- The waits of a signal are numbered from one on. -/
theorem acceptedWaits_consecutive (slot : Fin MaximumSignals) (generation : UInt64)
    (inputs : List Input) :
    ∃ count, outputs step (acceptedWait slot generation) boot inputs = List.range' 1 count := by
  have run := outputs_consecutive step Sound (nextSequence slot generation)
    (fun _ input sound => sound.step input)
    (fun _ input sound => next_effect sound (step_effect sound input) slot generation) sound_boot
    inputs
  by_cases positive : 1 ≤ generation.toNat
  · exact run.2 1 (if_pos positive)
  · -- no signal has generation zero
    exact ⟨0, run.1 (if_neg positive)⟩

end Sequences

section Deliveries

/-- The wait of the key was accepted, and is over if it is still there. -/
def Spent (ended : Wait → Prop) (state : HostGPUSignalState) (key : UInt64 × UInt64 × UInt64) : Prop :=
  ∃ slot, slotOfId MaximumSignals key.1 = some slot ∧
    key.2.1.toNat < state.generations.bound ∧
    ∀ signal, state.signals slot = some signal → signal.generation = key.2.1 →
      key.2.2.toNat ≤ signal.lastSequence.toNat ∧
        ∀ wait, signal.wait = some wait → wait.sequence = key.2.2 → ended wait

/-- The wait that a call pops: its signal, the generation and the sequence number. -/
def popped (state : HostGPUSignalState) : Input → List (UInt64 × UInt64 × UInt64)
  | .popReady now => ((state.popReady now).1.map fun completion =>
      (completion.signalId, completion.signalGeneration, completion.sequence)).toList
  | _ => []

/-- The wait that a call completes. -/
def completed (state : HostGPUSignalState) : Input → List (UInt64 × UInt64 × UInt64)
  | .complete completion =>
    if (state.complete completion).1 then
      [(completion.signalId, completion.signalGeneration, completion.sequence)]
    else []
  | _ => []

/-- A wait that is over stays over. -/
theorem Spent.effect {ended : Wait → Prop} {key : UInt64 × UInt64 × UInt64}
    (same : ∀ old new : Wait, old.Same new → ended old → ended new)
    (woken : ∀ (wait : Wait) (value : Int64) (tick : UInt64), ended wait →
      ended { wait with ready := true, capturedValue := value, readyTick := tick })
    (spent : Spent ended state key) (effect : Effect state input after) : Spent ended after key := by
  obtain ⟨slot, named, issued, spent⟩ := spent
  cases effect with
  | quiet sets accepts whole quiet =>
    refine ⟨slot, named, quiet.generations ▸ issued, fun new found mine => ?_⟩
    obtain ⟨old, there, alike⟩ := quiet.origin slot new found
    obtain ⟨counted, waited⟩ := spent old there (alike.generation.symm.trans mine)
    refine ⟨alike.lastSequence ▸ counted, fun wait waiting numbered => ?_⟩
    obtain ⟨before, here, equal⟩ := alike.wait wait waiting
    exact same before wait equal (waited before here (equal.sequence.symm.trans numbered))
  | created free owner value generation generations sets accepts vacant taken =>
    obtain ⟨-, first, moved⟩ := IssueCounter.take_spec taken
    refine ⟨slot, named, by dsimp only; omega, fun new found mine => ?_⟩
    rcases SlotTable.put_eq_some.mp found with ⟨-, rfl⟩ | ⟨-, there⟩
    · -- the signal that is made now has a generation of its own
      have equal : generation = key.2.1 := mine
      rw [equal] at first
      omega
    · exact spent new there mine
  | stored which old value now sets accepts here due =>
    refine ⟨slot, named, issued, fun new found mine => ?_⟩
    rcases SlotTable.put_eq_some.mp found with ⟨rfl, rfl⟩ | ⟨-, there⟩
    · obtain ⟨-, generation, -, last, -⟩ := old.hold_spec value now
      obtain ⟨counted, waited⟩ := spent old here (generation.symm.trans mine)
      refine ⟨last ▸ counted, fun wait waiting numbered => ?_⟩
      obtain ⟨before, there, ⟨-, -, -, rfl⟩ | ⟨-, rfl⟩⟩ := Signal.hold_wait waiting
      · exact woken before value _ (waited before there numbered)
      · exact waited wait there numbered
    · exact spent new there mine
  | waited which old header sequence condition compareValue now sets accepts here idle next room due =>
    refine ⟨slot, named, issued, fun new found mine => ?_⟩
    rcases SlotTable.put_eq_some.mp found with ⟨rfl, rfl⟩ | ⟨-, there⟩
    · obtain ⟨counted, -⟩ := spent old here mine
      have later := toNat_of_isNextSequence next
      refine ⟨by dsimp only; omega, fun wait waiting numbered => ?_⟩
      obtain rfl := Option.some.inj waiting
      have equal : sequence = key.2.2 := numbered
      rw [← equal] at counted
      omega
    · exact spent new there mine

/-- The call that pops a wait marks it. -/
theorem popReady_eq_some {now : UInt64} {completion : Completion}
    (popped : (state.popReady now).1 = some completion) :
    ∃ slot signal wait, slotOfId MaximumSignals completion.signalId = some slot ∧
      state.signals slot = some signal ∧ signal.wait = some wait ∧ wait.ready = true ∧
      wait.queued = false ∧ completion = { owner := signal.owner
                                           header := wait.header
                                           signalId := idOfSlot slot
                                           signalGeneration := signal.generation
                                           sequence := wait.sequence
                                           value := wait.capturedValue
                                           readyTick := wait.readyTick } ∧
      (state.popReady now).2 =
        state.setSignal slot { signal with wait := some { wait with queued := true } } := by
  unfold popReady at popped ⊢
  split at popped
  · cases popped
  rename_i slot signal wait selected
  obtain ⟨here, waiting, ready, unqueued⟩ :=
    selectReady_spec (fun _ _ _ none => by cases none) selected
  obtain rfl := Option.some.inj popped
  exact ⟨slot, signal, wait, slotOfId_idOfSlot maximumSignals_small slot, here, waiting, ready,
    unqueued, rfl, rfl⟩

theorem complete_eq_true {completion : Completion} (done : (state.complete completion).1 = true) :
    ∃ slot signal wait, slotOfId MaximumSignals completion.signalId = some slot ∧
      state.signals slot = some signal ∧ signal.generation = completion.signalGeneration ∧
      signal.wait = some wait ∧ wait.sequence = completion.sequence ∧
      (state.complete completion).2 = state.dropWait slot signal := by
  unfold complete at done ⊢
  split at done
  · cases done
  rename_i slot signal found
  obtain ⟨named, here, -, stamped⟩ := resolve_eq_some.mp found
  split at done
  · cases done
  rename_i pending
  rw [if_neg pending]
  simp only [Bool.not_eq_true', not_or, Bool.not_eq_false] at pending
  obtain ⟨-, pending⟩ := pending
  rw [callbackPending, found] at pending
  cases waiting : signal.wait with
  | none => simp [waiting] at pending
  | some wait =>
    simp only [Option.any_some, waiting, matchesWait, Bool.and_eq_true, beq_iff_eq] at pending
    exact ⟨slot, signal, wait, named, here, stamped, waiting, pending.1.1.2, rfl⟩

theorem mem_popped {key : UInt64 × UInt64 × UInt64} (member : key ∈ state.popped input) :
    ∃ now completion, input = .popReady now ∧ (state.popReady now).1 = some completion ∧
      key = (completion.signalId, completion.signalGeneration, completion.sequence) := by
  cases input with
  | popReady now =>
    simp only [popped, Option.mem_toList, Option.map_eq_some_iff] at member
    obtain ⟨completion, found, rfl⟩ := member
    exact ⟨now, completion, rfl, found, rfl⟩
  | _ => cases member

theorem mem_completed {key : UInt64 × UInt64 × UInt64} (member : key ∈ state.completed input) :
    ∃ completion, input = .complete completion ∧ (state.complete completion).1 = true ∧
      key = (completion.signalId, completion.signalGeneration, completion.sequence) := by
  cases input with
  | complete completion =>
    unfold completed at member
    dsimp only at member
    split at member
    · rename_i done
      exact ⟨completion, rfl, done, List.mem_singleton.mp member⟩
    · cases member
  | _ => cases member

/-- No wait is popped twice. -/
theorem popped_nodup (inputs : List Input) : (outputs step popped boot inputs).Nodup := by
  refine outputs_nodup step Sound (Spent fun wait => wait.queued = true)
    (fun _ input sound => sound.step input) ?_ ?_ ?_ ?_ sound_boot inputs
  · intro state input
    cases input with
    | popReady now =>
      simp only [popped]
      cases (state.popReady now).1 with
      | none => exact List.nodup_nil
      | some completion => exact List.nodup_singleton _
    | _ => exact List.nodup_nil
  · intro state input sound key member
    obtain ⟨now, completion, rfl, found, rfl⟩ := mem_popped member
    obtain ⟨slot, signal, wait, named, here, waiting, -, -, rfl, result⟩ := popReady_eq_some found
    rw [HostGPUSignalState.step, result]
    refine ⟨slot, named, sound.stamped slot signal here, fun new there _ => ?_⟩
    rcases SlotTable.put_eq_some.mp there with ⟨-, rfl⟩ | ⟨ne, -⟩
    · refine ⟨(congrArg UInt64.toNat (sound.latest slot signal wait here waiting)).le, ?_⟩
      intro popped same _
      obtain rfl := Option.some.inj same
      rfl
    · exact absurd rfl ne
  · intro state input key sound spent
    exact spent.effect (fun _ _ same => same.queued) (fun _ _ _ queued => queued)
      (step_effect sound input)
  · intro state input key spent member
    obtain ⟨now, completion, rfl, found, rfl⟩ := mem_popped member
    obtain ⟨slot, signal, wait, named, here, waiting, -, unqueued, rfl, -⟩ := popReady_eq_some found
    obtain ⟨which, also, -, ended⟩ := spent
    obtain rfl := Option.some.inj (named.symm.trans also)
    have queued : wait.queued = true := (ended signal here rfl).2 wait waiting rfl
    rw [unqueued] at queued
    cases queued

/-- No wait is completed twice. -/
theorem completed_nodup (inputs : List Input) : (outputs step completed boot inputs).Nodup := by
  refine outputs_nodup step Sound (Spent fun _ => False) (fun _ input sound => sound.step input)
    ?_ ?_ ?_ ?_ sound_boot inputs
  · intro state input
    cases input with
    | complete completion =>
      simp only [completed]
      split
      · exact List.nodup_singleton _
      · exact List.nodup_nil
    | _ => exact List.nodup_nil
  · intro state input sound key member
    obtain ⟨completion, rfl, done, rfl⟩ := mem_completed member
    obtain ⟨slot, signal, wait, named, here, stamped, waiting, numbered, result⟩ :=
      complete_eq_true done
    rw [HostGPUSignalState.step, result]
    refine ⟨slot, named, stamped ▸ sound.stamped slot signal here, fun new there _ => ?_⟩
    rcases SlotTable.put_eq_some.mp there with ⟨-, rfl⟩ | ⟨ne, -⟩
    · have last := sound.latest slot signal wait here waiting
      refine ⟨(congrArg UInt64.toNat (numbered.symm.trans last)).le, ?_⟩
      intro popped none
      cases none
    · exact absurd rfl ne
  · intro state input key sound spent
    exact spent.effect (fun _ _ _ => id) (fun _ _ _ => id) (step_effect sound input)
  · intro state input key spent member
    obtain ⟨completion, rfl, done, rfl⟩ := mem_completed member
    obtain ⟨slot, signal, wait, named, here, stamped, waiting, numbered, -⟩ := complete_eq_true done
    obtain ⟨which, also, -, ended⟩ := spent
    obtain rfl := Option.some.inj (named.symm.trans also)
    exact (ended signal here stamped).2 wait waiting numbered

end Deliveries

section Handles

/-- Whom a signal belongs to, and its generation. -/
def identity (signal : Signal) : Owner × UInt64 := (signal.owner, signal.generation)

theorem succeeds_effect (effect : Effect state input after) :
    SlotTable.Succeeds identity Prod.snd state.generations.bound state.signals after.signals ∧
      state.generations.bound ≤ after.generations.bound := by
  cases effect with
  | quiet sets accepts whole quiet =>
    refine ⟨fun slot new found => ?_, quiet.generations ▸ le_rfl⟩
    obtain ⟨old, there, same⟩ := quiet.origin slot new found
    exact .inl ⟨old, there, Prod.ext same.owner.symm same.generation.symm⟩
  | created free owner value generation generations sets accepts vacant taken =>
    obtain ⟨-, first, moved⟩ := IssueCounter.take_spec taken
    exact ⟨SlotTable.succeeds_put first.ge, by dsimp only; omega⟩
  | stored which old value now sets accepts here due =>
    obtain ⟨owner, generation, -⟩ := old.hold_spec value now
    exact ⟨SlotTable.succeeds_replace here (Prod.ext owner generation), le_rfl⟩
  | waited which old header sequence condition compareValue now sets accepts here idle next room due =>
    exact ⟨SlotTable.succeeds_replace here rfl, le_rfl⟩

/-- Along a run no signal comes back. -/
theorem succeeds_run (sound : Sound state) (inputs : List Input) :
    SlotTable.Succeeds identity Prod.snd state.generations.bound state.signals
        (runFrom step state inputs).signals ∧
      state.generations.bound ≤ (runFrom step state inputs).generations.bound := by
  induction inputs generalizing state with
  | nil => exact ⟨.refl _, le_rfl⟩
  | cons input rest ih =>
    obtain ⟨first, grows⟩ := succeeds_effect (step_effect sound input)
    obtain ⟨later, more⟩ := ih (sound.step input)
    exact ⟨first.trans later grows, grows.trans more⟩

theorem sound_run (inputs : List Input) : Sound (runFrom step boot inputs) :=
  invariant_runFrom step Sound (fun _ input sound => sound.step input) sound_boot inputs

/-- A handle that named a signal once and does so no longer never names one again. -/
theorem resolve_never_again {owner : Owner} {signalId generation : UInt64} (sound : Sound state)
    (named : (state.resolve owner signalId generation).isSome = true) (middle later : List Input)
    (lost : (runFrom step state middle).resolve owner signalId generation = none) (other : Owner) :
    (runFrom step (runFrom step state middle) later).resolve other signalId generation = none := by
  obtain ⟨⟨slot, signal⟩, found⟩ := Option.isSome_iff_exists.mp named
  obtain ⟨which, here, mine, stamped⟩ := resolve_eq_some.mp found
  obtain ⟨next, grows⟩ := succeeds_run sound middle
  have whole : Sound (runFrom step state middle) :=
    invariant_runFrom step Sound (fun _ input sound => sound.step input) sound middle
  have below : SlotTable.StampedBelow identity Prod.snd state.signals state.generations.bound :=
    fun slot record found => sound.stamped slot record found
  have gone := SlotTable.gone_of_succeeds below here next grows fun record there same => by
    have also := resolve_eq_some.mpr ⟨which, there, (congrArg Prod.fst same).trans mine,
      (congrArg Prod.snd same).trans stamped⟩
    rw [lost] at also
    cases also
  obtain ⟨last, more⟩ := succeeds_run whole later
  have still := gone.succeeds last more
  rw [Option.eq_none_iff_forall_ne_some]
  rintro ⟨slot', again⟩ found
  obtain ⟨also, there, -, same⟩ := resolve_eq_some.mp found
  obtain rfl := Option.some.inj (which.symm.trans also)
  exact still.2 again there (same.trans stamped.symm)

end Handles

section Law

/-- The operation was rejected, or it found nothing to do. -/
def refused (state : HostGPUSignalState) : Input → Bool
  | .submit owner header request now => (state.submit owner header request now).1.status != .ok
  | .popReady now => (state.popReady now).1.isNone
  | .complete completion => !(state.complete completion).1
  | .disconnect _ => false
  | .clear => false
  | .pinPinnedDispatchSignal owner signalId generation requestId =>
    !(state.pinPinnedDispatchSignal owner signalId generation requestId).1
  | .pinGenericDispatchSignal owner signalId generation requestId =>
    !(state.pinGenericDispatchSignal owner signalId generation requestId).1
  | .mirrorPinnedDispatchCompletion owner signalId generation requestId value now =>
    !(state.mirrorPinnedDispatchCompletion owner signalId generation requestId value now).1
  | .releasePinnedDispatchSignal owner signalId generation requestId =>
    !(state.releasePinnedDispatchSignal owner signalId generation requestId).1

theorem submit_refused {owner : Owner} {header : Header} {request : SignalRequest} {now : UInt64}
    (refused : (state.submit owner header request now).1.status ≠ .ok) :
    (state.submit owner header request now).2 = state := by
  generalize result : state.submit owner header request now = reply at refused ⊢
  unfold submit at result
  split at result
  · unfold create at result
    dsimp only at result
    split at result
    · exact result ▸ rfl
    split at result
    · exact result ▸ rfl
    split at result
    · exact result ▸ rfl
    · exact absurd (result ▸ rfl) refused
  dsimp only at result
  split at result
  · exact result ▸ rfl
  split at result
  · exact result ▸ rfl
  · split at result
    · exact result ▸ rfl
    · exact absurd (result ▸ rfl) refused
  · exact result ▸ rfl
  · split at result
    · exact result ▸ rfl
    split at result
    · exact result ▸ rfl
    · exact absurd (result ▸ rfl) refused
  · split at result
    · exact result ▸ rfl
    split at result
    · exact result ▸ rfl
    split at result
    · exact result ▸ rfl
    split at result
    · exact result ▸ rfl
    · exact absurd (result ▸ rfl) refused

theorem pin_refused {status : Status} {owner : Owner} {signalId generation requestId : UInt64}
    (refused : (state.pin status owner signalId generation requestId).1 = false) :
    (state.pin status owner signalId generation requestId).2 = state := by
  unfold pin at refused ⊢
  split
  · rfl
  rename_i valid
  rw [if_neg valid] at refused
  split
  · rfl
  · rename_i slot signal found
    rw [found] at refused
    cases refused

theorem popReady_refused {now : UInt64} (refused : (state.popReady now).1 = none) :
    (state.popReady now).2 = state := by
  unfold popReady at refused ⊢
  split
  · rfl
  · rename_i slot signal wait selected
    rw [selected] at refused
    cases refused

theorem complete_refused {completion : Completion}
    (refused : (state.complete completion).1 = false) : (state.complete completion).2 = state := by
  unfold complete at refused ⊢
  split
  · rfl
  rename_i slot signal found
  rw [found] at refused
  split
  · rfl
  · rename_i pending
    dsimp only at refused
    rw [if_neg pending] at refused
    cases refused

theorem mirror_refused {owner : Owner} {signalId generation requestId : UInt64} {value : Int64}
    {now : UInt64}
    (refused : (state.mirrorPinnedDispatchCompletion owner signalId generation requestId value
      now).1 = false) :
    (state.mirrorPinnedDispatchCompletion owner signalId generation requestId value now).2 =
      state := by
  unfold mirrorPinnedDispatchCompletion at refused ⊢
  split
  · rfl
  rename_i slot signal found
  rw [found] at refused
  split
  · rfl
  · rename_i due
    dsimp only at refused
    rw [if_neg due] at refused
    cases refused

theorem releasePinned_refused {owner : Owner} {signalId generation requestId : UInt64}
    (refused : (state.releasePinnedDispatchSignal owner signalId generation requestId).1 = false) :
    (state.releasePinnedDispatchSignal owner signalId generation requestId).2 = state := by
  unfold releasePinnedDispatchSignal at refused ⊢
  split
  · rfl
  · rename_i slot signal found
    rw [found] at refused
    cases refused

/-- A rejected operation changes nothing. -/
theorem step_of_refused (refused : state.refused input = true) : state.step input = state := by
  cases input with
  | submit owner header request now => exact submit_refused (bne_iff_ne.mp refused)
  | popReady now => exact popReady_refused (Option.isNone_iff_eq_none.mp refused)
  | complete completion => exact complete_refused ((Bool.not_eq_true' _).mp refused)
  | disconnect owner => cases refused
  | clear => cases refused
  | pinPinnedDispatchSignal owner signalId generation requestId =>
    exact pin_refused ((Bool.not_eq_true' _).mp refused)
  | pinGenericDispatchSignal owner signalId generation requestId =>
    exact pin_refused ((Bool.not_eq_true' _).mp refused)
  | mirrorPinnedDispatchCompletion owner signalId generation requestId value now =>
    exact mirror_refused ((Bool.not_eq_true' _).mp refused)
  | releasePinnedDispatchSignal owner signalId generation requestId =>
    exact releasePinned_refused ((Bool.not_eq_true' _).mp refused)

/-- The signals after a run. -/
def reached (inputs : List Input) : HostGPUSignalState := runFrom step boot inputs

/-- The values every signal held since its wait was accepted, after a run. -/
def valuesHeld (inputs : List Input) : Fin MaximumSignals → Values :=
  (runFrom recordStep (boot, fun _ => []) inputs).2

/-- The completion is that of a pending wait, with the first value that satisfied it. -/
structure Delivers (state : HostGPUSignalState) (values : Fin MaximumSignals → Values)
    (completion : Completion) (slot : Fin MaximumSignals) (signal : Signal) (wait : Wait)
    (value : Int64 × UInt64) : Prop where
  here : state.signals slot = some signal
  waiting : signal.wait = some wait
  signalId : completion.signalId = idOfSlot slot
  signalGeneration : completion.signalGeneration = signal.generation
  owner : completion.owner = signal.owner
  header : completion.header = wait.header
  sequence : completion.sequence = wait.sequence
  first : (values slot).find? (fun value => wait.satisfied value.1) = some value
  captured : completion.value = value.1
  readyTick : completion.readyTick.toNat = value.2.toNat + 1

/-- What holds of the signals after a run, and of the run. -/
structure SignalLaw (inputs : List Input) : Prop where
  liveSignals : (reached inputs).liveSignals.toNat = (reached inputs).signals.live
  liveWaits : (reached inputs).liveWaits.toNat = (reached inputs).signals.total Signal.waits
  numbered : ∀ slot generation, ∃ count,
    outputs step (acceptedWait slot generation) boot inputs = List.range' 1 count
  captured : ∀ slot signal wait, (reached inputs).signals slot = some signal →
    signal.wait = some wait → Captures signal wait (valuesHeld inputs slot)
  delivers : ∀ now completion, ((reached inputs).popReady now).1 = some completion →
    ∃ slot signal wait value,
      Delivers (reached inputs) (valuesHeld inputs) completion slot signal wait value
  poppedOnce : (outputs step popped boot inputs).Nodup
  completedOnce : (outputs step completed boot inputs).Nodup
  refused : ∀ input, (reached inputs).refused input = true →
    (reached inputs).step input = reached inputs
  gone : ∀ middle later owner other signalId generation,
    ((reached inputs).resolve owner signalId generation).isSome = true →
    (reached (inputs ++ middle)).resolve owner signalId generation = none →
    (reached (inputs ++ middle ++ later)).resolve other signalId generation = none

/-- Every run of the signals meets the law. -/
theorem signalLaw (inputs : List Input) : SignalLaw inputs := by
  have sound : Sound (reached inputs) := sound_run inputs
  have recorded := recordStep_run (boot, fun _ => []) inputs
  have captured : ∀ slot signal wait, (reached inputs).signals slot = some signal →
      signal.wait = some wait → Captures signal wait (valuesHeld inputs slot) := by
    intro slot signal wait here waiting
    refine captured_run inputs slot signal wait ?_ waiting
    rw [recorded]
    exact here
  refine ⟨sound.signals, sound.waits, fun slot generation =>
    acceptedWaits_consecutive slot generation inputs, captured, ?_,
    popped_nodup inputs, completed_nodup inputs, fun _ => step_of_refused, ?_⟩
  · intro now completion popped
    obtain ⟨slot, signal, wait, -, here, waiting, ready, -, rfl, -⟩ := popReady_eq_some popped
    obtain ⟨value, first, same, tick⟩ := (captured slot signal wait here waiting).first ready
    exact ⟨slot, signal, wait, value, here, waiting, rfl, rfl, rfl, rfl, rfl, first, same, tick⟩
  · intro middle later owner other signalId generation named lost
    unfold reached at lost ⊢
    rw [runFrom_append] at lost
    rw [runFrom_append, runFrom_append]
    exact resolve_never_again sound named middle later lost other

end Law

end HostGPUSignalState

end GemSim.Bridge
