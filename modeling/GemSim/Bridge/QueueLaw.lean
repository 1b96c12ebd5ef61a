import GemSim.Bridge.QueueEffect

/-!
# The law of the queues

Beside the queues a history keeps what each queue accepted and completed since it was made.
In every run whose ticks do not decrease and whose requests have ids, the commands in line
are the recorded requests, one for one. A queue completes what it accepted in sequence order,
and it ends with everything completed unless its owner disconnects. A rejected submit changes
nothing.

## Main definitions

* `History` — the queues with what they accepted and completed, and the last tick
* `Sound` — what holds after every step
* `Entry`, `InFlight` — a recorded request
* `QueueLaw` — what holds of the queues after a run

## Main results

* `Sound.step` — every step keeps the history sound
* `queueLaw_of_run` — every run of timely steps with named requests meets the law
-/

namespace GemSim.Bridge

open GemSim.Lib
open GemSim.Kmt (Status)

namespace HostGPUQueueState

/-- The queues, what each one accepted and completed since it was made, and the last tick. -/
structure History where
  state : HostGPUQueueState := boot
  accepted : UInt64 → List Command := fun _ => []
  completed : UInt64 → List Command := fun _ => []
  clock : UInt64 := 0

/-- The tick of a submit or a pop. -/
def Input.tick : Input → Option UInt64
  | .submit _ _ _ now => some now
  | .popReady now => some now
  | _ => none

/-- The tick is not before the last one. -/
def Timely (history : History) (input : Input) : Prop :=
  ∀ now, input.tick = some now → history.clock ≤ now

/-- A submitted record has a request id. -/
def Named : Input → Prop
  | .submit _ header _ _ => header.requestId ≠ 0
  | _ => True

namespace History

/-- Note what a submit makes or accepts. -/
def noteSubmit (history : History) (owner : Owner) (header : Header) (request : QueueRequest)
    (now : UInt64) : History :=
  let decision := (history.state.submit owner header request now).1
  if decision.commandAccepted then
    { history with
      accepted := Function.update history.accepted request.queueId
        (history.accepted request.queueId ++ [commandOf owner header request now]) }
  else if request.opcode = .create ∧ decision.response.status = .ok then
    { history with
      accepted := Function.update history.accepted decision.response.queueId []
      completed := Function.update history.completed decision.response.queueId [] }
  else history

/-- Note the command that a pop completes. -/
def notePop (history : History) (now : UInt64) : History :=
  match (history.state.popReady now).1 with
  | none => history
  | some command =>
    { history with
      completed := Function.update history.completed command.queueId
        (history.completed command.queueId ++ [command]) }

def note (history : History) : Input → History
  | .submit owner header request now => history.noteSubmit owner header request now
  | .popReady now => history.notePop now
  | _ => history

def step (history : History) (input : Input) : History :=
  { history.note input with
    state := history.state.step input
    clock := input.tick.getD history.clock }

end History

instance (history : History) (input : Input) : Decidable (Timely history input) :=
  decidableForallSome input.tick fun now => history.clock ≤ now

instance (input : Input) : Decidable (Named input) :=
  match input with
  | .submit _ header _ _ => inferInstanceAs (Decidable (header.requestId ≠ 0))
  | .popReady _ => isTrue trivial
  | .disconnect _ => isTrue trivial
  | .clear => isTrue trivial
  | .pinPinnedDispatch _ _ _ _ _ => isTrue trivial
  | .releasePinnedDispatch _ _ _ _ => isTrue trivial
  | .cancelPinnedDispatch _ _ _ _ _ => isTrue trivial

/-- What holds after every step. -/
structure Sound (history : History) : Prop where
  queueIds : history.state.nextQueueId ≠ 0
  generations : history.state.nextQueueGeneration ≠ 0
  queues : history.state.queues.size ≤ MaximumQueues
  commands : history.state.commands.length ≤ MaximumInflight
  serves : ∀ queueId queue, history.state.queues[queueId]? = some queue →
    Serves queueId queue (history.accepted queueId) (history.completed queueId)
      (history.state.pending queueId)
  live : ∀ command ∈ history.state.commands, ∃ queue,
    history.state.queues[command.queueId]? = some queue
  named : ∀ command ∈ history.state.commands, command.header.requestId ≠ 0
  sorted : history.state.commands.Pairwise fun first second => first.readyTick ≤ second.readyTick
  soon : ∀ command ∈ history.state.commands,
    command.readyTick.toNat ≤ history.clock.toNat + 1

theorem sound_boot : Sound {} where
  queueIds := by decide
  generations := by decide
  queues := Nat.zero_le _
  commands := Nat.zero_le _
  serves := by
    intro queueId queue here
    simp [boot] at here
  live := by simp [boot]
  named := by simp [boot]
  sorted := .nil
  soon := by simp [boot]

section Submit

variable {state : HostGPUQueueState} {owner : Owner} {header : Header} {request : QueueRequest}
  {now : UInt64}

/-- A create is rejected, or makes a queue with a free id. -/
theorem create_cases (queueIds : state.nextQueueId ≠ 0)
    (generations : state.nextQueueGeneration ≠ 0) :
    ((state.create owner request now).1.response.status ≠ .ok ∧
        (state.create owner request now).1.commandAccepted = false ∧
        (state.create owner request now).2 = state) ∨
      ∃ queueId next, queueId ∉ state.queues ∧ state.queues.size < MaximumQueues ∧ next ≠ 0 ∧
        (state.create owner request now).1.response.status = .ok ∧
        (state.create owner request now).1.commandAccepted = false ∧
        (state.create owner request now).1.response.queueId = queueId ∧
        (state.create owner request now).2 =
          { state with
            queues := state.queues.insert queueId
              { owner := owner
                generation := state.nextQueueGeneration
                depth := request.arg0 }
            nextQueueId := next
            nextQueueGeneration := following state.nextQueueGeneration } := by
  unfold create
  dsimp only
  split
  · exact .inl ⟨by simp, rfl, rfl⟩
  · rename_i room
    rw [ge_iff_le, not_le] at room
    obtain ⟨positive, free, next, after, allocated⟩ := allocateQueueId_spec queueIds room
    have valid : ¬(state.allocateQueueId.1 = 0 ∨
        state.allocateQueueId.2.allocateQueueGeneration.1 = 0) := by
      rw [allocated]
      exact not_or.mpr ⟨positive, generations⟩
    rw [if_neg valid]
    refine .inr ⟨state.allocateQueueId.1, next, free, room, after, rfl, rfl, rfl, ?_⟩
    rw [allocated]
    rfl

/-- A destroy is rejected, or ends an idle queue of the owner. -/
theorem destroy_cases :
    ((state.destroy owner request now).1.response.status ≠ .ok ∧
        (state.destroy owner request now).1.commandAccepted = false ∧
        (state.destroy owner request now).2 = state) ∨
      ∃ queue, state.resolve owner request.queueId request.generation = some queue ∧
        queue.requestIdBySequence = ∅ ∧
        (state.destroy owner request now).1.response.status = .ok ∧
        (state.destroy owner request now).1.commandAccepted = false ∧
        (state.destroy owner request now).2 =
          { state with queues := state.queues.erase request.queueId } := by
  unfold destroy
  dsimp only
  split
  · exact .inl ⟨by simp, rfl, rfl⟩
  · rename_i queue found
    split
    · exact .inl ⟨by simp, rfl, rfl⟩
    · rename_i idle
      rw [not_or, Bool.not_eq_true', Bool.not_eq_false, Std.ExtTreeMap.isEmpty_iff] at idle
      exact .inr ⟨queue, found, idle.1, rfl, rfl, rfl⟩

/-- A doorbell is rejected, or adds one command to the line. -/
theorem doorbell_cases :
    ((state.doorbell owner header request now).1.response.status ≠ .ok ∧
        (state.doorbell owner header request now).1.commandAccepted = false ∧
        (state.doorbell owner header request now).2 = state) ∨
      ∃ queue, state.resolve owner request.queueId request.generation = some queue ∧
        isNextSequence queue.lastSequence request.sequence = true ∧
        queue.dispatchRequestId = 0 ∧ state.commands.length < MaximumInflight ∧
        queue.requestIdBySequence.size < queue.depth.toNat ∧ now ≠ u64Max ∧
        (state.doorbell owner header request now).1.response.status = .ok ∧
        (state.doorbell owner header request now).1.commandAccepted = true ∧
        (state.doorbell owner header request now).2 =
          { state with
            queues := state.queues.insert request.queueId
              { queue with
                lastSequence := request.sequence
                requestIdBySequence :=
                  queue.requestIdBySequence.insert request.sequence header.requestId }
            commands := state.commands ++ [commandOf owner header request now] } := by
  unfold doorbell
  dsimp only
  split
  · exact .inl ⟨by simp, rfl, rfl⟩
  rename_i queue found
  split
  · exact .inl ⟨by simp, rfl, rfl⟩
  rename_i next
  split
  · exact .inl ⟨by simp, rfl, rfl⟩
  split
  · exact .inl ⟨by simp, rfl, rfl⟩
  rename_i free
  split
  · exact .inl ⟨by simp, rfl, rfl⟩
  rename_i room
  split
  · exact .inl ⟨by simp, rfl, rfl⟩
  rename_i early
  split
  · exact .inl ⟨by simp, rfl, rfl⟩
  rw [not_or, ge_iff_le, ge_iff_le, not_le, not_le] at room
  exact .inr ⟨queue, found, by simpa using next, not_not.mp free, room.1, room.2, early, rfl, rfl,
    rfl⟩

/-- A rejected submit changes nothing. -/
theorem submit_rejected (queueIds : state.nextQueueId ≠ 0)
    (generations : state.nextQueueGeneration ≠ 0)
    (rejected : (state.submit owner header request now).1.response.status ≠ .ok) :
    (state.submit owner header request now).2 = state := by
  unfold submit at rejected ⊢
  cases opcode : request.opcode with
  | create =>
    rw [opcode] at rejected
    rcases create_cases queueIds generations with ⟨-, -, same⟩ | ⟨_, _, -, -, -, accepted, -⟩
    · exact same
    · exact absurd accepted rejected
  | destroy =>
    rw [opcode] at rejected
    rcases destroy_cases with ⟨-, -, same⟩ | ⟨_, -, -, accepted, -⟩
    · exact same
    · exact absurd accepted rejected
  | doorbell =>
    rw [opcode] at rejected
    rcases doorbell_cases with ⟨-, -, same⟩ | ⟨_, -, -, -, -, -, -, accepted, -⟩
    · exact same
    · exact absurd accepted rejected

end Submit

section Steps

variable {history : History} {owner : Owner} {queueId now : UInt64} {queue new : Queue}
  {command : Command} {rest : List Command}

theorem Sound.mem_pending (sound : Sound history) (member : command ∈ history.state.commands) :
    ∃ queue, history.state.queues[command.queueId]? = some queue ∧
      Serves command.queueId queue (history.accepted command.queueId)
        (history.completed command.queueId) (history.state.pending command.queueId) ∧
      command ∈ history.state.pending command.queueId := by
  obtain ⟨queue, here⟩ := sound.live command member
  refine ⟨queue, here, sound.serves _ _ here, ?_⟩
  exact List.mem_filter.mpr ⟨member, beq_self_eq_true _⟩

/-- Time passes. -/
theorem Sound.wait (sound : Sound history) (timely : history.clock ≤ now) :
    Sound { history with clock := now } := by
  refine ⟨sound.queueIds, sound.generations, sound.queues, sound.commands, sound.serves,
    sound.live, sound.named, sound.sorted, ?_⟩
  intro command member
  have before := sound.soon command member
  have later := UInt64.le_iff_toNat_le.mp timely
  dsimp only
  omega

/-- A queue changes without a command. -/
theorem Sound.replace (sound : Sound history) {queues : Std.ExtTreeMap UInt64 Queue}
    (after : ∀ other, queues[other]? =
      if queueId = other then some new else history.state.queues[other]?)
    (size : queues.size = history.state.queues.size)
    (serves : Serves queueId new (history.accepted queueId) (history.completed queueId)
      (history.state.pending queueId)) :
    Sound { history with state := { history.state with queues := queues } } := by
  refine ⟨sound.queueIds, sound.generations, size.trans_le sound.queues, sound.commands, ?_, ?_,
    sound.named, sound.sorted, sound.soon⟩
  · intro other found there
    rw [after] at there
    split at there
    · rename_i same
      subst same
      rw [← Option.some.inj there]
      exact serves
    · exact sound.serves other found there
  · intro command member
    dsimp only
    rw [after]
    split
    · exact ⟨new, rfl⟩
    · exact sound.live command member

theorem Sound.create (sound : Sound history) {next generation depth : UInt64}
    (free : queueId ∉ history.state.queues) (room : history.state.queues.size < MaximumQueues)
    (positive : next ≠ 0) :
    Sound
      { history with
        state :=
          { history.state with
            queues := history.state.queues.insert queueId
              { owner := owner, generation := generation, depth := depth }
            nextQueueId := next
            nextQueueGeneration := following history.state.nextQueueGeneration }
        accepted := Function.update history.accepted queueId []
        completed := Function.update history.completed queueId [] } := by
  have none : history.state.pending queueId = [] := by
    apply List.eq_nil_iff_forall_not_mem.mpr
    intro command member
    obtain ⟨inside, same⟩ := List.mem_filter.mp member
    obtain ⟨queue, here⟩ := sound.live command inside
    rw [beq_iff_eq.mp same] at here
    exact free (Std.ExtTreeMap.mem_iff_isSome_getElem?.mpr (here ▸ rfl))
  refine ⟨positive, following_ne_zero _, ?_, sound.commands, ?_, ?_, sound.named, sound.sorted,
    sound.soon⟩
  · exact Nat.le_trans Std.ExtTreeMap.size_insert_le room
  · intro other found there
    simp only [Std.ExtTreeMap.getElem?_insert, Std.compare_eq_iff_eq] at there
    split at there
    · rename_i same
      subst same
      rw [← Option.some.inj there]
      dsimp only [pending] at none ⊢
      rw [Function.update_self, Function.update_self, none]
      exact Serves.fresh queueId owner generation depth
    · rename_i different
      dsimp only
      rw [Function.update_of_ne (Ne.symm different), Function.update_of_ne (Ne.symm different)]
      exact sound.serves other found there
  · intro command member
    simp only [Std.ExtTreeMap.getElem?_insert, Std.compare_eq_iff_eq]
    split
    · exact ⟨_, rfl⟩
    · exact sound.live command member

theorem Sound.destroy (sound : Sound history) (here : history.state.queues[queueId]? = some queue)
    (empty : queue.requestIdBySequence = ∅) :
    Sound
      { history with
        state := { history.state with queues := history.state.queues.erase queueId } } := by
  have none := (sound.serves queueId queue here).pending_empty empty
  refine ⟨sound.queueIds, sound.generations, ?_, sound.commands, ?_, ?_, sound.named,
    sound.sorted, sound.soon⟩
  · exact Nat.le_trans Std.ExtTreeMap.size_erase_le sound.queues
  · intro other found there
    simp only [Std.ExtTreeMap.getElem?_erase, Std.compare_eq_iff_eq] at there
    split at there
    · cases there
    · exact sound.serves other found there
  · intro command member
    obtain ⟨queue, there, -, inside⟩ := sound.mem_pending member
    simp only [Std.ExtTreeMap.getElem?_erase, Std.compare_eq_iff_eq]
    split
    · rename_i same
      rw [← same, none] at inside
      cases inside
    · exact ⟨queue, there⟩

theorem Sound.accept (sound : Sound history)
    (here : history.state.queues[command.queueId]? = some queue)
    (owned : command.owner = queue.owner) (stamped : command.queueGeneration = queue.generation)
    (next : isNextSequence queue.lastSequence command.sequence = true)
    (free : queue.dispatchRequestId = 0) (line : history.state.commands.length < MaximumInflight)
    (room : queue.requestIdBySequence.size < queue.depth.toNat)
    (named : command.header.requestId ≠ 0)
    (due : command.readyTick.toNat = history.clock.toNat + 1) :
    Sound
      { history with
        state :=
          { history.state with
            queues := history.state.queues.insert command.queueId
              { queue with
                lastSequence := command.sequence
                requestIdBySequence :=
                  queue.requestIdBySequence.insert command.sequence command.header.requestId }
            commands := history.state.commands ++ [command] }
        accepted := Function.update history.accepted command.queueId
          (history.accepted command.queueId ++ [command]) } := by
  have member : command.queueId ∈ history.state.queues :=
    Std.ExtTreeMap.mem_iff_isSome_getElem?.mpr (here ▸ rfl)
  refine ⟨sound.queueIds, sound.generations, ?_, ?_, ?_, ?_, ?_, ?_, ?_⟩
  · dsimp only
    rw [Std.ExtTreeMap.size_insert, if_pos (Std.ExtTreeMap.contains_iff_mem.mpr member)]
    exact sound.queues
  · rw [List.length_append, List.length_singleton]
    exact line
  · intro other found there
    simp only [Std.ExtTreeMap.getElem?_insert, Std.compare_eq_iff_eq] at there
    simp only [pending, List.filter_append, List.filter_singleton]
    split at there
    · rename_i same
      subst same
      rw [← Option.some.inj there, Function.update_self, beq_self_eq_true, cond_true]
      exact (sound.serves _ queue here).accept owned rfl stamped next free room
    · rename_i different
      rw [Function.update_of_ne (Ne.symm different), beq_eq_false_iff_ne.mpr different, cond_false,
        List.append_nil]
      exact sound.serves other found there
  · intro other member
    simp only [Std.ExtTreeMap.getElem?_insert, Std.compare_eq_iff_eq]
    split
    · exact ⟨_, rfl⟩
    · rename_i different
      rcases List.mem_append.mp member with old | new
      · exact sound.live other old
      · exact absurd (congrArg Command.queueId (List.mem_singleton.mp new)).symm different
  · intro other member
    rcases List.mem_append.mp member with old | new
    · exact sound.named other old
    · exact List.mem_singleton.mp new ▸ named
  · refine List.pairwise_append.mpr ⟨sound.sorted, List.pairwise_singleton _ _, ?_⟩
    intro other old new single
    rw [List.mem_singleton.mp single, UInt64.le_iff_toNat_le, due]
    exact sound.soon other old
  · intro other member
    rcases List.mem_append.mp member with old | new
    · exact sound.soon other old
    · rw [List.mem_singleton.mp new]
      exact due.le

/-- The first command in line completes. -/
theorem Sound.complete (sound : Sound history) (line : history.state.commands = command :: rest) :
    Sound
      { history with
        state := { history.state.settle command with commands := rest }
        completed := Function.update history.completed command.queueId
          (history.completed command.queueId ++ [command]) } := by
  have first : command ∈ history.state.commands := line ▸ List.mem_cons_self
  have left : ∀ other ∈ rest, other ∈ history.state.commands :=
    fun other member => line ▸ List.mem_cons_of_mem command member
  obtain ⟨queue, here, serves, -⟩ := sound.mem_pending first
  refine ⟨sound.queueIds, sound.generations, ?_, ?_, ?_, ?_,
    fun other member => sound.named other (left other member), ?_,
    fun other member => sound.soon other (left other member)⟩
  · exact Std.ExtTreeMap.size_modify.trans_le sound.queues
  · have short := sound.commands
    rw [line, List.length_cons] at short
    exact Nat.le_of_succ_le short
  · intro other found there
    simp only [settle, Std.ExtTreeMap.getElem?_modify, Std.compare_eq_iff_eq] at there
    simp only [pending]
    split at there
    · rename_i same
      subst same
      rw [here] at there
      rw [← Option.some.inj there, Function.update_self]
      refine Serves.complete ?_
      rw [pending, line, List.filter_cons_of_pos (by simp)] at serves
      exact serves
    · rename_i different
      have untouched := sound.serves other found there
      rw [pending, line, List.filter_cons_of_neg (by simpa using different)] at untouched
      rw [Function.update_of_ne (Ne.symm different)]
      exact untouched
  · intro other member
    obtain ⟨found, there⟩ := sound.live other (left other member)
    simp only [settle, Std.ExtTreeMap.getElem?_modify, Std.compare_eq_iff_eq]
    split
    · rw [here]
      exact ⟨_, rfl⟩
    · exact ⟨found, there⟩
  · have sorted := sound.sorted
    rw [line] at sorted
    exact (List.pairwise_cons.mp sorted).2

/-- The end of an owner takes the commands of the owner, and the queues that no dispatch pins. -/
theorem Sound.disconnect (sound : Sound history) (owner : Owner) :
    Sound { history with state := history.state.disconnect owner } := by
  have left : ∀ command ∈ (history.state.disconnect owner).commands,
      command ∈ history.state.commands := fun command member => List.mem_of_mem_filter member
  refine ⟨sound.queueIds, sound.generations, ?_, ?_, ?_, ?_,
    fun command member => sound.named command (left command member), sound.sorted.filter _,
    fun command member => sound.soon command (left command member)⟩
  · exact Nat.le_trans Std.ExtTreeMap.size_filter_le_size sound.queues
  · exact Nat.le_trans (List.length_filter_le _ _) sound.commands
  · intro queueId queue there
    simp only [HostGPUQueueState.disconnect, Std.ExtTreeMap.getElem?_filter',
      Option.filter_eq_some_iff] at there
    obtain ⟨here, stays⟩ := there
    have serves := sound.serves queueId queue here
    -- the commands of a queue that stays are its own, and it has none if it is pinned
    have same : (history.state.disconnect owner).pending queueId = history.state.pending queueId := by
      rw [pending, HostGPUQueueState.disconnect, List.filter_filter, pending]
      apply List.filter_congr
      intro command member
      by_cases named : command.queueId = queueId
      · have inside : command ∈ history.state.pending queueId :=
          List.mem_filter.mpr ⟨member, beq_iff_eq.mpr named⟩
        have owned := (serves.attributed command (serves.mem_of_pending inside)).1
        have other : command.owner ≠ owner := by
          intro mine
          have pinned : queue.dispatchRequestId ≠ 0 := by
            simpa [← owned, mine] using stays
          rw [serves.pending_empty (serves.idle pinned)] at inside
          cases inside
        simp [named, other]
      · simp [named]
    exact same ▸ serves
  · intro command member
    obtain ⟨inside, other⟩ := List.mem_filter.mp member
    obtain ⟨queue, here, serves, among⟩ := sound.mem_pending inside
    have owned := (serves.attributed command (serves.mem_of_pending among)).1
    refine ⟨queue, ?_⟩
    simp only [HostGPUQueueState.disconnect, Std.ExtTreeMap.getElem?_filter', here,
      Option.filter_eq_some_iff, true_and]
    rw [← owned]
    simp only [Bool.not_eq_true'] at other
    simp [other]

theorem Sound.clear (sound : Sound history) :
    Sound { history with state := history.state.clear } where
  queueIds := sound.queueIds
  generations := sound.generations
  queues := Nat.zero_le _
  commands := Nat.zero_le _
  serves := by
    intro queueId queue here
    simp [HostGPUQueueState.clear] at here
  live := by simp [HostGPUQueueState.clear]
  named := by simp [HostGPUQueueState.clear]
  sorted := .nil
  soon := by simp [HostGPUQueueState.clear]

end Steps

section Runs

variable {history : History} {owner : Owner} {header : Header} {request : QueueRequest}
  {queueId generation sequence requestId now : UInt64} {queue : Queue} {command : Command}

/-- A submit that changes nothing only lets time pass. -/
theorem step_of_rejected
    (rejected : (history.state.submit owner header request now).1.response.status ≠ .ok)
    (declined : (history.state.submit owner header request now).1.commandAccepted = false)
    (same : (history.state.submit owner header request now).2 = history.state) :
    history.step (.submit owner header request now) = { history with clock := now } := by
  have noted : history.note (.submit owner header request now) = history := by
    unfold History.note History.noteSubmit
    dsimp only
    rw [declined, if_neg (by simp), if_neg fun made => rejected made.2]
  unfold History.step
  rw [noted, step, same]
  rfl

theorem Sound.step_create (sound : Sound history) (timely : history.clock ≤ now)
    (opcode : request.opcode = .create) :
    Sound (history.step (.submit owner header request now)) := by
  have submit : history.state.submit owner header request now =
      history.state.create owner request now := by rw [HostGPUQueueState.submit, opcode]
  have cases := @create_cases history.state owner request now sound.queueIds sound.generations
  rcases cases with ⟨rejected, declined, same⟩ |
    ⟨queueId, next, free, room, positive, ok, declined, named, after⟩
  · rw [← submit] at rejected declined same
    rw [step_of_rejected rejected declined same]
    exact sound.wait timely
  · rw [← submit] at ok declined named after
    unfold History.step History.note History.noteSubmit
    dsimp only
    rw [declined, if_neg (by simp), if_pos ⟨opcode, ok⟩, named, HostGPUQueueState.step, after]
    exact (sound.wait timely).create free room positive

theorem Sound.step_destroy (sound : Sound history) (timely : history.clock ≤ now)
    (opcode : request.opcode = .destroy) :
    Sound (history.step (.submit owner header request now)) := by
  have submit : history.state.submit owner header request now =
      history.state.destroy owner request now := by rw [HostGPUQueueState.submit, opcode]
  have cases := @destroy_cases history.state owner request now
  rcases cases with ⟨rejected, declined, same⟩ | ⟨queue, found, empty, ok, declined, after⟩
  · rw [← submit] at rejected declined same
    rw [step_of_rejected rejected declined same]
    exact sound.wait timely
  · rw [← submit] at ok declined after
    unfold History.step History.note History.noteSubmit
    dsimp only
    rw [declined, if_neg (by simp), if_neg (by simp [opcode]), HostGPUQueueState.step, after]
    exact (sound.wait timely).destroy (resolve_eq_some.mp found).1 empty

theorem Sound.step_doorbell (sound : Sound history) (timely : history.clock ≤ now)
    (named : header.requestId ≠ 0) (opcode : request.opcode = .doorbell) :
    Sound (history.step (.submit owner header request now)) := by
  have submit : history.state.submit owner header request now =
      history.state.doorbell owner header request now := by rw [HostGPUQueueState.submit, opcode]
  have cases := @doorbell_cases history.state owner header request now
  rcases cases with ⟨rejected, declined, same⟩ |
    ⟨queue, found, next, free, line, room, early, -, accepted, after⟩
  · rw [← submit] at rejected declined same
    rw [step_of_rejected rejected declined same]
    exact sound.wait timely
  · rw [← submit] at accepted after
    obtain ⟨here, owned, stamped⟩ := resolve_eq_some.mp found
    unfold History.step History.note History.noteSubmit
    dsimp only
    rw [accepted, if_pos rfl, HostGPUQueueState.step, after]
    have waited := sound.wait timely
    exact @Sound.accept _ _ (commandOf owner header request now) waited here owned.symm
      stamped.symm next free line room named (toNat_succ early)

/-- A command in line is still recorded. -/
theorem Sound.callbackPending (sound : Sound history) (member : command ∈ history.state.commands) :
    history.state.callbackPending command = true := by
  obtain ⟨queue, here, serves, among⟩ := sound.mem_pending member
  obtain ⟨owned, -, stamped⟩ := serves.attributed command (serves.mem_of_pending among)
  have found : history.state.resolve command.owner command.queueId command.queueGeneration =
      some queue := resolve_eq_some.mpr ⟨here, owned.symm, stamped.symm⟩
  have recorded := (serves.recorded command.sequence command.header.requestId).mpr
    ⟨command, among, rfl, rfl⟩
  unfold HostGPUQueueState.callbackPending
  simp [found, recorded, sound.named command member]

/-- A pop completes the first command in line if it is due. -/
theorem popReady_cases (sound : Sound history) (now : UInt64) :
    (history.state.popReady now = (none, history.state) ∧
        ∀ command ∈ history.state.commands, now < command.readyTick) ∨
      ∃ command rest, history.state.commands = command :: rest ∧ command.readyTick ≤ now ∧
        history.state.popReady now =
          (some command, { history.state.settle command with commands := rest }) := by
  unfold popReady
  cases line : history.state.commands with
  | nil =>
    refine .inl ⟨?_, by simp⟩
    rw [popCommands, ← line]
  | cons command rest =>
    have first : command ∈ history.state.commands := line ▸ List.mem_cons_self
    unfold popCommands
    split
    · rename_i due
      rw [if_pos (sound.callbackPending first)]
      exact .inr ⟨command, rest, rfl, due, rfl⟩
    · rename_i early
      refine .inl ⟨by rw [← line], ?_⟩
      intro other member
      have sorted := sound.sorted
      rw [line] at sorted
      rw [UInt64.not_le] at early
      rcases List.mem_cons.mp member with rfl | later
      · exact early
      · exact UInt64.lt_of_lt_of_le early ((List.pairwise_cons.mp sorted).1 other later)

theorem Sound.step_popReady (sound : Sound history) (timely : history.clock ≤ now) :
    Sound (history.step (.popReady now)) := by
  unfold History.step History.note History.notePop
  dsimp only
  rcases popReady_cases sound now with ⟨nothing, -⟩ | ⟨command, rest, line, -, popped⟩
  · rw [HostGPUQueueState.step, nothing]
    exact sound.wait timely
  · rw [HostGPUQueueState.step, popped]
    exact (sound.wait timely).complete line

/-- A dispatch pins an idle queue with the next sequence number, or fails. -/
theorem pin_cases {state : HostGPUQueueState} :
    state.pinPinnedDispatch owner queueId generation sequence requestId = (false, state) ∨
      ∃ queue, state.queues[queueId]? = some queue ∧
        isNextSequence queue.lastSequence sequence = true ∧ queue.requestIdBySequence = ∅ ∧
        state.pinPinnedDispatch owner queueId generation sequence requestId =
          (true,
            { state with
              queues := state.queues.modify queueId fun queue =>
                { queue with lastSequence := sequence, dispatchRequestId := requestId } }) := by
  unfold pinPinnedDispatch
  split
  · exact .inl rfl
  · rename_i valid
    refine .inr ?_
    have accepted := (not_not.mp (not_or.mp valid).2)
    unfold validatePinnedDispatch validatePinnedDispatchIdentity pinnedDispatchBusy at accepted
    cases found : state.resolve owner queueId generation with
    | none => simp [found] at accepted
    | some queue =>
      have free : isNextSequence queue.lastSequence sequence = true ∧
          queue.requestIdBySequence = ∅ := by
        by_cases next : isNextSequence queue.lastSequence sequence = true
        · by_cases empty : queue.requestIdBySequence = ∅
          · exact ⟨next, empty⟩
          · simp [found, next, empty] at accepted
        · simp [found, next] at accepted
      exact ⟨queue, (resolve_eq_some.mp found).1, free.1, free.2, rfl⟩

theorem Sound.pinPinnedDispatch (sound : Sound history) :
    Sound
      { history with
        state :=
          (history.state.pinPinnedDispatch owner queueId generation sequence requestId).2 } := by
  have cases := @pin_cases owner queueId generation sequence requestId history.state
  rcases cases with same | ⟨queue, here, next, empty, after⟩
  · rw [same]
    exact sound
  · rw [after]
    refine sound.replace ?_ Std.ExtTreeMap.size_modify 
      ((sound.serves _ queue here).pin next empty requestId)
    intro other
    rw [Std.ExtTreeMap.getElem?_modify, here]
    simp only [Std.compare_eq_iff_eq]
    rfl

/-- A pinned queue is given back. -/
theorem Sound.unpin (sound : Sound history)
    (found : history.state.resolvePinned owner queueId generation requestId = some queue)
    {last : UInt64} (recent : ∀ command ∈ history.accepted queueId, command.sequence ≤ last) :
    Sound
      { history with
        state := history.state.setQueue queueId
          { queue with lastSequence := last, dispatchRequestId := 0 } } := by
  have here := (resolve_eq_some.mp (resolvePinned_eq_some.mp found).2.1).1
  refine sound.replace ?_ ?_ ((sound.serves _ queue here).unpin recent)
  · intro other
    rw [Std.ExtTreeMap.getElem?_insert]
    simp only [Std.compare_eq_iff_eq]
  · rw [Std.ExtTreeMap.size_insert, if_pos]
    exact Std.ExtTreeMap.contains_iff_mem.mpr
      (Std.ExtTreeMap.mem_iff_isSome_getElem?.mpr (here ▸ rfl))

theorem Sound.releasePinnedDispatch (sound : Sound history) :
    Sound
      { history with
        state := (history.state.releasePinnedDispatch owner queueId generation requestId).2 } := by
  unfold HostGPUQueueState.releasePinnedDispatch
  cases found : history.state.resolvePinned owner queueId generation requestId with
  | none => exact sound
  | some queue =>
    have here := (resolve_eq_some.mp (resolvePinned_eq_some.mp found).2.1).1
    exact sound.unpin found (sound.serves _ queue here).recent

theorem Sound.cancelPinnedDispatch (sound : Sound history) :
    Sound
      { history with
        state :=
          (history.state.cancelPinnedDispatch owner queueId generation sequence requestId).2 } := by
  unfold HostGPUQueueState.cancelPinnedDispatch
  cases found : history.state.resolvePinned owner queueId generation requestId with
  | none => exact sound
  | some queue =>
    dsimp only
    split
    · exact sound
    rename_i latest
    rw [not_or, not_not] at latest
    obtain ⟨positive, rfl⟩ := latest
    obtain ⟨issued, resolved, pinned⟩ := resolvePinned_eq_some.mp found
    have serves := sound.serves _ queue (resolve_eq_some.mp resolved).1
    refine sound.unpin found ?_
    intro command member
    have before := UInt64.lt_iff_toNat_lt.mp (serves.below (pinned ▸ issued) command member)
    rw [UInt64.le_iff_toNat_le, toNat_pred positive]
    omega

/-- Every step keeps the history sound. -/
theorem Sound.step (sound : Sound history) {input : Input} (timely : Timely history input)
    (named : Named input) : Sound (history.step input) := by
  cases input with
  | submit owner header request now =>
    cases opcode : request.opcode with
    | create => exact sound.step_create (timely now rfl) opcode
    | destroy => exact sound.step_destroy (timely now rfl) opcode
    | doorbell => exact sound.step_doorbell (timely now rfl) named opcode
  | popReady now => exact sound.step_popReady (timely now rfl)
  | disconnect owner => exact sound.disconnect owner
  | clear => exact sound.clear
  | pinPinnedDispatch owner queueId generation sequence requestId => exact sound.pinPinnedDispatch
  | releasePinnedDispatch owner queueId generation requestId => exact sound.releasePinnedDispatch
  | cancelPinnedDispatch owner queueId generation sequence requestId =>
    exact sound.cancelPinnedDispatch

end Runs

section Continuation

variable {history : History} {owner : Owner} {header : Header} {request : QueueRequest}
  {queueId generation sequence requestId now : UInt64} {queue : Queue} {command : Command}

/-- A queue goes on as the same queue, and what it accepted and completed is kept. -/
structure Continues (queueId : UInt64) (queue : Queue) (history after : History) : Prop where
  stays : ∃ new, after.state.queues[queueId]? = some new ∧ new.owner = queue.owner ∧
    new.generation = queue.generation ∧ new.depth = queue.depth
  accepted : history.accepted queueId <+: after.accepted queueId
  completed : history.completed queueId <+: after.completed queueId

/-- A queue ends with everything completed. -/
structure Ends (queueId : UInt64) (history after : History) : Prop where
  gone : after.state.queues[queueId]? = none
  finished : history.accepted queueId = history.completed queueId

theorem Continues.wait (here : history.state.queues[queueId]? = some queue) (now : UInt64) :
    Continues queueId queue history { history with clock := now } :=
  ⟨⟨queue, here, rfl, rfl, rfl⟩, List.prefix_refl _, List.prefix_refl _⟩

/-- A list kept beside each queue is only made longer. -/
theorem prefix_update {lists : UInt64 → List Command} {other : UInt64} (more : List Command) :
    lists queueId <+: Function.update lists other (lists other ++ more) queueId := by
  by_cases same : queueId = other
  · subst same
    rw [Function.update_self]
    exact List.prefix_append _ _
  · rw [Function.update_of_ne same]

/-- A queue stays when a queue changes that a handle names. -/
theorem stays_setQueue {state : HostGPUQueueState} {named : UInt64} {found new : Queue}
    (here : state.queues[queueId]? = some queue)
    (resolved : state.resolve owner named generation = some found) (owned : new.owner = found.owner)
    (stamped : new.generation = found.generation) (depth : new.depth = found.depth) :
    ∃ after, (state.setQueue named new).queues[queueId]? = some after ∧
      after.owner = queue.owner ∧ after.generation = queue.generation ∧
      after.depth = queue.depth := by
  simp only [setQueue, Std.ExtTreeMap.getElem?_insert, Std.compare_eq_iff_eq]
  split
  · rename_i same
    subst same
    obtain rfl := Option.some.inj (here.symm.trans (resolve_eq_some.mp resolved).1)
    exact ⟨new, rfl, owned, stamped, depth⟩
  · exact ⟨queue, here, rfl, rfl, rfl⟩

theorem continues_submit (sound : Sound history)
    (here : history.state.queues[queueId]? = some queue) :
    Continues queueId queue history (history.step (.submit owner header request now)) ∨
      Ends queueId history (history.step (.submit owner header request now)) := by
  have rejection : (history.state.submit owner header request now).1.response.status ≠ .ok →
      (history.state.submit owner header request now).1.commandAccepted = false →
      (history.state.submit owner header request now).2 = history.state →
      Continues queueId queue history (history.step (.submit owner header request now)) := by
    intro rejected declined same
    rw [step_of_rejected rejected declined same]
    exact .wait here now
  cases opcode : request.opcode with
  | create =>
    have submit : history.state.submit owner header request now =
        history.state.create owner request now := by rw [HostGPUQueueState.submit, opcode]
    have cases := @create_cases history.state owner request now sound.queueIds sound.generations
    rw [← submit] at cases
    rcases cases with ⟨rejected, declined, same⟩ | ⟨fresh, next, free, -, -, ok, declined, named, after⟩
    · exact .inl (rejection rejected declined same)
    have different : queueId ≠ fresh := by
      rintro rfl
      exact free (Std.ExtTreeMap.mem_iff_isSome_getElem?.mpr (here ▸ rfl))
    refine .inl ?_
    unfold History.step History.note History.noteSubmit
    dsimp only
    rw [declined, if_neg (by simp), if_pos ⟨opcode, ok⟩, named, HostGPUQueueState.step, after]
    refine ⟨⟨queue, ?_, rfl, rfl, rfl⟩, ?_, ?_⟩
    · simp only [Std.ExtTreeMap.getElem?_insert, Std.compare_eq_iff_eq]
      rw [if_neg (Ne.symm different), here]
    · dsimp only
      rw [Function.update_of_ne different]
    · dsimp only
      rw [Function.update_of_ne different]
  | destroy =>
    have submit : history.state.submit owner header request now =
        history.state.destroy owner request now := by rw [HostGPUQueueState.submit, opcode]
    have cases := @destroy_cases history.state owner request now
    rw [← submit] at cases
    rcases cases with ⟨rejected, declined, same⟩ | ⟨found, resolved, empty, ok, declined, after⟩
    · exact .inl (rejection rejected declined same)
    unfold History.step History.note History.noteSubmit
    dsimp only
    rw [declined, if_neg (by simp), if_neg (by simp [opcode]), HostGPUQueueState.step, after]
    by_cases same : request.queueId = queueId
    · subst same
      refine .inr ⟨by simp, ?_⟩
      exact (sound.serves _ found (resolve_eq_some.mp resolved).1).all_completed empty
    · refine .inl ⟨⟨queue, ?_, rfl, rfl, rfl⟩, List.prefix_refl _, List.prefix_refl _⟩
      simp only [Std.ExtTreeMap.getElem?_erase, Std.compare_eq_iff_eq]
      rw [if_neg same, here]
  | doorbell =>
    have submit : history.state.submit owner header request now =
        history.state.doorbell owner header request now := by rw [HostGPUQueueState.submit, opcode]
    have cases := @doorbell_cases history.state owner header request now
    rw [← submit] at cases
    rcases cases with ⟨rejected, declined, same⟩ |
      ⟨found, resolved, -, -, -, -, -, -, accepted, after⟩
    · exact .inl (rejection rejected declined same)
    refine .inl ?_
    unfold History.step History.note History.noteSubmit
    dsimp only
    rw [accepted, if_pos rfl, HostGPUQueueState.step, after]
    refine ⟨?_, prefix_update _, List.prefix_refl _⟩
    simp only [Std.ExtTreeMap.getElem?_insert, Std.compare_eq_iff_eq]
    split
    · rename_i same
      subst same
      obtain rfl := Option.some.inj (here.symm.trans (resolve_eq_some.mp resolved).1)
      exact ⟨_, rfl, rfl, rfl, rfl⟩
    · exact ⟨queue, here, rfl, rfl, rfl⟩

theorem continues_popReady (sound : Sound history)
    (here : history.state.queues[queueId]? = some queue) :
    Continues queueId queue history (history.step (.popReady now)) := by
  unfold History.step History.note History.notePop
  dsimp only
  rcases popReady_cases sound now with ⟨nothing, -⟩ | ⟨command, rest, -, -, popped⟩
  · rw [HostGPUQueueState.step, nothing]
    exact .wait here now
  · rw [HostGPUQueueState.step, popped]
    refine ⟨?_, List.prefix_refl _, prefix_update _⟩
    simp only [settle, Std.ExtTreeMap.getElem?_modify, Std.compare_eq_iff_eq]
    split
    · rename_i same
      rw [same, here]
      exact ⟨_, rfl, rfl, rfl, rfl⟩
    · exact ⟨queue, here, rfl, rfl, rfl⟩

/-- What a dispatch or another owner does leaves the queue. -/
theorem continues_of_queues {after : HostGPUQueueState}
    (stays : ∃ new, after.queues[queueId]? = some new ∧ new.owner = queue.owner ∧
      new.generation = queue.generation ∧ new.depth = queue.depth) :
    Continues queueId queue history { history with state := after } :=
  ⟨stays, List.prefix_refl _, List.prefix_refl _⟩

/-- A queue goes on, or ends with everything completed, unless its owner disconnects. -/
theorem Sound.continues (sound : Sound history) (input : Input)
    (here : history.state.queues[queueId]? = some queue) :
    Continues queueId queue history (history.step input) ∨
      Ends queueId history (history.step input) ∨ input = .disconnect queue.owner ∨
        input = .clear := by
  have stays : ∃ new, history.state.queues[queueId]? = some new ∧ new.owner = queue.owner ∧
      new.generation = queue.generation ∧ new.depth = queue.depth := ⟨queue, here, rfl, rfl, rfl⟩
  cases input with
  | submit owner header request now =>
    rcases continues_submit sound here with continues | ends
    · exact .inl continues
    · exact .inr (.inl ends)
  | popReady now => exact .inl (continues_popReady sound here)
  | disconnect owner =>
    by_cases mine : queue.owner = owner
    · exact .inr (.inr (.inl (by rw [mine])))
    · refine .inl (continues_of_queues ⟨queue, ?_, rfl, rfl, rfl⟩)
      simp [HostGPUQueueState.step, HostGPUQueueState.disconnect, here, mine,
        Option.filter_eq_some_iff]
  | clear => exact .inr (.inr (.inr rfl))
  | pinPinnedDispatch owner named generation sequence requestId =>
    refine .inl (continues_of_queues ?_)
    have cases := @pin_cases owner named generation sequence requestId history.state
    rcases cases with same | ⟨found, there, -, -, after⟩
    · rw [HostGPUQueueState.step, same]
      exact stays
    · rw [HostGPUQueueState.step, after]
      simp only [Std.ExtTreeMap.getElem?_modify, Std.compare_eq_iff_eq]
      split
      · rename_i same
        rw [same, here]
        exact ⟨_, rfl, rfl, rfl, rfl⟩
      · exact stays
  | releasePinnedDispatch owner named generation requestId =>
    refine .inl (continues_of_queues ?_)
    rw [HostGPUQueueState.step, HostGPUQueueState.releasePinnedDispatch]
    split
    · exact stays
    · rename_i found resolved
      exact stays_setQueue here (resolvePinned_eq_some.mp resolved).2.1 rfl rfl rfl
  | cancelPinnedDispatch owner named generation sequence requestId =>
    refine .inl (continues_of_queues ?_)
    rw [HostGPUQueueState.step, HostGPUQueueState.cancelPinnedDispatch]
    split
    · exact stays
    · rename_i found resolved
      split
      · exact stays
      · exact stays_setQueue here (resolvePinned_eq_some.mp resolved).2.1 rfl rfl rfl

end Continuation

section Law

variable {history : History}

/-- A request that a queue records. -/
structure Entry where
  owner : Owner
  queueId : UInt64
  generation : UInt64
  sequence : UInt64
  requestId : UInt64
  deriving DecidableEq

/-- The request of a command. -/
def requestOf (command : Command) : Entry :=
  { owner := command.owner
    queueId := command.queueId
    generation := command.queueGeneration
    sequence := command.sequence
    requestId := command.header.requestId }

/-- A queue of the owner records the request. -/
def InFlight (state : HostGPUQueueState) (entry : Entry) : Prop :=
  ∃ queue, state.resolve entry.owner entry.queueId entry.generation = some queue ∧
    queue.requestIdBySequence[entry.sequence]? = some entry.requestId

/-- The commands in line are the recorded requests, one for one. -/
theorem Sound.paired (sound : Sound history) :
    Set.BijOn requestOf { command | command ∈ history.state.commands }
      { entry | InFlight history.state entry } := by
  refine ⟨?_, ?_, ?_⟩
  · intro command member
    obtain ⟨queue, here, serves, among⟩ := sound.mem_pending member
    obtain ⟨owned, -, stamped⟩ := serves.attributed command (serves.mem_of_pending among)
    exact ⟨queue, resolve_eq_some.mpr ⟨here, owned.symm, stamped.symm⟩,
      (serves.recorded _ _).mpr ⟨command, among, rfl, rfl⟩⟩
  · intro first one second other same
    obtain ⟨queue, -, serves, among⟩ := sound.mem_pending one
    have named : second.queueId = first.queueId := (congrArg Entry.queueId same).symm
    have also : second ∈ history.state.pending first.queueId :=
      List.mem_filter.mpr ⟨other, beq_iff_eq.mpr named⟩
    exact List.inj_on_of_nodup_map serves.nodup (serves.mem_of_pending among)
      (serves.mem_of_pending also) (congrArg Entry.sequence same)
  · rintro ⟨owner, queueId, generation, sequence, requestId⟩ ⟨queue, resolved, recorded⟩
    obtain ⟨here, rfl, rfl⟩ := resolve_eq_some.mp resolved
    have serves := sound.serves _ queue here
    obtain ⟨command, among, rfl, rfl⟩ := (serves.recorded _ _).mp recorded
    obtain ⟨owned, named, stamped⟩ := serves.attributed command (serves.mem_of_pending among)
    refine ⟨command, (List.mem_filter.mp among).1, ?_⟩
    unfold requestOf
    rw [owned, named, stamped]

theorem Sound.nodup (sound : Sound history) : history.state.commands.Nodup := by
  apply List.nodup_iff_count_le_one.mpr
  intro command
  by_cases member : command ∈ history.state.commands
  · obtain ⟨queue, -, serves, -⟩ := sound.mem_pending member
    have distinct := List.Nodup.of_map _ serves.nodup
    rw [serves.served] at distinct
    have single := List.nodup_iff_count_le_one.mp (List.nodup_append.mp distinct).2.1 command
    rw [pending, List.count_filter (by simp)] at single
    exact single
  · rw [List.count_eq_zero_of_not_mem member]
    exact Nat.zero_le 1

/-- What holds of the queues after a run. -/
structure QueueLaw (history : History) : Prop where
  paired : Set.BijOn requestOf { command | command ∈ history.state.commands }
    { entry | InFlight history.state entry }
  single : history.state.commands.Nodup
  queues : history.state.queues.size ≤ MaximumQueues
  commands : history.state.commands.length ≤ MaximumInflight
  depth : ∀ (queueId : UInt64) (queue : Queue), history.state.queues[queueId]? = some queue →
    queue.requestIdBySequence.size ≤ queue.depth.toNat
  served : ∀ (queueId : UInt64) (queue : Queue), history.state.queues[queueId]? = some queue →
    history.accepted queueId = history.completed queueId ++ history.state.pending queueId
  ordered : ∀ (queueId : UInt64) (queue : Queue), history.state.queues[queueId]? = some queue →
    (history.accepted queueId).Pairwise fun first second => first.sequence < second.sequence
  attributed : ∀ (queueId : UInt64) (queue : Queue), history.state.queues[queueId]? = some queue →
    ∀ command ∈ history.accepted queueId, command.owner = queue.owner ∧
      command.queueId = queueId ∧ command.queueGeneration = queue.generation
  due : ∀ now, (history.state.popReady now).1 = none →
    ∀ command ∈ history.state.commands, now < command.readyTick
  soon : ∀ command ∈ history.state.commands,
    command.readyTick.toNat ≤ history.clock.toNat + 1
  continues : ∀ (queueId : UInt64) (queue : Queue) input, history.state.queues[queueId]? = some queue →
    Continues queueId queue history (history.step input) ∨
      Ends queueId history (history.step input) ∨ input = .disconnect queue.owner ∨ input = .clear
  rejected : ∀ owner header request now,
    (history.state.submit owner header request now).1.response.status ≠ .ok →
      (history.state.submit owner header request now).2 = history.state

theorem Sound.queueLaw (sound : Sound history) : QueueLaw history where
  paired := sound.paired
  single := sound.nodup
  queues := sound.queues
  commands := sound.commands
  depth := fun queueId queue here => (sound.serves queueId queue here).depth
  served := fun queueId queue here => (sound.serves queueId queue here).served
  ordered := fun queueId queue here => (sound.serves queueId queue here).ordered
  attributed := fun queueId queue here => (sound.serves queueId queue here).attributed
  due := by
    intro now nothing
    rcases popReady_cases sound now with ⟨-, early⟩ | ⟨command, rest, -, -, popped⟩
    · exact early
    · rw [popped] at nothing
      cases nothing
  soon := sound.soon
  continues := fun _ _ input here => sound.continues input here
  rejected := fun _ _ _ _ => submit_rejected sound.queueIds sound.generations

/-- The history after a run. -/
def recordedRun (inputs : List Input) : History := runFrom History.step {} inputs

/-- The history is that of the queues. -/
theorem recordedRun_state (inputs : List Input) :
    (recordedRun inputs).state = runFrom step boot inputs :=
  @runFrom_simulates _ _ History.step _ step History.state (fun _ => True)
    (fun _ _ _ => trivial) (fun _ _ _ => rfl) {} trivial inputs

/-- The run never goes back in time, and every submitted record has a request id. -/
def Orderly (inputs : List Input) : Prop :=
  Meets History.step (fun history input => Timely history input ∧ Named input) {} inputs

instance (inputs : List Input) : Decidable (Orderly inputs) := by
  unfold Orderly
  infer_instance

/-- Every orderly run of the queues meets the law. -/
theorem queueLaw_of_run (inputs : List Input) (orderly : Orderly inputs) :
    (recordedRun inputs).state = runFrom step boot inputs ∧ QueueLaw (recordedRun inputs) := by
  refine ⟨recordedRun_state inputs, Sound.queueLaw ?_⟩
  refine invariant_of_meets History.step Sound ?_ sound_boot orderly
  intro history input sound ok
  exact sound.step ok.1 ok.2

/-- A client makes a queue, rings its doorbell in a record with the request id, and the
completion is due. -/
def oneDoorbell (requestId : UInt64) : List Input :=
  [.submit {} { requestId := 1 } { arg0 := 1 } 1,
    .submit {} { requestId := requestId }
      { opcode := .doorbell, queueId := 1, generation := 1, sequence := 1 } 1,
    .popReady 2]

theorem queueLaw_of_run_oneDoorbell :
    (recordedRun (oneDoorbell 2)).state = runFrom step boot (oneDoorbell 2) ∧
      QueueLaw (recordedRun (oneDoorbell 2)) :=
  queueLaw_of_run (oneDoorbell 2) (by decide)

/-- Without a request id the request stays recorded after its command is dropped. -/
theorem queueLaw_fails_unnamed :
    ¬ ∀ inputs, Meets History.step Timely {} inputs → QueueLaw (recordedRun inputs) := by
  intro law
  have paired := (law (oneDoorbell 0) (by decide)).paired
  have stuck : InFlight (recordedRun (oneDoorbell 0)).state
      { owner := {}, queueId := 1, generation := 1, sequence := 1, requestId := 0 } :=
    ⟨_, rfl, by decide⟩
  obtain ⟨command, member, -⟩ := paired.surjOn stuck
  cases member

end Law

end HostGPUQueueState

end GemSim.Bridge
