import GemSim.Lib.Run
import GemSim.Native.Lifecycle
import Mathlib.Data.List.Dedup
import Mathlib.Data.List.Perm.Subperm

/-!
# Completion is signalled once

For one armed dispatch the signal word in memory is decremented before the packet is
retired, and the source is asked to retire it at most once. A completion that wrote the
word but could not read it back returns false while the dispatch stays active, so the
caller's retry decrements the word again; without that branch every completed dispatch has
decremented its word exactly once, and changed no other byte.

## Main definitions

* `Sound` — the invariant of the lifecycle and its ledger
* `CompletionLaw` — what the memory and the ledger say in every state
* `LosesReadback` — the completion that writes the word and then fails

## Main results

* `run_frame` — a call of the lifecycle writes nowhere but in the signal word
* `sound_step` — every event keeps the invariant, except a lost readback
* `completionLaw_of_run` — the law along every run without lost readbacks
* `completionLaw_fails` — a lost readback and a retry decrement the word twice
-/

namespace GemSim.Native

open GemSim.Lib

section Pigeonhole

variable {ids : List Int32} {total : Int32}

/-- An id below the total, as a natural number. -/
theorem toNat_within {id : Int32} (above : 0 ≤ id) (below : id < total) :
    id.toInt.toNat < total.toInt.toNat ∧ 0 ≤ id.toInt := by
  rw [Int32.le_iff_toInt_le, Int32.toInt_zero] at above
  rw [Int32.lt_iff_toInt_lt] at below
  omega

/-- Distinct ids below the total, as natural numbers, sit in the range below it. -/
theorem subperm_range (nodup : ids.Nodup) (within : ∀ id ∈ ids, 0 ≤ id ∧ id < total) :
    List.Subperm (ids.map fun id => id.toInt.toNat) (List.range total.toInt.toNat) := by
  -- the ids are not negative, so casting them loses none of them
  apply List.subperm_of_subset
  · rw [List.nodup_map_iff_inj_on nodup]
    intro x hx y hy same
    have first := toNat_within (within x hx).1 (within x hx).2
    have second := toNat_within (within y hy).1 (within y hy).2
    exact Int32.toInt_inj.mp (by omega)
  · intro value member
    obtain ⟨id, hid, rfl⟩ := List.mem_map.mp member
    exact List.mem_range.mpr (toNat_within (within id hid).1 (within id hid).2).1

/-- Distinct ids below a total, as many as the total, are all the ids below it. -/
theorem mem_of_full (nodup : ids.Nodup) (within : ∀ id ∈ ids, 0 ≤ id ∧ id < total)
    (full : UInt64.ofNat ids.length = total.toInt64.toUInt64) {id : Int32} (above : 0 ≤ id)
    (below : id < total) : id ∈ ids := by
  have inside := subperm_range nodup within
  have bounded : ids.length ≤ total.toInt.toNat := by
    have := inside.length_le
    rwa [List.length_map, List.length_range] at this
  -- the total is not negative, so both sides of the comparison are its value
  have small : total.toInt.toNat < 2 ^ 64 :=
    (Int.toNat_le_toNat (Int32.toInt_lt total).le).trans_lt (by decide)
  have nonneg : (0 : Int64) ≤ total.toInt64 := by
    have above' := (toNat_within above below).2
    rw [Int32.lt_iff_toInt_lt] at below
    rw [Int64.le_iff_toInt_le, Int32.toInt_toInt64, Int64.toInt_zero]
    exact above'.trans below.le
  have count : ids.length = total.toInt.toNat := by
    have same := congrArg UInt64.toNat full
    rw [Int64.toNat_toUInt64_of_le nonneg, UInt64.toNat_ofNat_of_lt' (bounded.trans_lt small)] at same
    rw [same, Int64.toNatClampNeg, Int32.toInt_toInt64]
  have perm := inside.perm_of_length_le (by rw [List.length_range, List.length_map, count])
  have member : id.toInt.toNat ∈ ids.map fun other => other.toInt.toNat :=
    perm.mem_iff.mpr (List.mem_range.mpr (toNat_within above below).1)
  obtain ⟨other, hother, same⟩ := List.mem_map.mp member
  have first := toNat_within (within other hother).1 (within other hother).2
  have second := toNat_within above below
  have equal : other = id := Int32.toInt_inj.mp (by omega)
  exact equal ▸ hother

end Pigeonhole

/-- A call that neither writes memory nor counts a group. -/
def LifecycleEvent.Quiet : LifecycleEvent → Prop
  | .gpuWorkgroupCompleted _ _ => False
  | .completeKernel _ _ => False
  | .others _ => False
  | _ => True

namespace LifecycleSystem

variable {system after : LifecycleSystem}

section Definitions

/-- The invariant of the lifecycle and its ledger. -/
structure Sound (system : LifecycleSystem) : Prop where
  idle : system.lifecycle.isArmed = false → system.lifecycle.taskIdentity.valid = false ∧
    system.lifecycle.completedWorkgroups = [] ∧ system.lifecycle.dispatchStarted = false ∧
    system.lifecycle.kernelCompleted = false ∧ system.lifecycle.packetRetired = false ∧
    system.ledger = {}
  submitted : system.lifecycle.taskIdentity.valid = true → system.lifecycle.cpSubmissions = 1
  unsubmitted : system.lifecycle.taskIdentity.valid = false →
    system.lifecycle.completedWorkgroups = [] ∧ system.lifecycle.kernelCompleted = false
  completed : system.lifecycle.kernelCompleted = true →
    system.lifecycle.dispatchStarted = true ∧ system.lifecycle.dispatchActive = false ∧
    ∀ id, 0 ≤ id → id < system.lifecycle.taskIdentity.totalWorkgroups →
      id ∈ system.lifecycle.completedWorkgroups
  retired : system.lifecycle.packetRetired = true → system.lifecycle.kernelCompleted = true
  signalWrites : system.ledger.signalWrites =
    if system.lifecycle.kernelCompleted ∧ system.lifecycle.taskIdentity.completionSignal ≠ 0
    then [⟨system.lifecycle.completionSignalBefore, system.lifecycle.completionSignalAfter⟩] else []
  decremented : system.lifecycle.kernelCompleted = true →
    system.lifecycle.taskIdentity.completionSignal ≠ 0 →
    system.lifecycle.completionSignalAfter.toInt = system.lifecycle.completionSignalBefore.toInt - 1
  retireCalls : system.ledger.retireCalls ≤ 1
  retireAfter : 0 < system.ledger.retireCalls → system.lifecycle.kernelCompleted = true
  retireCount : system.panicked = false →
    system.ledger.retireCalls = if system.lifecycle.packetRetired then 1 else 0
  counted : system.ledger.counted = system.lifecycle.completedWorkgroups
  counter : system.lifecycle.workgroupCompletions =
    UInt64.ofNat system.lifecycle.completedWorkgroups.length
  distinct : system.lifecycle.completedWorkgroups.Nodup
  within : ∀ id ∈ system.lifecycle.completedWorkgroups,
    0 ≤ id ∧ id < system.lifecycle.taskIdentity.totalWorkgroups

/-- What the memory and the ledger of the armed dispatch say. -/
structure CompletionLaw (system : LifecycleSystem) : Prop where
  fresh : system.lifecycle.isArmed = false → system.ledger = {}
  decrementedOnce : system.ledger.signalWrites.length ≤ 1
  decremented : ∀ write ∈ system.ledger.signalWrites, write.now.toInt = write.before.toInt - 1
  completed : system.lifecycle.kernelCompleted = true → system.ledger.signalWrites =
    if system.lifecycle.taskIdentity.completionSignal = 0 then []
    else [⟨system.lifecycle.completionSignalBefore, system.lifecycle.completionSignalAfter⟩]
  elsewhere : ∀ event, (∀ memory, event ≠ .others memory) → ∀ address,
    (∀ valueVa, system.lifecycle.identity.completionSignalValueVa = some valueVa →
      address ∉ touched valueVa 8) →
    (system.step event).memory address = system.memory address
  retiredOnce : system.ledger.retireCalls ≤ 1
  retiredAfter : 0 < system.ledger.retireCalls → system.lifecycle.kernelCompleted = true
  countedOnce : system.ledger.counted.Nodup
  counted : system.lifecycle.kernelCompleted = true → ∀ id, id ∈ system.ledger.counted ↔
    0 ≤ id ∧ id < system.lifecycle.taskIdentity.totalWorkgroups
  counter : system.lifecycle.workgroupCompletions = UInt64.ofNat system.ledger.counted.length
  reset : system.panicked = false → system.reset.1 = true → system.ledger.retireCalls = 1

/-- The commit of a task reaches the write of its signal word. -/
def ReachesWrite (system : LifecycleSystem) (task : HSAQueueEntry) (env : CompletionEnv) : Prop :=
  task.completionSignal ≠ 0 ∧ ∃ signalValue,
    system.lifecycle.identity.completionSignalValueVa = some signalValue ∧ env.reads = true ∧
    (system.lifecycle.identity.expectedSignalValue.isSome = true →
      system.lifecycle.identity.expectedSignalValue =
        some (loadWord system.memory signalValue).toInt64) ∧
    (loadWord system.memory signalValue).toInt64 ≠ Int64.minValue

/-- A completion writes the signal word, but cannot read it back. -/
def LosesReadback (system : LifecycleSystem) : LifecycleEvent → Prop
  | .completeKernel task env => system.lifecycle.completionMatches task = true ∧
      env.validates = true ∧ system.ReachesWrite task env ∧ env.writes = true ∧
      env.readsBack = false
  | _ => False

/-- Every write of the signal word that succeeds is read back. -/
def ReadsBack (system : LifecycleSystem) (event : LifecycleEvent) : Prop :=
  ¬ system.LosesReadback event

end Definitions

section Memory

theorem signalChange_of_memory (same : after.memory = system.memory) :
    signalChange system after = [] := by
  unfold signalChange
  split
  · rfl
  · rw [same, if_pos rfl]

theorem cuReport_memory (system : LifecycleSystem) (task : HSAQueueEntry) :
    (system.cuReport task).memory = system.memory := by
  unfold cuReport
  split <;> rfl

/-- A completion alone writes memory. -/
theorem run_memory (system : LifecycleSystem) {event : LifecycleEvent}
    (running : ∀ task env, event ≠ .completeKernel task env)
    (own : ∀ memory, event ≠ .others memory) : (system.run event).2.memory = system.memory := by
  cases event with
  | arm config queue =>
    unfold run arm
    dsimp only
    split_ifs <;> rfl
  | bindCompletionSignal handle valueAddress expectedValue =>
    unfold run bindCompletionSignal
    dsimp only
    split <;> rfl
  | cancel =>
    unfold run cancel
    dsimp only
    split_ifs <;> rfl
  | reset =>
    unfold run reset
    dsimp only
    split <;> rfl
  | hsaPacketFetched hostPacketAddr queueId =>
    unfold run hsaPacketFetched
    dsimp only
    split <;> rfl
  | commandProcessorSubmitted task =>
    unfold run commandProcessorSubmitted
    dsimp only
    split <;> rfl
  | gpuDispatcherStarted task =>
    unfold run gpuDispatcherStarted
    dsimp only
    split <;> rfl
  | cuWaveStarted task => exact cuReport_memory system task
  | cuInstructionStarted task => exact cuReport_memory system task
  | cuGlobalStoreCompleted task => exact cuReport_memory system task
  | gpuWorkgroupCompleted task workgroupId =>
    unfold run gpuWorkgroupCompleted
    dsimp only
    split <;> rfl
  | completeKernel task env => exact absurd rfl (running task env)
  | hsaPacketRetired task retires =>
    unfold run hsaPacketRetired
    dsimp only
    split_ifs <;> rfl
  | others memory => exact absurd rfl (own memory)

/-- A commit leaves the memory as it is or stores one word at the signal address. -/
theorem commitSignal_memory (system : LifecycleSystem) (task : HSAQueueEntry)
    (env : CompletionEnv) :
    (system.commitSignal task env).2.memory = system.memory ∨
    ∃ valueVa word, system.lifecycle.identity.completionSignalValueVa = some valueVa ∧
      (system.commitSignal task env).2.memory = storeWord system.memory valueVa word := by
  unfold commitSignal
  dsimp only
  by_cases silent : task.completionSignal = 0
  · rw [if_pos silent]
    split <;> exact .inl rfl
  rw [if_neg silent]
  cases bound : system.lifecycle.identity.completionSignalValueVa with
  | none => exact .inl rfl
  | some valueVa =>
    dsimp only
    -- unread, unexpected or least value and failed write, then the two outcomes of the readback
    split_ifs
    iterate 3 exact .inl rfl
    iterate 2 exact .inr ⟨valueVa, _, rfl, rfl⟩

theorem completeKernel_memory (system : LifecycleSystem) (task : HSAQueueEntry)
    (env : CompletionEnv) :
    (system.completeKernel task env).2.memory = system.memory ∨
    (system.completeKernel task env).2.memory = (system.commitSignal task env).2.memory := by
  unfold completeKernel
  dsimp only
  split_ifs
  · exact .inl rfl
  · exact .inl rfl
  · exact .inr rfl
  · exact .inr rfl

/-- A call of the lifecycle writes nowhere but in the signal word of its dispatch. -/
theorem run_frame (system : LifecycleSystem) {event : LifecycleEvent}
    (own : ∀ memory, event ≠ .others memory) {address : UInt64}
    (outside : ∀ valueVa, system.lifecycle.identity.completionSignalValueVa = some valueVa →
      address ∉ touched valueVa 8) :
    (system.run event).2.memory address = system.memory address := by
  by_cases running : ∀ task env, event ≠ .completeKernel task env
  · rw [run_memory system running own]
  push Not at running
  obtain ⟨task, env, rfl⟩ := running
  rcases completeKernel_memory system task env with same | same
  · exact congrFun same address
  -- a completion that reaches the commit touches the eight bytes of the bound word only
  · rcases commitSignal_memory system task env with kept | ⟨valueVa, word, bound, stored⟩
    · exact congrFun (same.trans kept) address
    · exact (congrFun (same.trans stored) address).trans
        (storeBytes_frame _ _ _ _ (outside valueVa bound))

theorem observed_memory (system after : LifecycleSystem) (event : LifecycleEvent) :
    (observed system after event).memory = after.memory := by
  cases event <;> rfl

theorem observed_gpuWorkgroupCompleted (system after : LifecycleSystem) (task : HSAQueueEntry)
    (workgroupId : Int32) : observed system after (.gpuWorkgroupCompleted task workgroupId) =
      { after with ledger := { after.ledger with
        signalWrites := signalChange system after ++ after.ledger.signalWrites
        counted := if after.panicked then after.ledger.counted
          else workgroupId :: after.ledger.counted } } := rfl

theorem observed_completeKernel (system after : LifecycleSystem) (task : HSAQueueEntry)
    (env : CompletionEnv) : observed system after (.completeKernel task env) =
      { after with ledger := { after.ledger with
        signalWrites := signalChange system after ++ after.ledger.signalWrites } } := rfl

/-- A completion that leaves the memory alone adds nothing to the ledger. -/
theorem observed_of_memory {task : HSAQueueEntry} {env : CompletionEnv}
    (same : after.memory = system.memory) :
    observed system after (.completeKernel task env) = after := by
  rw [observed_completeKernel, signalChange_of_memory same, List.nil_append]

theorem observed_of_quiet {event : LifecycleEvent} (quiet : event.Quiet) :
    observed system (system.run event).2 event = (system.run event).2 := by
  have same : (system.run event).2.memory = system.memory := by
    refine run_memory system (fun task env running => ?_) fun memory other => ?_
    · rw [running] at quiet
      exact quiet
    · rw [other] at quiet
      exact quiet
  have nothing := signalChange_of_memory same
  cases event <;> first | exact quiet.elim | (simp only [observed, nothing]; rfl)

end Memory

section Steps

theorem sound_boot (memory : SparseBytes) : (boot memory).Sound := by
  constructor <;> simp [boot]

/-- The invariant sees neither the failure text nor the memory. -/
theorem Sound.fail (sound : system.Sound) (reason : String) : (system.fail reason).2.Sound :=
  ⟨sound.idle, sound.submitted, sound.unsubmitted, sound.completed, sound.retired,
    sound.signalWrites, sound.decremented, sound.retireCalls, sound.retireAfter,
    sound.retireCount, sound.counted, sound.counter, sound.distinct, sound.within⟩

theorem Sound.withMemory (sound : system.Sound) (memory : SparseBytes) :
    Sound { system with memory := memory } :=
  ⟨sound.idle, sound.submitted, sound.unsubmitted, sound.completed, sound.retired,
    sound.signalWrites, sound.decremented, sound.retireCalls, sound.retireAfter,
    sound.retireCount, sound.counted, sound.counter, sound.distinct, sound.within⟩

theorem Sound.panic (sound : system.Sound) : system.panic.Sound :=
  ⟨sound.idle, sound.submitted, sound.unsubmitted, sound.completed, sound.retired,
    sound.signalWrites, sound.decremented, sound.retireCalls, sound.retireAfter,
    fun alive => (by cases alive), sound.counted, sound.counter, sound.distinct, sound.within⟩

theorem sound_clear (system : LifecycleSystem) : system.clear.Sound := by
  constructor <;> simp [clear]

theorem taskMatches_spec {lifecycle : HostNativeExecutionLifecycle} {task : HSAQueueEntry}
    (matched : lifecycle.taskMatches task = true) :
    lifecycle.isArmed = true ∧ lifecycle.taskIdentity.valid = true ∧
      task.completionSignal = lifecycle.taskIdentity.completionSignal ∧
      task.numWgTotal = lifecycle.taskIdentity.totalWorkgroups := by
  simp only [HostNativeExecutionLifecycle.taskMatches, Bool.and_eq_true, beq_iff_eq] at matched
  obtain ⟨⟨⟨⟨⟨⟨⟨⟨⟨armed, valid⟩, -⟩, -⟩, -⟩, signal⟩, -⟩, -⟩, total⟩, -⟩ := matched
  exact ⟨armed, valid, signal, total⟩

theorem completionMatches_spec {lifecycle : HostNativeExecutionLifecycle} {task : HSAQueueEntry}
    (matched : lifecycle.completionMatches task = true) :
    lifecycle.taskMatches task = true ∧ lifecycle.dispatchStarted = true ∧
      lifecycle.kernelCompleted = false ∧
      UInt64.ofNat lifecycle.completedWorkgroups.length = task.numWgTotal.toInt64.toUInt64 := by
  simp only [HostNativeExecutionLifecycle.completionMatches, Bool.and_eq_true, beq_iff_eq,
    Bool.not_eq_true'] at matched
  obtain ⟨⟨⟨⟨⟨⟨⟨⟨⟨⟨matches', started⟩, -⟩, running⟩, -⟩, -⟩, -⟩, -⟩, -⟩, -⟩, full⟩ := matched
  exact ⟨matches', started, running, full⟩

theorem Sound.arm (sound : system.Sound) (config : HostNativeExecutionLifecycle.Config)
    (queue : HostNativeQueueCore) : (system.arm config queue).2.Sound := by
  have cleared : Sound
      { system with lifecycle := { system.lifecycle with failureReason := "none" } } :=
    sound.fail "none"
  unfold LifecycleSystem.arm
  dsimp only
  split_ifs with armed identity packet binding
  -- the four refusals differ in their text only
  iterate 4 exact cleared.fail _
  rw [Bool.not_eq_true] at armed
  exact { cleared with idle := fun absent => by cases absent }

theorem Sound.bindCompletionSignal (sound : system.Sound) (handle valueAddress : Option UInt64)
    (expectedValue : Option Int64) :
    (system.bindCompletionSignal handle valueAddress expectedValue).2.Sound := by
  unfold LifecycleSystem.bindCompletionSignal
  dsimp only
  split
  · exact sound.fail _
  · exact ⟨sound.idle, sound.submitted, sound.unsubmitted, sound.completed, sound.retired,
      sound.signalWrites, sound.decremented, sound.retireCalls, sound.retireAfter,
      sound.retireCount, sound.counted, sound.counter, sound.distinct, sound.within⟩

theorem Sound.cancel (sound : system.Sound) : system.cancel.2.Sound := by
  unfold LifecycleSystem.cancel
  dsimp only
  split_ifs
  · exact sound
  · exact sound.fail _
  · exact sound_clear system

theorem Sound.reset (sound : system.Sound) : system.reset.2.Sound := by
  unfold LifecycleSystem.reset
  dsimp only
  split
  · exact sound.fail _
  · exact sound_clear system

theorem Sound.hsaPacketFetched (sound : system.Sound) (hostPacketAddr : UInt64)
    (queueId : UInt32) : (system.hsaPacketFetched hostPacketAddr queueId).Sound := by
  unfold LifecycleSystem.hsaPacketFetched
  dsimp only
  split
  · exact sound.panic
  · exact ⟨sound.idle, sound.submitted, sound.unsubmitted, sound.completed, sound.retired,
      sound.signalWrites, sound.decremented, sound.retireCalls, sound.retireAfter,
      sound.retireCount, sound.counted, sound.counter, sound.distinct, sound.within⟩

/-- The identity of the task is set once, before any group of it completes. -/
theorem Sound.commandProcessorSubmitted (sound : system.Sound) (task : HSAQueueEntry) :
    (system.commandProcessorSubmitted task).Sound := by
  unfold LifecycleSystem.commandProcessorSubmitted
  dsimp only
  split
  · exact sound.panic
  · rename_i admitted
    simp only [Bool.or_eq_true, not_or, Bool.not_eq_true', Bool.not_eq_false,
      decide_eq_true_eq, not_not] at admitted
    obtain ⟨⟨⟨⟨⟨⟨⟨armed, -⟩, first⟩, -⟩, -⟩, -⟩, -⟩, -⟩ := admitted
    -- a second submission would find the counter at one
    have invalid : system.lifecycle.taskIdentity.valid = false := by
      by_contra valid
      rw [Bool.not_eq_false] at valid
      have once := sound.submitted valid
      rw [first] at once
      exact absurd once (by decide)
    obtain ⟨noGroups, running⟩ := sound.unsubmitted invalid
    have untouched := sound.signalWrites
    rw [running] at untouched
    refine ⟨fun idle => ?_, fun _ => ?_, fun absent => ?_, fun done => ?_, fun done => ?_, ?_,
      fun done => ?_, sound.retireCalls, sound.retireAfter, sound.retireCount, sound.counted,
      sound.counter, sound.distinct, ?_⟩
    · exact absurd (armed.symm.trans idle) (by decide)
    · dsimp only
      rw [first]
      rfl
    · cases absent
    · exact absurd (running.symm.trans done) (by decide)
    · exact sound.retired done
    · dsimp only
      rw [running]
      exact untouched
    · exact absurd (running.symm.trans done) (by decide)
    · dsimp only
      rw [noGroups]
      simp

theorem Sound.gpuDispatcherStarted (sound : system.Sound) (task : HSAQueueEntry) :
    (system.gpuDispatcherStarted task).Sound := by
  unfold LifecycleSystem.gpuDispatcherStarted
  dsimp only
  split
  · exact sound.panic
  · rename_i admitted
    simp only [Bool.or_eq_true, not_or, Bool.not_eq_true', Bool.not_eq_false, Bool.not_eq_true,
      decide_eq_true_eq, not_not] at admitted
    obtain ⟨⟨⟨⟨matched, -⟩, -⟩, unstarted⟩, -⟩ := admitted
    obtain ⟨armed, -⟩ := taskMatches_spec matched
    -- a completed dispatch has started, and this one has not
    have running : system.lifecycle.kernelCompleted = false := by
      by_contra done
      rw [Bool.not_eq_false] at done
      exact absurd ((sound.completed done).1.symm.trans unstarted) (by decide)
    refine ⟨fun idle => ?_, sound.submitted, sound.unsubmitted, fun done => ?_, sound.retired,
      sound.signalWrites, sound.decremented, sound.retireCalls, sound.retireAfter,
      sound.retireCount, sound.counted, sound.counter, sound.distinct, sound.within⟩
    · exact absurd (armed.symm.trans idle) (by decide)
    · exact absurd (running.symm.trans done) (by decide)

theorem Sound.cuReport (sound : system.Sound) (task : HSAQueueEntry) :
    (system.cuReport task).Sound := by
  unfold LifecycleSystem.cuReport
  split
  · exact sound.panic
  · exact sound

/-- A group is counted once, and only while the dispatch is active. -/
theorem Sound.gpuWorkgroupCompleted (sound : system.Sound) (task : HSAQueueEntry)
    (workgroupId : Int32) (alive : system.panicked = false) :
    (observed system (system.gpuWorkgroupCompleted task workgroupId)
      (.gpuWorkgroupCompleted task workgroupId)).Sound := by
  unfold LifecycleSystem.gpuWorkgroupCompleted
  dsimp only
  split
  · rw [observed_gpuWorkgroupCompleted, signalChange_of_memory]
    · exact sound.panic
    · rfl
  · rename_i admitted
    simp only [Bool.or_eq_true, not_or, Bool.not_eq_true', Bool.not_eq_false,
      decide_eq_true_eq, List.contains_iff_mem] at admitted
    obtain ⟨⟨⟨⟨matched, active⟩, above⟩, below⟩, fresh⟩ := admitted
    obtain ⟨armed, valid, -, total⟩ := taskMatches_spec matched
    have running : system.lifecycle.kernelCompleted = false := by
      by_contra done
      rw [Bool.not_eq_false] at done
      exact absurd ((sound.completed done).2.1.symm.trans active) (by decide)
    rw [observed_gpuWorkgroupCompleted, signalChange_of_memory]
    swap
    · rfl
    refine ⟨fun idle => ?_, sound.submitted, fun absent => ?_, fun done => ?_, sound.retired,
      sound.signalWrites, sound.decremented, sound.retireCalls, sound.retireAfter,
      sound.retireCount, ?_, ?_, ?_, ?_⟩
    · exact absurd (armed.symm.trans idle) (by decide)
    · exact absurd (valid.symm.trans absent) (by decide)
    · exact absurd (running.symm.trans done) (by decide)
    · dsimp only
      rw [alive, sound.counted]
      rfl
    · dsimp only
      rw [sound.counter, List.length_cons, UInt64.ofNat_add]
      rfl
    -- the duplicate check of the source keeps the groups distinct
    · exact List.nodup_cons.mpr ⟨fresh, sound.distinct⟩
    · intro id member
      rcases List.mem_cons.mp member with rfl | old
      · rw [total] at below
        rw [ge_iff_le, Int32.not_le] at below
        rw [Int32.not_lt] at above
        exact ⟨above, below⟩
      · exact sound.within id old

/-- The packet of a completed dispatch is retired through the source, once. -/
theorem Sound.hsaPacketRetired (sound : system.Sound) (task : HSAQueueEntry) (retires : Bool)
    (alive : system.panicked = false) : (system.hsaPacketRetired task retires).Sound := by
  unfold LifecycleSystem.hsaPacketRetired
  dsimp only
  split
  · exact sound.panic
  · rename_i admitted
    simp only [Bool.or_eq_true, not_or, Bool.not_eq_true', Bool.not_eq_false,
      Bool.not_eq_true] at admitted
    obtain ⟨⟨⟨matched, -⟩, done⟩, unretired⟩ := admitted
    obtain ⟨armed, -⟩ := taskMatches_spec matched
    -- the source retires only what it has not retired, so the counter stands at zero
    have none := sound.retireCount alive
    rw [unretired] at none
    have called : system.ledger.retireCalls + 1 = 1 := congrArg (· + 1) none
    have armedStays : ∀ {goal : Prop}, system.lifecycle.isArmed = false → goal :=
      fun idle => absurd (armed.symm.trans idle) (by decide)
    split
    · exact ⟨fun idle => armedStays idle, sound.submitted, sound.unsubmitted, sound.completed,
        sound.retired, sound.signalWrites, sound.decremented, called.le, fun _ => done,
        fun dead => (by cases dead), sound.counted, sound.counter, sound.distinct, sound.within⟩
    · exact ⟨fun idle => armedStays idle, sound.submitted, sound.unsubmitted, sound.completed,
        fun _ => done, sound.signalWrites, sound.decremented, called.le, fun _ => done,
        fun _ => called, sound.counted, sound.counter, sound.distinct, sound.within⟩

/-- A commit changes nothing but the failure text, or finds no signal, or decrements the
signal word in memory, or decrements it and cannot read it back. -/
theorem commitSignal_cases (system : LifecycleSystem) (task : HSAQueueEntry)
    (env : CompletionEnv) :
    (∃ reason, system.commitSignal task env = system.fail reason) ∨
    (task.completionSignal = 0 ∧ system.commitSignal task env = (true, { system with
      lifecycle := { system.lifecycle with
        completionSignalBefore := 0
        completionSignalAfter := 0 } })) ∨
    (∃ valueVa before, task.completionSignal ≠ 0 ∧
      system.lifecycle.identity.completionSignalValueVa = some valueVa ∧
      before = (loadWord system.memory valueVa).toInt64 ∧ before ≠ Int64.minValue ∧
      system.commitSignal task env = (true, { system with
        lifecycle := { system.lifecycle with
          completionSignalBefore := before
          completionSignalAfter := before - 1 }
        memory := storeWord system.memory valueVa (before - 1).toUInt64 })) ∨
    (system.ReachesWrite task env ∧ env.writes = true ∧ env.readsBack = false) := by
  unfold commitSignal
  dsimp only
  by_cases silent : task.completionSignal = 0
  · rw [if_pos silent]
    split
    · exact .inl ⟨_, rfl⟩
    · exact .inr (.inl ⟨silent, rfl⟩)
  · rw [if_neg silent]
    split
    · exact .inl ⟨_, rfl⟩
    · rename_i valueVa bound
      by_cases unread : env.reads = false
      · exact .inl ⟨_, by rw [unread]; rfl⟩
      rw [Bool.not_eq_false] at unread
      rw [if_neg (by rw [unread]; decide)]
      split
      · exact .inl ⟨_, rfl⟩
      · rename_i admitted
        simp only [Bool.or_eq_true, Bool.and_eq_true, decide_eq_true_eq, not_or, not_and,
          not_not] at admitted
        by_cases unwritten : env.writes = false
        · exact .inl ⟨_, by rw [unwritten]; rfl⟩
        rw [Bool.not_eq_false] at unwritten
        rw [if_neg (by rw [unwritten]; decide)]
        -- past this point the word has been written
        by_cases lost : env.readsBack = false
        · exact .inr (.inr (.inr ⟨⟨silent, valueVa, bound, unread, admitted⟩, unwritten, lost⟩))
        rw [Bool.not_eq_false] at lost
        rw [loadWord_storeWord, lost, if_neg (by simp)]
        exact .inr (.inr (.inl ⟨valueVa, _, silent, bound, rfl, admitted.2, rfl⟩))

/-- Away from the least value, the decrement of a signal word does not wrap. -/
theorem toInt_sub_one {before : Int64} (above : before ≠ Int64.minValue) :
    (before - 1).toInt = before.toInt - 1 := by
  have low := before.le_toInt
  have high := before.toInt_lt
  have ne : before.toInt ≠ -2 ^ 63 := fun least => above (Int64.toInt_inj.mp least)
  rw [Int64.toInt_sub, Int64.toInt_one]
  exact Int.bmod_eq_of_le (by omega) (by omega)

theorem signalChange_storeWord {valueVa : UInt64} {value : Int64}
    (bound : system.lifecycle.identity.completionSignalValueVa = some valueVa)
    (stored : after.memory = storeWord system.memory valueVa value.toUInt64)
    (differs : (loadWord system.memory valueVa).toInt64 ≠ value) :
    signalChange system after = [⟨(loadWord system.memory valueVa).toInt64, value⟩] := by
  have now : (loadWord after.memory valueVa).toInt64 = value := by
    rw [stored, loadWord_storeWord]
    exact Int64.toInt64_toUInt64 value
  rw [signalChange, bound]
  dsimp only
  rw [now, if_neg differs]

/-- Completion keeps the invariant unless it loses the readback. -/
theorem Sound.completeKernel (sound : system.Sound) (task : HSAQueueEntry) (env : CompletionEnv)
    (readsBack : system.ReadsBack (.completeKernel task env)) :
    (observed system (system.completeKernel task env).2 (.completeKernel task env)).Sound := by
  have failed (reason : String) :
      (observed system (system.fail reason).2 (.completeKernel task env)).Sound := by
    rw [observed_of_memory]
    · exact sound.fail reason
    · rfl
  unfold LifecycleSystem.completeKernel
  by_cases matched : system.lifecycle.completionMatches task = true
  swap
  · rw [Bool.not_eq_true] at matched
    rw [if_pos (by rw [matched]; decide)]
    exact failed _
  rw [if_neg (by rw [matched]; decide)]
  by_cases validates : env.validates = true
  swap
  · rw [Bool.not_eq_true] at validates
    rw [if_pos (by rw [validates]; decide)]
    exact failed _
  rw [if_neg (by rw [validates]; decide)]
  obtain ⟨matches', started, running, full⟩ := completionMatches_spec matched
  obtain ⟨armed, valid, signal, total⟩ := taskMatches_spec matches'
  have none := sound.signalWrites
  rw [running, if_neg (by simp)] at none
  -- a full count of distinct ids below the total leaves none of them out
  have all : ∀ id, 0 ≤ id → id < system.lifecycle.taskIdentity.totalWorkgroups →
      id ∈ system.lifecycle.completedWorkgroups := by
    intro id above below
    rw [total] at full
    exact mem_of_full sound.distinct sound.within full above below
  rcases commitSignal_cases system task env with
    ⟨reason, same⟩ | ⟨silent, same⟩ | ⟨valueVa, before, loud, bound, read, above, same⟩ |
      ⟨reaches, writes, lost⟩
  · rw [same]
    exact failed reason
  · rw [same, observed_of_memory]
    swap
    · rfl
    rw [signal] at silent
    refine ⟨fun idle => ?_, sound.submitted, fun absent => ?_, fun _ => ⟨started, rfl, all⟩,
      fun _ => rfl, ?_, fun _ loud => absurd silent loud, sound.retireCalls, fun _ => rfl,
      sound.retireCount, sound.counted, sound.counter, sound.distinct, sound.within⟩
    · exact absurd (armed.symm.trans idle) (by decide)
    · exact absurd (valid.symm.trans absent) (by decide)
    · exact none.trans (if_neg fun signalled => signalled.2 silent).symm
  · rw [same]
    -- the store is seen as one change of the word, since a decrement never leaves it as it was
    have changed : before ≠ before - 1 := by
      intro equal
      have := toInt_sub_one above
      rw [← equal] at this
      omega
    rw [observed_completeKernel, signalChange_storeWord bound rfl (read ▸ changed)]
    refine ⟨fun idle => ?_, sound.submitted, fun absent => ?_, fun _ => ⟨started, rfl, all⟩,
      fun _ => rfl, ?_, fun _ _ => toInt_sub_one above, sound.retireCalls, fun _ => rfl,
      sound.retireCount, sound.counted, sound.counter, sound.distinct, sound.within⟩
    · exact absurd (armed.symm.trans idle) (by decide)
    · exact absurd (valid.symm.trans absent) (by decide)
    · rw [← read]
      exact (congrArg (_ :: ·) none).trans (if_pos ⟨rfl, signal ▸ loud⟩).symm
  -- the word is written and the call fails: the case that the hypothesis rules out
  · exact absurd ⟨matched, validates, reaches, writes, lost⟩ readsBack

/-- Every call that neither writes memory nor counts a group keeps the invariant. -/
theorem Sound.run (sound : system.Sound) {event : LifecycleEvent} (quiet : event.Quiet)
    (alive : system.panicked = false) : (system.run event).2.Sound := by
  cases event with
  | arm config queue => exact sound.arm config queue
  | bindCompletionSignal handle valueAddress expectedValue =>
    exact sound.bindCompletionSignal handle valueAddress expectedValue
  | cancel => exact sound.cancel
  | reset => exact sound.reset
  | hsaPacketFetched hostPacketAddr queueId =>
    exact sound.hsaPacketFetched hostPacketAddr queueId
  | commandProcessorSubmitted task => exact sound.commandProcessorSubmitted task
  | gpuDispatcherStarted task => exact sound.gpuDispatcherStarted task
  | cuWaveStarted task => exact sound.cuReport task
  | cuInstructionStarted task => exact sound.cuReport task
  | cuGlobalStoreCompleted task => exact sound.cuReport task
  | hsaPacketRetired task retires => exact sound.hsaPacketRetired task retires alive
  | gpuWorkgroupCompleted task workgroupId => exact quiet.elim
  | completeKernel task env => exact quiet.elim
  | others memory => exact quiet.elim

/-- Every event keeps the invariant, except a completion that loses the readback. -/
theorem sound_step (system : LifecycleSystem) (event : LifecycleEvent) (sound : system.Sound)
    (readsBack : system.ReadsBack event) : (system.step event).Sound := by
  unfold step
  split
  -- a run that has panicked stays where it is
  · exact sound
  · rename_i alive
    rw [Bool.not_eq_true] at alive
    by_cases quiet : event.Quiet
    · rw [observed_of_quiet quiet]
      exact sound.run quiet alive
    cases event with
    | gpuWorkgroupCompleted task workgroupId =>
      exact sound.gpuWorkgroupCompleted task workgroupId alive
    | completeKernel task env => exact sound.completeKernel task env readsBack
    | others memory => exact sound.withMemory memory
    | _ => exact absurd trivial quiet

end Steps

section Law

/-- The invariant gives the law. -/
theorem Sound.completionLaw (sound : system.Sound) : system.CompletionLaw where
  fresh idle := (sound.idle idle).2.2.2.2.2
  decrementedOnce := by
    rw [sound.signalWrites]
    split <;> simp
  decremented := by
    intro write member
    rw [sound.signalWrites] at member
    split at member
    · rename_i signalled
      obtain rfl := List.mem_singleton.mp member
      exact sound.decremented signalled.1 signalled.2
    · cases member
  completed := by
    intro done
    rw [sound.signalWrites, done]
    by_cases silent : system.lifecycle.taskIdentity.completionSignal = 0 <;> simp [silent]
  elsewhere := by
    intro event own address outside
    unfold step
    split
    · rfl
    · rw [observed_memory]
      exact run_frame system own outside
  retiredOnce := sound.retireCalls
  retiredAfter := sound.retireAfter
  countedOnce := sound.counted ▸ sound.distinct
  counted := by
    intro done id
    rw [sound.counted]
    exact ⟨sound.within id, fun inside => (sound.completed done).2.2 id inside.1 inside.2⟩
  counter := sound.counted ▸ sound.counter
  reset := by
    intro alive succeeded
    rw [sound.retireCount alive]
    unfold LifecycleSystem.reset at succeeded
    dsimp only at succeeded
    split at succeeded
    · cases succeeded
    · rename_i admitted
      simp only [Bool.or_eq_true, not_or, Bool.not_eq_true', Bool.not_eq_false] at admitted
      rw [if_pos admitted.1.2]

/-- Along every run in which no written signal word fails to be read back, every state
satisfies the law. -/
theorem completionLaw_of_run (memory : SparseBytes) (events : List LifecycleEvent)
    (readsBack : Meets step ReadsBack (boot memory) events) :
    (runFrom step (boot memory) events).CompletionLaw :=
  (invariant_of_meets step Sound sound_step (sound_boot memory) readsBack).completionLaw

end Law

section Limits

/-- A queue of one slot. -/
def singleSlotQueue : HostNativeQueueCore :=
  { context := fun _ => 0
    registered := true
    queueConfig := { baseVa := 0x1000, hostReadIndexVa := 0x2000, generation := 1, queueBytes := 64 } }

/-- A dispatch of one group whose signal word is not expected to hold a value. -/
def singleGroupConfig : HostNativeExecutionLifecycle.Config :=
  { dispatchId := 1, requestId := 1, hostPacketVa := 0x1000, queueGeneration := 1
    completionSignalHandle := some 0x3000, completionSignalValueVa := some 0x3008 }

def singleGroupTask : HSAQueueEntry :=
  { dispatchId := 1, queueId := 0, hostDispPktAddr := 0x1000, completionSignal := 0x3000
    codeAddr := 0, kernargAddr := 0, numWgTotal := 1, numWgCompleted := 1
    gridSize := fun _ => 1, wgSize := fun _ => 1 }

/-- The dispatch runs up to its completion. -/
def runningEvents : List LifecycleEvent :=
  [.arm singleGroupConfig singleSlotQueue, .hsaPacketFetched 0x1000 0,
    .commandProcessorSubmitted singleGroupTask, .gpuDispatcherStarted singleGroupTask,
    .gpuWorkgroupCompleted singleGroupTask 0]

theorem completionLaw_retiredRun :
    let final := runFrom step (boot fun _ => 0) (runningEvents ++
      [.completeKernel singleGroupTask {}, .hsaPacketRetired singleGroupTask true])
    final.lifecycle.packetRetired = true ∧ (loadWord final.memory 0x3008).toInt64 = -1 ∧
      final.ledger.signalWrites = [⟨0, -1⟩] ∧ final.CompletionLaw :=
  ⟨by decide +kernel, by decide +kernel, by decide +kernel, completionLaw_of_run _ _
    ⟨id, id, id, id, id, fun lost => absurd lost.2.2.2.2 (by decide), id, trivial⟩⟩

/-- The first completion writes the word and loses the readback; the retry decrements the
word a second time. -/
theorem completionLaw_fails :
    let final := runFrom step (boot fun _ => 0) (runningEvents ++
      [.completeKernel singleGroupTask { readsBack := false }, .completeKernel singleGroupTask {}])
    final.panicked = false ∧ final.lifecycle.kernelCompleted = true ∧
      final.ledger.signalWrites = [⟨-1, -2⟩, ⟨0, -1⟩] ∧
      (loadWord final.memory 0x3008).toInt64 = -2 ∧ ¬ final.CompletionLaw := by
  intro final
  have twice : final.ledger.signalWrites = [⟨-1, -2⟩, ⟨0, -1⟩] := by decide +kernel
  refine ⟨by decide +kernel, by decide +kernel, twice, by decide +kernel, fun law => ?_⟩
  have once := law.decrementedOnce
  rw [twice] at once
  exact absurd once (by decide)

end Limits

end LifecycleSystem

end GemSim.Native
