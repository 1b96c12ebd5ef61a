import GemSim.Lib.Checks
import GemSim.Native.AqlControl
import GemSim.Native.QueueLaw

/-!
# The law of control packets

A control packet that is not completed leaves the queue and the values of all completion signals as
they were, unless the queue fails to retire it or its signal cannot be written at the very end. A
packet that is completed has moved the queue on by one, and has counted its signal down by one; if
it is a barrier, what it waits for has been there. So over any number of attempts a packet counts
its signal down at most once.

## Main definitions

* `SameCursors`, `SameValues` — what an attempt leaves alone
* `DependenciesMet` — what a barrier waits for
* `AttemptLaw`, `ControlLaw` — what holds of one attempt, and of all of them
* `controlStep` — a queue between whose calls packets are processed

## Main results

* `attemptLaw` — the law of one attempt
* `controlLaw_of_reachable` — the law, in every state that is reached
-/

namespace GemSim.Native

open GemSim.Lib GemSim.Lib.Checks HostNativeQueueCore

section Laws

/-- The cursors of a queue and its pending packet are those of another one. -/
structure SameCursors (before after : HostNativeQueueCore) : Prop where
  read : after.readIdx = before.readIdx
  dispatch : after.dispatchIdx = before.dispatchIdx
  fetch : after.fetchIdx = before.fetchIdx
  write : after.writeIdx = before.writeIdx
  pending : after.pending = before.pending

/-- The value word of a signal. -/
def signalValue (memory : SparseBytes) (handle : UInt64) : UInt64 :=
  loadWord memory (handle + SignalValueOffset)

/-- Every completion signal has the value that it had. -/
def SameValues (before after : SparseBytes) : Prop :=
  ∀ handle, handle % SignalBytes = 0 → signalValue after handle = signalValue before handle

/-- What the condition of a barrier says of a masked value. -/
def ConditionMet (condition : UInt32) (value expected : UInt64) : Prop :=
  (condition = 0 ∧ value = expected) ∨ (condition = 1 ∧ value ≠ expected) ∨
    (condition = 2 ∧ value.toInt64 < expected.toInt64) ∨
    (condition = 3 ∧ expected.toInt64 ≤ value.toInt64)

/-- What a barrier waits for. A barrier without dependencies does not wait. -/
structure DependenciesMet (packet : List UInt8) (memory : SparseBytes) : Prop where
  all : packetByte packet 0 = BarrierAnd → ∀ index < 5, dependency packet index ≠ 0 →
    signalValue memory (dependency packet index) = 0
  some : packetByte packet 0 = BarrierOr → (∀ index < 5, dependency packet index = 0) ∨
    ∃ index < 5, dependency packet index ≠ 0 ∧ signalValue memory (dependency packet index) = 0
  value : packetByte packet 0 = VendorSpecific → packetByte packet 2 = AmdBarrierValue →
    load64 packet 8 = 0 ∨
      ConditionMet (load32 packet 32) (signalValue memory (load64 packet 8) &&& load64 packet 24)
        (load64 packet 16)

variable (queue : HostNativeQueueCore) (memory : SparseBytes) (requestId : UInt64)
  (env : ControlEnv)

/-- The packet that an attempt looks at. -/
def attempted : FetchedPacket := (queue.fetch env.fetches).packet

/-- The queue once the packet of an attempt has been accepted. -/
def acceptedQueue : HostNativeQueueCore :=
  ((queue.fetch env.fetches).after.acceptDispatch (attempted queue env).ticket).after

/-- The retirement of the packet. -/
def retirement : Reply :=
  (acceptedQueue queue env).retire (attempted queue env).queueIndex env.retireWrites

/-- The queue was asked to retire the packet, and did not. -/
structure RetireFailed : Prop where
  left : (process queue memory requestId env).queue = (retirement queue env).after
  refused : (retirement queue env).returned = false

/-- The queue has retired the packet, and the signal was not written. -/
structure SignalFailed : Prop where
  left : (process queue memory requestId env).queue = (retirement queue env).after
  retired : (retirement queue env).returned = true
  unwritten : env.signalWrites = false

/-- What holds of one attempt. -/
structure AttemptLaw : Prop where
  kept : (process queue memory requestId env).result.status ≠ .Completed →
    ((process queue memory requestId env).result.status = .Failed ∧
      (RetireFailed queue memory requestId env ∨ SignalFailed queue memory requestId env)) ∨
    (SameCursors queue (process queue memory requestId env).queue ∧
      SameValues memory (process queue memory requestId env).memory)
  advanced : (process queue memory requestId env).result.status = .Completed →
    (process queue memory requestId env).queue.readIdx = queue.readIdx + 1 ∧
      (process queue memory requestId env).queue.dispatchIdx = queue.dispatchIdx + 1 ∧
      (process queue memory requestId env).queue.fetchIdx = queue.fetchIdx + 1 ∧
      (process queue memory requestId env).queue.writeIdx = queue.writeIdx ∧
      (process queue memory requestId env).queue.pending = none ∧
      (process queue memory requestId env).result.queueIndex = queue.readIdx
  counted : (process queue memory requestId env).result.status = .Completed →
    load64 (attempted queue env).bytes CompletionSignalOffset ≠ 0 →
    signalValue (process queue memory requestId env).memory
        (load64 (attempted queue env).bytes CompletionSignalOffset) =
      signalValue memory (load64 (attempted queue env).bytes CompletionSignalOffset) - 1
  met : (process queue memory requestId env).result.status = .Completed →
    DependenciesMet (attempted queue env).bytes memory

/-- The law of one attempt, in every memory and with every outcome of the accesses. -/
def EveryAttempt (queue : HostNativeQueueCore) : Prop :=
  ∀ memory requestId env, AttemptLaw queue memory requestId env

/-- A call of the queue, or an attempt at the packet at its fetch index. Between attempts the
memory may have become any other, and so may the ring, which the producer writes. -/
inductive ControlInput where
  | call (call : Call)
  | attempt (context memory : SparseBytes) (requestId : UInt64) (env : ControlEnv)

def controlReply (queue : HostNativeQueueCore) (context memory : SparseBytes)
    (requestId : UInt64) (env : ControlEnv) : ControlReply :=
  process { queue with context := context } memory requestId env

def controlStep (queue : HostNativeQueueCore) : ControlInput → HostNativeQueueCore
  | .call call => queue.step call
  | .attempt context memory requestId env => (controlReply queue context memory requestId env).queue

/-- The index of the packet that an attempt completes. -/
def completedIndex (queue : HostNativeQueueCore) : ControlInput → List ℕ
  | .call _ => []
  | .attempt context memory requestId env =>
    if (controlReply queue context memory requestId env).result.status = .Completed then
      [(controlReply queue context memory requestId env).result.queueIndex.toNat]
    else []

/-- The input does not start a registration. -/
def ControlSameRegistration (queue : HostNativeQueueCore) : ControlInput → Prop
  | .call call => queue.SameRegistration call
  | .attempt _ _ _ _ => True

/-- What holds of a queue of control packets: the law of every attempt, and that no packet of a
registration is completed twice. -/
structure ControlLaw (queue : HostNativeQueueCore) : Prop where
  attempts : EveryAttempt queue
  once : ∀ inputs, Meets controlStep ControlSameRegistration queue inputs →
    (outputs controlStep completedIndex queue inputs).Pairwise (· < ·)

end Laws

section Queue

variable {queue after : HostNativeQueueCore} {packet : FetchedPacket} {reads : Bool}

/-- A queue from which a packet has been fetched. -/
structure Taken (queue after : HostNativeQueueCore) (packet : FetchedPacket) : Prop where
  before : queue.registered = true
  live : after.registered = true
  pending : after.pending = some packet
  read : after.readIdx = queue.readIdx
  dispatch : after.dispatchIdx = queue.dispatchIdx
  fetch : after.fetchIdx = queue.fetchIdx + 1
  write : after.writeIdx = queue.writeIdx
  free : queue.pending = none
  index : packet.queueIndex = queue.fetchIdx
  next : queue.fetchIdx = queue.dispatchIdx
  below : queue.fetchIdx < queue.writeIdx

theorem fetch_taken (sound : queue.Sound) (returned : (queue.fetch reads).returned = true) :
    Taken queue (queue.fetch reads).after (queue.fetch reads).packet := by
  unfold fetch at returned ⊢
  dsimp only at returned ⊢
  split at returned
  · cases returned
  rename_i live
  rw [if_neg live]
  split at returned
  · cases returned
  rename_i free
  rw [if_neg free]
  split at returned
  · cases returned
  rename_i below
  rw [if_neg below]
  rw [Bool.not_eq_true', Bool.not_eq_false] at live
  rw [Bool.not_eq_true, Option.isSome_eq_false_iff, Option.isNone_iff_eq_none] at free
  rw [ge_iff_le, UInt64.not_le] at below
  have window := (sound.ring live).window
  have caughtUp := window.free (by rw [show queue.pending = none from free]; rfl)
  split at returned
  · cases returned
  rename_i packetVa place
  split at returned
  · cases returned
  rename_i state
  rw [if_neg state]
  split at returned
  · cases returned
  rename_i readable
  rw [if_neg readable]
  split at returned
  · cases returned
  rename_i tickets
  rw [if_neg tickets]
  rw [nextIndex_of_lt below]
  exact ⟨live, live, rfl, rfl, rfl, rfl, rfl, free, rfl, UInt64.toNat_inj.mp caughtUp, below⟩

/-- A packet that has been fetched can be given back, and the queue is as before. -/
theorem Taken.cancel (taken : Taken queue after packet) :
    (after.cancelFetch packet.ticket).returned = true ∧
      SameCursors queue (after.cancelFetch packet.ticket).after := by
  have next : after.fetchIdx.toNat = queue.fetchIdx.toNat + 1 := by
    rw [taken.fetch, toNat_succ_of_lt (UInt64.lt_iff_toNat_lt.mp taken.below)]
  have some : after.fetchIdx ≠ 0 := by
    rw [ne_zero_iff_toNat_pos]
    omega
  have due : ¬ (after.cleared.fetchIdx = 0 ∨ packet.queueIndex + 1 ≠ after.cleared.fetchIdx) := by
    rw [taken.index]
    rintro (none | other)
    · exact some none
    · exact other taken.fetch.symm
  have pending : after.cleared.pending = Option.some packet := taken.pending
  have live : ¬ (!after.cleared.registered) = true := by
    rw [show after.cleared.registered = true from taken.live]
    decide
  unfold cancelFetch
  dsimp only
  rw [if_neg live, pending]
  dsimp only
  rw [if_neg (not_not.mpr rfl), if_neg due]
  exact ⟨rfl, ⟨taken.read, taken.dispatch, taken.index, taken.write, taken.free.symm⟩⟩

/-- A packet that has been fetched is accepted. -/
theorem Taken.accept (taken : Taken queue after packet) :
    (after.acceptDispatch packet.ticket).returned = true ∧
      (after.acceptDispatch packet.ticket).after =
        { after.cleared with dispatchIdx := queue.dispatchIdx + 1, pending := none } := by
  have below : after.dispatchIdx < queue.writeIdx := by
    rw [taken.dispatch, ← taken.next]
    exact taken.below
  have due : packet.queueIndex = after.dispatchIdx := by
    rw [taken.index, taken.next, taken.dispatch]
  rw [acceptDispatch_of_due taken.live taken.pending due below, taken.dispatch]
  exact ⟨rfl, rfl⟩

/-- A retirement moves the read index, and no other cursor. -/
theorem retire_cursors {index : UInt64} {writes : Bool}
    (returned : (queue.retire index writes).returned = true) :
    index = queue.readIdx ∧ (queue.retire index writes).after.readIdx = queue.readIdx + 1 ∧
      (queue.retire index writes).after.dispatchIdx = queue.dispatchIdx ∧
      (queue.retire index writes).after.fetchIdx = queue.fetchIdx ∧
      (queue.retire index writes).after.writeIdx = queue.writeIdx ∧
      (queue.retire index writes).after.pending = queue.pending := by
  rcases retire_cases queue index writes with ⟨refused, -⟩ | ⟨-, effect⟩
  · exact absurd (returned.symm.trans refused) (by decide)
  · generalize (queue.retire index writes).after = after at effect ⊢
    cases effect with
    | published _ _ _ _ _ silent => cases silent
    | «repeated» _ silent => cases silent
    | retired _ live below => exact ⟨rfl, rfl, rfl, rfl, rfl, rfl⟩
    | dropped _ silent => cases silent

end Queue

section Signals

variable {memory after : SparseBytes} {handle other value : UInt64} {env : ControlEnv}

theorem sameValues_refl (memory : SparseBytes) : SameValues memory memory := fun _ _ => rfl

theorem toNat_add_mod_signal (aligned : handle % SignalBytes = 0) (offset : ℕ) (small : offset < 64) :
    (handle + UInt64.ofNat offset).toNat % 64 = offset := by
  rw [← UInt64.toNat_inj, UInt64.toNat_mod] at aligned
  have zero : handle.toNat % 64 = 0 := aligned
  rw [UInt64.toNat_add, UInt64.toNat_ofNat']
  omega

/-- The timestamps of one signal are not in the value word of any signal. -/
theorem signalValue_stamped (aligned : handle % SignalBytes = 0) (also : other % SignalBytes = 0)
    (source : ℕ → UInt8) :
    signalValue (storeBytes memory (handle + SignalTimestampOffset) 16 source) other =
      signalValue memory other := by
  apply loadWord_storeBytes
  intro byte inside stamped
  obtain ⟨index, below, rfl⟩ := mem_touched.mp inside
  obtain ⟨stamp, less, same⟩ := mem_touched.mp stamped
  have first := toNat_add_mod_signal also (8 + index) (by omega)
  have second := toNat_add_mod_signal aligned (32 + stamp) (by omega)
  rw [UInt64.ofNat_add, ← UInt64.add_assoc] at first second
  have equal : (handle + UInt64.ofNat 32 + UInt64.ofNat stamp).toNat =
      (other + UInt64.ofNat 8 + UInt64.ofNat index).toNat := congrArg UInt64.toNat same
  omega

/-- A signal has been prepared: all values are kept, and its own has been read. -/
structure Prepared (memory : SparseBytes) (handle : UInt64)
    (outcome : Except String UInt64 × SparseBytes) : Prop where
  kept : SameValues memory outcome.2
  value : ∀ value, outcome.1 = .ok value → handle ≠ 0 →
    handle % SignalBytes = 0 ∧ value = signalValue memory handle ∧ value ≠ leastValue

theorem prepared_error (same : SameValues memory after) (reason : String) :
    Prepared memory handle (.error reason, after) where
  kept := same
  value := by
    intro value failed
    cases failed

theorem prepareCompletionSignal_prepared (memory : SparseBytes) (handle : UInt64)
    (env : ControlEnv) : Prepared memory handle (prepareCompletionSignal memory handle env) := by
  have refused := @prepared_error memory memory handle (sameValues_refl memory)
  unfold prepareCompletionSignal
  split
  · rename_i none
    exact ⟨sameValues_refl memory, fun value _ some => absurd none some⟩
  split
  · exact refused _
  rename_i aligned
  rw [not_not] at aligned
  split
  · exact refused _
  split
  · exact refused _
  dsimp only
  split
  · exact refused _
  rename_i counts
  split
  · exact refused _
  split
  · exact refused _
  rename_i start_ts end_ts _ _
  have stamped : SameValues memory
      (storeBytes memory (handle + SignalTimestampOffset) 16 (stamps start_ts end_ts)) :=
    fun other also => signalValue_stamped aligned also _
  split
  · exact prepared_error stamped _
  · refine ⟨stamped, fun value found _ => ?_⟩
    rw [← Except.ok.inj found]
    exact ⟨aligned, rfl, counts⟩

/-- A signal that has been counted down has its value less one. -/
theorem commit_spec {writes : Bool}
    (committed : commitCompletionSignal memory handle value writes = .ok after) (some : handle ≠ 0) :
    signalValue after handle = value - 1 := by
  unfold commitCompletionSignal at committed
  rw [if_neg some] at committed
  split at committed
  · cases committed
  split at committed
  · cases committed
  cases committed
  exact loadWord_storeWord _ _ _

/-- An aligned signal that can be counted down is not written only if the write fails. -/
theorem commit_error {writes : Bool} {reason : String} (aligned : handle % SignalBytes = 0)
    (counts : value ≠ leastValue)
    (failed : commitCompletionSignal memory handle value writes = .error reason) :
    writes = false := by
  unfold commitCompletionSignal at failed
  split at failed
  · cases failed
  split at failed
  · rename_i refused
    have within : ¬ handle > u64Max - SignalValueOffset := by
      rw [← UInt64.toNat_inj, UInt64.toNat_mod] at aligned
      have zero : handle.toNat % 64 = 0 := aligned
      have bound := handle.toNat_lt
      rw [gt_iff_lt, UInt64.lt_iff_toNat_lt]
      change ¬ 2 ^ 64 - 1 - 8 < handle.toNat
      omega
    rw [Bool.or_eq_true, decide_eq_true_iff] at refused
    have unwritten := refused.resolve_left within
    rwa [Bool.not_eq_true'] at unwritten
  · cases failed

end Signals

section Barriers

variable {packet : List UInt8} {packetType : UInt8} {memory : SparseBytes} {reads : ℕ → Bool}
  {handle value : UInt64} {done : List ℕ} {seen after : Bool × Bool} {index : ℕ} {env : ControlEnv}

theorem readSignal_ok {readable : Bool} (some : handle ≠ 0)
    (read : readSignal memory handle readable = .ok value) : value = signalValue memory handle := by
  unfold readSignal at read
  rw [if_neg some] at read
  split at read
  · cases read
  · exact (Except.ok.inj read).symm

/-- What a barrier knows after some of its dependencies. -/
structure Seen (packet : List UInt8) (packetType : UInt8) (memory : SparseBytes) (done : List ℕ)
    (seen : Bool × Bool) : Prop where
  all : packetType = BarrierAnd → seen.1 = true → ∀ index ∈ done, dependency packet index ≠ 0 →
    signalValue memory (dependency packet index) = 0
  some : packetType = BarrierOr → seen.1 = true → ∃ index ∈ done,
    dependency packet index ≠ 0 ∧ signalValue memory (dependency packet index) = 0
  none : seen.2 = false → ∀ index ∈ done, dependency packet index = 0

theorem Seen.step (known : Seen packet packetType memory done seen)
    (went : dependencyStep packet packetType memory reads seen index = .ok after) :
    Seen packet packetType memory (done ++ [index]) after := by
  unfold dependencyStep at went
  split at went
  · rename_i empty
    obtain rfl := Except.ok.inj went
    have also : ∀ other ∈ done ++ [index], other ∈ done ∨ dependency packet other = 0 := by
      intro other member
      rcases List.mem_append.mp member with before | here
      · exact Or.inl before
      · rw [List.mem_singleton.mp here]
        exact Or.inr empty
    refine ⟨?_, ?_, ?_⟩
    · intro barrier ready other member some
      rcases also other member with before | empty
      · exact known.all barrier ready other before some
      · exact absurd empty some
    · intro barrier ready
      obtain ⟨other, before, met⟩ := known.some barrier ready
      exact ⟨other, List.mem_append_left _ before, met⟩
    · intro nothing other member
      rcases also other member with before | empty
      · exact known.none nothing other before
      · exact empty
  · rename_i named
    obtain ⟨value, read, made⟩ := bind_eq_ok.mp went
    obtain rfl := Except.ok.inj made
    obtain rfl := readSignal_ok named read
    refine ⟨?_, ?_, ?_⟩
    · rintro rfl ready other member some
      have met : signalValue memory (dependency packet index) = 0 ∧ seen.1 = true := by
        by_cases zero : signalValue memory (dependency packet index) = 0
        · simpa [zero, BarrierAnd, BarrierOr] using ready
        · simp [zero, BarrierAnd, BarrierOr] at ready
      rcases List.mem_append.mp member with before | here
      · exact known.all rfl met.2 other before some
      · rw [List.mem_singleton.mp here]
        exact met.1
    · rintro rfl ready
      by_cases zero : signalValue memory (dependency packet index) = 0
      · exact ⟨index, List.mem_append_right _ (List.mem_singleton_self index), named, zero⟩
      · have before : seen.1 = true := by simpa [zero, BarrierAnd, BarrierOr] using ready
        obtain ⟨other, member, met⟩ := known.some rfl before
        exact ⟨other, List.mem_append_left _ member, met⟩
    · intro nothing
      cases nothing

theorem Seen.fold {indices : List ℕ} (known : Seen packet packetType memory done seen)
    (went : indices.foldlM (dependencyStep packet packetType memory reads) seen = .ok after) :
    Seen packet packetType memory (done ++ indices) after := by
  induction indices generalizing done seen with
  | nil =>
    obtain rfl := Except.ok.inj went
    rwa [List.append_nil]
  | cons index rest ih =>
    rw [List.foldlM_cons, bind_eq_ok] at went
    obtain ⟨between, step, rest⟩ := went
    have behind := ih (known.step step) rest
    rwa [List.append_assoc, List.singleton_append] at behind

/-- A standard barrier that need not wait has what it waits for. -/
theorem standardBarrierReady_met
    (ready : standardBarrierReady packet packetType memory reads = .ok true) :
    (packetType = BarrierAnd → ∀ index < 5, dependency packet index ≠ 0 →
      signalValue memory (dependency packet index) = 0) ∧
    (packetType = BarrierOr → (∀ index < 5, dependency packet index = 0) ∨
      ∃ index < 5, dependency packet index ≠ 0 ∧
        signalValue memory (dependency packet index) = 0) := by
  unfold standardBarrierReady at ready
  split at ready
  · cases ready
  obtain ⟨seen, folded, answer⟩ := bind_eq_ok.mp ready
  have start : Seen packet packetType memory [] (decide (packetType = BarrierAnd), false) := by
    refine ⟨?_, ?_, ?_⟩
    · intro _ _ index none
      cases none
    · rintro rfl impossible
      exact absurd impossible (by decide)
    · intro _ index none
      cases none
  have known := start.fold folded
  rw [List.nil_append] at known
  have answer := Except.ok.inj answer
  constructor
  · intro barrier index below some
    have member : index ∈ List.range 5 := List.mem_range.mpr below
    by_cases had : seen.2 = true
    · rw [if_pos had] at answer
      exact known.all barrier answer index member some
    · exact absurd (known.none (Bool.eq_false_iff.mpr had) index member) some
  · intro barrier
    by_cases had : seen.2 = true
    · rw [if_pos had] at answer
      obtain ⟨index, member, met⟩ := known.some barrier answer
      exact Or.inr ⟨index, List.mem_range.mp member, met⟩
    · left
      intro index below
      exact known.none (Bool.eq_false_iff.mpr had) index (List.mem_range.mpr below)

theorem conditionMet_of_holds {condition : UInt32} {expected : UInt64} (bounded : ¬ condition > 3)
    (holds : conditionHolds condition value expected = true) :
    ConditionMet condition value expected := by
  unfold conditionHolds at holds
  split at holds
  · rename_i equal
    exact Or.inl ⟨equal, of_decide_eq_true holds⟩
  split at holds
  · rename_i unequal
    exact Or.inr (Or.inl ⟨unequal, of_decide_eq_true holds⟩)
  split at holds
  · rename_i less
    exact Or.inr (Or.inr (Or.inl ⟨less, of_decide_eq_true holds⟩))
  · rename_i first second third
    have last : condition = 3 := by
      rw [gt_iff_lt, UInt32.not_lt, UInt32.le_iff_toNat_le] at bounded
      rw [← UInt32.toNat_inj] at first second third ⊢
      change condition.toNat ≤ 3 at bounded
      change condition.toNat ≠ 0 at first
      change condition.toNat ≠ 1 at second
      change condition.toNat ≠ 2 at third
      change condition.toNat = 3
      omega
    exact Or.inr (Or.inr (Or.inr ⟨last, of_decide_eq_true holds⟩))

theorem amdBarrierValueReady_met (ready : amdBarrierValueReady packet memory reads = .ok true) :
    load64 packet 8 = 0 ∨
      ConditionMet (load32 packet 32) (signalValue memory (load64 packet 8) &&& load64 packet 24)
        (load64 packet 16) := by
  unfold amdBarrierValueReady at ready
  dsimp only at ready
  split at ready
  · cases ready
  rename_i formed
  split at ready
  · rename_i none
    exact Or.inl none
  · rename_i some
    obtain ⟨value, read, answer⟩ := bind_eq_ok.mp ready
    obtain rfl := readSignal_ok some read
    simp only [Bool.or_eq_true, decide_eq_true_iff, not_or] at formed
    exact Or.inr (conditionMet_of_holds formed.2 (Except.ok.inj answer))

/-- A control packet that need not wait has what it waits for. -/
theorem dependenciesMet_of_ready (ready : controlReady packet memory env = .ok true) :
    DependenciesMet packet memory := by
  unfold controlReady at ready
  dsimp only at ready
  split at ready
  · rename_i barrier
    obtain ⟨all, some⟩ := standardBarrierReady_met ready
    refine ⟨all, some, fun vendor => ?_⟩
    rw [vendor] at barrier
    exact absurd barrier (by decide)
  rename_i other
  rw [not_or] at other
  refine ⟨fun all => absurd all other.1, fun some => absurd some other.2, fun vendor format => ?_⟩
  split at ready
  · rename_i maintenance
    rw [format] at maintenance
    exact absurd maintenance.2 (by decide)
  split at ready
  · exact amdBarrierValueReady_met ready
  · cases ready

end Barriers

section Attempts

variable {queue taken : HostNativeQueueCore} {memory : SparseBytes} {requestId : UInt64}
  {env : ControlEnv} {packet : FetchedPacket}

theorem giveBack_kept (fetched : Taken queue taken packet) (status : ControlStatus)
    (reason : String) :
    (giveBack taken packet memory status reason).result.status = status ∧
      SameCursors queue (giveBack taken packet memory status reason).queue ∧
      (giveBack taken packet memory status reason).memory = memory := by
  obtain ⟨returned, same⟩ := fetched.cancel
  exact ⟨if_pos returned, same, rfl⟩

theorem failFetched_kept (fetched : Taken queue taken packet) (reason : String) :
    (failFetched taken packet memory reason).result.status = .Failed ∧
      SameCursors queue (failFetched taken packet memory reason).queue ∧
      (failFetched taken packet memory reason).memory = memory :=
  ⟨rfl, fetched.cancel.2, rfl⟩

/-- How an attempt ends. -/
inductive Attempt (queue : HostNativeQueueCore) (memory : SparseBytes) (env : ControlEnv)
    (reply : ControlReply) : Prop
  | kept (open' : reply.result.status ≠ .Completed) (cursors : SameCursors queue reply.queue)
      (values : SameValues memory reply.memory)
  | unretired (failed : reply.result.status = .Failed)
      (left : reply.queue = (retirement queue env).after)
      (refused : (retirement queue env).returned = false)
  | unsigned (failed : reply.result.status = .Failed)
      (left : reply.queue = (retirement queue env).after)
      (retired : (retirement queue env).returned = true) (unwritten : env.signalWrites = false)
  | completed (done : reply.result.status = .Completed)
      (left : reply.queue = (retirement queue env).after)
      (retired : (retirement queue env).returned = true)
      (fetched : Taken queue (queue.fetch env.fetches).after (attempted queue env))
      (index : reply.result.queueIndex = (attempted queue env).queueIndex)
      (counted : load64 (attempted queue env).bytes CompletionSignalOffset ≠ 0 →
        signalValue reply.memory (load64 (attempted queue env).bytes CompletionSignalOffset) =
          signalValue memory (load64 (attempted queue env).bytes CompletionSignalOffset) - 1)
      (met : DependenciesMet (attempted queue env).bytes memory)

theorem attempt_giveBack (fetched : Taken queue taken packet) {status : ControlStatus}
    (open' : status ≠ .Completed) (reason : String) :
    Attempt queue memory env (giveBack taken packet memory status reason) := by
  obtain ⟨named, cursors, same⟩ := giveBack_kept fetched status reason
  refine .kept (by rw [named]; exact open') cursors ?_
  rw [same]
  exact sameValues_refl memory

theorem attempt_failFetched {stamped : SparseBytes} (fetched : Taken queue taken packet)
    (values : SameValues memory stamped) (reason : String) :
    Attempt queue memory env (failFetched taken packet stamped reason) := by
  obtain ⟨failed, cursors, same⟩ := failFetched_kept fetched reason
  refine .kept (by rw [failed]; decide) cursors ?_
  rw [same]
  exact values

theorem attempt_complete
    (fetched : Taken queue (queue.fetch env.fetches).after (attempted queue env))
    (met : DependenciesMet (attempted queue env).bytes memory) :
    Attempt queue memory env
      (complete (queue.fetch env.fetches).after (attempted queue env) memory env) := by
  have prepared := prepareCompletionSignal_prepared memory
    (load64 (attempted queue env).bytes CompletionSignalOffset) env
  unfold complete
  dsimp only
  generalize prepareCompletionSignal memory
    (load64 (attempted queue env).bytes CompletionSignalOffset) env = outcome at prepared ⊢
  obtain ⟨answer, stamped⟩ := outcome
  cases answer with
  | error reason => exact attempt_failFetched fetched prepared.kept reason
  | ok value =>
    dsimp only
    rw [fetched.accept.1]
    by_cases retired : (retirement queue env).returned = true
    · have went : ((((queue.fetch env.fetches).after.acceptDispatch
          (attempted queue env).ticket).after).retire (attempted queue env).queueIndex
            env.retireWrites).returned = true := retired
      simp only [went, Bool.not_true, Bool.false_eq_true, if_false]
      split
      · rename_i reason failed
        have some : load64 (attempted queue env).bytes CompletionSignalOffset ≠ 0 := by
          intro none
          rw [none] at failed
          cases failed
        obtain ⟨aligned, -, counts⟩ := prepared.value value rfl some
        exact .unsigned rfl rfl retired (commit_error aligned counts failed)
      · rename_i final committed
        refine .completed rfl rfl retired fetched rfl (fun some => ?_) met
        obtain ⟨-, same, -⟩ := prepared.value value rfl some
        rw [← same]
        exact commit_spec committed some
    · rw [Bool.not_eq_true] at retired
      have went : ((((queue.fetch env.fetches).after.acceptDispatch
          (attempted queue env).ticket).after).retire (attempted queue env).queueIndex
            env.retireWrites).returned = false := retired
      simp only [went, Bool.not_true, Bool.not_false, Bool.false_eq_true, if_false, if_true]
      exact .unretired rfl rfl retired

/-- Every attempt ends in one of these ways. -/
theorem process_attempt (sound : queue.Sound) :
    Attempt queue memory env (process queue memory requestId env) := by
  unfold process
  split
  · refine .kept ?_ ⟨rfl, rfl, rfl, rfl, rfl⟩ (sameValues_refl memory)
    intro done
    cases done
  dsimp only
  by_cases returned : (queue.fetch env.fetches).returned = true
  · have fetched := fetch_taken sound returned
    simp only [returned, Bool.not_true, Bool.false_eq_true, if_false]
    unfold processFetched
    dsimp only
    split
    · exact attempt_giveBack fetched (by decide) _
    split
    · exact attempt_giveBack fetched (by decide) _
    split
    · exact attempt_failFetched fetched (sameValues_refl memory) _
    · exact attempt_giveBack fetched (by decide) _
    · rename_i ready
      exact attempt_complete fetched (dependenciesMet_of_ready ready)
  · rcases fetch_cases queue env.fetches with ⟨-, reason, after⟩ | ⟨went, -⟩
    · simp only [returned, Bool.not_false, if_true, after]
      refine .kept ?_ ⟨rfl, rfl, rfl, rfl, rfl⟩ (sameValues_refl memory)
      intro done
      cases done
    · exact absurd went returned

/-- What a retirement after an acceptance does to the cursors. -/
theorem Attempt.advance {reply : ControlReply} (attempt : Attempt queue memory env reply)
    (done : reply.result.status = .Completed) :
    reply.queue.readIdx = queue.readIdx + 1 ∧ reply.queue.dispatchIdx = queue.dispatchIdx + 1 ∧
      reply.queue.fetchIdx = queue.fetchIdx + 1 ∧ reply.queue.writeIdx = queue.writeIdx ∧
      reply.queue.pending = none ∧ reply.result.queueIndex = queue.readIdx := by
  cases attempt with
  | kept open' => exact absurd done open'
  | unretired failed =>
    rw [failed] at done
    cases done
  | unsigned failed =>
    rw [failed] at done
    cases done
  | completed _ left retired fetched index =>
    have accepted : acceptedQueue queue env = { (queue.fetch env.fetches).after.cleared with
        dispatchIdx := queue.dispatchIdx + 1, pending := none } := fetched.accept.2
    obtain ⟨due, read, dispatch, fetch, write, pending⟩ := retire_cursors retired
    rw [accepted] at due read dispatch fetch write pending
    have own : (queue.fetch env.fetches).after.cleared.readIdx = queue.readIdx := fetched.read
    refine ⟨?_, ?_, ?_, ?_, ?_, ?_⟩
    · rw [left, retirement, accepted, read]
      exact congrArg (· + 1) own
    · rw [left, retirement, accepted, dispatch]
    · rw [left, retirement, accepted, fetch]
      exact fetched.fetch
    · rw [left, retirement, accepted, write]
      exact fetched.write
    · rw [left, retirement, accepted, pending]
    · rw [index, due]
      exact own

theorem attemptLaw (sound : queue.Sound) : AttemptLaw queue memory requestId env := by
  have attempt : Attempt queue memory env (process queue memory requestId env) :=
    process_attempt sound
  refine ⟨?_, attempt.advance, ?_, ?_⟩
  · intro unfinished
    cases attempt with
    | kept _ cursors values => exact Or.inr ⟨cursors, values⟩
    | unretired failed left refused => exact Or.inl ⟨failed, Or.inl ⟨left, refused⟩⟩
    | unsigned failed left retired unwritten =>
      exact Or.inl ⟨failed, Or.inr ⟨left, retired, unwritten⟩⟩
    | completed done => exact absurd done unfinished
  · intro done some
    cases attempt with
    | kept unfinished => exact absurd done unfinished
    | unretired failed | unsigned failed =>
      rw [failed] at done
      cases done
    | completed _ _ _ _ _ counted => exact counted some
  · intro done
    cases attempt with
    | kept unfinished => exact absurd done unfinished
    | unretired failed | unsigned failed =>
      rw [failed] at done
      cases done
    | completed _ _ _ _ _ _ met => exact met

end Attempts

section Runs

variable {queue : HostNativeQueueCore} {memory : SparseBytes} {requestId : UInt64}
  {env : ControlEnv} {input : ControlInput}

/-- What an attempt does to the queue, calls of the queue do. -/
theorem process_run (queue : HostNativeQueueCore) (memory : SparseBytes) (requestId : UInt64)
    (env : ControlEnv) : ∃ calls, Meets step SameRegistration queue calls ∧
      (process queue memory requestId env).queue = runFrom step queue calls := by
  unfold process
  split
  · exact ⟨[], trivial, rfl⟩
  dsimp only
  split
  · exact ⟨[.fetch env.fetches], ⟨rfl, trivial⟩, rfl⟩
  have cancelled : ∀ ticket, ∃ calls, Meets step SameRegistration queue calls ∧
      ((queue.fetch env.fetches).after.cancelFetch ticket).after = runFrom step queue calls :=
    fun ticket => ⟨[.fetch env.fetches, .cancelFetch ticket], ⟨rfl, rfl, trivial⟩, rfl⟩
  unfold processFetched
  dsimp only
  split
  · exact cancelled _
  split
  · exact cancelled _
  split
  · exact cancelled _
  · exact cancelled _
  unfold complete
  dsimp only
  split
  · exact cancelled _
  split
  · exact ⟨[.fetch env.fetches, .acceptDispatch _], ⟨rfl, rfl, trivial⟩, rfl⟩
  have retired : ∀ ticket index, ∃ calls, Meets step SameRegistration queue calls ∧
      (((queue.fetch env.fetches).after.acceptDispatch ticket).after.retire index
        env.retireWrites).after = runFrom step queue calls :=
    fun ticket index => ⟨[.fetch env.fetches, .acceptDispatch ticket,
      .retire index env.retireWrites], ⟨rfl, rfl, rfl, trivial⟩, rfl⟩
  split
  · exact retired _ _
  split
  · exact retired _ _
  · exact retired _ _

theorem sound_controlStep (queue : HostNativeQueueCore) (input : ControlInput)
    (sound : queue.Sound) : (controlStep queue input).Sound := by
  cases input with
  | call call => exact sound_step queue call sound
  | attempt context memory requestId env =>
    obtain ⟨calls, -, same⟩ :=
      process_run { queue with context := context } memory requestId env
    rw [controlStep, controlReply, same]
    exact invariant_runFrom step Sound sound_step (sound.withContext context) calls

/-- Within a registration the read index never falls. -/
theorem counter_run {calls : List Call} (sound : queue.Sound)
    (meets : Meets step SameRegistration queue calls) :
    counter readIdx queue ≤ counter readIdx (runFrom step queue calls) := by
  induction calls generalizing queue with
  | nil => exact le_rfl
  | cons call rest ih =>
    have moved : counter readIdx queue ≤ counter readIdx (step queue call) :=
      counter_mono fun live =>
        have same := step_live sound meets.1 live
        ⟨same.1, same.2.2⟩
    exact moved.trans (ih (sound_step queue call sound) meets.2)

theorem counter_controlStep (sound : queue.Sound) (same : ControlSameRegistration queue input) :
    counter readIdx queue ≤ counter readIdx (controlStep queue input) := by
  cases input with
  | call call =>
    have alone : Meets step SameRegistration queue [call] := ⟨same, trivial⟩
    exact counter_run sound alone
  | attempt context memory requestId env =>
    obtain ⟨calls, meets, same⟩ :=
      process_run { queue with context := context } memory requestId env
    rw [controlStep, controlReply, same]
    exact counter_run (sound.withContext context) meets

/-- A packet that is completed is the one at the read index, which then moves past it. -/
theorem completed_within (sound : queue.Sound) {value : ℕ}
    (member : value ∈ completedIndex queue input) :
    counter readIdx queue ≤ value ∧ value < counter readIdx (controlStep queue input) := by
  cases input with
  | call call => cases member
  | attempt context memory requestId env =>
    have attempt : Attempt { queue with context := context } memory env
        (controlReply queue context memory requestId env) :=
      process_attempt (sound.withContext context)
    rw [completedIndex] at member
    split at member
    · rename_i done
      rw [List.mem_singleton] at member
      obtain ⟨read, -, -, -, -, index⟩ := attempt.advance done
      cases attempt with
      | kept unfinished => exact absurd done unfinished
      | unretired failed | unsigned failed =>
        rw [failed] at done
        cases done
      | completed _ left retired fetched due =>
        have next : queue.readIdx.toNat < queue.writeIdx.toNat := by
          have below := UInt64.lt_iff_toNat_lt.mp fetched.below
          rw [← fetched.index, ← due, index] at below
          exact below
        have before : counter readIdx queue = queue.readIdx.toNat := if_pos fetched.before
        have value_eq : value = queue.readIdx.toNat := by rw [member, index]
        have after : value < counter readIdx
            (controlStep queue (.attempt context memory requestId env)) := by
          rw [counter]
          split
          · rw [value_eq]
            change _ < (controlReply queue context memory requestId env).queue.readIdx.toNat
            rw [read]
            change _ < (queue.readIdx + 1).toNat
            rw [toNat_succ_of_lt next]
            exact Nat.lt_succ_self _
          · rw [value_eq]
            exact queue.readIdx.toNat_lt
        exact ⟨by rw [before, value_eq], after⟩
    · cases member

theorem completed_sorted (queue : HostNativeQueueCore) (input : ControlInput) :
    (completedIndex queue input).Pairwise (· < ·) := by
  cases input with
  | call call => exact .nil
  | attempt context memory requestId env =>
    rw [completedIndex]
    split
    · exact List.pairwise_singleton _ _
    · exact .nil

/-- The law of control packets, in every state that calls and attempts reach. -/
theorem controlLaw_of_reachable {context : SparseBytes}
    (reach : Reachable controlStep (boot context) queue) : ControlLaw queue := by
  have sound := reach.invariant controlStep sound_controlStep (sound_boot context)
  refine ⟨fun memory requestId env => attemptLaw sound, fun inputs meets => ?_⟩
  have guarded := Meets.and_invariant controlStep Sound
    (fun queue input sound _ => sound_controlStep queue input sound) sound meets
  exact (outputs_increasing_of_meets controlStep (counter readIdx)
    (fun queue input given value member => completed_within given.1 member) completed_sorted
    (fun queue input given => counter_controlStep given.1 given.2) guarded).1

/-- A barrier without dependencies that names a signal. -/
def barrierPacket (index : ℕ) : UInt8 :=
  if index = 0 then BarrierAnd else if index = 57 then 0x20 else 0

/-- The signal has the value two. -/
def signalMemory : SparseBytes := storeWord (storeWord (fun _ => 0) 0x2000 1) 0x2008 2

/-- A barrier is published and processed. -/
def barrierRun : List ControlInput :=
  [.call (.registerQueue { overlappingConfig with hostReadIndexVa := 0x3000 } {}),
    .call (.publishAt 0 0x1000 (some barrierPacket) 64 true), .call (.ring 1),
    .attempt (storeBytes (fun _ => 0) 0x1000 64 barrierPacket) signalMemory 7 {}]

theorem controlLaw_barrierRun :
    outputs controlStep completedIndex (boot fun _ => 0) barrierRun = [0] ∧
      ControlLaw (runFrom controlStep (boot fun _ => 0) barrierRun) :=
  ⟨by decide +kernel, controlLaw_of_reachable ⟨barrierRun, rfl⟩⟩

end Runs

end GemSim.Native
