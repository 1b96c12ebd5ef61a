import GemSim.Native.QueueRing

/-!
# The law of the packet queue

What every reachable queue satisfies: the order of its cursors, the slots of its live
indices, that a refused call changes nothing, that a registration accepts and retires
each index at most once and in order, and that the read-index word in memory follows the
read index after a retirement.

Two things limit the law. A later registration may start over at an index an earlier one
accepted. And the registration does not compare the read-index word with the ring, so a
word inside the ring is overwritten by the next packet published there.

## Main definitions

* `RingLaw` — what holds of a registered queue
* `QueueLaw` — what holds of a queue and of every run from it
* `WordApart` — the read-index word lies outside the ring

## Main results

* `queueLaw_of_reachable`
* `queueLaw_fails` — the limits are real
-/

namespace GemSim.Native

open GemSim.Lib

namespace HostNativeQueueCore

variable {core after : HostNativeQueueCore} {call : Call}

section Definitions

/-- The index lies between the read and the write index. -/
def Live (core : HostNativeQueueCore) (index : UInt64) : Prop :=
  core.readIdx.toNat ≤ index.toNat ∧ index.toNat < core.writeIdx.toNat

/-- What holds of a registered queue. -/
structure RingLaw (core : HostNativeQueueCore) : Prop where
  cursors : core.readIdx.toNat ≤ core.dispatchIdx.toNat ∧
    core.dispatchIdx.toNat ≤ core.fetchIdx.toNat ∧ core.fetchIdx.toNat ≤ core.writeIdx.toNat ∧
      core.writeIdx.toNat ≤ core.readIdx.toNat + core.slots.length
  ticket : core.fetchIdx.toNat - core.dispatchIdx.toNat = if core.pending.isSome then 1 else 0
  published : ∀ index, core.Live index → (core.slotAt index).published = true ∧
    core.slotAddress index = some (core.slotAt index).hostPacketVa
  separate : ∀ i j, core.Live i → core.Live j → core.SameSlot i j → i = j

/-- The queue index a call accepts, if it returns true. -/
def accepted (core : HostNativeQueueCore) : Call → List ℕ
  | .acceptDispatch ticket =>
    match (core.acceptDispatch ticket).returned, core.pending with
    | true, some packet => [packet.queueIndex.toNat]
    | _, _ => []
  | _ => []

/-- The queue index a call retires, if it returns true. -/
def retired (core : HostNativeQueueCore) : Call → List ℕ
  | .retire queueIndex writes =>
    if (core.retire queueIndex writes).returned then [queueIndex.toNat] else []
  | _ => []

/-- The call starts a registration. -/
def registers (core : HostNativeQueueCore) : Call → Bool
  | .registerQueue newConfig env => (core.registerQueue newConfig env).returned
  | _ => false

/-- The call does not start a registration. -/
def SameRegistration (core : HostNativeQueueCore) (call : Call) : Prop :=
  core.registers call = false

instance (core : HostNativeQueueCore) : DecidablePred core.SameRegistration := fun call =>
  inferInstanceAs (Decidable (core.registers call = false))

/-- No byte of the read-index word lies in the ring. -/
def WordApart (core : HostNativeQueueCore) : Prop :=
  ∀ byte ∈ touched core.queueConfig.hostReadIndexVa 8,
    byte ∉ touched core.queueConfig.baseVa core.queueConfig.queueBytes.toNat

/-- The read-index word in memory. -/
def readIndexWord (core : HostNativeQueueCore) : UInt64 :=
  loadWord core.context core.queueConfig.hostReadIndexVa

/-- What holds of a queue and of every run from it. -/
structure QueueLaw (core : HostNativeQueueCore) : Prop where
  ring : core.registered = true → core.RingLaw
  refused : ∀ call, (core.run call).returned = false →
    ∃ reason, (core.run call).after = { core with failureReason := reason }
  once : ∀ calls, Meets step SameRegistration core calls →
    (outputs step accepted core calls).Pairwise (· < ·) ∧
      (outputs step retired core calls).Pairwise (· < ·)
  word : core.WordApart → ∀ queueIndex writes,
    (core.retire queueIndex writes).returned = true → ∀ calls,
      Meets step SameRegistration (core.step (.retire queueIndex writes)) calls →
        (runFrom step (core.step (.retire queueIndex writes)) calls).registered = true →
          (runFrom step (core.step (.retire queueIndex writes)) calls).readIndexWord =
            (runFrom step (core.step (.retire queueIndex writes)) calls).readIdx

end Definitions

section Ring

/-- The invariant says what the law says of a registered queue. -/
theorem RingSound.law (sound : core.RingSound) : core.RingLaw := by
  have window := sound.window
  have order := window.readLe.trans (window.dispatchLe.trans window.fetchLe)
  have writeLe := window.writeLe
  refine ⟨⟨window.readLe, window.dispatchLe, window.fetchLe, writeLe⟩, ?_, ?_, ?_⟩
  · cases owned : core.pending with
    | none =>
      have caughtUp := window.free (by rw [owned]; rfl)
      rw [caughtUp]
      simp
    | some packet =>
      have ahead := (window.taken packet.queueIndex.toNat (by rw [owned]; rfl)).2
      rw [ahead]
      simp
  · rintro index ⟨above, below⟩
    have published := (window.live index.toNat above below).1
    exact ⟨published, sound.placed index published⟩
  · rintro i j ⟨iAbove, iBelow⟩ ⟨jAbove, jBelow⟩ same
    exact UInt64.toNat_inj.mp
      (window_injective iAbove (by omega) jAbove (by omega) same)

end Ring

section Order

/-- Within a registration the dispatch and the read index never fall. -/
theorem Effect.cursors_mono (effect : core.Effect call after) (live : after.registered = true)
    (same : ∀ newConfig env, call ≠ .registerQueue newConfig env) :
    core.registered = true ∧ core.dispatchIdx.toNat ≤ after.dispatchIdx.toNat ∧
      core.readIdx.toNat ≤ after.readIdx.toNat := by
  cases effect with
  | registered newConfig env => exact absurd rfl (same newConfig env)
  | published => exact ⟨live, le_rfl, le_rfl⟩
  | «repeated» => exact ⟨live, le_rfl, le_rfl⟩
  | rung => exact ⟨live, le_rfl, le_rfl⟩
  | observed => exact ⟨live, le_rfl, le_rfl⟩
  | fetched => exact ⟨live, le_rfl, le_rfl⟩
  | accepted packet _ _ _ room => exact ⟨live, (toNat_succ room).ge.trans' (Nat.le_succ _), le_rfl⟩
  | retired writes _ below =>
    exact ⟨live, le_rfl, (toNat_succ_of_lt below).ge.trans' (Nat.le_succ _)⟩
  | cancelled => exact ⟨live, le_rfl, le_rfl⟩
  | dropped => cases live

theorem Effect.accepts {ticket : UInt64} (effect : core.Effect (.acceptDispatch ticket) after) :
    ∃ packet, core.pending = some packet ∧ packet.queueIndex = core.dispatchIdx ∧
      core.registered = true ∧ after.registered = true ∧
        after.dispatchIdx.toNat = core.dispatchIdx.toNat + 1 := by
  cases effect with
  | published _ _ _ _ _ silent => cases silent
  | «repeated» _ silent => cases silent
  | accepted packet live owned due room => 
    exact ⟨packet, owned, due, live, live, toNat_succ room⟩
  | dropped _ silent => cases silent

theorem Effect.retires {queueIndex : UInt64} {writes : Bool}
    (effect : core.Effect (.retire queueIndex writes) after) :
    queueIndex = core.readIdx ∧ core.registered = true ∧ after.registered = true ∧
      after.readIdx.toNat = core.readIdx.toNat + 1 ∧
      after.context = storeWord core.context core.queueConfig.hostReadIndexVa after.readIdx ∧
      after.queueConfig = core.queueConfig := by
  cases effect with
  | published _ _ _ _ _ silent => cases silent
  | «repeated» _ silent => cases silent
  | retired _ live below => exact ⟨rfl, live, live, toNat_succ_of_lt below, rfl, rfl⟩
  | dropped _ silent => cases silent

/-- A registered queue after a call of the same registration was registered before it, with
its indices where they are or behind. -/
theorem step_live (sound : core.Sound) (same : core.SameRegistration call)
    (live : (core.step call).registered = true) :
    core.registered = true ∧ core.dispatchIdx.toNat ≤ (core.step call).dispatchIdx.toNat ∧
      core.readIdx.toNat ≤ (core.step call).readIdx.toNat := by
  rcases run_cases core sound.small call with ⟨-, reason, after⟩ | ⟨returned, effect⟩
  · rw [step, after] at live ⊢
    exact ⟨live, le_rfl, le_rfl⟩
  · refine effect.cursors_mono live ?_
    rintro newConfig env rfl
    exact absurd (returned.symm.trans same) (by decide)

/-- The cursor of a registered queue; nothing is above an unregistered one. -/
def counter (cursor : HostNativeQueueCore → UInt64) (core : HostNativeQueueCore) : ℕ :=
  if core.registered then (cursor core).toNat else 2 ^ 64

theorem counter_mono {cursor : HostNativeQueueCore → UInt64}
    (mono : (core.step call).registered = true → core.registered = true ∧
      (cursor core).toNat ≤ (cursor (core.step call)).toNat) :
    counter cursor core ≤ counter cursor (core.step call) := by
  cases live : (core.step call).registered with
  | false =>
    have bound := (cursor core).toNat_lt
    rw [counter, counter, live]
    split
    · exact bound.le
    · exact le_rfl
  | true =>
    obtain ⟨before, le⟩ := mono live
    rw [counter, counter, live, before, if_pos rfl, if_pos rfl]
    exact le

/-- An accepted index is the dispatch index, which then moves past it. -/
theorem accepted_within (sound : core.Sound) {value : ℕ} (member : value ∈ core.accepted call) :
    counter dispatchIdx core ≤ value ∧ value < counter dispatchIdx (core.step call) := by
  cases call with
  | acceptDispatch ticket =>
    rw [accepted] at member
    split at member
    · rename_i packet returned owned
      rcases run_cases core sound.small (.acceptDispatch ticket) with ⟨refused, -⟩ | ⟨-, effect⟩
      · exact absurd (returned.symm.trans refused) (by decide)
      · obtain ⟨held, owned', due, live, liveAfter, next⟩ := effect.accepts
        obtain rfl := Option.some.inj (owned.symm.trans owned')
        rw [List.mem_singleton] at member
        have before : counter dispatchIdx core = core.dispatchIdx.toNat := if_pos live
        have after : counter dispatchIdx (core.step (.acceptDispatch ticket)) =
            core.dispatchIdx.toNat + 1 := (if_pos liveAfter).trans next
        have now : value = core.dispatchIdx.toNat :=
          member.trans (congrArg UInt64.toNat due)
        omega
    · cases member
  | _ => cases member

/-- A retired index is the read index, which then moves past it. -/
theorem retired_within (sound : core.Sound) {value : ℕ} (member : value ∈ core.retired call) :
    counter readIdx core ≤ value ∧ value < counter readIdx (core.step call) := by
  cases call with
  | retire queueIndex writes =>
    rw [retired] at member
    split at member
    · rename_i returned
      rcases run_cases core sound.small (.retire queueIndex writes) with ⟨refused, -⟩ | ⟨-, effect⟩
      · exact absurd (returned.symm.trans refused) (by decide)
      · obtain ⟨named, live, liveAfter, next, -, -⟩ := effect.retires
        rw [List.mem_singleton, named] at member
        have before : counter readIdx core = core.readIdx.toNat := if_pos live
        have after : counter readIdx (core.step (.retire queueIndex writes)) =
            core.readIdx.toNat + 1 := (if_pos liveAfter).trans next
        have now : value = core.readIdx.toNat := member
        omega
    · cases member
  | _ => cases member

theorem accepted_sorted (core : HostNativeQueueCore) (call : Call) :
    (core.accepted call).Pairwise (· < ·) := by
  cases call with
  | acceptDispatch ticket =>
    rw [accepted]
    split
    · exact List.pairwise_singleton _ _
    · exact .nil
  | _ => exact .nil

theorem retired_sorted (core : HostNativeQueueCore) (call : Call) :
    (core.retired call).Pairwise (· < ·) := by
  cases call with
  | retire queueIndex writes =>
    rw [retired]
    split
    · exact List.pairwise_singleton _ _
    · exact .nil
  | _ => exact .nil

/-- Within a registration, indices are accepted and retired in increasing order. -/
theorem once_of_sound (sound : core.Sound) {calls : List Call}
    (meets : Meets step SameRegistration core calls) :
    (outputs step accepted core calls).Pairwise (· < ·) ∧
      (outputs step retired core calls).Pairwise (· < ·) := by
  have guarded := Meets.and_invariant step Sound
    (fun core call sound _ => sound_step core call sound) sound meets
  constructor
  · exact (outputs_increasing_of_meets step (counter dispatchIdx)
      (fun core call given value member => accepted_within given.1 member) accepted_sorted
      (fun core call given => counter_mono fun live =>
        have moved := step_live given.1 given.2 live
        ⟨moved.1, moved.2.1⟩) guarded).1
  · exact (outputs_increasing_of_meets step (counter readIdx)
      (fun core call given value member => retired_within given.1 member) retired_sorted
      (fun core call given => counter_mono fun live =>
        have moved := step_live given.1 given.2 live
        ⟨moved.1, moved.2.2⟩) guarded).1

end Order

section Word

/-- A packet is written inside the ring. -/
theorem RingSound.packet_inside (sound : core.RingSound) {queueIndex packetVa byte : UInt64}
    (place : core.slotAddress queueIndex = some packetVa)
    (inside : byte ∈ touched packetVa PacketBytes) :
    byte ∈ touched core.queueConfig.baseVa core.queueConfig.queueBytes.toNat := by
  obtain ⟨-, occupied, -, rfl⟩ := slotAddress_eq_some (length_lt_of_depth sound.depth) place
  obtain ⟨offset, below, rfl⟩ := mem_touched.mp inside
  rw [mem_touched]
  have slot := Nat.mod_lt queueIndex.toNat (Nat.pos_of_ne_zero occupied)
  have depth := sound.depth
  have division := Nat.div_mul_le_self core.queueConfig.queueBytes.toNat PacketBytes
  unfold PacketBytes at *
  refine ⟨queueIndex.toNat % core.slots.length * 64 + offset, by omega, ?_⟩
  rw [UInt64.ofNat_add, UInt64.add_assoc]

/-- The read-index word mirrors the read index. -/
def Mirrored (core : HostNativeQueueCore) : Prop :=
  core.registered = true → core.WordApart ∧ core.readIndexWord = core.readIdx

/-- Without a new registration, every effect keeps the mirror. -/
theorem Effect.mirrored (effect : core.Effect call after) (sound : core.Sound)
    (same : ∀ newConfig env, call ≠ .registerQueue newConfig env) (mirrored : core.Mirrored) :
    after.Mirrored := by
  cases effect with
  | registered newConfig env => exact absurd rfl (same newConfig env)
  | published call queueIndex packetVa source slot silent live ahead within place =>
    intro _
    obtain ⟨apart, word⟩ := mirrored live
    refine ⟨apart, (loadWord_storeBytes _ _ _ _ fun byte inWord inPacket => ?_).trans word⟩
    exact apart byte inWord ((sound.ring live).packet_inside place inPacket)
  | «repeated» => exact mirrored
  | rung => exact mirrored
  | observed => exact mirrored
  | fetched => exact mirrored
  | accepted => exact mirrored
  | retired _ live =>
    intro _
    exact ⟨(mirrored live).1, loadWord_storeWord _ _ _⟩
  | cancelled => exact mirrored
  | dropped =>
    intro live
    cases live

theorem mirrored_step (sound : core.Sound) (same : core.SameRegistration call)
    (mirrored : core.Mirrored) : (core.step call).Mirrored := by
  rcases run_cases core sound.small call with ⟨-, reason, after⟩ | ⟨returned, effect⟩
  · rw [step, after]
    exact mirrored
  · refine effect.mirrored (sound.withReason "none") ?_ mirrored
    rintro newConfig env rfl
    exact absurd (returned.symm.trans same) (by decide)

/-- From a retirement on, the word follows the read index through the registration. -/
theorem word_of_sound (sound : core.Sound) (apart : core.WordApart) {queueIndex : UInt64}
    {writes : Bool} (returned : (core.retire queueIndex writes).returned = true)
    {calls : List Call}
    (meets : Meets step SameRegistration (core.step (.retire queueIndex writes)) calls)
    (live : (runFrom step (core.step (.retire queueIndex writes)) calls).registered = true) :
    (runFrom step (core.step (.retire queueIndex writes)) calls).readIndexWord =
      (runFrom step (core.step (.retire queueIndex writes)) calls).readIdx := by
  have start : (core.step (.retire queueIndex writes)).Mirrored := by
    rcases run_cases core sound.small (.retire queueIndex writes) with ⟨refused, -⟩ | ⟨-, effect⟩
    · exact absurd (returned.symm.trans refused) (by decide)
    · obtain ⟨-, -, -, -, context, config⟩ := effect.retires
      intro _
      refine ⟨?_, ?_⟩
      · rw [WordApart, step, config]
        exact apart
      · rw [readIndexWord, step, config, context]
        exact loadWord_storeWord _ _ _
  have held := invariant_of_meets step (fun core => core.Sound ∧ core.Mirrored)
    (fun core call given same =>
      ⟨sound_step core call given.1, mirrored_step given.1 same given.2⟩)
    ⟨sound_step core _ sound, start⟩ meets
  exact (held.2 live).2

end Word

theorem queueLaw_of_sound (sound : core.Sound) : core.QueueLaw where
  ring live := (sound.ring live).law
  refused call refused := by
    rcases run_cases core sound.small call with ⟨-, unchanged⟩ | ⟨returned, -⟩
    · exact unchanged
    · exact absurd (returned.symm.trans refused) (by decide)
  once _ := once_of_sound sound
  word apart _ _ returned _ meets live := word_of_sound sound apart returned meets live

/-- The law of the queue, in every state a run reaches. -/
theorem queueLaw_of_reachable {context : SparseBytes}
    (reach : Reachable step (boot context) core) : core.QueueLaw :=
  queueLaw_of_sound (sound_of_reachable reach)

section Limits

/-- A ring of one slot whose read-index word is the first word of the slot. -/
def overlappingConfig : Config :=
  { baseVa := 0x1000, hostReadIndexVa := 0x1000, generation := 1, queueBytes := 64,
    doorbellBytes := 8 }

/-- One packet is published, accepted and retired, then the next one is published. -/
def overwritingRun : List Call :=
  [.registerQueue overlappingConfig {}, .publishAt 0 0x1000 (some fun _ => 0) 64 true, .ring 1,
    .fetch true, .acceptDispatch 1, .retire 0 true, .publishAt 1 0x1000 (some fun _ => 0) 64 true]

/-- One packet is accepted and retired in each of two registrations. -/
def restartingRun : List Call :=
  let config := { overlappingConfig with hostReadIndexVa := 0x2000 }
  let session : List Call :=
    [.registerQueue config {}, .publishAt 0 0x1000 (some fun _ => 0) 64 true, .ring 1,
      .fetch true, .acceptDispatch 1, .retire 0 true, .unregisterQueue]
  session ++ session

theorem queueLaw_overwritingRun :
    (runFrom step (boot fun _ => 0) overwritingRun).registered = true ∧
      (runFrom step (boot fun _ => 0) overwritingRun).QueueLaw :=
  ⟨by decide +kernel, queueLaw_of_reachable ⟨overwritingRun, rfl⟩⟩

/-- The retired index is lost from memory when a packet covers the word, and a second
registration accepts and retires the index of the first again. -/
theorem queueLaw_fails :
    (outputs step retired (boot fun _ => 0) overwritingRun = [0] ∧
      (runFrom step (boot fun _ => 0) overwritingRun).registered = true ∧
      (runFrom step (boot fun _ => 0) overwritingRun).readIdx = 1 ∧
      (runFrom step (boot fun _ => 0) overwritingRun).readIndexWord = 0) ∧
    (outputs step accepted (boot fun _ => 0) restartingRun = [0, 0] ∧
      outputs step retired (boot fun _ => 0) restartingRun = [0, 0]) := by
  refine ⟨⟨?_, ?_, ?_, ?_⟩, ?_, ?_⟩ <;> decide +kernel

end Limits

end HostNativeQueueCore

end GemSim.Native
