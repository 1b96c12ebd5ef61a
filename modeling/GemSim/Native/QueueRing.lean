import GemSim.Lib.Run
import GemSim.Native.QueueEffect
import Mathlib.Data.List.TakeDrop

/-!
# The ring invariant of the packet queue

The cursors of a registered queue, read as unbounded numbers, keep the discipline of a
ring window over its slots, and every published slot holds the address of its place.
The window also says who owns a fetched slot; without this a packet published ahead of
the doorbell could be taken for a fetched one.

## Main definitions

* `RingSound` — the invariant of a registered queue
* `Sound` — the invariant of every queue

## Main results

* `Effect.sound` — every effect keeps the invariant
* `sound_step`, `sound_of_reachable`
-/

namespace GemSim.Native

open GemSim.Lib

namespace HostNativeQueueCore

variable {core after : HostNativeQueueCore} {call : Call} {index : UInt64}

/-- The window of the cursors of a queue over its slots. -/
def Window (core : HostNativeQueueCore) : Prop :=
  RingWindow Slot.published Slot.fetched core.slots core.readIdx.toNat core.dispatchIdx.toNat
    core.fetchIdx.toNat core.writeIdx.toNat (core.pending.map fun packet => packet.queueIndex.toNat)

/-- The invariant of a registered queue. -/
structure RingSound (core : HostNativeQueueCore) : Prop where
  depth : core.slots.length = core.queueConfig.queueBytes.toNat / PacketBytes
  placed : ∀ index, (core.slotAt index).published = true →
    core.slotAddress index = some (core.slotAt index).hostPacketVa
  window : core.Window

/-- The invariant of every queue: an unregistered one is empty. -/
structure Sound (core : HostNativeQueueCore) : Prop where
  idle : core.registered = false → core.slots = [] ∧ core.pending = none
  ring : core.registered = true → core.RingSound

theorem sound_boot (context : SparseBytes) : (boot context).Sound where
  idle _ := ⟨rfl, rfl⟩
  ring live := by cases live

theorem sound_reset (core : HostNativeQueueCore) : core.reset.Sound where
  idle _ := ⟨rfl, rfl⟩
  ring live := by cases live

theorem sound_of_ring (live : core.registered = true) (ring : core.RingSound) : core.Sound where
  idle absent := absurd (live.symm.trans absent) (by decide)
  ring _ := ring

/-- The failure text is no part of the invariant. -/
theorem Sound.withReason (sound : core.Sound) (reason : String) :
    Sound { core with failureReason := reason } where
  idle := sound.idle
  ring live :=
    have ring := sound.ring live
    ⟨ring.depth, ring.placed, ring.window⟩

/-- What the memory holds is no part of the invariant. -/
theorem Sound.withContext (sound : core.Sound) (context : SparseBytes) :
    Sound { core with context := context } where
  idle := sound.idle
  ring live :=
    have ring := sound.ring live
    ⟨ring.depth, ring.placed, ring.window⟩

theorem length_lt_of_depth
    (depth : core.slots.length = core.queueConfig.queueBytes.toNat / PacketBytes) :
    core.slots.length < 2 ^ 32 := by
  have bound := core.queueConfig.queueBytes.toNat_lt
  have := Nat.div_le_self core.queueConfig.queueBytes.toNat PacketBytes
  rw [depth]
  omega

theorem Sound.small (sound : core.Sound) : core.slots.length < 2 ^ 32 := by
  cases live : core.registered with
  | false =>
    rw [(sound.idle live).1]
    decide
  | true => exact length_lt_of_depth (sound.ring live).depth

/-- A replaced slot keeps the addresses right if it has the address of its index. -/
theorem RingSound.placed_setSlot (sound : core.RingSound) {target : UInt64} {slot : Slot}
    (place : slot.published = true → core.slotAddress target = some slot.hostPacketVa) :
    ∀ index, ((core.setSlot target slot).slotAt index).published = true →
      (core.setSlot target slot).slotAddress index =
        some ((core.setSlot target slot).slotAt index).hostPacketVa := by
  intro index published
  rw [slotAddress_setSlot]
  by_cases same : core.SameSlot target index
  · rw [slotAt_setSlot_same sound.window.occupied same] at published ⊢
    rw [← same.slotAddress (length_lt_of_depth sound.depth), place published]
  · rw [slotAt_setSlot_other same] at published ⊢
    exact sound.placed index published

/-- The empty ring of a new registration. -/
theorem ringSound_registered {newConfig : Config} (idle : core.slots = [] ∧ core.pending = none)
    (valid : validRegistration newConfig = true) :
    RingSound { core with
      slots := core.slots.takeD (newConfig.queueBytes.toNat / PacketBytes) {}
      queueConfig := newConfig
      writeIdx := newConfig.readIndex
      fetchIdx := newConfig.readIndex
      readIdx := newConfig.readIndex
      dispatchIdx := newConfig.readIndex
      regdIndex := newConfig.registeredIndex
      registered := true
      readIndexWritten := false } := by
  obtain ⟨empty, free⟩ := idle
  have depth : 0 < newConfig.queueBytes.toNat / PacketBytes := by
    unfold validRegistration at valid
    split at valid
    · cases valid
    · exact Nat.pos_of_ne_zero (of_decide_eq_true valid)
  have length : (core.slots.takeD (newConfig.queueBytes.toNat / PacketBytes) {}).length =
      newConfig.queueBytes.toNat / PacketBytes := List.takeD_length ..
  have blank : ∀ index : ℕ, ringGet (core.slots.takeD
      (newConfig.queueBytes.toNat / PacketBytes) {}) index = {} := by
    intro index
    have below := Nat.mod_lt index depth
    rw [empty, ringGet, List.takeD_nil, List.length_replicate, List.getD_replicate _ below]
  refine ⟨length, ?_, ?_⟩
  · intro index published
    rw [slotAt, blank] at published
    cases published
  · rw [Window]
    dsimp only
    rw [free]
    refine RingWindow.empty (by rw [length]; exact depth) fun index => ?_
    rw [blank]

/-- A slot ahead of the doorbell is written. -/
theorem RingSound.published (sound : core.RingSound) {queueIndex packetVa : UInt64} {slot : Slot}
    {context : SparseBytes} (ahead : core.writeIdx.toNat ≤ queueIndex.toNat)
    (within : queueIndex.toNat < core.readIdx.toNat + core.slots.length)
    (place : core.slotAddress queueIndex = some packetVa)
    (marked : slot.published = true ∧ slot.hostPacketVa = packetVa ∧
      slot.fetched = (core.slotAt queueIndex).fetched) :
    RingSound { core.setSlot queueIndex slot with context := context } := by
  obtain ⟨-, address, fetchedSame⟩ := marked
  refine ⟨(length_setSlot core queueIndex slot).trans sound.depth, ?_, ?_⟩
  · exact sound.placed_setSlot fun _ => by rw [place, address]
  · exact sound.window.publish ahead within
      (fetchedSame.trans (sound.window.unfetched ahead within))

/-- The write index moves over slots published before. -/
theorem RingSound.rung (sound : core.RingSound) {newWriteIndex : UInt64}
    (ahead : core.writeIdx.toNat < newWriteIndex.toNat)
    (within : newWriteIndex.toNat ≤ core.readIdx.toNat + core.slots.length)
    (all : ∀ index : UInt64, core.writeIdx.toNat ≤ index.toNat →
      index.toNat < newWriteIndex.toNat → (core.slotAt index).published = true) :
    RingSound { core with writeIdx := newWriteIndex } := by
  refine ⟨sound.depth, sound.placed, sound.window.advance ahead.le within rfl (fun _ => rfl)
    (fun index above below => (sound.window.live index above below).1) ?_⟩
  intro index above (below : index < newWriteIndex.toNat)
  have word := toNat_ofNat_of_lt (below.trans newWriteIndex.toNat_lt)
  have shown := all (UInt64.ofNat index) (by omega) (by omega)
  rw [slotAt, word] at shown
  exact shown

/-- The packets read from the ring are published up to the new write index. -/
theorem RingSound.observed (sound : core.RingSound) {newWriteIndex : UInt64} {slots : List Slot}
    (ahead : core.writeIdx.toNat < newWriteIndex.toNat)
    (within : newWriteIndex.toNat ≤ core.readIdx.toNat + core.slots.length)
    (marks : core.Marks newWriteIndex slots) :
    RingSound { core with slots := slots, writeIdx := newWriteIndex } := by
  have window := sound.window
  have length := marks.length
  have fetchedSame : ∀ index : ℕ,
      (ringGet slots index).fetched = (ringGet core.slots index).fetched := by
    intro index
    -- a cell is the cell of a word, whatever the size of its index
    obtain ⟨word, cell, cell'⟩ : ∃ word : UInt64,
        ringGet slots index = ringGet slots word.toNat ∧
          ringGet core.slots index = ringGet core.slots word.toNat := by
      have below := Nat.mod_lt index window.occupied
      have small := length_lt_of_depth sound.depth
      have word : (UInt64.ofNat (index % core.slots.length)).toNat = index % core.slots.length :=
        toNat_ofNat_of_lt (by omega)
      refine ⟨UInt64.ofNat (index % core.slots.length), ringGet_congr ?_, ringGet_congr ?_⟩
      · rw [word, length, Nat.mod_mod]
      · rw [word, Nat.mod_mod]
    rw [cell, cell']
    by_cases marked : ∃ owner : UInt64, core.writeIdx.toNat ≤ owner.toNat ∧
        owner.toNat < newWriteIndex.toNat ∧ core.SameSlot owner word
    · obtain ⟨owner, above, below, same⟩ := marked
      exact (marks.inside word owner above below same).2.1
    · push Not at marked
      rw [marks.outside word marked]
      rfl
  refine ⟨length.trans sound.depth, ?_, ?_⟩
  · intro index published
    have address : slotAddress { core with slots := slots, writeIdx := newWriteIndex } index =
        core.slotAddress index := by
      rw [slotAddress, slotAddress, length]
    refine address.trans ?_
    by_cases marked : ∃ owner : UInt64, core.writeIdx.toNat ≤ owner.toNat ∧
        owner.toNat < newWriteIndex.toNat ∧ core.SameSlot owner index
    · obtain ⟨owner, above, below, same⟩ := marked
      exact (marks.inside index owner above below same).2.2
    · push Not at marked
      have kept := marks.outside index marked
      have before := sound.placed index ((congrArg Slot.published kept).symm.trans published)
      exact before.trans (congrArg some (congrArg Slot.hostPacketVa kept).symm)
  · refine window.advance ahead.le within length fetchedSame ?_ ?_
    · intro index above below
      have word := toNat_ofNat_of_lt (below.trans core.writeIdx.toNat_lt)
      have kept := marks.outside (UInt64.ofNat index) fun owner ownerAbove ownerBelow same => by
        have order := window.readLe.trans (window.dispatchLe.trans window.fetchLe)
        have writeLe := window.writeLe
        rw [SameSlot, word] at same
        have equal := window_injective (by omega) (by omega) above
          (by omega) same
        omega
      rw [slotAt, word] at kept
      rw [kept]
      exact (window.live index above below).1
    · intro index above (below : index < newWriteIndex.toNat)
      have word := toNat_ofNat_of_lt (below.trans newWriteIndex.toNat_lt)
      have shown := (marks.inside (UInt64.ofNat index) (UInt64.ofNat index) (by omega) (by omega)
        rfl).1
      rw [word] at shown
      exact shown

/-- The packet at the fetch index is taken under a ticket. -/
theorem RingSound.fetched (sound : core.RingSound) {packet : FetchedPacket} {ticket : UInt64}
    (free : core.pending = none) (below : core.fetchIdx.toNat < core.writeIdx.toNat)
    (named : packet.queueIndex = core.fetchIdx) :
    RingSound { core.setSlot core.fetchIdx
        { core.slotAt core.fetchIdx with fetched := true } with
      nextTicket := ticket
      pending := some packet
      fetchIdx := core.fetchIdx + 1 } := by
  have window := sound.window
  have above : core.readIdx.toNat ≤ core.fetchIdx.toNat := window.readLe.trans window.dispatchLe
  have shown := (window.live core.fetchIdx.toNat above below).1
  have next := toNat_succ_of_lt below
  refine ⟨(length_setSlot core _ _).trans sound.depth, ?_, ?_⟩
  · exact sound.placed_setSlot fun _ => sound.placed core.fetchIdx shown
  · have moved := window.fetchNext { core.slotAt core.fetchIdx with fetched := true }
      (by rw [free]; rfl) below shown rfl
    rw [← next] at moved
    rw [Window]
    dsimp only
    rw [Option.map_some, named]
    exact moved

/-- The pending packet is dispatched. -/
theorem RingSound.accepted (sound : core.RingSound) {packet : FetchedPacket}
    (owned : core.pending = some packet) (room : core.dispatchIdx ≠ u64Max) :
    RingSound { core with dispatchIdx := core.dispatchIdx + 1, pending := none } := by
  have window := sound.window
  rw [Window, owned] at window
  have moved := window.accept
  rw [← toNat_succ room] at moved
  exact ⟨sound.depth, sound.placed, moved⟩

/-- The slot at the read index is freed. -/
theorem RingSound.retired (sound : core.RingSound) {context : SparseBytes}
    (below : core.readIdx.toNat < core.dispatchIdx.toNat) :
    RingSound { core.setSlot core.readIdx {} with
      context := context
      readIdx := core.readIdx + 1
      readIndexWritten := true } := by
  have next := toNat_succ_of_lt below
  have moved := sound.window.retire {} below rfl
  rw [← next] at moved
  refine ⟨(length_setSlot core _ _).trans sound.depth, ?_, moved⟩
  exact sound.placed_setSlot fun published => by cases published

/-- The pending packet is given back. -/
theorem RingSound.cancelled (sound : core.RingSound) {packet : FetchedPacket}
    (owned : core.pending = some packet) :
    RingSound { core.setSlot packet.queueIndex
        { core.slotAt packet.queueIndex with fetched := false } with
      fetchIdx := packet.queueIndex
      pending := none } := by
  have window := sound.window
  rw [Window, owned] at window
  refine ⟨(length_setSlot core _ _).trans sound.depth, ?_, window.cancel rfl rfl⟩
  exact sound.placed_setSlot fun shown => sound.placed packet.queueIndex shown

/-- Every effect keeps the invariant. -/
theorem Effect.sound (effect : core.Effect call after) (sound : core.Sound) : after.Sound := by
  cases effect with
  | registered newConfig env idle valid =>
    exact sound_of_ring rfl (ringSound_registered (sound.idle idle) valid)
  | published call queueIndex packetVa source slot silent live ahead within place marked =>
    exact sound_of_ring live ((sound.ring live).published ahead within place marked)
  | «repeated» => exact sound
  | rung newWriteIndex live ahead within all =>
    exact sound_of_ring live ((sound.ring live).rung ahead within all)
  | observed newWriteIndex env slots live ahead within marks =>
    exact sound_of_ring live ((sound.ring live).observed ahead within marks)
  | fetched reads packet ticket live free below named =>
    exact sound_of_ring live ((sound.ring live).fetched free below named)
  | accepted packet live owned due room =>
    exact sound_of_ring live ((sound.ring live).accepted owned room)
  | retired writes live below => exact sound_of_ring live ((sound.ring live).retired below)
  | cancelled packet live owned => exact sound_of_ring live ((sound.ring live).cancelled owned)
  | dropped call silent => exact sound_reset core

theorem sound_step (core : HostNativeQueueCore) (call : Call) (sound : core.Sound) :
    (core.step call).Sound := by
  rcases run_cases core sound.small call with ⟨-, reason, after⟩ | ⟨-, effect⟩
  · rw [step, after]
    exact sound.withReason reason
  · exact effect.sound (sound.withReason "none")

theorem sound_of_reachable {context : SparseBytes} (reach : Reachable step (boot context) core) :
    core.Sound :=
  reach.invariant step sound_step (sound_boot context)

end HostNativeQueueCore

end GemSim.Native
