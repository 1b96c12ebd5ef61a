import GemSim.Native.AqlProtocol
import GemSim.Native.QueueFollow

/-!
# The law of the packet protocol

In every interleaving of a client with the bridge no poll fails, a poll catches up with all packets
whose doorbell was rung, the observed write index stays at or below the published one, every packet
is accepted once and in order with the bytes of the client, and the client never writes into a slot
that is not retired.

The invariant counts the bytes that the client wrote so far. Byte `position` of the stream stands
at a place of the ring that depends on `position` modulo the size of the ring, so the bytes that
are not retired yet lie in a window of one revolution.

## Main definitions

* `WellPlaced` — the ring and the words of a queue lie apart
* `Agreed` — the invariant of client and bridge
* `AqlLaw` — what holds in every state

## Main results

* `Agreed.step` — every step of either party keeps the invariant
* `aqlLaw_of_run`
-/

namespace GemSim.Native

open GemSim.Lib
open GemSim.Kmt (QueueInfo)

/-- The ring does not wrap and shares no byte with the words of its indices, and neither do the
two words in the shared file. -/
structure WellPlaced (queueInfo : QueueInfo) : Prop where
  ring : queueInfo.ringBase.toNat + queueInfo.depth.toNat * PacketBytes ≤ 2 ^ 64
  writeWord : queueInfo.writePointer.toNat + 8 ≤ 2 ^ 64
  doorbell : queueInfo.doorbellOffset.toNat + 8 ≤ 2 ^ 64
  completion : queueInfo.completionOffset.toNat + 8 ≤ 2 ^ 64
  readApart : queueInfo.readPointer.toNat + 8 ≤ queueInfo.ringBase.toNat ∨
    queueInfo.ringBase.toNat + queueInfo.depth.toNat * PacketBytes ≤ queueInfo.readPointer.toNat
  writeApart : queueInfo.writePointer.toNat + 8 ≤ queueInfo.ringBase.toNat ∨
    queueInfo.ringBase.toNat + queueInfo.depth.toNat * PacketBytes ≤ queueInfo.writePointer.toNat
  slotsApart : queueInfo.doorbellOffset.toNat + 8 ≤ queueInfo.completionOffset.toNat ∨
    queueInfo.completionOffset.toNat + 8 ≤ queueInfo.doorbellOffset.toNat

section Memory

namespace HostKmtQueueMemory

variable {queue : HostKmtQueueMemory} {address : UInt64} {byteCount : ℕ}

/-- An access that stays clear of the read index reaches the memory. -/
theorem accessible_of_apart (given : queue.readIndexAddress ≠ 0)
    (fits : queue.readIndexAddress.toNat + 8 < 2 ^ 64) (some : 0 < byteCount)
    (within : address.toNat + byteCount ≤ 2 ^ 64)
    (apart : queue.readIndexAddress.toNat + 8 ≤ address.toNat ∨
      address.toNat + byteCount ≤ queue.readIndexAddress.toNat) :
    queue.accessible address byteCount = true := by
  have top : ¬ queue.readIndexAddress > u64Max - 8 := by
    rw [gt_iff_lt, UInt64.not_lt, le_max_sub_iff]
    exact fits
  have clear : queue.overlapsReadIndex address byteCount = false := by
    have last : (address + UInt64.ofNat byteCount - 1).toNat = address.toNat + byteCount - 1 := by
      have bound := address.toNat_lt
      rw [UInt64.toNat_sub, UInt64.toNat_add, UInt64.toNat_ofNat']
      change (2 ^ 64 - 1 + (address.toNat + byteCount % 2 ^ 64) % 2 ^ 64) % 2 ^ 64 = _
      omega
    have readLast : (queue.readIndexAddress + 8 - 1).toNat = queue.readIndexAddress.toNat + 7 := by
      rw [UInt64.toNat_sub, UInt64.toNat_add]
      change (2 ^ 64 - 1 + (queue.readIndexAddress.toNat + 8) % 2 ^ 64) % 2 ^ 64 = _
      omega
    unfold overlapsReadIndex
    split
    · rfl
    · dsimp only
      rw [decide_eq_false_iff_not, UInt64.le_iff_toNat_le, UInt64.le_iff_toNat_le, last, readLast]
      omega
  rw [accessible, if_neg (by rintro (absent | above); exacts [given absent, top above]), clear]
  rfl

/-- The read index as a whole is accessible, and stands in the shared file. -/
theorem overlapsReadIndex_self (given : queue.readIndexAddress ≠ 0)
    (fits : queue.readIndexAddress.toNat + 8 < 2 ^ 64) :
    queue.accessible queue.readIndexAddress 8 = true ∧
      queue.overlapsReadIndex queue.readIndexAddress 8 = true := by
  have top : ¬ queue.readIndexAddress > u64Max - 8 := by
    rw [gt_iff_lt, UInt64.not_lt, le_max_sub_iff]
    exact fits
  have above : ¬ queue.readIndexAddress > u64Max - UInt64.ofNat (8 - 1) := by
    rw [gt_iff_lt, UInt64.not_lt, le_max_sub_iff]
    change _ + 7 < _
    omega
  have last : queue.readIndexAddress ≤ queue.readIndexAddress + 8 - 1 := by
    rw [UInt64.le_iff_toNat_le, UInt64.toNat_sub, UInt64.toNat_add]
    change _ ≤ (2 ^ 64 - 1 + (queue.readIndexAddress.toNat + 8) % 2 ^ 64) % 2 ^ 64
    omega
  have overlaps : queue.overlapsReadIndex queue.readIndexAddress 8 = true := by
    have proper : ¬ (8 = 0 ∨ queue.readIndexAddress = 0 ∨ queue.readIndexAddress > u64Max - 8 ∨
        queue.readIndexAddress > u64Max - UInt64.ofNat (8 - 1)) := by
      rintro (empty | absent | high | high)
      · cases empty
      · exact given absent
      · exact top high
      · exact above high
    rw [overlapsReadIndex, if_neg proper]
    exact decide_eq_true ⟨last, last⟩
  refine ⟨?_, overlaps⟩
  rw [accessible, if_neg (by simp [given, top]), overlaps]
  simp

/-- The bytes clear of the read index are those of the memory. -/
theorem view_of_apart {store : KmtMemory} (fits : queue.readIndexAddress.toNat + 8 < 2 ^ 64)
    (apart : address.toNat < queue.readIndexAddress.toNat ∨
      queue.readIndexAddress.toNat + 8 ≤ address.toNat) :
    queue.view store address = store.memory address := by
  rw [view, if_neg]
  rw [UInt64.le_iff_toNat_le, UInt64.le_iff_toNat_le, toNat_add_exact (by change _ + 7 < _; omega)]
  change ¬ (_ ∧ _ ≤ _ + 7)
  omega

/-- The read index that the queue sees is the one in the shared file. -/
theorem loadWord_view {store : KmtMemory} (fits : queue.readIndexAddress.toNat + 8 < 2 ^ 64) :
    loadWord (queue.view store) queue.readIndexAddress =
      loadWord store.backing queue.completionOffset := by
  have bytes : loadBytes (queue.view store) queue.readIndexAddress 8 =
      loadBytes store.backing queue.completionOffset 8 := by
    rw [loadBytes, loadBytes, touched, touched, List.map_map, List.map_map]
    refine List.map_congr_left fun offset member => ?_
    rw [List.mem_range] at member
    have word : (UInt64.ofNat offset).toNat = offset := toNat_ofNat_of_lt (by omega)
    have place : (queue.readIndexAddress + UInt64.ofNat offset).toNat =
        queue.readIndexAddress.toNat + offset := by
      rw [toNat_add_exact (by omega), word]
    have last : (queue.readIndexAddress + 7).toNat = queue.readIndexAddress.toNat + 7 :=
      toNat_add_exact (by change _ + 7 < _; omega)
    have inside : queue.readIndexAddress ≤ queue.readIndexAddress + UInt64.ofNat offset ∧
        queue.readIndexAddress + UInt64.ofNat offset ≤ queue.readIndexAddress + 7 := by
      rw [UInt64.le_iff_toNat_le, UInt64.le_iff_toNat_le, place, last]
      omega
    have shift : queue.readIndexAddress + UInt64.ofNat offset - queue.readIndexAddress =
        UInt64.ofNat offset := by
      rw [← UInt64.toNat_inj, toNat_sub_exact (by omega), place, word]
      omega
    rw [Function.comp_apply, Function.comp_apply, view, if_pos inside, shift]
  rw [loadWord, loadWord, bytes]

end HostKmtQueueMemory

/-- A poll that finds a published doorbell hands the packets over to the queue. -/
theorem HostKmtAqlQueueObserver.poll_rung (observer : HostKmtAqlQueueObserver) {store : KmtMemory}
    {rung : UInt64} {observed : Reply} (live : observer.initialized = true)
    (doorbell : loadWord store.backing observer.queueInfo.doorbellOffset = rung)
    (valid : rung ≠ KmtSharedBackingDoorbellInitialValue)
    (published : ¬ loadWord store.memory observer.queueInfo.writePointer < rung + 1)
    (handed : (observer.coreOver store).observe (rung + 1)
      { allocates := true, reads := observer.packetReads (observer.coreOver store) {} } = observed)
    (returned : observed.returned = true)
    (named : observed.registeredIndex = observer.queueInfo.registeredIndex) :
    observer.poll store {} =
      (if observed.after.writeIdx = (observer.coreOver store).writeIdx then .idle else .advanced,
        { observer with
          failureReason := "none", queueCore := observed.after, observedDoorbell := true }) := by
  unfold poll
  dsimp only
  rw [if_neg (by rw [live]; decide), if_neg (by decide), doorbell, if_neg valid,
    if_neg (by decide), if_neg published]
  -- the queue does not depend on the failure text
  have same : HostNativeQueueCore.observe
      (coreOver { observer with failureReason := "none" } store) (rung + 1)
      { allocates := true
        reads := packetReads { observer with failureReason := "none" }
          (coreOver { observer with failureReason := "none" } store) {} } = observed := handed
  rw [same, if_neg (by rw [returned]; decide), if_neg (not_not_intro named), live]
  rfl

/-- A set up queue is registered with the indices that the client left, and is empty. -/
theorem HostKmtAqlQueueObserver.initializeQueue_started {observer : HostKmtAqlQueueObserver}
    {store : KmtMemory} (started : (observer.initializeQueue store {}).1 = true) :
    ∃ env after, (observer.coreOver store).cleared.Effect (.registerQueue
        (observer.registration (loadWord store.memory observer.queueInfo.writePointer)) env) after ∧
      (observer.initializeQueue store {}).2 =
        { observer with
          failureReason := "none", queueCore := after, initialized := true,
          observedDoorbell := false } ∧
      observer.queueInfo.readPointer ≠ 0 ∧ observer.queueInfo.readPointer.toNat + 8 < 2 ^ 64 ∧
      (observer.registration 0).queueBytes.toNat = observer.queueInfo.depth.toNat * PacketBytes ∧
      loadWord store.backing observer.queueInfo.completionOffset =
        loadWord store.memory observer.queueInfo.writePointer ∧
      loadWord store.backing observer.queueInfo.doorbellOffset =
        KmtSharedBackingDoorbellInitialValue := by
  unfold initializeQueue at started ⊢
  dsimp only at started ⊢
  split at started
  · cases started
  rename_i valid
  split at started
  · cases started
  rename_i reads
  split at started
  · cases started
  rename_i empty
  split at started
  · cases started
  rename_i returned
  rw [if_neg valid, if_neg reads, if_neg empty, if_neg returned]
  rw [Bool.not_eq_true', Bool.not_eq_false] at returned
  push Not at valid empty
  obtain ⟨-, -, -, -, -, small, shape, given, -⟩ := valid
  have readable : observer.queueInfo.readPointer.toNat + 8 < 2 ^ 64 := by
    by_contra high
    have top : observer.queueInfo.readPointer > u64Max - 8 := by
      rw [gt_iff_lt, max_sub_lt_iff]
      change 2 ^ 64 ≤ _ + 8
      omega
    have barred : observer.queueMemory.accessible observer.queueInfo.readPointer 8 = false :=
      if_pos (.inr top)
    refine reads (.inl ?_)
    change (!(observer.queueMemory.accessible observer.queueInfo.readPointer 8 && true)) = true
    rw [barred]
    rfl
  have same : loadWord (observer.queueMemory.view store) observer.queueInfo.readPointer =
      loadWord store.memory observer.queueInfo.writePointer := empty.1
  have stored := @HostKmtQueueMemory.loadWord_view observer.queueMemory store readable
  have bytes : observer.queueInfo.ringBytes.toNat =
      observer.queueInfo.depth.toNat * PacketBytes := by
    have bound := observer.queueInfo.depth.toNat_lt
    rw [shape, toNat_mul_exact (by rw [UInt32.toNat_toUInt64]; change _ * 64 < _; omega),
      UInt32.toNat_toUInt64]
    rfl
  rcases HostNativeQueueCore.registerQueue_cases (observer.coreOver store)
    (observer.registration (loadWord (observer.queueMemory.view store)
      observer.queueInfo.readPointer))
    { baseReads := observer.queueMemory.accessible observer.queueInfo.ringBase PacketBytes
      allocates := true } with ⟨refused, -⟩ | ⟨-, effect⟩
  · exact absurd (returned.symm.trans refused) (by decide)
  rw [same] at effect
  refine ⟨_, _, effect, ?_, given, readable, ?_, stored.symm.trans same, empty.2⟩
  · rw [← same]
    rfl
  · change observer.queueInfo.ringBytes.toUInt32.toNat = _
    rw [UInt64.toNat_toUInt32, Nat.mod_eq_of_lt small, bytes]

end Memory

/-- How many bytes of its packet the client wrote. -/
def Phase.count : Phase → ℕ
  | .idle => 0
  | .writing count => count
  | .indexed => PacketBytes

/-- How many bytes the client wrote, those of all packets before included. -/
def Producer.position (producer : Producer) : ℕ :=
  producer.index * PacketBytes + producer.phase.count

/-- The write index that the client published. -/
def Producer.writeIndex (producer : Producer) : ℕ :=
  producer.index + if producer.phase = .indexed then 1 else 0

namespace AqlSystem

variable {packets : ℕ → ℕ → UInt8} {first : UInt64} {system : AqlSystem}
  {taken : List FetchedPacket}

/-- Where a byte of the stream of packets stands. -/
def byteVa (system : AqlSystem) (position : ℕ) : UInt64 :=
  system.observer.queueInfo.ringBase +
    UInt64.ofNat (position % (system.observer.queueInfo.depth.toNat * PacketBytes))

/-- The invariant of client and bridge. -/
structure Agreed (packets : ℕ → ℕ → UInt8) (first : UInt64) (system : AqlSystem)
    (taken : List FetchedPacket) : Prop where
  placed : WellPlaced system.observer.queueInfo
  readable : system.observer.queueInfo.readPointer ≠ 0 ∧
    system.observer.queueInfo.readPointer.toNat + 8 < 2 ^ 64
  based : system.observer.queueInfo.ringBase ≠ 0
  initialized : system.observer.initialized = true
  following : system.observer.queueCore.Following packets first.toNat taken
  baseVa : system.observer.queueCore.queueConfig.baseVa = system.observer.queueInfo.ringBase
  wordVa : system.observer.queueCore.queueConfig.hostReadIndexVa =
    system.observer.queueInfo.readPointer
  named : system.observer.queueCore.regdIndex = system.observer.queueInfo.registeredIndex
  depth : system.observer.queueCore.slots.length = system.observer.queueInfo.depth.toNat
  behind : system.observer.queueCore.writeIdx.toNat ≤ system.producer.index
  ahead : system.producer.index ≤
    system.observer.queueCore.readIdx.toNat + system.observer.queueInfo.depth.toNat
  room : system.producer.phase ≠ .idle → system.producer.index < 2 ^ 63 ∧
    system.producer.index <
      system.observer.queueCore.readIdx.toNat + system.observer.queueInfo.depth.toNat
  bounded : system.producer.index = first.toNat ∨ system.producer.index ≤ 2 ^ 63
  quiet : system.observer.observedDoorbell = true → system.producer.index ≠ first.toNat
  within : system.producer.phase.count ≤ PacketBytes
  written : ∀ position, system.observer.queueCore.readIdx.toNat * PacketBytes ≤ position →
    position < system.producer.position → system.store.memory (system.byteVa position) =
      packets (position / PacketBytes) (position % PacketBytes)
  writeWord : loadWord system.store.memory system.observer.queueInfo.writePointer =
    UInt64.ofNat system.producer.writeIndex
  doorbell : loadWord system.store.backing system.observer.queueInfo.doorbellOffset =
    if system.producer.index = first.toNat then KmtSharedBackingDoorbellInitialValue
    else UInt64.ofNat (system.producer.index - 1)
  completion : loadWord system.store.backing system.observer.queueInfo.completionOffset =
    system.observer.queueCore.readIdx

/-- What holds of client and bridge in every state. -/
structure AqlLaw (packets : ℕ → ℕ → UInt8) (first : UInt64) (system : AqlSystem)
    (taken : List FetchedPacket) : Prop where
  polls : system.poll.1 ≠ .failed
  caughtUp : system.poll.2.core.writeIdx.toNat = system.producer.index
  observed : system.core.writeIdx ≤
    loadWord system.store.memory system.observer.queueInfo.writePointer
  monotone : ∀ input, system.core.writeIdx ≤ (system.step packets input).core.writeIdx
  delivered : taken.map FetchedPacket.content =
    packetsFrom packets first.toNat (system.core.dispatchIdx.toNat - first.toNat)
  intact : ∀ index, system.core.readIdx.toNat ≤ index → index < system.producer.index →
    loadBytes system.store.memory (system.slotVa index) PacketBytes = packetBytes packets index
  apart : ∀ index, system.core.readIdx.toNat ≤ index → index < system.producer.index →
    system.producer.phase ≠ .idle → ∀ byte ∈ touched (system.slotVa system.producer.index) PacketBytes,
      byte ∉ touched (system.slotVa index) PacketBytes

namespace Agreed

/-- The cursors of the queue are in order, and its ring is not empty. -/
theorem cursors (agreed : system.Agreed packets first taken) :
    0 < system.observer.queueInfo.depth.toNat ∧
      first.toNat ≤ system.observer.queueCore.writeIdx.toNat ∧
      system.observer.queueCore.readIdx.toNat ≤ system.observer.queueCore.fetchIdx.toNat ∧
      system.observer.queueCore.fetchIdx.toNat ≤ system.observer.queueCore.writeIdx.toNat := by
  have window := agreed.following.ring.window
  have occupied := window.occupied
  have started := agreed.following.started
  have readLe := window.readLe
  have dispatchLe := window.dispatchLe
  have fetchLe := window.fetchLe
  rw [agreed.depth] at occupied
  omega

/-- The index of the client is a word. -/
theorem index_lt (agreed : system.Agreed packets first taken) :
    system.producer.index < 2 ^ 64 := by
  have bound := first.toNat_lt
  rcases agreed.bounded with same | small
  · rw [same]
    exact bound
  · omega

/-- A byte of the stream stands in the ring. -/
theorem toNat_byteVa (agreed : system.Agreed packets first taken) (position : ℕ) :
    (system.byteVa position).toNat = system.observer.queueInfo.ringBase.toNat +
      position % (system.observer.queueInfo.depth.toNat * PacketBytes) ∧
    position % (system.observer.queueInfo.depth.toNat * PacketBytes) <
      system.observer.queueInfo.depth.toNat * PacketBytes := by
  have occupied := agreed.cursors.1
  have fits := agreed.placed.ring
  have size : 0 < system.observer.queueInfo.depth.toNat * PacketBytes :=
    Nat.mul_pos occupied (by decide)
  have below := Nat.mod_lt position size
  have positive := ne_zero_iff_toNat_pos.mp agreed.based
  have offset : (UInt64.ofNat
      (position % (system.observer.queueInfo.depth.toNat * PacketBytes))).toNat =
      position % (system.observer.queueInfo.depth.toNat * PacketBytes) :=
    toNat_ofNat_of_lt (by omega)
  exact ⟨by rw [byteVa, toNat_add_exact (by omega), offset], below⟩

/-- The bytes of a slot are bytes of the stream. -/
theorem slotVa_add (agreed : system.Agreed packets first taken) (index : ℕ) {count : ℕ}
    (below : count < PacketBytes) :
    system.slotVa index + UInt64.ofNat count = system.byteVa (index * PacketBytes + count) := by
  have occupied := agreed.cursors.1
  set depth := system.observer.queueInfo.depth.toNat with hdepth
  have slot := Nat.mod_lt index occupied
  have division := Nat.div_add_mod index depth
  have position : (index * PacketBytes + count) % (depth * PacketBytes) =
      index % depth * PacketBytes + count := by
    have split : index * PacketBytes + count =
        depth * PacketBytes * (index / depth) + (index % depth * PacketBytes + count) := by
      calc index * PacketBytes + count
          = (depth * (index / depth) + index % depth) * PacketBytes + count := by rw [division]
        _ = depth * PacketBytes * (index / depth) + (index % depth * PacketBytes + count) := by ring
    rw [split, Nat.mul_add_mod]
    refine Nat.mod_eq_of_lt ?_
    unfold PacketBytes at below ⊢
    omega
  rw [slotVa, byteVa, ← hdepth, position, UInt64.ofNat_add, UInt64.add_assoc]

/-- Bytes of the stream within one revolution stand apart. -/
theorem byteVa_injective (agreed : system.Agreed packets first taken) {start one other : ℕ}
    (oneAbove : start ≤ one)
    (oneBelow : one < start + system.observer.queueInfo.depth.toNat * PacketBytes)
    (otherAbove : start ≤ other)
    (otherBelow : other < start + system.observer.queueInfo.depth.toNat * PacketBytes)
    (same : system.byteVa one = system.byteVa other) : one = other := by
  have equal := congrArg UInt64.toNat same
  rw [(agreed.toNat_byteVa one).1, (agreed.toNat_byteVa other).1] at equal
  exact window_injective oneAbove oneBelow otherAbove otherBelow (by omega)

/-- A store to a word outside the ring keeps the bytes in the ring. -/
theorem byteVa_outside (agreed : system.Agreed packets first taken) (position : ℕ) :
    system.byteVa position ∉ touched system.observer.queueInfo.writePointer 8 := by
  obtain ⟨place, below⟩ := agreed.toNat_byteVa position
  rw [touched_bounds agreed.placed.writeWord, place]
  have apart := agreed.placed.writeApart
  omega

/-- The write word lies outside the ring. -/
theorem writeWord_update (agreed : system.Agreed packets first taken) (position : ℕ)
    (byte : UInt8) :
    loadWord (Function.update system.store.memory (system.byteVa position) byte)
      system.observer.queueInfo.writePointer =
        loadWord system.store.memory system.observer.queueInfo.writePointer := by
  refine loadWord_congr fun address inside => Function.update_of_ne ?_ _ _
  rintro rfl
  exact agreed.byteVa_outside position inside

/-- The two words in the shared file are apart. -/
theorem doorbell_store (agreed : system.Agreed packets first taken) (word : UInt64) :
    loadWord (storeWord system.store.backing system.observer.queueInfo.completionOffset word)
      system.observer.queueInfo.doorbellOffset =
        loadWord system.store.backing system.observer.queueInfo.doorbellOffset := by
  refine loadWord_storeBytes _ _ _ _ fun byte inside => ?_
  rw [touched_bounds agreed.placed.doorbell] at inside
  rw [touched_bounds agreed.placed.completion]
  have apart := agreed.placed.slotsApart
  omega

theorem completion_store (agreed : system.Agreed packets first taken) (word : UInt64) :
    loadWord (storeWord system.store.backing system.observer.queueInfo.doorbellOffset word)
      system.observer.queueInfo.completionOffset =
        loadWord system.store.backing system.observer.queueInfo.completionOffset := by
  refine loadWord_storeBytes _ _ _ _ fun byte inside => ?_
  rw [touched_bounds agreed.placed.completion] at inside
  rw [touched_bounds agreed.placed.doorbell]
  have apart := agreed.placed.slotsApart
  omega

/-- The bytes that are not retired fill one revolution at most. -/
theorem position_le (agreed : system.Agreed packets first taken) :
    system.producer.position ≤ system.observer.queueCore.readIdx.toNat * PacketBytes +
      system.observer.queueInfo.depth.toNat * PacketBytes := by
  have within := agreed.within
  have ahead := agreed.ahead
  rw [Producer.position, ← Nat.add_mul]
  cases phase : system.producer.phase with
  | idle => exact Nat.mul_le_mul_right _ ahead
  | _ =>
    have room := (agreed.room (by rw [phase]; intro same; cases same)).2
    rw [phase] at within
    calc system.producer.index * PacketBytes + _
        ≤ (system.producer.index + 1) * PacketBytes := by
          rw [Nat.add_mul, Nat.one_mul]
          exact Nat.add_le_add_left within _
      _ ≤ _ := Nat.mul_le_mul_right _ room

section Client

/-- The client takes its next slot. -/
theorem startPacket (agreed : system.Agreed packets first taken) :
    system.startPacket.Agreed packets first taken := by
  unfold AqlSystem.startPacket
  dsimp only
  split
  · rename_i taken
    obtain ⟨idle, small, free⟩ := taken
    rw [agreed.completion] at free
    refine { agreed with room := fun _ => ⟨small, free⟩, within := Nat.zero_le _,
                         written := ?_, writeWord := ?_ }
    · intro position above below
      refine agreed.written position above ?_
      rw [Producer.position, idle]
      exact below
    · rw [agreed.writeWord, Producer.writeIndex, Producer.writeIndex, idle]
      rfl
  · exact agreed

/-- The client writes the next byte of its packet. -/
theorem writeByte (agreed : system.Agreed packets first taken) :
    (system.writeByte packets).Agreed packets first taken := by
  unfold AqlSystem.writeByte
  split
  · rename_i count writing
    split
    · rename_i below
      have busy : system.producer.phase ≠ .idle := by
        rw [writing]
        intro same
        cases same
      have position : system.producer.position = system.producer.index * PacketBytes + count := by
        rw [Producer.position, writing]
        rfl
      have target := agreed.slotVa_add system.producer.index below
      rw [target]
      refine { agreed with room := fun _ => agreed.room busy, within := below,
                           written := ?_, writeWord := ?_ }
      · intro other (above : system.observer.queueCore.readIdx.toNat * PacketBytes ≤ other) upTo
        have upTo' : other < system.producer.position + 1 := by
          rw [position]
          exact upTo
        have limit := agreed.position_le
        by_cases same : other = system.producer.position
        · have here : system.byteVa other =
              system.byteVa (system.producer.index * PacketBytes + count) := by
            rw [same, position]
          change Function.update system.store.memory _ _ (system.byteVa other) = _
          rw [here, Function.update_self, same, position]
          unfold PacketBytes at below ⊢
          have index : (system.producer.index * 64 + count) / 64 = system.producer.index := by omega
          have offset : (system.producer.index * 64 + count) % 64 = count := by omega
          rw [index, offset]
        · have earlier : other < system.producer.position := by omega
          have room := (agreed.room busy).2
          have distinct : system.byteVa other ≠
              system.byteVa (system.producer.index * PacketBytes + count) := by
            intro equal
            rw [← position] at equal
            refine same (agreed.byteVa_injective above (by omega) (by omega) ?_ equal)
            rw [position, ← Nat.add_mul]
            calc system.producer.index * PacketBytes + count
                < (system.producer.index + 1) * PacketBytes := by
                  rw [Nat.add_mul, Nat.one_mul]
                  exact Nat.add_lt_add_left below _
              _ ≤ _ := Nat.mul_le_mul_right _ room
          change Function.update system.store.memory _ _ (system.byteVa other) = _
          rw [Function.update_of_ne distinct]
          exact agreed.written other above earlier
      · change loadWord (Function.update system.store.memory _ _) _ = _
        rw [agreed.writeWord_update, agreed.writeWord, Producer.writeIndex, Producer.writeIndex,
          writing]
        rfl
    · exact agreed
  · exact agreed

/-- The client publishes its write index. -/
theorem publishIndex (agreed : system.Agreed packets first taken) :
    system.publishIndex.Agreed packets first taken := by
  unfold AqlSystem.publishIndex
  split
  · rename_i complete
    have busy : system.producer.phase ≠ .idle := by
      rw [complete]
      intro same
      cases same
    refine { agreed with room := fun _ => agreed.room busy, within := le_rfl,
                         written := ?_, writeWord := ?_ }
    · intro position above below
      refine (storeBytes_frame _ _ _ _ (agreed.byteVa_outside position)).trans ?_
      refine agreed.written position above ?_
      rw [Producer.position, complete]
      exact below
    · exact loadWord_storeWord _ _ _
  · exact agreed

/-- The client rings the doorbell. -/
theorem ringDoorbell (agreed : system.Agreed packets first taken) :
    system.ringDoorbell.Agreed packets first taken := by
  unfold AqlSystem.ringDoorbell
  split
  · rename_i indexed
    obtain ⟨small, free⟩ := agreed.room (by rw [indexed]; intro same; cases same)
    have behind := agreed.behind
    have started := agreed.cursors.2.1
    refine { agreed with behind := behind.trans (Nat.le_succ _), ahead := free, room := ?_,
                         bounded := .inr small, quiet := ?_, within := Nat.zero_le _,
                         written := ?_, writeWord := ?_, doorbell := ?_, completion := ?_ }
    · intro busy
      exact absurd rfl busy
    · intro _ (same : system.producer.index + 1 = first.toNat)
      omega
    · intro position above below
      refine agreed.written position above ?_
      rw [Producer.position, indexed]
      change position < (system.producer.index + 1) * PacketBytes + 0 at below
      rwa [Nat.add_zero, Nat.add_mul, Nat.one_mul] at below
    · refine agreed.writeWord.trans ?_
      rw [Producer.writeIndex, indexed]
      rfl
    · refine (loadWord_storeWord _ _ _).trans ?_
      rw [if_neg (by change ¬ system.producer.index + 1 = _; omega)]
      rfl
    · exact (agreed.completion_store _).trans agreed.completion
  · exact agreed

end Client

section Bridge

/-- The queue follows the client over the bytes as they are now. -/
theorem core_following (agreed : system.Agreed packets first taken) :
    system.core.Following packets first.toNat taken :=
  agreed.following.withContext _

/-- A call of the bridge keeps the invariant if the queue goes on following the client. -/
theorem withCore {core : HostNativeQueueCore} {after : List FetchedPacket}
    (agreed : system.Agreed packets first taken)
    (following : core.Following packets first.toNat after) (ring : system.core.SameRing core)
    (readIdx : core.readIdx = system.core.readIdx) :
    (system.withCore core).Agreed packets first after := by
  have config : core.queueConfig = system.observer.queueCore.queueConfig := ring.queueConfig
  have writeIdx : core.writeIdx = system.observer.queueCore.writeIdx := ring.writeIdx
  have read : core.readIdx = system.observer.queueCore.readIdx := readIdx
  refine { agreed with following := following, baseVa := ?_, wordVa := ?_, named := ?_,
                       depth := ?_, behind := ?_, ahead := ?_, room := ?_, written := ?_,
                       completion := ?_ }
  · exact (congrArg Config.baseVa config).trans agreed.baseVa
  · exact (congrArg Config.hostReadIndexVa config).trans agreed.wordVa
  · exact ring.regdIndex.trans agreed.named
  · exact ring.length.trans agreed.depth
  · change core.writeIdx.toNat ≤ _
    rw [writeIdx]
    exact agreed.behind
  · change _ ≤ core.readIdx.toNat + _
    rw [read]
    exact agreed.ahead
  · change _ → _ ∧ _ < core.readIdx.toNat + _
    rw [read]
    exact agreed.room
  · change ∀ position, core.readIdx.toNat * _ ≤ _ → _
    rw [read]
    exact agreed.written
  · change _ = core.readIdx
    rw [read]
    exact agreed.completion

/-- A published packet that is not retired stands in the ring with its bytes. -/
theorem slot_intact (agreed : system.Agreed packets first taken) {index : ℕ}
    (above : system.observer.queueCore.readIdx.toNat ≤ index)
    (below : index < system.producer.index) :
    loadBytes system.store.memory (system.slotVa index) PacketBytes = packetBytes packets index ∧
      loadBytes system.core.context (system.slotVa index) PacketBytes =
        packetBytes packets index := by
  have bytes : loadBytes system.store.memory (system.slotVa index) PacketBytes =
      packetBytes packets index := by
    rw [loadBytes, touched, List.map_map, packetBytes]
    refine List.map_congr_left fun offset member => ?_
    rw [List.mem_range] at member
    rw [Function.comp_apply, agreed.slotVa_add index member]
    unfold PacketBytes at member
    have position := agreed.written (index * PacketBytes + offset)
      (by unfold PacketBytes; omega) (by unfold Producer.position PacketBytes; omega)
    rw [position]
    unfold PacketBytes
    congr 1 <;> omega
  refine ⟨bytes, ?_⟩
  rw [← bytes]
  refine loadBytes_congr fun address inside => ?_
  obtain ⟨offset, below, rfl⟩ := mem_touched.mp inside
  rw [agreed.slotVa_add index below]
  obtain ⟨place, within⟩ := agreed.toNat_byteVa (index * PacketBytes + offset)
  refine HostKmtQueueMemory.view_of_apart agreed.readable.2 ?_
  rw [place]
  have apart := agreed.placed.readApart
  change _ < system.observer.queueInfo.readPointer.toNat ∨
    system.observer.queueInfo.readPointer.toNat + 8 ≤ _
  omega

/-- Every slot has its address in the ring. -/
theorem slotAddress_eq (agreed : system.Agreed packets first taken) (index : UInt64) :
    system.core.slotAddress index = some (system.slotVa index.toNat) := by
  have occupied := agreed.following.ring.window.occupied
  have based : system.core.queueConfig.baseVa ≠ 0 := by
    change system.observer.queueCore.queueConfig.baseVa ≠ 0
    rw [agreed.baseVa]
    exact agreed.based
  have fits : system.core.queueConfig.baseVa.toNat + system.core.slots.length * PacketBytes ≤
      2 ^ 64 := by
    change system.observer.queueCore.queueConfig.baseVa.toNat +
      system.observer.queueCore.slots.length * PacketBytes ≤ 2 ^ 64
    rw [agreed.baseVa, agreed.depth]
    exact agreed.placed.ring
  rw [HostNativeQueueCore.slotAddress_of_fits based occupied fits
    (HostNativeQueueCore.length_lt_of_depth agreed.following.ring.depth) index]
  change some (system.observer.queueCore.queueConfig.baseVa + UInt64.ofNat
    (index.toNat % system.observer.queueCore.slots.length * PacketBytes)) = _
  rw [agreed.baseVa, agreed.depth]
  rfl

/-- Every slot of the ring is accessible. -/
theorem accessible_slot (agreed : system.Agreed packets first taken) (index : ℕ) :
    system.observer.queueMemory.accessible (system.slotVa index) PacketBytes = true := by
  have start := agreed.slotVa_add index (by decide : 0 < PacketBytes)
  have zero : system.slotVa index + UInt64.ofNat 0 = system.slotVa index := UInt64.add_zero _
  rw [zero, Nat.add_zero] at start
  obtain ⟨place, within⟩ := agreed.toNat_byteVa (index * PacketBytes)
  have apart := agreed.placed.readApart
  have fits := agreed.placed.ring
  have aligned : index * PacketBytes %
      (system.observer.queueInfo.depth.toNat * PacketBytes) + PacketBytes ≤
        system.observer.queueInfo.depth.toNat * PacketBytes := by
    rw [Nat.mul_mod_mul_right, ← Nat.succ_mul]
    exact Nat.mul_le_mul_right _ (Nat.mod_lt _ agreed.cursors.1)
  rw [start]
  refine HostKmtQueueMemory.accessible_of_apart agreed.readable.1 agreed.readable.2
    (by decide) (by omega) ?_
  rw [place]
  change system.observer.queueInfo.readPointer.toNat + 8 ≤ _ ∨
    _ ≤ system.observer.queueInfo.readPointer.toNat
  omega

/-- The bridge fetches the next packet. -/
theorem fetch (agreed : system.Agreed packets first taken) :
    (system.withCore system.fetch.after).Agreed packets first taken ∧
      system.fetch.after.writeIdx = system.core.writeIdx := by
  obtain ⟨after, ring, readIdx⟩ := @HostNativeQueueCore.Following.fetch system.core packets
    first.toNat taken agreed.core_following ((system.core.slotAddress system.core.fetchIdx).any fun packetVa =>
      system.observer.queueMemory.accessible packetVa PacketBytes) (by
        intro packetVa below place
        obtain rfl := Option.some.inj ((agreed.slotAddress_eq _).symm.trans place)
        have published : system.core.fetchIdx.toNat < system.producer.index :=
          below.trans_le agreed.behind
        exact (agreed.slot_intact agreed.cursors.2.2.1 published).2)
  exact ⟨agreed.withCore after ring readIdx, ring.writeIdx⟩

/-- The bridge retires a packet, and the client sees it. -/
theorem retire (agreed : system.Agreed packets first taken) (queueIndex : UInt64) :
    (system.retire queueIndex).2.Agreed packets first taken ∧
      (system.retire queueIndex).2.core.writeIdx = system.core.writeIdx := by
  have wordVa : system.core.queueConfig.hostReadIndexVa =
      system.observer.queueInfo.readPointer := agreed.wordVa
  obtain ⟨reachable, overlaps⟩ := @HostKmtQueueMemory.overlapsReadIndex_self
    system.observer.queueMemory agreed.readable.1 agreed.readable.2
  obtain ⟨after, ring, readIdx⟩ := agreed.core_following.retire queueIndex
    (system.observer.queueMemory.accessible system.core.queueConfig.hostReadIndexVa 8)
  unfold AqlSystem.retire
  dsimp only
  generalize hreply : system.core.retire queueIndex
    (system.observer.queueMemory.accessible system.core.queueConfig.hostReadIndexVa 8) = reply
  rw [hreply] at after ring readIdx
  refine ⟨?_, ring.writeIdx⟩
  split
  · rename_i returned
    have next : reply.after.readIdx.toNat = system.observer.queueCore.readIdx.toNat + 1 := by
      rw [readIdx, if_pos returned]
      rfl
    have stored : (system.observer.queueMemory.write system.store
        system.core.queueConfig.hostReadIndexVa 8 (wordByte reply.after.readIdx)).getD system.store =
          { system.store with
            backing := storeWord system.store.backing system.observer.queueInfo.completionOffset
              reply.after.readIdx } := by
      have place : system.core.queueConfig.hostReadIndexVa =
          system.observer.queueMemory.readIndexAddress := wordVa
      rw [place, HostKmtQueueMemory.write, reachable, overlaps]
      rfl
    rw [stored]
    have ahead := agreed.ahead
    refine { agreed with following := after, baseVa := ?_, wordVa := ?_, named := ?_,
                         depth := ?_, behind := ?_, ahead := ?_, room := ?_, written := ?_,
                         doorbell := ?_, completion := ?_ }
    · exact (congrArg Config.baseVa ring.queueConfig).trans agreed.baseVa
    · exact (congrArg Config.hostReadIndexVa ring.queueConfig).trans agreed.wordVa
    · exact ring.regdIndex.trans agreed.named
    · exact ring.length.trans agreed.depth
    · exact (congrArg UInt64.toNat ring.writeIdx).trans_le agreed.behind
    · change system.producer.index ≤
        reply.after.readIdx.toNat + system.observer.queueInfo.depth.toNat
      omega
    · intro busy
      obtain ⟨small, free⟩ := agreed.room busy
      refine ⟨small, ?_⟩
      change system.producer.index <
        reply.after.readIdx.toNat + system.observer.queueInfo.depth.toNat
      omega
    · intro position (above : reply.after.readIdx.toNat * PacketBytes ≤ position) below
      refine agreed.written position ?_ below
      unfold PacketBytes at above ⊢
      omega
    · exact (agreed.doorbell_store _).trans agreed.doorbell
    · exact loadWord_storeWord _ _ _
  · rename_i refused
    rw [if_neg refused, Nat.add_zero, UInt64.toNat_inj] at readIdx
    exact agreed.withCore after ring readIdx

/-- A poll does not fail, and catches up with every packet whose doorbell was rung. -/
theorem poll (agreed : system.Agreed packets first taken) :
    system.poll.1 ≠ .failed ∧
      system.poll.2.observer.queueCore.writeIdx.toNat = system.producer.index ∧
      system.poll.2.Agreed packets first taken := by
  have behind := agreed.behind
  have started := agreed.cursors.2.1
  by_cases fresh : system.producer.index = first.toNat
  · have silent : system.observer.observedDoorbell = false := by
      cases observed : system.observer.observedDoorbell with
      | false => rfl
      | true => exact absurd fresh (agreed.quiet observed)
    have doorbell := agreed.doorbell
    rw [if_pos fresh] at doorbell
    have shape : system.poll =
        (.idle, { system with observer := { system.observer with failureReason := "none" } }) := by
      simp only [AqlSystem.poll, HostKmtAqlQueueObserver.poll, agreed.initialized, doorbell, silent]
      simp
    rw [shape]
    refine ⟨?_, ?_, { agreed with }⟩
    · intro same
      cases same
    · change system.observer.queueCore.writeIdx.toNat = _
      omega
  · have small : system.producer.index ≤ 2 ^ 63 := agreed.bounded.resolve_left fresh
    have doorbell := agreed.doorbell
    rw [if_neg fresh] at doorbell
    set rung := UInt64.ofNat (system.producer.index - 1) with hrung
    have rungIs : rung.toNat = system.producer.index - 1 := toNat_ofNat_of_lt (by omega)
    have next : (rung + 1).toNat = system.producer.index := by
      rw [toNat_add_exact (by rw [rungIs]; change _ + 1 < _; omega), rungIs]
      change _ + 1 = _
      omega
    have valid : ¬ rung = KmtSharedBackingDoorbellInitialValue := by
      intro same
      have top := congrArg UInt64.toNat same
      rw [rungIs] at top
      change _ = 18446744073709551615 at top
      omega
    have published : ¬ loadWord system.store.memory system.observer.queueInfo.writePointer <
        rung + 1 := by
      rw [agreed.writeWord, UInt64.not_lt, UInt64.le_iff_toNat_le, next, Producer.writeIndex]
      split
      · rw [toNat_ofNat_of_lt (by omega)]
        omega
      · rw [toNat_ofNat_of_lt (by omega)]
        omega
    have reads : ∀ index, system.observer.packetReads system.core {} index = true := by
      intro index
      rw [HostKmtAqlQueueObserver.packetReads, agreed.slotAddress_eq]
      exact agreed.accessible_slot index.toNat
    obtain ⟨returned, named, after, slots, shape, length⟩ :=
      @HostNativeQueueCore.Following.observe system.core packets first.toNat taken (rung + 1)
        { allocates := true, reads := system.observer.packetReads system.core {} }
        agreed.core_following (by rw [next]; exact behind) (by
          rw [next]
          change _ ≤ system.observer.queueCore.readIdx.toNat +
            system.observer.queueCore.slots.length
          rw [agreed.depth]
          exact agreed.ahead) (by
          intro index
          rw [agreed.slotAddress_eq]
          rfl) rfl reads
    set observed := system.core.observe (rung + 1)
      { allocates := true, reads := system.observer.packetReads system.core {} } with hobserved
    have same : observed.registeredIndex = system.observer.queueInfo.registeredIndex :=
      named.trans agreed.named
    have polled : system.poll =
        (if observed.after.writeIdx = system.core.writeIdx then .idle else .advanced,
          { system with observer := { system.observer with
              failureReason := "none", queueCore := observed.after, observedDoorbell := true } }) := by
      rw [AqlSystem.poll, system.observer.poll_rung agreed.initialized doorbell valid published
        hobserved.symm returned same]
      rfl
    rw [polled]
    have writeIdx : observed.after.writeIdx = rung + 1 := by rw [shape]
    have queueConfig : observed.after.queueConfig = system.observer.queueCore.queueConfig := by
      rw [shape]
      rfl
    have readIdx : observed.after.readIdx = system.observer.queueCore.readIdx := by
      rw [shape]
      rfl
    have regdIndex : observed.after.regdIndex = system.observer.queueCore.regdIndex := by
      rw [shape]
      rfl
    have slotsLength : observed.after.slots.length = system.observer.queueCore.slots.length := by
      rw [shape]
      exact length
    refine ⟨?_, (congrArg UInt64.toNat writeIdx).trans next, ?_⟩
    · split
      · intro impossible
        cases impossible
      · intro impossible
        cases impossible
    refine { agreed with following := after, baseVa := ?_, wordVa := ?_, named := ?_,
                         depth := ?_, behind := ?_, ahead := ?_, room := ?_, quiet := ?_,
                         written := ?_, completion := ?_ }
    · exact (congrArg Config.baseVa queueConfig).trans agreed.baseVa
    · exact (congrArg Config.hostReadIndexVa queueConfig).trans agreed.wordVa
    · exact regdIndex.trans agreed.named
    · exact slotsLength.trans agreed.depth
    · exact ((congrArg UInt64.toNat writeIdx).trans next).le
    · change _ ≤ observed.after.readIdx.toNat + _
      rw [readIdx]
      exact agreed.ahead
    · change _ → _ ∧ _ < observed.after.readIdx.toNat + _
      rw [readIdx]
      exact agreed.room
    · exact fun _ => fresh
    · change ∀ position, observed.after.readIdx.toNat * _ ≤ _ → _
      rw [readIdx]
      exact agreed.written
    · change _ = observed.after.readIdx
      rw [readIdx]
      exact agreed.completion

end Bridge

/-- Every step of either party keeps the invariant, and the queue never unlearns a packet. -/
theorem step (agreed : system.Agreed packets first taken) (input : AqlStep) :
    (system.step packets input).Agreed packets first (taken ++ system.acceptedBy input) ∧
      system.core.writeIdx.toNat ≤ (system.step packets input).core.writeIdx.toNat := by
  cases input with
  | acceptDispatch ticket =>
    obtain ⟨after, ring, readIdx⟩ := agreed.core_following.accept ticket
    exact ⟨agreed.withCore after ring readIdx, (congrArg UInt64.toNat ring.writeIdx).ge⟩
  | startPacket =>
    simp only [acceptedBy, List.append_nil]
    refine ⟨agreed.startPacket, ?_⟩
    change _ ≤ system.startPacket.core.writeIdx.toNat
    unfold AqlSystem.startPacket
    dsimp only
    split <;> exact le_rfl
  | writeByte =>
    simp only [acceptedBy, List.append_nil]
    refine ⟨agreed.writeByte, ?_⟩
    change _ ≤ (system.writeByte packets).core.writeIdx.toNat
    unfold AqlSystem.writeByte
    split
    · split <;> exact le_rfl
    · exact le_rfl
  | publishIndex =>
    simp only [acceptedBy, List.append_nil]
    refine ⟨agreed.publishIndex, ?_⟩
    change _ ≤ system.publishIndex.core.writeIdx.toNat
    unfold AqlSystem.publishIndex
    split <;> exact le_rfl
  | ringDoorbell =>
    simp only [acceptedBy, List.append_nil]
    refine ⟨agreed.ringDoorbell, ?_⟩
    change _ ≤ system.ringDoorbell.core.writeIdx.toNat
    unfold AqlSystem.ringDoorbell
    split <;> exact le_rfl
  | poll =>
    simp only [acceptedBy, List.append_nil]
    obtain ⟨-, writeIdx, after⟩ := agreed.poll
    refine ⟨after, ?_⟩
    change _ ≤ system.poll.2.observer.queueCore.writeIdx.toNat
    rw [writeIdx]
    exact agreed.behind
  | fetch =>
    simp only [acceptedBy, List.append_nil]
    obtain ⟨after, writeIdx⟩ := agreed.fetch
    exact ⟨after, (congrArg UInt64.toNat writeIdx).ge⟩
  | cancelFetch ticket =>
    simp only [acceptedBy, List.append_nil]
    obtain ⟨after, ring, readIdx⟩ := agreed.core_following.cancel ticket
    exact ⟨agreed.withCore after ring readIdx, (congrArg UInt64.toNat ring.writeIdx).ge⟩
  | retire queueIndex =>
    simp only [acceptedBy, List.append_nil]
    obtain ⟨after, writeIdx⟩ := agreed.retire queueIndex
    exact ⟨after, (congrArg UInt64.toNat writeIdx).ge⟩

/-- The invariant says what the law says. -/
theorem law (agreed : system.Agreed packets first taken) : system.AqlLaw packets first taken where
  polls := agreed.poll.1
  caughtUp := agreed.poll.2.1
  observed := by
    have behind := agreed.behind
    have bound := agreed.index_lt
    have room := agreed.room
    rw [agreed.writeWord, UInt64.le_iff_toNat_le, Producer.writeIndex]
    change system.observer.queueCore.writeIdx.toNat ≤ _
    split
    · rename_i indexed
      have small := (room (by rw [indexed]; intro same; cases same)).1
      rw [toNat_ofNat_of_lt (by omega)]
      omega
    · rw [Nat.add_zero, toNat_ofNat_of_lt bound]
      exact behind
  monotone input := UInt64.le_iff_toNat_le.mpr (agreed.step input).2
  delivered := agreed.following.delivered
  intact index above below := (agreed.slot_intact above below).1
  apart index above below busy byte inNew inOld := by
    obtain ⟨one, oneBelow, here⟩ := mem_touched.mp inNew
    obtain ⟨other, otherBelow, there⟩ := mem_touched.mp inOld
    rw [agreed.slotVa_add _ oneBelow] at here
    rw [agreed.slotVa_add _ otherBelow] at there
    have free := (agreed.room busy).2
    change system.observer.queueCore.readIdx.toNat ≤ index at above
    have equal := @byteVa_injective _ _ _ _ agreed
      (system.observer.queueCore.readIdx.toNat * PacketBytes) _ _
      (by unfold PacketBytes; omega) (by unfold PacketBytes at oneBelow ⊢; omega)
      (by unfold PacketBytes; omega) (by unfold PacketBytes at otherBelow ⊢; omega)
      (here.trans there.symm)
    unfold PacketBytes at *
    omega

end Agreed

/-- A client and a bridge whose observer was set up over the memory of the client. -/
def start (queueInfo : QueueInfo) (context : SparseBytes) (store : KmtMemory) : AqlSystem where
  observer := ((HostKmtAqlQueueObserver.construct queueInfo context).initializeQueue store {}).2
  store := store
  producer := { index := (loadWord store.memory queueInfo.writePointer).toNat }

/-- A registered queue is empty, with as many slots as its client was told. -/
theorem following_registered {core : HostNativeQueueCore} {newConfig : Config} {env : RegisterEnv}
    {after : HostNativeQueueCore} (empty : core.slots = [] ∧ core.pending = none)
    (effect : core.Effect (.registerQueue newConfig env) after) :
    after.Following packets newConfig.readIndex.toNat [] ∧ after.queueConfig = newConfig ∧
      after.regdIndex = newConfig.registeredIndex ∧ newConfig.baseVa ≠ 0 ∧
      after.writeIdx = newConfig.readIndex ∧ after.readIdx = newConfig.readIndex := by
  cases effect with
  | published _ _ _ _ _ silent => cases silent
  | «repeated» _ silent => cases silent
  | dropped _ silent => cases silent
  | registered _ _ idle valid =>
    have ring := HostNativeQueueCore.ringSound_registered empty valid
    have based : newConfig.baseVa ≠ 0 := by
      intro absent
      rw [validRegistration, if_pos (.inl absent)] at valid
      cases valid
    refine ⟨⟨rfl, ring, ?_, le_rfl, ?_, ?_⟩, rfl, rfl, based, rfl, rfl⟩
    · intro index published
      have blank : ringGet (core.slots.takeD (newConfig.queueBytes.toNat / PacketBytes) {})
          index.toNat = {} := by
        have occupied : 0 < newConfig.queueBytes.toNat / PacketBytes := by
          have occupied := ring.window.occupied
          rwa [List.takeD_length] at occupied
        have below := Nat.mod_lt index.toNat occupied
        rw [empty.1, ringGet, List.takeD_nil, List.length_replicate, List.getD_replicate _ below]
      change (ringGet (core.slots.takeD _ {}) index.toNat).published = true at published
      rw [blank] at published
      cases published
    · intro packet waiting
      rw [empty.2] at waiting
      cases waiting
    · change [] = packetsFrom packets _ (newConfig.readIndex.toNat - newConfig.readIndex.toNat)
      rw [Nat.sub_self]
      rfl

/-- A set up observer agrees with the client on the empty queue. -/
theorem agreed_start {queueInfo : QueueInfo} {context : SparseBytes} {store : KmtMemory}
    (placed : WellPlaced queueInfo)
    (started : ((HostKmtAqlQueueObserver.construct queueInfo context).initializeQueue
      store {}).1 = true) :
    (start queueInfo context store).Agreed packets
      (loadWord store.memory queueInfo.writePointer) [] := by
  obtain ⟨env, queueCore, effect, after, given, readable, bytes, completion, doorbell⟩ :=
    HostKmtAqlQueueObserver.initializeQueue_started started
  obtain ⟨following, config, regdIndex, based, writeIdx, readIdx⟩ :=
    following_registered ⟨rfl, rfl⟩ effect
  have base : queueCore.queueConfig.baseVa = queueInfo.ringBase := congrArg Config.baseVa config
  have word : queueCore.queueConfig.hostReadIndexVa = queueInfo.readPointer :=
    congrArg Config.hostReadIndexVa config
  have depth : queueCore.slots.length = queueInfo.depth.toNat := by
    rw [following.ring.depth, config]
    change queueInfo.ringBytes.toUInt32.toNat / PacketBytes = _
    change queueInfo.ringBytes.toUInt32.toNat = queueInfo.depth.toNat * PacketBytes at bytes
    rw [bytes]
    exact Nat.mul_div_cancel _ (by decide)
  have write : queueCore.writeIdx = loadWord store.memory queueInfo.writePointer := writeIdx
  have read : queueCore.readIdx = loadWord store.memory queueInfo.writePointer := readIdx
  unfold start
  rw [after]
  exact
    { placed := placed
      readable := ⟨given, readable⟩
      based := based
      initialized := rfl
      following := following
      baseVa := base
      wordVa := word
      named := regdIndex
      depth := depth
      behind := by
        change queueCore.writeIdx.toNat ≤ (loadWord store.memory queueInfo.writePointer).toNat
        rw [write]
      ahead := by
        change (loadWord store.memory queueInfo.writePointer).toNat ≤ queueCore.readIdx.toNat + _
        rw [read]
        exact Nat.le_add_right _ _
      room := fun busy => absurd rfl busy
      bounded := .inl rfl
      quiet := fun impossible => by cases impossible
      within := Nat.zero_le _
      written := by
        intro position above below
        change queueCore.readIdx.toNat * PacketBytes ≤ position at above
        change position < (loadWord store.memory queueInfo.writePointer).toNat * PacketBytes + 0
          at below
        rw [read] at above
        omega
      writeWord := by
        change loadWord store.memory queueInfo.writePointer =
          UInt64.ofNat ((loadWord store.memory queueInfo.writePointer).toNat + 0)
        rw [Nat.add_zero, UInt64.ofNat_toNat]
      doorbell := doorbell.trans (if_pos rfl).symm
      completion := completion.trans read.symm }

/-- The law holds in every interleaving of a client with the bridge. -/
theorem aqlLaw_of_run (packets : ℕ → ℕ → UInt8) (queueInfo : QueueInfo) (context : SparseBytes)
    (store : KmtMemory) (placed : WellPlaced queueInfo)
    (started : ((HostKmtAqlQueueObserver.construct queueInfo context).initializeQueue
      store {}).1 = true) (inputs : List AqlStep) :
    (runFrom (recordStep packets) (start queueInfo context store, []) inputs).1.AqlLaw packets
      (loadWord store.memory queueInfo.writePointer)
      (runFrom (recordStep packets) (start queueInfo context store, []) inputs).2 := by
  refine Agreed.law (invariant_runFrom (recordStep packets)
    (fun recorded => recorded.1.Agreed packets (loadWord store.memory queueInfo.writePointer)
      recorded.2) ?_ (agreed_start placed started) inputs)
  intro recorded input agreed
  exact (agreed.step input).1

/-- A queue of two slots, before its first packet. -/
def smallQueue : QueueInfo where
  clientQueueId := 1
  registeredIndex := 0
  generation := 1
  ringBase := 4096
  ringBytes := 128
  readPointer := 8192
  writePointer := 8200
  depth := 2
  queueType := 0
  doorbellOffset := 8
  completionOffset := 0
  lastDoorbell := 0

def freshStore : KmtMemory where
  memory := fun _ => 0
  backing := storeWord (fun _ => 0) 8 KmtSharedBackingDoorbellInitialValue

/-- One packet goes from the client through the queue. -/
def onePacket : List AqlStep :=
  .startPacket :: List.replicate PacketBytes .writeByte ++
    [.publishIndex, .ringDoorbell, .poll, .fetch, .acceptDispatch 1, .retire 0]

theorem aqlLaw_of_onePacket :
    (runFrom (recordStep fun _ _ => 7) (start smallQueue (fun _ => 0) freshStore, [])
      onePacket).1.AqlLaw (fun _ _ => 7) 0
      (runFrom (recordStep fun _ _ => 7) (start smallQueue (fun _ => 0) freshStore, [])
        onePacket).2 :=
  aqlLaw_of_run (fun _ _ => 7) smallQueue (fun _ => 0) freshStore
    ⟨by decide, by decide, by decide, by decide, by decide, by decide, by decide⟩
    (by decide +kernel) onePacket

end AqlSystem

end GemSim.Native
