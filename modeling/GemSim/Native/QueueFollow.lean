import GemSim.Native.QueueRing

/-!
# A queue that follows one client

A queue whose packets a single client writes into the ring, one index after the other. Only the
packets between the read and the write index are published, and what is accepted are the packets
of the client in order. These lemmas say what each call of the bridge does to such a queue,
whatever the memory around it holds.

## Main definitions

* `packetBytes` — the bytes of a packet
* `Following` — the queue follows the client

## Main results

* `Following.observe` — a batch that is read from the ring is published as a whole
* `Following.fetch`, `Following.accept`, `Following.cancel`, `Following.retire` — the other calls
-/

namespace GemSim.Native

open GemSim.Lib

/-- The bytes of a packet. -/
def packetBytes (packets : ℕ → ℕ → UInt8) (index : ℕ) : List UInt8 :=
  (List.range PacketBytes).map (packets index)

/-- The packets of a client from an index on, each with its index. -/
def packetsFrom (packets : ℕ → ℕ → UInt8) (first count : ℕ) : List (ℕ × List UInt8) :=
  (List.range' first count).map fun index => (index, packetBytes packets index)

/-- A fetched packet as an index with its bytes. -/
def FetchedPacket.content (packet : FetchedPacket) : ℕ × List UInt8 :=
  (packet.queueIndex.toNat, packet.bytes)

theorem packetsFrom_succ (packets : ℕ → ℕ → UInt8) (first count : ℕ) :
    packetsFrom packets first (count + 1) =
      packetsFrom packets first count ++ [(first + count, packetBytes packets (first + count))] := by
  simp [packetsFrom, List.range'_concat]

namespace HostNativeQueueCore

variable {core : HostNativeQueueCore} {packets : ℕ → ℕ → UInt8} {first : ℕ}
  {taken : List FetchedPacket} {next : UInt64}

section Places

/-- A ring that does not wrap has an address for every index. -/
theorem slotAddress_of_fits (base : core.queueConfig.baseVa ≠ 0) (occupied : 0 < core.slots.length)
    (fits : core.queueConfig.baseVa.toNat + core.slots.length * PacketBytes ≤ 2 ^ 64)
    (small : core.slots.length < 2 ^ 32) (index : UInt64) :
    core.slotAddress index = some (core.queueConfig.baseVa +
      UInt64.ofNat (index.toNat % core.slots.length * PacketBytes)) := by
  have depth : (UInt32.ofNat core.slots.length).toNat = core.slots.length := by
    rw [UInt32.toNat_ofNat', Nat.mod_eq_of_lt small]
  have slot : (index % (UInt32.ofNat core.slots.length).toUInt64).toNat =
      index.toNat % core.slots.length := by
    rw [UInt64.toNat_mod, UInt32.toNat_toUInt64, depth]
  have below := Nat.mod_lt index.toNat occupied
  unfold PacketBytes at fits
  have offset : (index % (UInt32.ofNat core.slots.length).toUInt64 * 64).toNat =
      index.toNat % core.slots.length * 64 := by
    rw [toNat_mul_exact (by rw [slot]; change _ * 64 < _; omega), slot]
    rfl
  have shape : ¬ (core.queueConfig.baseVa = 0 ∨ UInt32.ofNat core.slots.length = 0) := by
    rintro (absent | none)
    · exact base absent
    · rw [← UInt32.toNat_inj, depth] at none
      exact occupied.ne' none
  have short : ¬ index % (UInt32.ofNat core.slots.length).toUInt64 > u64Max / 64 := by
    rw [gt_iff_lt, UInt64.not_lt, UInt64.le_iff_toNat_le, slot]
    change _ ≤ (2 ^ 64 - 1) / 64
    omega
  have within : ¬ core.queueConfig.baseVa >
      u64Max - index % (UInt32.ofNat core.slots.length).toUInt64 * 64 := by
    rw [gt_iff_lt, UInt64.not_lt, le_max_sub_iff, offset]
    omega
  simp only [slotAddress, packetAddress]
  rw [if_neg shape, if_neg short, if_neg within]
  refine congrArg some (congrArg _ ?_)
  rw [← UInt64.toNat_inj, offset, PacketBytes, toNat_ofNat_of_lt (by omega)]

/-- A slot whose publication mark is kept leaves the marks of all slots. -/
theorem published_setSlot (occupied : 0 < core.slots.length) {target : UInt64} {slot : Slot}
    (kept : slot.published = (core.slotAt target).published) (index : UInt64) :
    ((core.setSlot target slot).slotAt index).published = (core.slotAt index).published := by
  by_cases same : core.SameSlot target index
  · rw [slotAt_setSlot_same occupied same, kept, same.slotAt]
  · rw [slotAt_setSlot_other same]

end Places

section Calls

/-- Packets whose slots are free and which can be read are staged. -/
theorem stageObserved_isOk {reads : UInt64 → Bool} {indices : List UInt64}
    (free : ∀ index ∈ indices, (core.slotAt index).published = false ∧
      (core.slotAt index).fetched = false)
    (places : ∀ index ∈ indices, (core.slotAddress index).isSome = true)
    (readable : ∀ index ∈ indices, reads index = true) :
    ∃ observed, core.stageObserved reads indices = .ok observed := by
  induction indices with
  | nil => exact ⟨[], rfl⟩
  | cons index rest ih =>
    obtain ⟨observed, later⟩ := ih (fun other member => free other (List.mem_cons_of_mem _ member))
      (fun other member => places other (List.mem_cons_of_mem _ member))
      (fun other member => readable other (List.mem_cons_of_mem _ member))
    obtain ⟨packetVa, place⟩ := Option.isSome_iff_exists.mp (places index List.mem_cons_self)
    obtain ⟨unpublished, unfetched⟩ := free index List.mem_cons_self
    have reads := readable index List.mem_cons_self
    refine ⟨(index, loadBytes core.context packetVa PacketBytes) :: observed, ?_⟩
    simp only [stageObserved, place, unpublished, unfetched, reads, later]
    simp [Except.map]

/-- A batch of free slots inside the ring is published as a whole. -/
theorem observe_taken {env : ObserveEnv} (live : core.registered = true)
    (small : core.slots.length < 2 ^ 32) (ahead : core.writeIdx.toNat < next.toNat)
    (above : core.readIdx.toNat ≤ next.toNat)
    (within : next.toNat ≤ core.readIdx.toNat + core.slots.length) (occupied : 0 < core.slots.length)
    (free : ∀ index : UInt64, core.writeIdx.toNat ≤ index.toNat → index.toNat < next.toNat →
      (core.slotAt index).published = false ∧ (core.slotAt index).fetched = false)
    (places : ∀ index, (core.slotAddress index).isSome = true) (allocates : env.allocates = true)
    (readable : ∀ index, env.reads index = true) :
    (core.observe next env).returned = true ∧
      (core.observe next env).registeredIndex = core.regdIndex ∧
      ∃ slots, core.Marks next slots ∧
        (core.observe next env).after = { core.cleared with slots := slots, writeIdx := next } := by
  have inRange : ∀ index, index ∈ indexRange core.writeIdx next ↔
      core.writeIdx.toNat ≤ index.toNat ∧ index.toNat < next.toNat :=
    fun index => mem_indexRange ahead.le
  obtain ⟨observed, staged⟩ := @stageObserved_isOk core.cleared env.reads
    (indexRange core.writeIdx next)
    (fun index member => free index ((inRange index).mp member).1 ((inRange index).mp member).2)
    (fun index _ => places index) (fun index _ => readable index)
  obtain ⟨visits, -⟩ := stageObserved_ok staged
  obtain ⟨returned, slots, after, length, spec⟩ := @publishObserved_spec core.cleared occupied small
    observed fun pair _ => places pair.1
  have space : core.cleared.queueHasSpace next = true :=
    queueHasSpace_iff.mpr ⟨List.length_pos_iff.mp occupied, above, within⟩
  have behind : ¬ next < core.writeIdx := UInt64.not_lt.mpr (UInt64.le_iff_toNat_le.mpr ahead.le)
  have other : ¬ next = core.writeIdx := fun same => ahead.ne (congrArg UInt64.toNat same.symm)
  have shape : core.observe next env =
      { returned := true
        after := { core.cleared with slots := slots, writeIdx := next }
        registeredIndex := core.regdIndex } := by
    have cleared : core.cleared.registered = true ∧ core.cleared.writeIdx = core.writeIdx :=
      ⟨live, rfl⟩
    simp only [observe, cleared, behind, other, space, allocates, staged, returned, after]
    simp
    rfl
  rw [shape]
  refine ⟨rfl, rfl, slots, ⟨length, ?_, ?_⟩, rfl⟩
  · intro index owner above below meets
    have visited : owner ∈ observed.map Prod.fst := visits ▸ (inRange owner).mpr ⟨above, below⟩
    obtain ⟨pair, member, rfl⟩ := List.mem_map.mp visited
    exact (spec index).1 ⟨pair, member, meets⟩
  · intro index apart
    refine (spec index).2 fun pair member => ?_
    obtain ⟨above, below⟩ := (inRange pair.1).mp (visits ▸ List.mem_map_of_mem member)
    exact apart pair.1 above below

/-- A fetch is refused, or takes the packet at the fetch index. -/
theorem fetch_taken (core : HostNativeQueueCore) (reads : Bool) :
    core.Refused (core.fetch reads) ∨ ∃ packetVa, core.pending = none ∧
      core.fetchIdx.toNat < core.writeIdx.toNat ∧ core.slotAddress core.fetchIdx = some packetVa ∧
      (core.fetch reads).after =
        { core.cleared.setSlot core.fetchIdx { core.slotAt core.fetchIdx with fetched := true } with
          nextTicket := core.nextTicket + 1
          pending := some (core.packetCopy packetVa)
          fetchIdx := core.fetchIdx + 1 } := by
  unfold fetch
  dsimp only
  split
  · exact .inl (refused_fail core _)
  split
  · exact .inl (refused_fail core _)
  rename_i free
  split
  · exact .inl (refused_fail core _)
  rename_i below
  rw [Bool.not_eq_true, Option.isSome_eq_false_iff, Option.isNone_iff_eq_none] at free
  rw [ge_iff_le, UInt64.not_le] at below
  split
  · exact .inl (refused_fail core _)
  rename_i packetVa place
  split
  · exact .inl (refused_fail core _)
  split
  · exact .inl (refused_fail core _)
  split
  · exact .inl (refused_fail core _)
  rw [nextIndex_of_lt below]
  exact .inr ⟨packetVa, free, UInt64.lt_iff_toNat_lt.mp below, place, rfl⟩

/-- A cancellation is refused, or gives the pending packet back. -/
theorem cancelFetch_taken (core : HostNativeQueueCore) (ticket : UInt64) :
    core.Refused (core.cancelFetch ticket) ∨ ∃ packet, core.pending = some packet ∧
      (core.cancelFetch ticket).after =
        { core.cleared.setSlot packet.queueIndex
            { core.slotAt packet.queueIndex with fetched := false } with
          fetchIdx := packet.queueIndex
          pending := none } := by
  unfold cancelFetch
  dsimp only
  split_ifs with live
  · exact .inl (refused_fail core _)
  split
  · exact .inl (refused_fail core _)
  rename_i packet owned
  split_ifs with other changed
  iterate 2 exact .inl (refused_fail core _)
  exact .inr ⟨packet, owned, rfl⟩

end Calls

/-- The ring and its write index are as before. -/
structure SameRing (core after : HostNativeQueueCore) : Prop where
  queueConfig : after.queueConfig = core.queueConfig
  length : after.slots.length = core.slots.length
  regdIndex : after.regdIndex = core.regdIndex
  writeIdx : after.writeIdx = core.writeIdx

/-- The queue follows a client: only what lies between the read and the write index is
published, and what was accepted are the packets of the client in order. -/
structure Following (core : HostNativeQueueCore) (packets : ℕ → ℕ → UInt8) (first : ℕ)
    (taken : List FetchedPacket) : Prop where
  live : core.registered = true
  ring : core.RingSound
  shown : ∀ index : UInt64, (core.slotAt index).published = true → ∃ owner,
    core.readIdx.toNat ≤ owner ∧ owner < core.writeIdx.toNat ∧
      owner % core.slots.length = index.toNat % core.slots.length
  started : first ≤ core.dispatchIdx.toNat
  waits : ∀ packet, core.pending = some packet →
    packet.bytes = packetBytes packets packet.queueIndex.toNat
  delivered : taken.map FetchedPacket.content =
    packetsFrom packets first (core.dispatchIdx.toNat - first)

namespace Following

/-- The failure text does not matter. -/
theorem withReason (following : core.Following packets first taken) (reason : String) :
    Following { core with failureReason := reason } packets first taken :=
  ⟨following.live, ⟨following.ring.depth, following.ring.placed, following.ring.window⟩,
    following.shown, following.started, following.waits, following.delivered⟩

/-- What the memory holds does not matter. -/
theorem withContext (following : core.Following packets first taken) (context : SparseBytes) :
    Following { core with context := context } packets first taken :=
  ⟨following.live, ⟨following.ring.depth, following.ring.placed, following.ring.window⟩,
    following.shown, following.started, following.waits, following.delivered⟩

/-- A slot ahead of the write index is free. -/
theorem free (following : core.Following packets first taken) {index : UInt64}
    (above : core.writeIdx.toNat ≤ index.toNat)
    (below : index.toNat < core.readIdx.toNat + core.slots.length) :
    (core.slotAt index).published = false ∧ (core.slotAt index).fetched = false := by
  have window := following.ring.window
  refine ⟨?_, window.unfetched above below⟩
  by_contra published
  rw [Bool.not_eq_false] at published
  obtain ⟨owner, ownerAbove, ownerBelow, same⟩ := following.shown index published
  have order := window.readLe.trans (window.dispatchLe.trans window.fetchLe)
  have equal := window_injective ownerAbove (by omega) (by omega) below same
  omega

/-- A batch that is read from the ring is published as a whole. -/
theorem observe {env : ObserveEnv} (following : core.Following packets first taken)
    (ahead : core.writeIdx.toNat ≤ next.toNat)
    (within : next.toNat ≤ core.readIdx.toNat + core.slots.length)
    (places : ∀ index, (core.slotAddress index).isSome = true) (allocates : env.allocates = true)
    (readable : ∀ index, env.reads index = true) :
    (core.observe next env).returned = true ∧
      (core.observe next env).registeredIndex = core.regdIndex ∧
      (core.observe next env).after.Following packets first taken ∧
      ∃ slots, (core.observe next env).after =
        { core.cleared with slots := slots, writeIdx := next } ∧
        slots.length = core.slots.length := by
  have live := following.live
  have window := following.ring.window
  have order := window.readLe.trans (window.dispatchLe.trans window.fetchLe)
  by_cases same : next = core.writeIdx
  · have shape : core.observe next env =
        { returned := true, after := core.cleared, registeredIndex := core.regdIndex } := by
      have cleared : core.cleared.registered = true ∧ core.cleared.writeIdx = core.writeIdx :=
        ⟨live, rfl⟩
      simp only [HostNativeQueueCore.observe, cleared, same]
      simp
      rfl
    rw [shape]
    refine ⟨rfl, rfl, following.withReason "none", core.slots, ?_, rfl⟩
    rw [same]
    rfl
  · have ne : core.writeIdx.toNat ≠ next.toNat := fun equal => same (UInt64.toNat_inj.mp equal.symm)
    obtain ⟨returned, named, slots, marks, after⟩ := observe_taken live
      (length_lt_of_depth following.ring.depth) (by omega) (by omega) within window.occupied
      (fun index above below => following.free above (by omega)) places allocates readable
    refine ⟨returned, named, ?_, slots, after, marks.length⟩
    rw [after]
    have ahead : core.writeIdx.toNat < next.toNat := by omega
    have observed := (following.withReason "none").ring.observed ahead within
      (⟨marks.length, marks.inside, marks.outside⟩ : Marks core.cleared next slots)
    refine ⟨live, observed, ?_, following.started, following.waits, following.delivered⟩
    intro index published
    change (ringGet slots index.toNat).published = true at published
    change ∃ owner, core.readIdx.toNat ≤ owner ∧ owner < next.toNat ∧
      owner % slots.length = index.toNat % slots.length
    rw [marks.length]
    by_cases marked : ∃ owner : UInt64, core.writeIdx.toNat ≤ owner.toNat ∧
        owner.toNat < next.toNat ∧ core.SameSlot owner index
    · obtain ⟨owner, above, below, meets⟩ := marked
      exact ⟨owner.toNat, by omega, below, meets⟩
    · push Not at marked
      rw [marks.outside index marked] at published
      obtain ⟨owner, above, below, meets⟩ := following.shown index published
      exact ⟨owner, above, by omega, meets⟩

/-- A fetched packet is the one of the client, if its bytes are still in the ring. -/
theorem fetch (following : core.Following packets first taken) {reads : Bool}
    (intact : ∀ packetVa, core.fetchIdx.toNat < core.writeIdx.toNat →
      core.slotAddress core.fetchIdx = some packetVa →
      loadBytes core.context packetVa PacketBytes = packetBytes packets core.fetchIdx.toNat) :
    (core.fetch reads).after.Following packets first taken ∧
      core.SameRing (core.fetch reads).after ∧ (core.fetch reads).after.readIdx = core.readIdx := by
  rcases core.fetch_taken reads with ⟨-, reason, after⟩ | ⟨packetVa, idle, below, place, after⟩
  · rw [after]
    exact ⟨following.withReason reason, ⟨rfl, rfl, rfl, rfl⟩, rfl⟩
  rw [after]
  refine ⟨?_, ⟨rfl, length_setSlot core _ _, rfl, rfl⟩, rfl⟩
  have cleared := @RingSound.fetched core.cleared (following.withReason "none").ring
    (core.packetCopy packetVa) (core.nextTicket + 1) idle below rfl
  refine ⟨following.live, cleared, ?_, following.started, ?_, following.delivered⟩
  · intro index published
    have kept := @published_setSlot core.cleared following.ring.window.occupied core.fetchIdx
      { core.slotAt core.fetchIdx with fetched := true } rfl index
    obtain ⟨owner, above, within, same⟩ := following.shown index (kept.symm.trans published)
    refine ⟨owner, above, within, ?_⟩
    simp only [length_setSlot]
    exact same
  · intro packet waiting
    obtain rfl := Option.some.inj waiting
    exact intact packetVa below place

/-- What is accepted is the next packet of the client. -/
theorem accept (following : core.Following packets first taken) (ticket : UInt64) :
    (core.acceptDispatch ticket).after.Following packets first (taken ++
      if (core.acceptDispatch ticket).returned then core.pending.toList else []) ∧
      core.SameRing (core.acceptDispatch ticket).after ∧
      (core.acceptDispatch ticket).after.readIdx = core.readIdx := by
  rcases core.acceptDispatch_cases ticket with ⟨refused, reason, after⟩ | ⟨returned, effect⟩
  · rw [after, refused, if_neg Bool.false_ne_true, List.append_nil]
    exact ⟨following.withReason reason, ⟨rfl, rfl, rfl, rfl⟩, rfl⟩
  rw [returned, if_pos rfl]
  generalize (core.acceptDispatch ticket).after = after at effect
  cases effect with
  | published _ _ _ _ _ silent => cases silent
  | «repeated» _ silent => cases silent
  | dropped _ silent => cases silent
  | accepted packet live owned due room =>
    have owned' : core.pending = some packet := owned
    have due' : packet.queueIndex = core.dispatchIdx := due
    have room' : core.dispatchIdx ≠ u64Max := room
    have succ := toNat_succ room'
    have started := following.started
    refine ⟨?_, ⟨rfl, rfl, rfl, rfl⟩, rfl⟩
    refine ⟨live, (following.withReason "none").ring.accepted owned room, following.shown, ?_, ?_,
      ?_⟩
    · change first ≤ (core.dispatchIdx + 1).toNat
      omega
    · intro other absent
      cases absent
    · change _ = packetsFrom packets first ((core.dispatchIdx + 1).toNat - first)
      have count : (core.dispatchIdx + 1).toNat - first = core.dispatchIdx.toNat - first + 1 := by
        omega
      have index : first + (core.dispatchIdx.toNat - first) = packet.queueIndex.toNat := by
        rw [due']
        omega
      rw [count, packetsFrom_succ, index, owned', List.map_append, following.delivered,
        ← following.waits packet owned']
      rfl

/-- A packet that is given back stays published. -/
theorem cancel (following : core.Following packets first taken) (ticket : UInt64) :
    (core.cancelFetch ticket).after.Following packets first taken ∧
      core.SameRing (core.cancelFetch ticket).after ∧
      (core.cancelFetch ticket).after.readIdx = core.readIdx := by
  rcases core.cancelFetch_taken ticket with ⟨-, reason, after⟩ | ⟨packet, owned, after⟩
  · rw [after]
    exact ⟨following.withReason reason, ⟨rfl, rfl, rfl, rfl⟩, rfl⟩
  rw [after]
  refine ⟨?_, ⟨rfl, length_setSlot core _ _, rfl, rfl⟩, rfl⟩
  refine ⟨following.live, (following.withReason "none").ring.cancelled owned, ?_,
    following.started, ?_, following.delivered⟩
  · intro index published
    have kept := @published_setSlot core.cleared following.ring.window.occupied packet.queueIndex
      { core.slotAt packet.queueIndex with fetched := false } rfl index
    obtain ⟨owner, above, within, same⟩ := following.shown index (kept.symm.trans published)
    refine ⟨owner, above, within, ?_⟩
    simp only [length_setSlot]
    exact same
  · intro other absent
    cases absent

/-- A retirement frees the slot at the read index, and no other one. -/
theorem retire (following : core.Following packets first taken) (queueIndex : UInt64)
    (writes : Bool) :
    (core.retire queueIndex writes).after.Following packets first taken ∧
      core.SameRing (core.retire queueIndex writes).after ∧
      (core.retire queueIndex writes).after.readIdx.toNat =
        core.readIdx.toNat + if (core.retire queueIndex writes).returned then 1 else 0 := by
  rcases core.retire_cases queueIndex writes with ⟨refused, reason, after⟩ | ⟨returned, effect⟩
  · rw [after, refused]
    exact ⟨following.withReason reason, ⟨rfl, rfl, rfl, rfl⟩, rfl⟩
  rw [returned]
  generalize (core.retire queueIndex writes).after = after at effect
  cases effect with
  | published _ _ _ _ _ silent => cases silent
  | «repeated» _ silent => cases silent
  | dropped _ silent => cases silent
  | retired _ live below =>
    have succ : (core.readIdx + 1).toNat = core.readIdx.toNat + 1 := toNat_succ_of_lt below
    refine ⟨⟨live, (following.withReason "none").ring.retired below, ?_, following.started,
      following.waits, following.delivered⟩, ⟨rfl, length_setSlot core _ _, rfl, rfl⟩, succ⟩
    intro index published
    change ((core.setSlot core.readIdx {}).slotAt index).published = true at published
    change ∃ owner, (core.readIdx + 1).toNat ≤ owner ∧ owner < core.writeIdx.toNat ∧
      owner % (core.setSlot core.readIdx {}).slots.length =
        index.toNat % (core.setSlot core.readIdx {}).slots.length
    rw [length_setSlot, succ]
    by_cases same : core.SameSlot core.readIdx index
    · rw [slotAt_setSlot_same following.ring.window.occupied same] at published
      cases published
    · rw [slotAt_setSlot_other same] at published
      obtain ⟨owner, above, within, meets⟩ := following.shown index published
      have ne : owner ≠ core.readIdx.toNat := by
        intro equal
        rw [equal] at meets
        exact same meets
      exact ⟨owner, by omega, within, meets⟩

end Following

end HostNativeQueueCore

end GemSim.Native
