import GemSim.Native.QueueCore

/-!
# What the calls of the packet queue do

A call that returns false leaves the queue as it was but for the failure text, in every
state. A call that returns true has one of ten effects, each with the guards that
admitted it.

## Main definitions

* `SameSlot` — two indices meet in one slot of the ring
* `Refused` — a call that returns false, and changes nothing but the failure text
* `Marks` — what publishing the packets up to an index does to the slots
* `Effect` — what a call that returns true does

## Main results

* `slotAddress_eq_some` — the address of an index is its slot's place in the ring
* `publishObserved_spec` — the second loop of `observe` publishes what the first one staged
* `run_cases` — every call is refused or has its effect
-/

namespace GemSim.Native

open GemSim.Lib

/-- A call that registers nothing, accepts nothing and retires nothing. -/
def Call.silent : Call → Bool
  | .registerQueue _ _ | .acceptDispatch _ | .retire _ _ => false
  | _ => true

namespace HostNativeQueueCore

variable {core after : HostNativeQueueCore} {i j index : UInt64}

section Slots

/-- Two indices meet in one slot. -/
def SameSlot (core : HostNativeQueueCore) (i j : UInt64) : Prop :=
  i.toNat % core.slots.length = j.toNat % core.slots.length

theorem SameSlot.slotAt (same : core.SameSlot i j) : core.slotAt i = core.slotAt j :=
  ringGet_congr same

theorem slotAt_setSlot_same (occupied : 0 < core.slots.length) (same : core.SameSlot i j)
    (slot : Slot) : (core.setSlot i slot).slotAt j = slot :=
  ringGet_ringSet_self occupied same slot

theorem slotAt_setSlot_other (other : ¬ core.SameSlot i j) (slot : Slot) :
    (core.setSlot i slot).slotAt j = core.slotAt j :=
  ringGet_ringSet_of_ne other slot

@[simp] theorem length_setSlot (core : HostNativeQueueCore) (index : UInt64) (slot : Slot) :
    (core.setSlot index slot).slots.length = core.slots.length :=
  length_ringSet _ _ _

@[simp] theorem slotAddress_setSlot (core : HostNativeQueueCore) (at' index : UInt64)
    (slot : Slot) : (core.setSlot at' slot).slotAddress index = core.slotAddress index := by
  simp only [slotAddress, length_setSlot]
  rfl

/-- Indices that meet in one slot have one address. -/
theorem SameSlot.slotAddress (small : core.slots.length < 2 ^ 32) (same : core.SameSlot i j) :
    core.slotAddress i = core.slotAddress j := by
  have depth : (UInt32.ofNat core.slots.length).toUInt64.toNat = core.slots.length := by
    rw [UInt32.toNat_toUInt64, UInt32.toNat_ofNat', Nat.mod_eq_of_lt small]
  have remainder : i % (UInt32.ofNat core.slots.length).toUInt64 =
      j % (UInt32.ofNat core.slots.length).toUInt64 := by
    rw [← UInt64.toNat_inj, UInt64.toNat_mod, UInt64.toNat_mod, depth]
    exact same
  simp only [HostNativeQueueCore.slotAddress, packetAddress, remainder]

/-- The address of an index is its slot's place in the ring. -/
theorem slotAddress_eq_some {packetVa : UInt64} (small : core.slots.length < 2 ^ 32)
    (place : core.slotAddress index = some packetVa) :
    core.queueConfig.baseVa ≠ 0 ∧ core.slots.length ≠ 0 ∧ packetVa ≠ 0 ∧
      packetVa = core.queueConfig.baseVa +
        UInt64.ofNat (index.toNat % core.slots.length * PacketBytes) := by
  have depth : (UInt32.ofNat core.slots.length).toNat = core.slots.length := by
    rw [UInt32.toNat_ofNat', Nat.mod_eq_of_lt small]
  unfold HostNativeQueueCore.slotAddress packetAddress at place
  split at place
  · cases place
  · rename_i shape
    push Not at shape
    have occupied : core.slots.length ≠ 0 := by
      intro none
      exact shape.2 (by rw [none]; rfl)
    simp only at place
    split at place
    · cases place
    · split at place
      · cases place
      · rename_i within
        obtain rfl := Option.some.inj place
        rw [gt_iff_lt, UInt64.not_lt, le_max_sub_iff] at within
        refine ⟨shape.1, occupied, ?_, ?_⟩
        · rw [ne_zero_iff_toNat_pos, toNat_add_exact within]
          have := ne_zero_iff_toNat_pos.mp shape.1
          omega
        · congr 1
          rw [← UInt64.toNat_inj, UInt64.toNat_mul, UInt64.toNat_mod, UInt32.toNat_toUInt64, depth,
            UInt64.toNat_ofNat']
          rfl

theorem nextIndex_of_lt {value bound : UInt64} (below : value < bound) :
    nextIndex value = some (value + 1) := by
  refine if_neg fun top => ?_
  have := bound.toNat_lt
  rw [top, UInt64.lt_iff_toNat_lt, toNat_u64Max] at below
  omega

theorem mem_indexRange {first last : UInt64} (le : first.toNat ≤ last.toNat) :
    index ∈ indexRange first last ↔
      first.toNat ≤ index.toNat ∧ index.toNat < last.toNat := by
  have bound := last.toNat_lt
  have visits : index ∈ indexRange first last ↔ index ∈ touched first (last.toNat - first.toNat) := by
    rw [indexRange, touched, toNat_sub_exact le]
  rw [visits, touched_bounds (by omega), Nat.add_sub_cancel' le]

end Slots

section Effects

/-- A call that returns false, and changes nothing but the failure text. -/
def Refused (core : HostNativeQueueCore) (reply : Reply) : Prop :=
  reply.returned = false ∧ ∃ reason, reply.after = { core with failureReason := reason }

theorem refused_fail (core : HostNativeQueueCore) (reason : String) :
    core.Refused (core.cleared.fail reason) := ⟨rfl, reason, rfl⟩

/-- What publishing the packets up to an index does to the slots. -/
structure Marks (core : HostNativeQueueCore) (newWriteIndex : UInt64) (slots : List Slot) : Prop where
  length : slots.length = core.slots.length
  inside : ∀ index owner : UInt64, core.writeIdx.toNat ≤ owner.toNat →
    owner.toNat < newWriteIndex.toNat → core.SameSlot owner index →
    (ringGet slots index.toNat).published = true ∧
      (ringGet slots index.toNat).fetched = (core.slotAt index).fetched ∧
      core.slotAddress index = some (ringGet slots index.toNat).hostPacketVa
  outside : ∀ index : UInt64, (∀ owner : UInt64, core.writeIdx.toNat ≤ owner.toNat →
      owner.toNat < newWriteIndex.toNat → ¬ core.SameSlot owner index) →
    ringGet slots index.toNat = core.slotAt index

/-- What a call that returns true does to a queue whose failure text is cleared. -/
inductive Effect (core : HostNativeQueueCore) : Call → HostNativeQueueCore → Prop
  | registered (newConfig : Config) (env : RegisterEnv) (idle : core.registered = false)
      (valid : validRegistration newConfig = true) :
      Effect core (.registerQueue newConfig env) { core with
        slots := core.slots.takeD (newConfig.queueBytes.toNat / PacketBytes) {}
        queueConfig := newConfig
        writeIdx := newConfig.readIndex
        fetchIdx := newConfig.readIndex
        readIdx := newConfig.readIndex
        dispatchIdx := newConfig.readIndex
        regdIndex := newConfig.registeredIndex
        registered := true
        readIndexWritten := false }
  | published (call : Call) (queueIndex packetVa : UInt64) (source : ℕ → UInt8) (slot : Slot)
      (silent : call.silent = true)
      (live : core.registered = true) (ahead : core.writeIdx.toNat ≤ queueIndex.toNat)
      (within : queueIndex.toNat < core.readIdx.toNat + core.slots.length)
      (place : core.slotAddress queueIndex = some packetVa)
      (marked : slot.published = true ∧ slot.hostPacketVa = packetVa ∧
        slot.fetched = (core.slotAt queueIndex).fetched) :
      Effect core call { core.setSlot queueIndex slot with
        context := storeBytes core.context packetVa PacketBytes source }
  | repeated (call : Call)
      (silent : call.silent = true) :
      Effect core call core
  | rung (newWriteIndex : UInt64) (live : core.registered = true)
      (ahead : core.writeIdx.toNat < newWriteIndex.toNat)
      (within : newWriteIndex.toNat ≤ core.readIdx.toNat + core.slots.length)
      (all : ∀ index : UInt64, core.writeIdx.toNat ≤ index.toNat →
        index.toNat < newWriteIndex.toNat → (core.slotAt index).published = true) :
      Effect core (.ring newWriteIndex) { core with writeIdx := newWriteIndex }
  | observed (newWriteIndex : UInt64) (env : ObserveEnv) (slots : List Slot)
      (live : core.registered = true) (ahead : core.writeIdx.toNat < newWriteIndex.toNat)
      (within : newWriteIndex.toNat ≤ core.readIdx.toNat + core.slots.length)
      (marks : core.Marks newWriteIndex slots) :
      Effect core (.observe newWriteIndex env)
        { core with slots := slots, writeIdx := newWriteIndex }
  | fetched (reads : Bool) (packet : FetchedPacket) (ticket : UInt64)
      (live : core.registered = true) (free : core.pending = none)
      (below : core.fetchIdx.toNat < core.writeIdx.toNat)
      (named : packet.queueIndex = core.fetchIdx) :
      Effect core (.fetch reads)
        { core.setSlot core.fetchIdx { core.slotAt core.fetchIdx with fetched := true } with
          nextTicket := ticket
          pending := some packet
          fetchIdx := core.fetchIdx + 1 }
  | accepted (packet : FetchedPacket) (live : core.registered = true)
      (owned : core.pending = some packet) (due : packet.queueIndex = core.dispatchIdx)
      (room : core.dispatchIdx ≠ u64Max) :
      Effect core (.acceptDispatch packet.ticket)
        { core with dispatchIdx := core.dispatchIdx + 1, pending := none }
  | retired (writes : Bool) (live : core.registered = true)
      (below : core.readIdx.toNat < core.dispatchIdx.toNat) :
      Effect core (.retire core.readIdx writes) { core.setSlot core.readIdx {} with
        context := storeWord core.context core.queueConfig.hostReadIndexVa (core.readIdx + 1)
        readIdx := core.readIdx + 1
        readIndexWritten := true }
  | cancelled (packet : FetchedPacket) (live : core.registered = true)
      (owned : core.pending = some packet) :
      Effect core (.cancelFetch packet.ticket)
        { core.setSlot packet.queueIndex
            { core.slotAt packet.queueIndex with fetched := false } with
          fetchIdx := packet.queueIndex
          pending := none }
  | dropped (call : Call)
      (silent : call.silent = true) :
      Effect core call core.reset

/-- Refused, or returned true with the given effect. -/
def Handled (core : HostNativeQueueCore) (call : Call) (reply : Reply) : Prop :=
  core.Refused reply ∨
    (reply.returned = true ∧ Effect core.cleared call reply.after)

theorem registerQueue_cases (core : HostNativeQueueCore) (newConfig : Config)
    (env : RegisterEnv) :
    core.Handled (.registerQueue newConfig env) (core.registerQueue newConfig env) := by
  unfold registerQueue
  dsimp only
  split_ifs with live invalid base index allocates
  iterate 5 exact .inl (refused_fail core _)
  rw [Bool.not_eq_true] at live
  rw [Bool.not_eq_true', Bool.not_eq_false] at invalid
  exact .inr ⟨rfl, .registered newConfig env live invalid⟩

theorem publishAt_cases (core : HostNativeQueueCore) (queueIndex packetVa : UInt64)
    (bytes : Option (ℕ → UInt8)) (byteCount : UInt64) (writes : Bool) (call : Call)
    (silent : call.silent = true) :
    core.Handled call (core.publishAt queueIndex packetVa bytes byteCount writes) := by
  unfold publishAt
  cases bytes with
  | none =>
    dsimp only
    split <;> exact .inl (refused_fail core _)
  | some source =>
    dsimp only
    split_ifs with live size window place busy failed
    iterate 6 exact .inl (refused_fail core _)
    rw [Bool.not_eq_true', Bool.not_eq_false] at live
    push Not at window place busy
    obtain ⟨ahead, aboveRead, short, -⟩ := window
    rw [UInt64.not_lt, UInt64.le_iff_toNat_le] at ahead aboveRead
    rw [toNat_sub_exact aboveRead] at short
    refine .inr ⟨rfl, ?_⟩
    exact .published call queueIndex packetVa
      source _ silent live ahead (by omega) place ⟨rfl, rfl, rfl⟩

theorem queueHasSpace_iff {candidateWrite : UInt64} :
    core.queueHasSpace candidateWrite = true ↔
      core.slots ≠ [] ∧ core.readIdx.toNat ≤ candidateWrite.toNat ∧
        candidateWrite.toNat ≤ core.readIdx.toNat + core.slots.length := by
  unfold queueHasSpace
  split
  · rename_i refused
    rw [UInt64.lt_iff_toNat_lt] at refused
    constructor
    · intro impossible
      cases impossible
    · rintro ⟨occupied, above, -⟩
      rcases refused with below | none
      · omega
      · exact absurd none occupied
  · rename_i admitted
    push Not at admitted
    have above := admitted.1
    rw [UInt64.not_lt, UInt64.le_iff_toNat_le] at above
    rw [decide_eq_true_eq, toNat_sub_exact above]
    constructor
    · intro short
      exact ⟨admitted.2, above, by omega⟩
    · rintro ⟨-, -, short⟩
      omega

theorem ring_cases (core : HostNativeQueueCore) (newWriteIndex : UInt64) :
    core.Handled (.ring newWriteIndex) (core.ring newWriteIndex) := by
  unfold ring
  dsimp only
  split_ifs with live behind same full unpublished
  · exact .inl (refused_fail core _)
  · exact .inl (refused_fail core _)
  · exact .inr ⟨rfl, .repeated _ rfl⟩
  · exact .inl (refused_fail core _)
  · exact .inl (refused_fail core _)
  rw [Bool.not_eq_true', Bool.not_eq_false] at live full
  rw [UInt64.not_lt, UInt64.le_iff_toNat_le] at behind
  rw [← UInt64.toNat_inj] at same
  obtain ⟨-, -, within⟩ := queueHasSpace_iff.mp full
  refine .inr ⟨rfl, .rung newWriteIndex live (by omega) within ?_⟩
  intro index above below
  have visited : index ∈ indexRange core.writeIdx newWriteIndex :=
    (mem_indexRange behind).mpr ⟨above, below⟩
  rw [Bool.not_eq_true, List.any_eq_false] at unpublished
  have checked := unpublished index visited
  rw [Bool.or_eq_true, not_or, Bool.not_eq_true', Bool.not_eq_false] at checked
  exact checked.1

/-- The packets staged by the first loop belong to the visited indices, and their slots
have an address. -/
theorem stageObserved_ok {reads : UInt64 → Bool} {indices : List UInt64}
    {observed : List (UInt64 × List UInt8)}
    (staged : core.stageObserved reads indices = .ok observed) :
    observed.map Prod.fst = indices ∧
      ∀ index ∈ indices, (core.slotAddress index).isSome = true := by
  induction indices generalizing observed with
  | nil =>
    cases staged
    exact ⟨rfl, by simp⟩
  | cons index rest ih =>
    unfold stageObserved at staged
    split at staged
    · cases staged
    · rename_i packetVa place
      split_ifs at staged with busy failed
      cases later : core.stageObserved reads rest with
      | error reason =>
        rw [later] at staged
        cases staged
      | ok remaining =>
        rw [later] at staged
        cases staged
        obtain ⟨visits, places⟩ := ih later
        refine ⟨by rw [List.map_cons, visits], ?_⟩
        intro visited member
        rcases List.mem_cons.mp member with rfl | inRest
        · rw [place]
          rfl
        · exact places visited inRest

/-- The second loop publishes the slot of every staged index and touches no other. -/
theorem publishObserved_spec (occupied : 0 < core.slots.length)
    (small : core.slots.length < 2 ^ 32) {observed : List (UInt64 × List UInt8)}
    (places : ∀ pair ∈ observed, (core.slotAddress pair.1).isSome = true) :
    (core.publishObserved observed).returned = true ∧
      ∃ slots, (core.publishObserved observed).after = { core with slots := slots } ∧
        slots.length = core.slots.length ∧
        ∀ index : UInt64,
          ((∃ pair ∈ observed, core.SameSlot pair.1 index) →
            (ringGet slots index.toNat).published = true ∧
              (ringGet slots index.toNat).fetched = (core.slotAt index).fetched ∧
              core.slotAddress index = some (ringGet slots index.toNat).hostPacketVa) ∧
          ((∀ pair ∈ observed, ¬ core.SameSlot pair.1 index) →
            ringGet slots index.toNat = core.slotAt index) := by
  induction observed generalizing core with
  | nil => exact ⟨rfl, core.slots, rfl, rfl, by simp [slotAt]⟩
  | cons pair rest ih =>
    obtain ⟨staged, bytes⟩ := pair
    obtain ⟨packetVa, place⟩ :=
      Option.isSome_iff_exists.mp (places (staged, bytes) (List.mem_cons_self ..))
    unfold publishObserved
    rw [place]
    dsimp only
    set marked := core.setSlot staged { core.slotAt staged with
      bytes := bytes, hostPacketVa := packetVa, published := true } with hmarked
    have length : marked.slots.length = core.slots.length := length_setSlot _ _ _
    have same : ∀ i j, marked.SameSlot i j ↔ core.SameSlot i j := by
      intro i j
      rw [SameSlot, SameSlot, length]
    obtain ⟨returned, slots, after, longer, spec⟩ := @ih marked
      (by rw [length]; exact occupied) (by rw [length]; exact small) (by
        intro pair member
        rw [hmarked, slotAddress_setSlot]
        exact places pair (List.mem_cons_of_mem _ member))
    refine ⟨returned, slots, after, longer.trans length, fun index => ⟨?_, ?_⟩⟩
    · rintro ⟨owner, member, meets⟩
      have fetchedSame : (marked.slotAt index).fetched = (core.slotAt index).fetched := by
        by_cases here : core.SameSlot staged index
        · rw [hmarked, slotAt_setSlot_same occupied here, here.slotAt]
        · rw [hmarked, slotAt_setSlot_other here]
      by_cases later : ∃ pair ∈ rest, marked.SameSlot pair.1 index
      · obtain ⟨published, fetched, address⟩ := (spec index).1 later
        rw [hmarked, slotAddress_setSlot] at address
        exact ⟨published, fetched.trans fetchedSame, address⟩
      · have here : core.SameSlot staged index := by
          rcases List.mem_cons.mp member with rfl | inRest
          · exact meets
          · exact absurd ⟨owner, inRest, (same _ _).mpr meets⟩ later
        push Not at later
        have kept := (spec index).2 later
        rw [hmarked, slotAt_setSlot_same occupied here] at kept
        rw [kept]
        refine ⟨rfl, ?_, ?_⟩
        · rw [here.slotAt]
        · rw [← here.slotAddress small, place]
    · intro apart
      have here := apart (staged, bytes) (List.mem_cons_self ..)
      rw [(spec index).2 fun pair member =>
          mt (same _ _).mp (apart pair (List.mem_cons_of_mem _ member)),
        hmarked, slotAt_setSlot_other here]

theorem observe_cases (core : HostNativeQueueCore) (small : core.slots.length < 2 ^ 32)
    (newWriteIndex : UInt64) (env : ObserveEnv) :
    core.Handled (.observe newWriteIndex env) (core.observe newWriteIndex env) := by
  unfold observe
  dsimp only
  split_ifs with live behind same full allocates
  · exact .inl (refused_fail core _)
  · exact .inl (refused_fail core _)
  · exact .inr ⟨rfl, .repeated _ rfl⟩
  · exact .inl (refused_fail core _)
  · exact .inl (refused_fail core _)
  rw [Bool.not_eq_true', Bool.not_eq_false] at live full
  rw [UInt64.not_lt, UInt64.le_iff_toNat_le] at behind
  rw [← UInt64.toNat_inj] at same
  obtain ⟨occupied, -, within⟩ := queueHasSpace_iff.mp full
  split
  · exact .inl (refused_fail core _)
  · rename_i observed staged
    obtain ⟨visits, places⟩ := stageObserved_ok staged
    have placed : ∀ pair ∈ observed, (core.cleared.slotAddress pair.1).isSome = true :=
      fun pair member => places pair.1 (visits ▸ List.mem_map_of_mem member)
    obtain ⟨returned, slots, after, length, spec⟩ :=
      publishObserved_spec (List.length_pos_iff.mpr occupied) small placed
    rw [if_neg (by rw [returned]; exact Bool.false_ne_true), after]
    refine .inr ⟨rfl, ?_⟩
    refine .observed newWriteIndex env slots live (by omega) within ⟨length, ?_, ?_⟩
    · intro index owner above below meets
      have visited : owner ∈ observed.map Prod.fst :=
        visits ▸ (mem_indexRange behind).mpr ⟨above, below⟩
      obtain ⟨pair, member, rfl⟩ := List.mem_map.mp visited
      exact (spec index).1 ⟨pair, member, meets⟩
    · intro index apart
      refine (spec index).2 fun pair member => ?_
      have visited : pair.1 ∈ indexRange core.cleared.writeIdx newWriteIndex :=
        visits ▸ List.mem_map_of_mem member
      obtain ⟨above, below⟩ := (mem_indexRange behind).mp visited
      exact apart pair.1 above below

theorem fetch_cases (core : HostNativeQueueCore) (reads : Bool) :
    core.Handled (.fetch reads) (core.fetch reads) := by
  unfold fetch
  dsimp only
  split
  · exact .inl (refused_fail core _)
  rename_i live
  split
  · exact .inl (refused_fail core _)
  rename_i free
  split
  · exact .inl (refused_fail core _)
  rename_i below
  rw [Bool.not_eq_true', Bool.not_eq_false] at live
  rw [Bool.not_eq_true, Option.isSome_eq_false_iff, Option.isNone_iff_eq_none] at free
  rw [ge_iff_le, UInt64.not_le] at below
  split
  · exact .inl (refused_fail core _)
  rename_i packetVa place
  split
  · exact .inl (refused_fail core _)
  split
  · exact .inl (refused_fail core _)
  split
  · exact .inl (refused_fail core _)
  -- the fetch index lies below the write index, so it is never exhausted
  rw [nextIndex_of_lt below]
  exact .inr ⟨rfl, .fetched reads (core.cleared.packetCopy packetVa)
    (core.cleared.nextTicket + 1) live free (UInt64.lt_iff_toNat_lt.mp below) rfl⟩

theorem acceptDispatch_cases (core : HostNativeQueueCore) (ticket : UInt64) :
    core.Handled (.acceptDispatch ticket) (core.acceptDispatch ticket) := by
  unfold acceptDispatch
  dsimp only
  split_ifs with live
  · exact .inl (refused_fail core _)
  rw [Bool.not_eq_true', Bool.not_eq_false] at live
  split
  · exact .inl (refused_fail core _)
  rename_i packet owned
  split_ifs with other changed
  iterate 2 exact .inl (refused_fail core _)
  rw [not_not] at other changed
  unfold nextIndex
  split
  · exact .inl (refused_fail core _)
  · rename_i next found
    split at found
    · cases found
    · rename_i room
      cases found
      subst other
      exact .inr ⟨rfl, .accepted packet live owned changed room⟩

/-- A packet that is due is accepted, and nothing else of the queue changes. -/
theorem acceptDispatch_of_due {packet : FetchedPacket} {bound : UInt64}
    (live : core.registered = true) (waits : core.pending = some packet)
    (due : packet.queueIndex = core.dispatchIdx) (room : core.dispatchIdx < bound) :
    core.acceptDispatch packet.ticket =
      { returned := true
        after := { core.cleared with dispatchIdx := core.dispatchIdx + 1, pending := none } } := by
  have registered : ¬ (!core.cleared.registered) = true := by
    rw [show core.cleared.registered = true from live]
    decide
  have pending : core.cleared.pending = some packet := waits
  have next : ¬ packet.queueIndex ≠ core.cleared.dispatchIdx := not_not.mpr due
  have step : nextIndex core.cleared.dispatchIdx = some (core.dispatchIdx + 1) :=
    nextIndex_of_lt room
  unfold acceptDispatch
  dsimp only
  rw [if_neg registered, pending]
  dsimp only
  rw [if_neg (not_not.mpr rfl), if_neg next, step]

theorem retire_cases (core : HostNativeQueueCore) (queueIndex : UInt64) (writes : Bool) :
    core.Handled (.retire queueIndex writes) (core.retire queueIndex writes) := by
  unfold retire
  dsimp only
  by_cases owned : core.cleared.ownsRetirement queueIndex = true
  · rw [if_neg (by rw [owned]; exact Bool.false_ne_true)]
    simp only [ownsRetirement, Bool.and_eq_true, beq_iff_eq, decide_eq_true_eq] at owned
    obtain ⟨⟨live, rfl⟩, below⟩ := owned
    simp only [nextIndex_of_lt below]
    split
    · exact .inl (refused_fail core _)
    split
    · exact .inl (refused_fail core _)
    · exact .inr ⟨rfl, .retired writes live (UInt64.lt_iff_toNat_lt.mp below)⟩
  · rw [Bool.not_eq_true] at owned
    rw [owned, if_pos Bool.not_false]
    exact .inl (refused_fail core _)

theorem cancelFetch_cases (core : HostNativeQueueCore) (ticket : UInt64) :
    core.Handled (.cancelFetch ticket) (core.cancelFetch ticket) := by
  unfold cancelFetch
  dsimp only
  split_ifs with live
  · exact .inl (refused_fail core _)
  rw [Bool.not_eq_true', Bool.not_eq_false] at live
  split
  · exact .inl (refused_fail core _)
  rename_i packet owned
  split_ifs with other changed
  iterate 2 exact .inl (refused_fail core _)
  rw [not_not] at other
  subst other
  exact .inr ⟨rfl, .cancelled packet live owned⟩

theorem unregisterQueue_cases (core : HostNativeQueueCore) :
    core.Handled .unregisterQueue core.unregisterQueue := by
  unfold unregisterQueue
  dsimp only
  split_ifs with live busy
  iterate 2 exact .inl (refused_fail core _)
  exact .inr ⟨rfl, .dropped _ rfl⟩

/-- Every call is refused or has its effect. -/
theorem run_cases (core : HostNativeQueueCore) (small : core.slots.length < 2 ^ 32)
    (call : Call) : core.Handled call (core.run call) := by
  cases call with
  | registerQueue newConfig env => exact registerQueue_cases core newConfig env
  | publish packetVa bytes byteCount writes =>
    exact publishAt_cases core core.writeIdx packetVa bytes byteCount writes _ rfl
  | publishAt queueIndex packetVa bytes byteCount writes =>
    exact publishAt_cases core queueIndex packetVa bytes byteCount writes _ rfl
  | ring newWriteIndex => exact ring_cases core newWriteIndex
  | observe newWriteIndex env => exact observe_cases core small newWriteIndex env
  | fetch reads => exact fetch_cases core reads
  | acceptDispatch ticket => exact acceptDispatch_cases core ticket
  | retire queueIndex writes => exact retire_cases core queueIndex writes
  | cancelFetch ticket => exact cancelFetch_cases core ticket
  | unregisterQueue => exact unregisterQueue_cases core
  | abandonQueue => exact .inr ⟨rfl, .dropped _ rfl⟩

end Effects

end HostNativeQueueCore

end GemSim.Native
