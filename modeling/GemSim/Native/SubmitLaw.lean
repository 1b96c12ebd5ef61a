import GemSim.Lib.Checks
import GemSim.Native.CommandProcessor
import GemSim.Native.QueueLaw
import Mathlib.Algebra.Order.BigOperators.GroupWithZero.List

/-!
# The law of submissions

A submission that fails has changed nothing: not the queue, not the identity that the command
processor is bound to, and not the memory. One that succeeds has accepted the packet that the queue
waits for, and its task can be run: its descriptors are the ones that stand in memory, descriptor and
entry lie in the allocation of the kernel, the counters of the dispatcher can count its workgroups,
and there is scratch memory for every lane.

## Main definitions

* `ExtentFits`, `workgroups` — the extents of a packet as unbounded numbers
* `CodeRead`, `QueueRead` — what the bytes in memory say of the kernel and of the queue
* `EntryLaw`, `TaskLaw` — what is promised of a task
* `SubmissionLaw`, `StationLaw` — what holds of one submission, and of a processor for its life
* `stationStep` — a processor and its queues, between whose calls packets are submitted

## Main results

* `geometry_run` — the running test by division is the test of the whole product
* `checkedEntryAddress_spec` — the entry is the exact sum of address and signed offset
* `submissionLaw` — the law of one submission
* `stationLaw_of_reachable` — the law, in every state that is reached
-/

namespace GemSim.Native

open GemSim.Domain GemSim.Lib GemSim.Lib.Checks HostNativeQueueCore

section Laws

/-- The workgroups of a dimension, of which the last may not be full. -/
def workgroups (extent : UInt32 × UInt32) : ℕ :=
  (extent.1.toNat + extent.2.toNat - 1) / extent.2.toNat

/-- A dimension that a signed counter can count. -/
structure ExtentFits (extent : UInt32 × UInt32) : Prop where
  grid : 0 < extent.1.toNat
  workgroup : 0 < extent.2.toNat
  rounded : extent.1.toNat + extent.2.toNat - 1 ≤ INT_MAX.toNat

/-- Some bytes lie in the allocation of a resident kernel. -/
structure Contained (resident : ResidentKernelView) (address bytes : ℕ) : Prop where
  above : resident.allocationBaseVa.toNat ≤ address
  within : address + bytes ≤ resident.allocationBaseVa.toNat + resident.allocationBytes.toNat

/-- The address at which a kernel starts, with and without the instructions that preload its
arguments. -/
structure EntryLaw (resident : ResidentKernelView) (code : AMDKernelCode) (rawEntry entry : UInt64) :
    Prop where
  exact : (rawEntry.toNat : ℤ) = resident.descriptorVa.toNat + code.kernelCodeEntryByteOffset.toInt
  raw : Contained resident rawEntry.toNat 1
  preloaded : entry.toNat = rawEntry.toNat +
    if code.kernargPreloadSpecLength = 0 then 0 else KernargPreloadPktSize.toNat
  effective : Contained resident entry.toNat 1

/-- The bytes of a kernel descriptor begin like the older form, for this machine. -/
structure OlderForm (bytes : List UInt8) : Prop where
  major : load32 bytes 0 = 1
  minor : load32 bytes 4 ≤ 2
  kind : load16 bytes 8 = 1
  machine : load16 bytes 10 = 9 ∧ load16 bytes 12 = 5 ∧ load16 bytes 14 = 0

/-- The older form keeps the sizes of the segments elsewhere, and preloads nothing. -/
structure OlderCode (bytes : List UInt8) (code : AMDKernelCode) : Prop where
  entry : code.kernelCodeEntryByteOffset = (load64 bytes 16).toInt64
  privateBytes : code.privateSegmentFixedSize = load32 bytes 60
  groupBytes : code.groupSegmentFixedSize = load32 bytes 64
  kernargBytes : code.kernargSize.toNat = (load64 bytes 72).toNat
  preload : code.kernargPreloadSpecLength = 0 ∧ code.kernargPreloadSpecOffset = 0

/-- A kernel descriptor is what the bytes at its address say, in the form that they are in. -/
structure CodeRead (layouts : Layouts) (resident : ResidentKernelView) (memory : SparseBytes)
    (metadata : Option CodeObjectMetadata) (code : AMDKernelCode) : Prop where
  newer : metadata.isSome = true ∨ ¬ OlderForm (loadBytes memory resident.descriptorVa 64) →
    code = layouts.kernelCode (loadBytes memory resident.descriptorVa 64)
  older : metadata = none → OlderForm (loadBytes memory resident.descriptorVa 64) →
    OlderCode (loadBytes memory resident.descriptorVa 80) code
  declared : ∀ declared ∈ metadata,
    loadBytes memory resident.descriptorVa 64 = declared.descriptor.toList
  modes : code.wgpMode = false ∧ code.memOrdered = false ∧ code.fwdProgress = false

/-- A queue descriptor is what the bytes before the read index of the queue say, and describes the
ring of the queue. -/
structure QueueRead (layouts : Layouts) (memory : SparseBytes) (queue : HostNativeQueueCore)
    (base : UInt64) (mqd : AMDQueue) : Prop where
  offset : load32 (loadBytes memory (queue.queueConfig.hostReadIndexVa + 8) 4) 0 = 128
  place : base.toNat + 128 = queue.queueConfig.hostReadIndexVa.toNat
  read : mqd = layouts.queue (loadBytes memory base 256)
  ring : mqd.baseAddress = queue.queueConfig.baseVa
  slots : mqd.size.toNat = queue.queueConfig.queueBytes.toNat / PacketBytes
  consumed : mqd.readDispatchId ≤ queue.readIdx
  produced : queue.writeIdx ≤ mqd.writeDispatchId

/-- What is promised of a task. -/
structure TaskLaw (layouts : Layouts) (queue : HostNativeQueueCore) (submission : Submission)
    (task : OwnedQueueEntry) : Prop where
  descriptor : Contained submission.resident submission.resident.descriptorVa.toNat
    KernelDescriptorBytes
  code : CodeRead layouts submission.resident submission.memory submission.metadata
    task.descriptor
  entry : ∃ rawEntry, EntryLaw submission.resident task.descriptor rawEntry task.codeVa
  extents : ∀ extent ∈ task.packet.extents, ExtentFits extent
  product : (task.packet.extents.map workgroups).prod ≤ INT_MAX.toNat
  queue : QueueRead layouts submission.memory queue task.hostAMDQueueAddr task.amdQueue
  preloaded : task.preloadArgs = loadBytes submission.memory
    (task.packet.kernargAddress +
      UInt64.ofNat (task.descriptor.kernargPreloadSpecOffset.toNat * 4))
    (task.descriptor.kernargPreloadSpecLength.toNat * 4)
  scratch : task.packet.privateSegmentSize ≠ 0 → task.amdQueue.scratchBackingMemoryLocation ≠ 0 ∧
    task.packet.privateSegmentSize.toNat ≤ task.amdQueue.scratchWorkitemByteSize.toNat

variable (layouts : Layouts) (processor : CommandProcessor) (queue : HostNativeQueueCore)
  (submission : Submission)

/-- A submission that failed has left the queue and the identity, and made no task. -/
structure Unchanged (reply : SubmissionReply) : Prop where
  kept : reply.queue = queue
  bound : reply.processor.boundHsaQueueId = processor.boundHsaQueueId
  taskless : reply.task = none

/-- A submission that succeeded has accepted its packet, and made a task of it. -/
structure Accepted (reply : SubmissionReply) (task : OwnedQueueEntry) : Prop where
  waited : queue.pending = some submission.fetched
  due : submission.fetched.queueIndex = queue.dispatchIdx
  moved : reply.queue =
    { queue.cleared with dispatchIdx := queue.dispatchIdx + 1, pending := none }
  made : reply.task = some task
  packet : task.packet = dispatchPacket submission.fetched.bytes
  place : task.hostPacketVa = submission.fetched.hostPacketVa
  object : task.packet.kernelObject = submission.resident.descriptorVa
  law : TaskLaw layouts queue submission task
  identity : reply.processor.boundHsaQueueId = some task.amdQueue.id
  bound : processor.boundHsaQueueId = none ∨
    processor.boundHsaQueueId = some task.amdQueue.id

/-- What holds of one submission. -/
structure SubmissionLaw : Prop where
  memory : (submitImpl layouts processor queue submission).memory = submission.memory
  refused : (submitImpl layouts processor queue submission).returned = false →
    Unchanged processor queue (submitImpl layouts processor queue submission)
  accepted : (submitImpl layouts processor queue submission).returned = true →
    ∃ task, Accepted layouts processor queue submission
      (submitImpl layouts processor queue submission) task

/-- A command processor, and the queues that it may be handed. -/
structure Station where
  processor : CommandProcessor := {}
  queues : ℕ → HostNativeQueueCore

/-- A call of a queue, or a submission of a packet of it. Between these the memory may have become
any other, and so may the ring, which the producer writes. -/
inductive StationInput where
  | call (queue : ℕ) (call : Call)
  | submit (queue : ℕ) (context : SparseBytes) (submission : Submission)

/-- A queue whose ring the producer has written. -/
def Station.queueWith (station : Station) (index : ℕ) (context : SparseBytes) :
    HostNativeQueueCore :=
  { station.queues index with context := context }

def Station.reply (station : Station) (index : ℕ) (context : SparseBytes)
    (submission : Submission) : SubmissionReply :=
  submitImpl layouts station.processor (station.queueWith index context) submission

def stationStep (station : Station) : StationInput → Station
  | .call index call =>
    { station with queues := Function.update station.queues index ((station.queues index).step call) }
  | .submit index context submission =>
    { processor := (station.reply layouts index context submission).processor
      queues := Function.update station.queues index
        (station.reply layouts index context submission).queue }

def startStation (contexts : ℕ → SparseBytes) : Station where
  queues index := boot (contexts index)

/-- The law of every submission, and an identity that stays once it is bound. -/
structure StationLaw (station : Station) : Prop where
  submissions : ∀ index context submission, SubmissionLaw layouts station.processor
    (station.queueWith index context) submission
  bound : ∀ id, station.processor.boundHsaQueueId = some id → ∀ inputs,
    (runFrom (stationStep layouts) station inputs).processor.boundHsaQueueId = some id

end Laws

section Geometry

variable {totalWorkgroups after : UInt64} {extent : UInt32 × UInt32}
  {extents : List (UInt32 × UInt32)} {packet : DispatchPacket}

theorem toNat_ne_zero32 {value : UInt32} : value ≠ 0 ↔ 0 < value.toNat := by
  rw [ne_eq, ← UInt32.toNat_inj, UInt32.toNat_zero]
  omega

theorem workgroups_pos (fits : ExtentFits extent) : 0 < workgroups extent := by
  have grid := fits.grid
  exact Nat.div_pos (by omega) fits.workgroup

/-- One dimension passes if it fits and the product with it does. -/
theorem geometryStep_eq_some (positive : 0 < totalWorkgroups.toNat) :
    geometryStep totalWorkgroups extent = some after ↔ ExtentFits extent ∧
      totalWorkgroups.toNat * workgroups extent ≤ INT_MAX.toNat ∧
      after.toNat = totalWorkgroups.toNat * workgroups extent := by
  have gridBound := extent.1.toNat_lt
  have workgroupBound := extent.2.toNat_lt
  unfold geometryStep
  by_cases empty : extent.1 = 0 ∨ extent.2 = 0
  · rw [if_pos empty]
    constructor
    · intro found
      cases found
    · rintro ⟨fits, -, -⟩
      rcases empty with grid | workgroup
      · exact absurd grid (toNat_ne_zero32.mpr fits.grid)
      · exact absurd workgroup (toNat_ne_zero32.mpr fits.workgroup)
  rw [if_neg empty]
  rw [not_or] at empty
  have grid := toNat_ne_zero32.mp empty.1
  have workgroup := toNat_ne_zero32.mp empty.2
  have rounded : (extent.1.toUInt64 + extent.2.toUInt64 - 1).toNat =
      extent.1.toNat + extent.2.toNat - 1 := by
    have sum : (extent.1.toUInt64 + extent.2.toUInt64).toNat = extent.1.toNat + extent.2.toNat :=
      toNat_add_exact (by rw [UInt32.toNat_toUInt64, UInt32.toNat_toUInt64]; omega)
    rw [toNat_sub_exact (by rw [sum, UInt64.toNat_one]; omega), sum, UInt64.toNat_one]
  have groups : ((extent.1.toUInt64 + extent.2.toUInt64 - 1) / extent.2.toUInt64).toNat =
      workgroups extent := by
    rw [UInt64.toNat_div, rounded, UInt32.toNat_toUInt64, workgroups]
  dsimp only
  by_cases large : extent.1.toUInt64 + extent.2.toUInt64 - 1 > INT_MAX
  · rw [if_pos large]
    rw [gt_iff_lt, UInt64.lt_iff_toNat_lt, rounded] at large
    constructor
    · intro found
      cases found
    · rintro ⟨fits, -, -⟩
      exact absurd fits.rounded (Nat.not_le.mpr large)
  rw [if_neg large]
  rw [gt_iff_lt, UInt64.not_lt, UInt64.le_iff_toNat_le, rounded] at large
  have test : (extent.1.toUInt64 + extent.2.toUInt64 - 1) / extent.2.toUInt64 >
      INT_MAX / totalWorkgroups ↔ INT_MAX.toNat < totalWorkgroups.toNat * workgroups extent := by
    rw [gt_iff_lt, div_lt_iff_lt_mul positive, groups]
  by_cases above : INT_MAX.toNat < totalWorkgroups.toNat * workgroups extent
  · rw [if_pos (test.mpr above)]
    constructor
    · intro found
      cases found
    · rintro ⟨-, within, -⟩
      exact absurd within (Nat.not_le.mpr above)
  rw [if_neg (mt test.mp above), Option.some.injEq, ← UInt64.toNat_inj]
  have within := Nat.not_lt.mp above
  have bounded : INT_MAX.toNat < 2 ^ 64 := by decide
  rw [toNat_mul_exact (by rw [groups]; exact within.trans_lt bounded), groups]
  constructor
  · intro same
    exact ⟨⟨grid, workgroup, large⟩, within, same.symm⟩
  · rintro ⟨-, -, same⟩
    exact same.symm

theorem geometryStep_ne_none (positive : 0 < totalWorkgroups.toNat) (fits : ExtentFits extent)
    (within : totalWorkgroups.toNat * workgroups extent ≤ INT_MAX.toNat) :
    geometryStep totalWorkgroups extent ≠ none := by
  have bounded : INT_MAX.toNat < 2 ^ 64 := by decide
  have found := (geometryStep_eq_some positive).mpr
    ⟨fits, within, toNat_ofNat_of_lt (within.trans_lt bounded)⟩
  rw [found]
  exact Option.some_ne_none _

theorem prod_workgroups_pos (fits : ∀ extent ∈ extents, ExtentFits extent) :
    0 < (extents.map workgroups).prod := by
  apply List.prod_pos
  intro groups member
  obtain ⟨extent, inside, rfl⟩ := List.mem_map.mp member
  exact workgroups_pos (fits extent inside)

/-- The running test of the product by division is the test of the whole product. -/
theorem geometry_run (positive : 0 < totalWorkgroups.toNat)
    (bounded : totalWorkgroups.toNat ≤ INT_MAX.toNat) :
    (extents.foldlM geometryStep totalWorkgroups).isSome = true ↔
      (∀ extent ∈ extents, ExtentFits extent) ∧
        totalWorkgroups.toNat * (extents.map workgroups).prod ≤ INT_MAX.toNat := by
  induction extents generalizing totalWorkgroups with
  | nil => simpa using bounded
  | cons extent rest ih =>
    rw [List.foldlM_cons, List.forall_mem_cons, List.map_cons, List.prod_cons, ← Nat.mul_assoc]
    cases found : geometryStep totalWorkgroups extent with
    | none =>
      constructor
      · intro passed
        cases passed
      -- a product that is too great stays so, since every further factor is positive
      · rintro ⟨⟨fits, others⟩, product⟩
        have within := (Nat.le_mul_of_pos_right _ (prod_workgroups_pos others)).trans product
        exact absurd found (geometryStep_ne_none positive fits within)
    | some next =>
      obtain ⟨fits, within, same⟩ := (geometryStep_eq_some positive).mp found
      have later := @ih next (by rw [same]; exact Nat.mul_pos positive (workgroups_pos fits))
        (by rw [same]; exact within)
      rw [same] at later
      change (rest.foldlM geometryStep next).isSome = true ↔ _
      rw [later, and_assoc]
      exact (and_iff_right fits).symm

/-- The extents of a packet pass exactly when each fits, and so does the number of workgroups. -/
theorem geometryFits_iff :
    geometryFitsSignedTaskCounters packet = true ↔
      (∀ extent ∈ packet.extents, ExtentFits extent) ∧
        (packet.extents.map workgroups).prod ≤ INT_MAX.toNat := by
  have run := @geometry_run 1 packet.extents (by decide) (by decide)
  rwa [UInt64.toNat_one, Nat.one_mul] at run

end Geometry

section Addresses

variable {resident : ResidentKernelView} {address bytes descriptor entry : UInt64} {offset : Int64}

theorem contained_of_resident (inside : residentRangeContains resident address bytes = true) :
    Contained resident address.toNat bytes.toNat := by
  unfold residentRangeContains at inside
  split at inside
  · cases inside
  rename_i valid
  simp only [not_or] at valid
  -- the guard of the source compares with 2 ^ 64 - 1 - bytes, so the end does not wrap
  have fits : resident.allocationBaseVa.toNat + resident.allocationBytes.toNat < 2 ^ 64 := by
    have guard := valid.2.2.2.2.2
    rw [gt_iff_lt, UInt64.not_lt, le_max_sub_iff] at guard
    exact guard
  have last := toNat_add_exact fits
  obtain ⟨above, below, room⟩ := of_decide_eq_true inside
  rw [ge_iff_le, UInt64.le_iff_toNat_le] at above
  rw [UInt64.lt_iff_toNat_lt, last] at below
  rw [UInt64.le_iff_toNat_le, toNat_sub_exact (by rw [last]; omega), last] at room
  exact ⟨above, by omega⟩

/-- An entry address is the exact sum of the address of the descriptor and the signed offset. -/
theorem checkedEntryAddress_spec (found : checkedEntryAddress descriptor offset = some entry) :
    (entry.toNat : ℤ) = descriptor.toNat + offset.toInt := by
  unfold checkedEntryAddress at found
  split at found
  · rename_i nonneg
    have word := toNat_toUInt64_of_nonneg (Int64.le_iff_toInt_le.mp nonneg)
    dsimp only at found
    split at found
    · cases found
    rename_i guard
    obtain rfl := Option.some.inj found
    rw [gt_iff_lt, UInt64.not_lt, le_max_sub_iff] at guard
    rw [toNat_add_exact guard, Int.natCast_add, word]
  · rename_i negative
    rw [ge_iff_le, Int64.not_le] at negative
    have below : offset.toInt < 0 := Int64.lt_iff_toInt_lt.mp negative
    -- a negative offset is subtracted as -(offset + 1) + 1, so the least value does not overflow
    have magnitude := toNat_magnitude below
    dsimp only at found
    split at found
    · cases found
    rename_i guard
    obtain rfl := Option.some.inj found
    rw [UInt64.not_lt, UInt64.le_iff_toNat_le] at guard
    rw [toNat_sub_exact guard, magnitude]
    omega

theorem effectiveEntry_spec {code : AMDKernelCode} {rawEntry : UInt64}
    (found : effectiveEntry code rawEntry = some entry) :
    entry.toNat = rawEntry.toNat +
      if code.kernargPreloadSpecLength = 0 then 0 else KernargPreloadPktSize.toNat := by
  unfold effectiveEntry at found
  split at found
  · rename_i preloads
    split at found
    · cases found
    rename_i guard
    obtain rfl := Option.some.inj found
    rw [gt_iff_lt, UInt64.not_lt, le_max_sub_iff] at guard
    rw [if_neg preloads, toNat_add_exact guard]
  · rename_i plain
    obtain rfl := Option.some.inj found
    rw [if_pos (not_not.mp plain), Nat.add_zero]

theorem machineCodeVa_spec {code : AMDKernelCode} {abi : DescriptorAbi}
    (found : machineCodeVa resident code abi = .ok entry) :
    ∃ rawEntry, EntryLaw resident code rawEntry entry := by
  unfold machineCodeVa at found
  split at found
  · cases found
  rename_i rawEntry sum
  split at found
  · cases found
  rename_i effective behind
  split at found
  · cases found
  rename_i inside
  simp only [Bool.not_eq_true', not_or, Bool.not_eq_false] at inside
  split at found
  · cases found
  split at found
  · cases found
  obtain rfl := Except.ok.inj found
  exact ⟨rawEntry, checkedEntryAddress_spec sum, contained_of_resident inside.1,
    effectiveEntry_spec behind, contained_of_resident inside.2⟩

variable {layouts : Layouts} {memory : SparseBytes} {metadata : Option CodeObjectMetadata}
  {env : SubmissionEnv} {kernel : ResidentKernel}

theorem olderForm_iff {bytes : List UInt8} :
    versionedAmdKernelCodeV2Header (legacyAmdKernelCodeV2 bytes) = true ↔ OlderForm bytes := by
  simp only [versionedAmdKernelCodeV2Header, Bool.and_eq_true, decide_eq_true_eq]
  constructor
  · rintro ⟨⟨⟨⟨⟨major, minor⟩, kind⟩, machine⟩, version⟩, stepping⟩
    exact ⟨major, minor, kind, machine, version, stepping⟩
  · rintro ⟨major, minor, kind, machine, version, stepping⟩
    exact ⟨⟨⟨⟨⟨major, minor⟩, kind⟩, machine⟩, version⟩, stepping⟩

/-- A descriptor that has been read is what its bytes say, in the form that they are in. -/
theorem readDescriptor_spec {code : AMDKernelCode} {abi : DescriptorAbi}
    (found : readDescriptor layouts resident memory metadata env = .ok (code, abi)) :
    (metadata.isSome = true ∨ ¬ OlderForm (loadBytes memory resident.descriptorVa 64) →
      code = layouts.kernelCode (loadBytes memory resident.descriptorVa 64)) ∧
    (metadata = none → OlderForm (loadBytes memory resident.descriptorVa 64) →
      OlderCode (loadBytes memory resident.descriptorVa 80) code) := by
  unfold readDescriptor at found
  dsimp only at found
  split at found
  -- the code object declares its metadata, so no older form is looked for
  · rename_i declared
    obtain ⟨rfl, -⟩ := Prod.mk.inj (Except.ok.inj found)
    refine ⟨fun _ => rfl, fun absent => ?_⟩
    rw [absent] at declared
    cases declared
  rename_i undeclared
  split at found
  -- the first 64 bytes are an older header, and 80 are read
  · rename_i header
    have older := olderForm_iff.mp header
    split at found
    · cases found
    rename_i valid
    simp only [Bool.or_eq_true, not_or, Bool.not_eq_true', Bool.not_eq_false,
      validVersionedAmdKernelCodeV2, Bool.and_eq_true, decide_eq_true_eq] at valid
    have small := valid.2.2
    obtain ⟨rfl, -⟩ := Prod.mk.inj (Except.ok.inj found)
    refine ⟨fun newer => ?_, fun _ _ => ⟨rfl, rfl, rfl, ?_, rfl, rfl⟩⟩
    · rcases newer with declared | plain
      · exact absurd declared undeclared
      · exact absurd older plain
    · rw [UInt64.le_iff_toNat_le] at small
      exact (UInt64.toNat_toUInt32 _).trans (Nat.mod_eq_of_lt (small.trans_lt (by decide)))
  rename_i header
  -- neither, so both remaining branches decode the 64 bytes
  have plain := mt olderForm_iff.mpr header
  refine ⟨fun _ => ?_, fun _ older => absurd older plain⟩
  split at found
  · exact (Prod.mk.inj (Except.ok.inj found)).1.symm
  · exact (Prod.mk.inj (Except.ok.inj found)).1.symm

/-- What is known of a kernel descriptor that passes. -/
structure KernelLaw (layouts : Layouts) (resident : ResidentKernelView) (memory : SparseBytes)
    (metadata : Option CodeObjectMetadata) (kernel : ResidentKernel) : Prop where
  descriptor : Contained resident resident.descriptorVa.toNat KernelDescriptorBytes
  code : CodeRead layouts resident memory metadata kernel.descriptor
  entry : ∃ rawEntry, EntryLaw resident kernel.descriptor rawEntry kernel.machineCodeVa
  preload : kernel.descriptor.kernargSize ≠ 0 →
    preloadEnd kernel.descriptor ≤ kernel.descriptor.kernargSize.toUInt64 / 4

/-- A kernel descriptor that passes lies in the allocation, and so does its entry. -/
theorem validateDescriptor_spec
    (passed : validateDescriptor layouts resident memory metadata env = .ok kernel) :
    KernelLaw layouts resident memory metadata kernel := by
  unfold validateDescriptor at passed
  obtain ⟨_, first, passed⟩ := bind_eq_ok.mp passed
  have inside : Contained resident resident.descriptorVa.toNat KernelDescriptorBytes := by
    unfold admissionMetadataValid at first
    split at first
    · cases first
    rename_i valid
    simp only [not_or, Bool.not_eq_true', Bool.not_eq_false] at valid
    exact contained_of_resident valid.2.2.2
  split at passed
  · cases passed
  obtain ⟨⟨code, abi⟩, read, passed⟩ := bind_eq_ok.mp passed
  dsimp only at passed
  split at passed
  · cases passed
  rename_i supported
  split at passed
  · cases passed
  rename_i agrees
  split at passed
  · cases passed
  rename_i range
  obtain ⟨entry, found, passed⟩ := bind_eq_ok.mp passed
  obtain rfl := Except.ok.inj passed
  obtain ⟨newer, older⟩ := readDescriptor_spec read
  simp only [not_or, Bool.not_eq_true] at supported
  refine ⟨inside, ⟨newer, older, fun declared member => ?_, supported.2⟩,
    machineCodeVa_spec found, fun sized => ?_⟩
  · obtain rfl := Option.mem_def.mp member
    simp only [Option.any_some, Bool.not_eq_true', Bool.not_eq_false,
      metadataMatches, Bool.and_eq_true, decide_eq_true_eq] at agrees
    exact agrees.1.1.1.1
  · rw [not_or, not_and] at range
    exact UInt64.not_lt.mp fun above => range.2 ⟨sized, above⟩

end Addresses

section Queues

variable {queue : HostNativeQueueCore} {fetched : FetchedPacket} {layouts : Layouts}
  {memory : SparseBytes} {env : SubmissionEnv} {bound : Option UInt64} {base : UInt64}
  {mqd : AMDQueue} {packet : DispatchPacket}

theorem pending_of_owned (owned : queue.ownsPending fetched = true) :
    queue.pending = some fetched := by
  unfold ownsPending at owned
  rw [Bool.and_eq_true] at owned
  have owned := owned.2
  split at owned
  · cases owned
  rename_i pending found
  rw [found]
  simp only [Bool.and_eq_true, decide_eq_true_eq, beq_iff_eq] at owned
  obtain ⟨⟨⟨⟨⟨⟨⟨-, ticket⟩, index⟩, va⟩, id⟩, generation⟩, registered⟩, bytes⟩ := owned
  cases pending
  cases fetched
  cases ticket
  cases index
  cases va
  cases id
  cases generation
  cases registered
  cases bytes
  rfl

/-- A packet that the queue waits for is accepted, and nothing else of the queue changes. -/
theorem acceptDispatch_of_pending (sound : queue.Sound) (waited : queue.pending = some fetched)
    (due : fetched.queueIndex = queue.dispatchIdx) :
    queue.acceptDispatch fetched.ticket =
      { returned := true
        after := { queue.cleared with
          dispatchIdx := queue.dispatchIdx + 1
          pending := none } } := by
  have live : queue.registered = true := by
    rw [← Bool.not_eq_false]
    intro absent
    rw [(sound.idle absent).2] at waited
    cases waited
  -- an unregistered queue waits for nothing, so this one has a ring
  have window := (sound.ring live).window
  have taken := (window.taken fetched.queueIndex.toNat (by rw [waited]; rfl)).2
  have below : queue.dispatchIdx < queue.writeIdx := by
    rw [UInt64.lt_iff_toNat_lt]
    have fetchLe := window.fetchLe
    omega
  exact acceptDispatch_of_due live waited due below

/-- A packet that is owned is the one that the queue waits for. -/
theorem waited_of_owned (owned : fetchedPacketOwned queue fetched = true) :
    queue.pending = some fetched ∧ fetched.queueIndex = queue.dispatchIdx := by
  unfold fetchedPacketOwned at owned
  simp only [Bool.and_eq_true, decide_eq_true_eq] at owned
  obtain ⟨⟨⟨⟨⟨waits, -⟩, -⟩, -⟩, due⟩, -⟩ := owned
  exact ⟨pending_of_owned waits, due⟩

/-- A queue descriptor is what stands in memory, and the identity in it is the one that has been
bound, if there is one. -/
theorem readMqd_spec (found : readMqd layouts memory env bound queue = .ok (base, mqd)) :
    QueueRead layouts memory queue base mqd ∧ (bound = none ∨ bound = some mqd.id) := by
  unfold readMqd at found
  dsimp only at found
  split at found
  · cases found
  split at found
  · cases found
  split at found
  · cases found
  split at found
  · cases found
  rename_i offset
  split at found
  · cases found
  split at found
  · cases found
  rename_i geometry
  split at found
  · cases found
  rename_i same
  obtain ⟨rfl, rfl⟩ := Prod.mk.inj (Except.ok.inj found)
  simp only [not_or, not_not, gt_iff_lt, UInt64.not_lt] at offset geometry
  obtain ⟨exact, above⟩ := offset
  obtain ⟨-, ring, slots, consumed, produced⟩ := geometry
  -- the distance read beside the read index is the only one that passes, 128
  have dword : load32 (loadBytes memory (queue.queueConfig.hostReadIndexVa + 8) 4) 0 = 128 :=
    UInt32.toNat_inj.mp ((UInt32.toNat_toUInt64 _).symm.trans (congrArg UInt64.toNat exact))
  rw [exact] at above ring slots consumed produced ⊢
  refine ⟨⟨dword, ?_, rfl, ring, slots, consumed, produced⟩, ?_⟩
  · rw [UInt64.le_iff_toNat_le] at above
    rw [toNat_sub_exact above]
    exact Nat.sub_add_cancel above
  · cases bound with
    | none => exact Or.inl rfl
    | some bound =>
      rw [Option.any_some, decide_eq_true_eq, not_not, exact] at same
      exact Or.inr (congrArg some same.symm)

/-- Some bytes of what has been loaded are what is loaded from further on. -/
theorem bytesAt_loadBytes {address : UInt64} {offset count total : ℕ}
    (inside : offset + count ≤ total) :
    bytesAt (loadBytes memory address total) offset count =
      loadBytes memory (address + UInt64.ofNat offset) count := by
  refine List.ext_getElem? fun index => ?_
  simp only [bytesAt, loadBytes, touched, List.map_map, List.getElem?_take, List.getElem?_drop,
    List.getElem?_map]
  by_cases below : index < count
  · rw [if_pos below, List.getElem?_range (by omega), List.getElem?_range below]
    simp [UInt64.ofNat_add, UInt64.add_assoc]
  · rw [if_neg below, List.getElem?_eq_none (by simpa using Nat.not_lt.mp below)]
    rfl

theorem toNat_preloadEnd (code : AMDKernelCode) : (preloadEnd code).toNat =
    code.kernargPreloadSpecOffset.toNat + code.kernargPreloadSpecLength.toNat := by
  have first := code.kernargPreloadSpecOffset.toNat_lt
  have second := code.kernargPreloadSpecLength.toNat_lt
  rw [preloadEnd, toNat_add_exact, UInt32.toNat_toUInt64, UInt32.toNat_toUInt64]
  rw [UInt32.toNat_toUInt64, UInt32.toNat_toUInt64]
  omega

/-- The arguments that are preloaded stand in memory behind the address of the arguments. -/
theorem readKernarg_spec {code : AMDKernelCode} {kernarg : List UInt8}
    (read : readKernarg memory env packet code = .ok kernarg)
    (range : code.kernargSize ≠ 0 → preloadEnd code ≤ code.kernargSize.toUInt64 / 4) :
    bytesAt kernarg (code.kernargPreloadSpecOffset.toNat * 4)
        (code.kernargPreloadSpecLength.toNat * 4) =
      loadBytes memory
        (packet.kernargAddress + UInt64.ofNat (code.kernargPreloadSpecOffset.toNat * 4))
        (code.kernargPreloadSpecLength.toNat * 4) := by
  have ends := toNat_preloadEnd code
  have first := code.kernargPreloadSpecOffset.toNat_lt
  have second := code.kernargPreloadSpecLength.toNat_lt
  have dwords : (preloadEnd code * 4).toNat = (code.kernargPreloadSpecOffset.toNat +
      code.kernargPreloadSpecLength.toNat) * 4 := by
    rw [toNat_mul_exact, ends]
    · rfl
    · rw [ends]
      exact (Nat.mul_lt_mul_of_pos_right (by omega : _ < 2 ^ 33) (by decide)).trans (by decide)
  -- what is read reaches the end of the preloaded dwords, whether or not a size is declared
  have covers : (code.kernargPreloadSpecOffset.toNat + code.kernargPreloadSpecLength.toNat) * 4 ≤
      (if code.kernargSize ≠ 0 then code.kernargSize.toUInt64 else preloadEnd code * 4).toNat := by
    split
    · rename_i sized
      have within := UInt64.le_iff_toNat_le.mp (range sized)
      rw [ends, UInt64.toNat_div] at within
      exact (Nat.le_div_iff_mul_le (by decide)).mp within
    · exact dwords.ge
  unfold readKernarg at read
  dsimp only at read
  generalize (if code.kernargSize ≠ 0 then code.kernargSize.toUInt64 else preloadEnd code * 4)
    = bytes at read covers
  split at read
  · cases read
  split at read
  · split at read
    · cases read
    split at read
    · cases read
    split at read
    · cases read
    obtain rfl := Except.ok.inj read
    exact bytesAt_loadBytes (by omega)
  · rename_i nothing
    split at read
    · cases read
    obtain rfl := Except.ok.inj read
    rw [not_not] at nothing
    rw [nothing, UInt64.toNat_zero] at covers
    have none : code.kernargPreloadSpecLength.toNat * 4 = 0 := by omega
    rw [none]
    rfl

/-- A packet that needs scratch memory has enough of it in every lane. -/
theorem scratch_of_available (passed : scratchAvailable packet mqd = .ok ())
    (needs : packet.privateSegmentSize ≠ 0) :
    mqd.scratchBackingMemoryLocation ≠ 0 ∧
      packet.privateSegmentSize.toNat ≤ mqd.scratchWorkitemByteSize.toNat := by
  unfold scratchAvailable at passed
  split at passed
  · rename_i ready
    simp only [scratchReady, Bool.or_eq_true, Bool.and_eq_true, decide_eq_true_eq] at ready
    rcases ready with none | ⟨⟨⟨backing, lane⟩, -⟩, -⟩
    · have zero := congrArg UInt64.toNat none
      rw [UInt32.toNat_toUInt64] at zero
      exact absurd (UInt32.toNat_inj.mp zero) needs
    · rw [ge_iff_le, UInt64.le_iff_toNat_le, UInt32.toNat_toUInt64, UInt32.toNat_toUInt64] at lane
      exact ⟨backing, lane⟩
  split at passed
  · cases passed
  · cases passed

end Queues

section Submissions

variable {layouts : Layouts} {processor : CommandProcessor} {queue : HostNativeQueueCore}
  {submission : Submission} {bound : Option UInt64} {admitted : Admitted} {packet : DispatchPacket}

theorem geometry_of_fields (valid : nativeDispatchPacketFieldsValid packet = true) :
    geometryFitsSignedTaskCounters packet = true := by
  unfold nativeDispatchPacketFieldsValid at valid
  dsimp only at valid
  split at valid
  · cases valid
  rename_i passed
  simp only [not_or, Bool.not_eq_true', Bool.not_eq_false] at passed
  tauto

/-- What is known of a packet that is admitted. -/
structure AdmittedLaw (layouts : Layouts) (bound : Option UInt64) (queue : HostNativeQueueCore)
    (submission : Submission) (admitted : Admitted) : Prop where
  owned : fetchedPacketOwned queue submission.fetched = true
  packet : admitted.packet = dispatchPacket submission.fetched.bytes
  object : admitted.packet.kernelObject = submission.resident.descriptorVa
  law : TaskLaw layouts queue submission (createOwned queue submission admitted)
  bound : bound = none ∨ bound = some admitted.mqd.id

theorem admitSubmission_spec
    (passed : admitSubmission layouts bound queue submission = .ok admitted) :
    AdmittedLaw layouts bound queue submission admitted := by
  unfold admitSubmission at passed
  split at passed
  · cases passed
  split at passed
  · cases passed
  rename_i owned
  rw [Bool.not_eq_true', Bool.not_eq_false] at owned
  dsimp only at passed
  split at passed
  · cases passed
  rename_i fields
  rw [Bool.not_eq_true', Bool.not_eq_false] at fields
  split at passed
  · cases passed
  rename_i object
  obtain ⟨kernel, validated, passed⟩ := bind_eq_ok.mp passed
  obtain ⟨kernarg, read, passed⟩ := bind_eq_ok.mp passed
  obtain ⟨_, _, passed⟩ := bind_eq_ok.mp passed
  obtain ⟨⟨base, mqd⟩, found, passed⟩ := bind_eq_ok.mp passed
  obtain ⟨_, _, passed⟩ := bind_eq_ok.mp passed
  obtain ⟨_, available, passed⟩ := bind_eq_ok.mp passed
  obtain rfl := Except.ok.inj passed
  have law := validateDescriptor_spec validated
  obtain ⟨queueRead, bound⟩ := readMqd_spec found
  obtain ⟨extents, product⟩ := geometryFits_iff.mp (geometry_of_fields fields)
  exact ⟨owned, rfl, not_not.mp object,
    ⟨law.descriptor, law.code, law.entry, extents, product, queueRead,
      readKernarg_spec read law.preload, scratch_of_available available⟩, bound⟩

/-- The law of one submission. -/
theorem submissionLaw (sound : queue.Sound) : SubmissionLaw layouts processor queue submission := by
  have unchanged (rejection : Rejection) :
      Unchanged processor queue (failSubmission processor queue submission.memory rejection) :=
    ⟨rfl, rfl, rfl⟩
  cases admits : admitSubmission layouts processor.boundHsaQueueId queue submission with
  | error rejection =>
    have reply : submitImpl layouts processor queue submission =
        failSubmission processor queue submission.memory rejection := by
      rw [submitImpl, admits]
    refine ⟨by rw [reply]; rfl, fun _ => ?_, fun returned => ?_⟩
    · rw [reply]
      exact unchanged rejection
    · rw [reply] at returned
      cases returned
  | ok admitted =>
    have known := admitSubmission_spec admits
    obtain ⟨waited, due⟩ := waited_of_owned known.owned
    have accepts := acceptDispatch_of_pending sound waited due
    cases allocates : submission.env.entryAllocates with
    | false =>
      have reply : submitImpl layouts processor queue submission =
          failSubmission processor queue submission.memory ⟨"HSAQueueEntry allocation", .None⟩ := by
        rw [submitImpl, admits]
        dsimp only
        rw [allocates]
        rfl
      refine ⟨by rw [reply]; rfl, fun _ => ?_, fun returned => ?_⟩
      · rw [reply]
        exact unchanged _
      · rw [reply] at returned
        cases returned
    | true =>
      have reply : submitImpl layouts processor queue submission =
          { returned := true
            processor := {
              boundHsaQueueId := some (processor.boundHsaQueueId.getD admitted.mqd.id) }
            queue := { queue.cleared with
              dispatchIdx := queue.dispatchIdx + 1
              pending := none }
            memory := submission.memory
            task := some (createOwned queue submission admitted)
            admission := .Ready } := by
        rw [submitImpl, admits]
        dsimp only
        rw [allocates, accepts]
        rfl
      refine ⟨by rw [reply], fun refused => ?_, fun _ => ⟨createOwned queue submission admitted, ?_⟩⟩
      · rw [reply] at refused
        cases refused
      · rw [reply]
        refine ⟨waited, due, rfl, rfl, known.packet, rfl, known.object, known.law, ?_, known.bound⟩
        rcases known.bound with none | some
        · rw [none]
          rfl
        · rw [some]
          rfl

end Submissions

section Runs

variable {layouts : Layouts} {station : Station} {id : UInt64}

/-- A submission to a sound queue leaves it sound. -/
theorem sound_submission {processor : CommandProcessor} {queue : HostNativeQueueCore}
    {submission : Submission} (sound : queue.Sound) :
    (submitImpl layouts processor queue submission).queue.Sound := by
  have law := @submissionLaw layouts processor queue submission sound
  cases returned : (submitImpl layouts processor queue submission).returned with
  | false =>
    rw [(law.refused returned).kept]
    exact sound
  | true =>
    obtain ⟨task, accepted⟩ := law.accepted returned
    have step := sound_step queue (.acceptDispatch submission.fetched.ticket) sound
    have accepts := acceptDispatch_of_pending sound accepted.waited accepted.due
    rw [HostNativeQueueCore.step, HostNativeQueueCore.run, accepts] at step
    rw [accepted.moved]
    exact step

/-- An identity that is bound stays bound, whatever is submitted. -/
theorem submitImpl_bound {processor : CommandProcessor} (queue : HostNativeQueueCore)
    (submission : Submission) (bound : processor.boundHsaQueueId = some id) :
    (submitImpl layouts processor queue submission).processor.boundHsaQueueId = some id := by
  unfold submitImpl
  split
  · exact bound
  split
  · exact bound
  dsimp only
  split
  · exact bound
  · dsimp only
    rw [bound]
    rfl

/-- Every queue of a station is sound. -/
def SoundStation (station : Station) : Prop := ∀ index, (station.queues index).Sound

theorem sound_startStation (contexts : ℕ → SparseBytes) : SoundStation (startStation contexts) :=
  fun index => sound_boot (contexts index)

theorem sound_update {queues : ℕ → HostNativeQueueCore} {queue : HostNativeQueueCore}
    (sound : ∀ index, (queues index).Sound) (index : ℕ) (also : queue.Sound) (other : ℕ) :
    (Function.update queues index queue other).Sound := by
  by_cases same : other = index
  · rw [same, Function.update_self]
    exact also
  · rw [Function.update_of_ne same]
    exact sound other

theorem sound_stationStep (station : Station) (input : StationInput) (sound : SoundStation station) :
    SoundStation (stationStep layouts station input) := by
  cases input with
  | call index call => exact sound_update sound index (sound_step _ call (sound index))
  | submit index context submission =>
    exact sound_update sound index (sound_submission ((sound index).withContext context))

theorem bound_stationStep (station : Station) (input : StationInput)
    (bound : station.processor.boundHsaQueueId = some id) :
    (stationStep layouts station input).processor.boundHsaQueueId = some id := by
  cases input with
  | call index call => exact bound
  | submit index context submission => exact submitImpl_bound _ submission bound

/-- The law of submissions, in every state that calls and submissions reach. -/
theorem stationLaw_of_reachable {contexts : ℕ → SparseBytes}
    (reach : Reachable (stationStep layouts) (startStation contexts) station) :
    StationLaw layouts station := by
  have sound := reach.invariant (stationStep layouts) sound_stationStep (sound_startStation contexts)
  constructor
  · intro index context submission
    exact submissionLaw ((sound index).withContext context)
  · intro id bound inputs
    exact invariant_runFrom (stationStep layouts) _ bound_stationStep bound inputs

/-- The layouts that the runtime declares. -/
def runtimeLayouts : Layouts where
  kernelCode bytes :=
    { groupSegmentFixedSize := load32 bytes 0
      privateSegmentFixedSize := load32 bytes 4
      kernargSize := load32 bytes 8
      kernelCodeEntryByteOffset := (load64 bytes 16).toInt64
      kernargPreloadSpecLength := (load16 bytes 58 &&& 0x7f).toUInt32
      kernargPreloadSpecOffset := (load16 bytes 58 >>> 7).toUInt32
      wgpMode := load32 bytes 48 >>> 29 &&& 1 = 1
      memOrdered := load32 bytes 48 >>> 30 &&& 1 = 1
      fwdProgress := load32 bytes 48 >>> 31 = 1 }
  queue bytes :=
    { type := load32 bytes 0
      baseAddress := load64 bytes 8
      size := load32 bytes 24
      id := load64 bytes 32
      writeDispatchId := load64 bytes 56
      readDispatchId := load64 bytes 128
      computeTmpringSizeWavesize := load32 bytes 140 >>> 12 &&& 0x1fff
      scratchBackingMemoryLocation := load64 bytes 160
      scratchWorkitemByteSize := load32 bytes 176
      queueInactiveSignal := load64 bytes 192 }

/-- One workgroup of 64 that needs four bytes of scratch memory in every lane. -/
def scratchPacket (index : ℕ) : UInt8 :=
  (([(0, 2), (2, 1), (4, 64), (6, 1), (8, 1), (12, 64), (16, 1), (20, 1), (24, 4), (33, 0x40)] :
    List (ℕ × UInt8)).lookup index).getD 0

/-- The descriptors of the queue and of the kernel. -/
def scratchMemory : SparseBytes := fun address =>
  (([(0x2f89, 0x10), (0x2f98, 1), (0x2fa0, 7), (0x2fb8, 1), (0x3008, 128), (0x300d, 0x10),
    (0x3021, 0x50), (0x3030, 4), (0x4011, 1)] : List (UInt64 × UInt8)).lookup address).getD 0

def scratchSubmission : Submission where
  fetched :=
    { ticket := 1
      queueIndex := 0
      hostPacketVa := 0x1000
      activeQueueId := overlappingConfig.activeQueueId
      queueGeneration := overlappingConfig.generation
      registeredIndex := overlappingConfig.registeredIndex
      bytes := (List.range PacketBytes).map scratchPacket }
  resident :=
    { allocation := ⟨1, 1⟩
      allocationBaseVa := 0x4000
      allocationBytes := 0x1000
      descriptorVa := 0x4000
      gfxTarget := 950 }
  memory := scratchMemory
  dispatchId := 1

/-- The packet is published, fetched and submitted. -/
def scratchRun : List StationInput :=
  [.call 0 (.registerQueue { overlappingConfig with hostReadIndexVa := 0x3000 } {}),
    .call 0 (.publishAt 0 0x1000 (some scratchPacket) 64 true), .call 0 (.ring 1),
    .call 0 (.fetch true), .submit 0 (fun _ => 0) scratchSubmission]

theorem stationLaw_scratchRun :
    (runFrom (stationStep runtimeLayouts) (startStation fun _ _ => 0)
        scratchRun).processor.boundHsaQueueId = some 7 ∧
      loadWord scratchMemory 0x2fa0 = 7 ∧
      StationLaw runtimeLayouts
        (runFrom (stationStep runtimeLayouts) (startStation fun _ _ => 0) scratchRun) :=
  ⟨by decide +kernel, by decide +kernel, stationLaw_of_reachable ⟨scratchRun, rfl⟩⟩

end Runs

end GemSim.Native
