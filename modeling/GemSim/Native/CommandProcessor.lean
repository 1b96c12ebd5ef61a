import GemSim.Domain.CodeObject
import GemSim.Native.AqlControl

/-!
# The host-native command processor

A packet that has been fetched is admitted once the kernel descriptor that it names lies in
resident memory, its arguments can be read, and the queue's own descriptor agrees with the queue.
Only then a task is made of it and the packet is accepted.

What the bytes of a kernel descriptor and of a queue descriptor mean is declared outside of the
program and is a parameter here. Whether an access fails is an argument of the call.

## Main definitions

* `nativeDispatchPacketFieldsValid` — the packet itself, `geometryFitsSignedTaskCounters` its extents
* `validateDescriptor` — the kernel descriptor and its entry
* `readMqd`, `readInactiveSignal` — the descriptor of the queue and its signal
* `submitImpl` — one submission
-/

namespace GemSim.Native

open GemSim.Domain GemSim.Lib

section Packets

def MaximumWorkgroupDimension : ℕ := 1024

/-- The greatest value of a signed counter. -/
def INT_MAX : UInt64 := 0x7fffffff

structure DispatchPacket where
  header : UInt16
  setup : UInt16
  workgroupSizeX : UInt16
  workgroupSizeY : UInt16
  workgroupSizeZ : UInt16
  reserved0 : UInt16
  gridSizeX : UInt32
  gridSizeY : UInt32
  gridSizeZ : UInt32
  privateSegmentSize : UInt32
  groupSegmentSize : UInt32
  kernelObject : UInt64
  kernargAddress : UInt64
  reserved1 : UInt64
  completionSignal : UInt64
  deriving DecidableEq

def dispatchPacket (bytes : List UInt8) : DispatchPacket where
  header := load16 bytes 0
  setup := load16 bytes 2
  workgroupSizeX := load16 bytes 4
  workgroupSizeY := load16 bytes 6
  workgroupSizeZ := load16 bytes 8
  reserved0 := load16 bytes 10
  gridSizeX := load32 bytes 12
  gridSizeY := load32 bytes 16
  gridSizeZ := load32 bytes 20
  privateSegmentSize := load32 bytes 24
  groupSegmentSize := load32 bytes 28
  kernelObject := load64 bytes 32
  kernargAddress := load64 bytes 40
  reserved1 := load64 bytes 48
  completionSignal := load64 bytes 56

/-- The size of the grid and of a workgroup in every dimension. -/
def DispatchPacket.extents (packet : DispatchPacket) : List (UInt32 × UInt32) :=
  [(packet.gridSizeX, packet.workgroupSizeX.toUInt32),
    (packet.gridSizeY, packet.workgroupSizeY.toUInt32),
    (packet.gridSizeZ, packet.workgroupSizeZ.toUInt32)]

/-- The number of workgroups so far, times that of one more dimension. -/
def geometryStep (totalWorkgroups : UInt64) (extent : UInt32 × UInt32) : Option UInt64 :=
  if extent.1 = 0 ∨ extent.2 = 0 then none
  else
    let roundedExtent := extent.1.toUInt64 + extent.2.toUInt64 - 1
    if roundedExtent > INT_MAX then none
    else
      let groups := roundedExtent / extent.2.toUInt64
      if groups > INT_MAX / totalWorkgroups then none else some (totalWorkgroups * groups)

def geometryFitsSignedTaskCounters (packet : DispatchPacket) : Bool :=
  (packet.extents.foldlM geometryStep 1).isSome

def nativeDispatchPacketFieldsValid (packet : DispatchPacket) : Bool :=
  let packetType := packet.header &&& 0xff
  let acquireScope := packet.header >>> 9 &&& 0x3
  let releaseScope := packet.header >>> 11 &&& 0x3
  let dimensions := packet.setup
  let workgroupSize := packet.workgroupSizeX.toUInt64 * packet.workgroupSizeY.toUInt64 *
    packet.workgroupSizeZ.toUInt64
  if packetType ≠ 2 ∨ acquireScope > 2 ∨ releaseScope > 2 ∨ packet.header &&& 0xe000 ≠ 0 ∨
      dimensions < 1 ∨ dimensions > 3 ∨ packet.reserved0 ≠ 0 ∨ packet.reserved1 ≠ 0 ∨
      packet.workgroupSizeX = 0 ∨ packet.workgroupSizeY = 0 ∨ packet.workgroupSizeZ = 0 ∨
      packet.gridSizeX = 0 ∨ packet.gridSizeY = 0 ∨ packet.gridSizeZ = 0 ∨
      packet.gridSizeX < packet.workgroupSizeX.toUInt32 ∨
      packet.gridSizeY < packet.workgroupSizeY.toUInt32 ∨
      packet.gridSizeZ < packet.workgroupSizeZ.toUInt32 ∨
      packet.workgroupSizeX.toNat > MaximumWorkgroupDimension ∨
      packet.workgroupSizeY.toNat > MaximumWorkgroupDimension ∨
      packet.workgroupSizeZ.toNat > MaximumWorkgroupDimension ∨
      workgroupSize.toNat > MaximumWorkgroupDimension ∨
      !geometryFitsSignedTaskCounters packet ∨
      (dimensions < 2 ∧ (packet.workgroupSizeY ≠ 1 ∨ packet.gridSizeY ≠ 1)) ∨
      (dimensions < 3 ∧ (packet.workgroupSizeZ ≠ 1 ∨ packet.gridSizeZ ≠ 1)) ∨
      packet.kernelObject = 0 then
    false
  else decide (packet.kernelObject &&& 63 = 0 ∧ packet.kernargAddress &&& 7 = 0)

end Packets

section Declared

/-- What the command processor reads of a kernel descriptor. -/
structure AMDKernelCode where
  groupSegmentFixedSize : UInt32 := 0
  privateSegmentFixedSize : UInt32 := 0
  kernargSize : UInt32 := 0
  kernelCodeEntryByteOffset : Int64 := 0
  kernargPreloadSpecLength : UInt32 := 0
  kernargPreloadSpecOffset : UInt32 := 0
  wgpMode : Bool := false
  memOrdered : Bool := false
  fwdProgress : Bool := false
  deriving DecidableEq

/-- What the command processor reads of a queue descriptor. -/
structure AMDQueue where
  type : UInt32 := 0
  baseAddress : UInt64 := 0
  size : UInt32 := 0
  id : UInt64 := 0
  writeDispatchId : UInt64 := 0
  readDispatchId : UInt64 := 0
  computeTmpringSizeWavesize : UInt32 := 0
  scratchBackingMemoryLocation : UInt64 := 0
  scratchWorkitemByteSize : UInt32 := 0
  queueInactiveSignal : UInt64 := 0
  deriving DecidableEq

/-- What the bytes of the two descriptors mean. -/
structure Layouts where
  kernelCode : List UInt8 → AMDKernelCode
  queue : List UInt8 → AMDQueue

def HSA_QUEUE_TYPE_MULTI : UInt32 := 0
def QueueBytes : ℕ := 256
def ReadDispatchIdOffset : UInt64 := 128
def SignalObjectBytes : ℕ := 64

/-- The instructions that load preloaded arguments, before the kernel proper. -/
def KernargPreloadPktSize : UInt64 := 256

end Declared

section Descriptors

inductive DescriptorAbi where
  | None
  | CommonV2V3
  | CodeObjectV2
  | CodeObjectV3
  deriving DecidableEq

inductive Admission where
  | None
  | Ready
  | ScratchRequired
  | QueueInactive
  deriving DecidableEq

/-- A kernel descriptor that is already in memory, and the allocation that it is in. -/
structure ResidentKernelView where
  allocation : AllocationHandle := {}
  allocationBaseVa : UInt64 := 0
  allocationBytes : UInt64 := 0
  descriptorVa : UInt64 := 0
  expectedCodeVa : UInt64 := 0
  expectedEntryVa : UInt64 := 0
  gfxTarget : UInt32 := 0
  diagnosticName : String := ""

structure LegacyAmdKernelCodeV2Prefix where
  versionMajor : UInt32
  versionMinor : UInt32
  machineKind : UInt16
  machineVersionMajor : UInt16
  machineVersionMinor : UInt16
  machineVersionStepping : UInt16
  kernelCodeEntryByteOffset : Int64
  privateSegmentBytes : UInt32
  groupSegmentBytes : UInt32
  gdsSegmentBytes : UInt32
  kernargSegmentBytes : UInt64

def LegacyPrefixBytes : ℕ := 80
def LegacyAmdKernelCodeV2Bytes : UInt64 := 256

def legacyAmdKernelCodeV2 (bytes : List UInt8) : LegacyAmdKernelCodeV2Prefix where
  versionMajor := load32 bytes 0
  versionMinor := load32 bytes 4
  machineKind := load16 bytes 8
  machineVersionMajor := load16 bytes 10
  machineVersionMinor := load16 bytes 12
  machineVersionStepping := load16 bytes 14
  kernelCodeEntryByteOffset := (load64 bytes 16).toInt64
  privateSegmentBytes := load32 bytes 60
  groupSegmentBytes := load32 bytes 64
  gdsSegmentBytes := load32 bytes 68
  kernargSegmentBytes := load64 bytes 72

def commonZeroHeader (legacy : LegacyAmdKernelCodeV2Prefix) : Bool :=
  legacy.versionMajor = 0 && legacy.versionMinor = 0 && legacy.machineKind = 0 &&
    legacy.machineVersionMajor = 0 && legacy.machineVersionMinor = 0 &&
    legacy.machineVersionStepping = 0 && legacy.kernelCodeEntryByteOffset = 256

def versionedAmdKernelCodeV2Header (legacy : LegacyAmdKernelCodeV2Prefix) : Bool :=
  legacy.versionMajor = 1 && legacy.versionMinor ≤ 2 && legacy.machineKind = 1 &&
    legacy.machineVersionMajor = 9 && legacy.machineVersionMinor = 5 &&
    legacy.machineVersionStepping = 0

def validVersionedAmdKernelCodeV2 (legacy : LegacyAmdKernelCodeV2Prefix) : Bool :=
  versionedAmdKernelCodeV2Header legacy && legacy.kernelCodeEntryByteOffset ≥ 256 &&
    legacy.kernelCodeEntryByteOffset &&& 255 = 0 && legacy.gdsSegmentBytes = 0 &&
    legacy.kernargSegmentBytes ≤ 0xffffffff

/-- The sum of an address and a signed offset, if it is an address. -/
def checkedEntryAddress (descriptor : UInt64) (offset : Int64) : Option UInt64 :=
  if offset ≥ 0 then
    let positive := offset.toUInt64
    if descriptor > u64Max - positive then none else some (descriptor + positive)
  else
    -- the least offset has no opposite
    let magnitude := (-(offset + 1)).toUInt64 + 1
    if descriptor < magnitude then none else some (descriptor - magnitude)

def residentRangeContains (resident : ResidentKernelView) (address bytes : UInt64) : Bool :=
  if resident.allocation.id = 0 ∨ resident.allocation.generation = 0 ∨
      resident.allocationBaseVa = 0 ∨ resident.allocationBytes = 0 ∨ bytes = 0 ∨
      resident.allocationBaseVa > u64Max - resident.allocationBytes then
    false
  else
    let residentEnd := resident.allocationBaseVa + resident.allocationBytes
    decide (address ≥ resident.allocationBaseVa ∧ address < residentEnd ∧
      bytes ≤ residentEnd - address)

/-- How the accesses and the allocations of a submission end. -/
structure SubmissionEnv where
  descriptorReads : Bool := true
  legacyReads : Bool := true
  kernargAllocates : Bool := true
  kernargReads : Bool := true
  signalReads : Bool := true
  offsetReads : Bool := true
  mqdReads : Bool := true
  inactiveReads : Bool := true
  entryAllocates : Bool := true

/-- Why a packet is not admitted. -/
structure Rejection where
  reason : String
  admission : Admission := .None

def reject {α : Type} (reason : String) : Except Rejection α := .error { reason := reason }

variable (layouts : Layouts) (resident : ResidentKernelView) (memory : SparseBytes)
  (metadata : Option CodeObjectMetadata) (env : SubmissionEnv)

/-- The bytes of the kernel descriptor. -/
def descriptorBytes : List UInt8 := loadBytes memory resident.descriptorVa KernelDescriptorBytes

/-- The kernel descriptor, in the older form if its header says so and nothing else is expected. -/
def readDescriptor : Except Rejection (AMDKernelCode × DescriptorAbi) :=
  let descriptor := layouts.kernelCode (descriptorBytes resident memory)
  if metadata.isSome then .ok (descriptor, .CodeObjectV3)
  else
    -- only the first 64 bytes have been read, the rest of the prefix is zero
    let legacy := legacyAmdKernelCodeV2 (descriptorBytes resident memory)
    if versionedAmdKernelCodeV2Header legacy then
      let legacy := legacyAmdKernelCodeV2 (loadBytes memory resident.descriptorVa LegacyPrefixBytes)
      if !residentRangeContains resident resident.descriptorVa LegacyAmdKernelCodeV2Bytes ||
          !env.legacyReads || !validVersionedAmdKernelCodeV2 legacy then
        reject "unsupported code-object V2 descriptor"
      else
        .ok ({ descriptor with
          groupSegmentFixedSize := legacy.groupSegmentBytes
          privateSegmentFixedSize := legacy.privateSegmentBytes
          kernargSize := legacy.kernargSegmentBytes.toUInt32
          kernelCodeEntryByteOffset := legacy.kernelCodeEntryByteOffset
          kernargPreloadSpecLength := 0
          kernargPreloadSpecOffset := 0 }, .CodeObjectV2)
    else if descriptor.kernargPreloadSpecLength = 0 ∧ descriptor.kernargPreloadSpecOffset = 0 ∧
        commonZeroHeader legacy then
      .ok (descriptor, .CommonV2V3)
    else .ok (descriptor, .CodeObjectV3)

/-- The descriptor is the one that the code object declares. -/
def metadataMatches (descriptor : AMDKernelCode) (metadata : CodeObjectMetadata) : Bool :=
  descriptorBytes resident memory = metadata.descriptor.toList &&
    descriptor.kernargSize = metadata.kernargSize &&
    descriptor.groupSegmentFixedSize = metadata.groupSegmentBytes &&
    descriptor.privateSegmentFixedSize = metadata.privateSegmentBytes &&
    descriptor.kernelCodeEntryByteOffset = metadata.kernelEntryOffset

def expectedMappedEntry : Bool := resident.expectedCodeVa ≠ 0 || resident.expectedEntryVa ≠ 0

/-- The first checks, before anything is read. -/
def admissionMetadataValid : Except Rejection Unit :=
  if decide (resident.expectedCodeVa = 0) ≠ decide (resident.expectedEntryVa = 0) ∨
      resident.descriptorVa &&& 63 ≠ 0 ∨ resident.gfxTarget ≠ 950 ∨
      !residentRangeContains resident resident.descriptorVa (UInt64.ofNat KernelDescriptorBytes) then
    reject "invalid resident-kernel admission metadata"
  else if metadata.any fun metadata =>
      !expectedMappedEntry resident || metadata.kernel.name.isEmpty ||
        metadata.gfxTarget ≠ resident.gfxTarget || metadata.relocationCount ≠ 0 then
    reject "invalid code-object admission metadata"
  else .ok ()

/-- The end of the preloaded arguments, in dwords. -/
def preloadEnd (descriptor : AMDKernelCode) : UInt64 :=
  descriptor.kernargPreloadSpecOffset.toUInt64 + descriptor.kernargPreloadSpecLength.toUInt64

/-- The first instruction of the kernel, behind those that preload its arguments. -/
def effectiveEntry (descriptor : AMDKernelCode) (rawEntry : UInt64) : Option UInt64 :=
  if descriptor.kernargPreloadSpecLength ≠ 0 then
    if rawEntry > u64Max - KernargPreloadPktSize then none
    else some (rawEntry + KernargPreloadPktSize)
  else some rawEntry

/-- The address of the first instruction of a descriptor that has been read. -/
def machineCodeVa (descriptor : AMDKernelCode) (abi : DescriptorAbi) : Except Rejection UInt64 :=
  match checkedEntryAddress resident.descriptorVa descriptor.kernelCodeEntryByteOffset with
  | none => reject "descriptor entry relation"
  | some rawEntry =>
    match effectiveEntry descriptor rawEntry with
    | none => reject "descriptor preload entry overflow"
    | some effective =>
      if !residentRangeContains resident rawEntry 1 ∨
          !residentRangeContains resident effective 1 then
        reject "descriptor entry residency"
      else if abi = .CodeObjectV2 ∧ rawEntry &&& 255 ≠ 0 then
        reject "code-object V2 entry alignment"
      else if expectedMappedEntry resident ∧
          (rawEntry ≠ resident.expectedCodeVa ∨ effective ≠ resident.expectedEntryVa) then
        reject "descriptor effective entry relation"
      else .ok effective

/-- A kernel descriptor that has passed, and the first instruction of its kernel. -/
structure ResidentKernel where
  descriptor : AMDKernelCode
  abi : DescriptorAbi
  machineCodeVa : UInt64

def validateDescriptor : Except Rejection ResidentKernel := do
  admissionMetadataValid resident metadata
  if !env.descriptorReads then reject "descriptor functional read"
  else
    let (descriptor, abi) ← readDescriptor layouts resident memory metadata env
    if descriptor.kernargPreloadSpecLength.toNat > MaximumDescriptorPreloadDwords ∨
        descriptor.wgpMode ∨ descriptor.memOrdered ∨ descriptor.fwdProgress then
      reject "unsupported resident kernel descriptor"
    else if metadata.any fun metadata => !metadataMatches resident memory descriptor metadata then
      reject "descriptor metadata mismatch"
    else if (descriptor.kernargPreloadSpecLength = 0 ∧ descriptor.kernargPreloadSpecOffset ≠ 0) ∨
        (descriptor.kernargSize ≠ 0 ∧
          preloadEnd descriptor > descriptor.kernargSize.toUInt64 / 4) then
      reject "descriptor preload range"
    else
      let entry ← machineCodeVa resident descriptor abi
      return ⟨descriptor, abi, entry⟩

end Descriptors

section Queues

variable (layouts : Layouts) (memory : SparseBytes) (env : SubmissionEnv)

/-- The kernel arguments. Without any, an address that is given is probed. -/
def readKernarg (packet : DispatchPacket) (descriptor : AMDKernelCode) :
    Except Rejection (List UInt8) :=
  let requiredPreloadBytes := preloadEnd descriptor * 4
  let kernargReadBytes := if descriptor.kernargSize ≠ 0 then descriptor.kernargSize.toUInt64
    else requiredPreloadBytes
  if kernargReadBytes > MaximumTransferBytes then reject "kernarg size exceeds transfer limit"
  else if kernargReadBytes ≠ 0 then
    if packet.kernargAddress = 0 then reject "missing kernarg address"
    else if !env.kernargAllocates then reject "kernarg allocation"
    else if !env.kernargReads then reject "kernarg functional read"
    else .ok (loadBytes memory packet.kernargAddress kernargReadBytes.toNat)
  else if packet.kernargAddress ≠ 0 ∧ !env.kernargReads then
    reject "kernarg resident address probe"
  else .ok []

/-- A completion signal can be read, and is not empty. -/
def completionSignalReadable (packet : DispatchPacket) : Except Rejection Unit :=
  if packet.completionSignal ≠ 0 ∧
      (!env.signalReads ∨ loadWord memory packet.completionSignal = 0) then
    reject "completion signal object range read"
  else .ok ()

/-- The descriptor of a queue, which agrees with the queue. The producer may be ahead of what the
queue has observed, and the identity of the queue stays what it was. -/
def readMqd (boundHsaQueueId : Option UInt64) (queueCore : HostNativeQueueCore) :
    Except Rejection (UInt64 × AMDQueue) :=
  let queue := queueCore.queueConfig
  if queue.hostReadIndexVa < 8 then reject "MQD read-index address underflow"
  else if queue.hostReadIndexVa + 8 < queue.hostReadIndexVa then
    reject "MQD offset address overflow"
  else if !env.offsetReads then reject "MQD read-dispatch offset read"
  else
    let readDispatchOffset := load32 (loadBytes memory (queue.hostReadIndexVa + 8) 4) 0
    if readDispatchOffset.toUInt64 ≠ ReadDispatchIdOffset ∨
        readDispatchOffset.toUInt64 > queue.hostReadIndexVa then
      reject "MQD read-dispatch offset mismatch"
    else if !env.mqdReads then reject "MQD functional read"
    else
      let mqdBaseVa := queue.hostReadIndexVa - readDispatchOffset.toUInt64
      let mqd := layouts.queue (loadBytes memory mqdBaseVa QueueBytes)
      if mqd.type ≠ HSA_QUEUE_TYPE_MULTI ∨ mqd.baseAddress ≠ queue.baseVa ∨
          mqd.size.toNat ≠ queue.queueBytes.toNat / PacketBytes ∨
          mqd.readDispatchId > queueCore.readIdx ∨ mqd.writeDispatchId < queueCore.writeIdx then
        reject "MQD queue geometry mismatch"
      else if boundHsaQueueId.any fun bound => mqd.id ≠ bound then
        reject "MQD public queue identity changed"
      else .ok (mqdBaseVa, mqd)

/-- The scratch memory of the queue is enough for the packet. -/
def scratchReady (packet : DispatchPacket) (mqd : AMDQueue) : Bool :=
  let requiredScratchBytes := packet.privateSegmentSize.toUInt64
  let scratchLaneBytes := mqd.scratchWorkitemByteSize.toUInt64
  let scratchWaveBytes := scratchLaneBytes * 64
  let tmpringWaveBytes := mqd.computeTmpringSizeWavesize.toUInt64 * 1024
  requiredScratchBytes = 0 ||
    (mqd.scratchBackingMemoryLocation ≠ 0 && scratchLaneBytes ≥ requiredScratchBytes &&
      mqd.computeTmpringSizeWavesize ≠ 0 && scratchWaveBytes ≤ tmpringWaveBytes)

/-- The signal of a queue, if it has one, says that the queue is active. -/
def inactiveSignalQuiet (mqd : AMDQueue) : Except Rejection Unit :=
  if mqd.queueInactiveSignal = 0 then .ok ()
  else if !env.inactiveReads then reject "queue inactive signal read"
  else
    let signal := loadBytes memory mqd.queueInactiveSignal SignalObjectBytes
    if load64 signal 0 ≠ AMD_SIGNAL_KIND_USER then reject "queue inactive signal kind"
    else if load64 signal 8 ≠ 0 then .error ⟨"queue inactive signal asserted", .QueueInactive⟩
    else .ok ()

def scratchAvailable (packet : DispatchPacket) (mqd : AMDQueue) : Except Rejection Unit :=
  if scratchReady packet mqd then .ok ()
  else if mqd.queueInactiveSignal = 0 then
    reject "missing queue inactive signal for scratch request"
  else .error ⟨"queue scratch allocation required", .ScratchRequired⟩

end Queues

section Submissions

structure CommandProcessor where
  failureReason : String := "none"
  boundHsaQueueId : Option UInt64 := none

/-- The queue entry of an admitted packet, as the command processor fills it. -/
structure OwnedQueueEntry where
  kernelName : String
  queueId : UInt32
  dispatchId : UInt64
  packet : DispatchPacket
  descriptor : AMDKernelCode
  hostPacketVa : UInt64
  codeVa : UInt64
  preloadArgs : List UInt8
  hostAMDQueueAddr : UInt64
  amdQueue : AMDQueue

/-- A submission, and how its accesses end. -/
structure Submission where
  fetched : FetchedPacket
  resident : ResidentKernelView
  memory : SparseBytes
  dispatchId : UInt64
  metadata : Option CodeObjectMetadata := none
  env : SubmissionEnv := {}

structure SubmissionReply where
  returned : Bool
  processor : CommandProcessor
  queue : HostNativeQueueCore
  memory : SparseBytes
  task : Option OwnedQueueEntry := none
  admission : Admission := .None

/-- What has been read of a packet that is admitted. -/
structure Admitted where
  packet : DispatchPacket
  kernel : ResidentKernel
  kernarg : List UInt8
  mqdBaseVa : UInt64
  mqd : AMDQueue

/-- The fetched packet is the one that the queue waits for. -/
def fetchedPacketOwned (queueCore : HostNativeQueueCore) (fetched : FetchedPacket) : Bool :=
  let queue := queueCore.queueConfig
  let depth := queue.queueBytes / UInt32.ofNat PacketBytes
  queueCore.ownsPending fetched && fetched.activeQueueId = queue.activeQueueId &&
    fetched.queueGeneration = queue.generation &&
    fetched.registeredIndex = queue.registeredIndex &&
    fetched.queueIndex = queueCore.dispatchIdx &&
    packetAddress queue.baseVa fetched.queueIndex depth = some fetched.hostPacketVa

def submissionInputValid (queueCore : HostNativeQueueCore) (submission : Submission) : Bool :=
  let fetched := submission.fetched
  fetched.ticket ≠ 0 && fetched.hostPacketVa ≠ 0 && fetched.queueGeneration ≠ 0 &&
    fetched.bytes.length = PacketBytes && queueCore.registered &&
    queueCore.queueConfig.generation ≠ 0 && submission.dispatchId ≠ 0 &&
    submission.dispatchId ≤ INT_MAX

variable (layouts : Layouts)

/-- Everything that is checked before a task is made. -/
def admitSubmission (boundHsaQueueId : Option UInt64) (queueCore : HostNativeQueueCore)
    (submission : Submission) : Except Rejection Admitted := do
  if !submissionInputValid queueCore submission then reject "invalid native CP submission input"
  else if !fetchedPacketOwned queueCore submission.fetched then
    reject "fetched packet queue identity mismatch"
  else
    let packet := dispatchPacket submission.fetched.bytes
    if !nativeDispatchPacketFieldsValid packet then reject "invalid kernel dispatch packet"
    else if packet.kernelObject ≠ submission.resident.descriptorVa then
      reject "packet descriptor address mismatch"
    else
      let kernel ← validateDescriptor layouts submission.resident submission.memory
        submission.metadata submission.env
      let kernarg ← readKernarg submission.memory submission.env packet kernel.descriptor
      completionSignalReadable submission.memory submission.env packet
      let (mqdBaseVa, mqd) ← readMqd layouts submission.memory submission.env boundHsaQueueId
        queueCore
      inactiveSignalQuiet submission.memory submission.env mqd
      scratchAvailable packet mqd
      return ⟨packet, kernel, kernarg, mqdBaseVa, mqd⟩

def diagnosticName (resident : ResidentKernelView) : String :=
  if resident.diagnosticName.isEmpty then
    "resident-kernel@" ++ toString resident.descriptorVa.toNat
  else resident.diagnosticName

/-- The task of a packet that is admitted. -/
def createOwned (queueCore : HostNativeQueueCore) (submission : Submission) (admitted : Admitted) :
    OwnedQueueEntry where
  kernelName := diagnosticName submission.resident
  queueId := queueCore.queueConfig.registeredIndex
  dispatchId := submission.dispatchId
  packet := admitted.packet
  descriptor := admitted.kernel.descriptor
  hostPacketVa := submission.fetched.hostPacketVa
  codeVa := admitted.kernel.machineCodeVa
  preloadArgs := bytesAt admitted.kernarg
    (admitted.kernel.descriptor.kernargPreloadSpecOffset.toNat * 4)
    (admitted.kernel.descriptor.kernargPreloadSpecLength.toNat * 4)
  hostAMDQueueAddr := admitted.mqdBaseVa
  amdQueue := admitted.mqd

def failSubmission (processor : CommandProcessor) (queueCore : HostNativeQueueCore)
    (memory : SparseBytes) (rejection : Rejection) : SubmissionReply where
  returned := false
  processor := { processor with failureReason := rejection.reason }
  queue := queueCore
  memory := memory
  admission := rejection.admission

/-- One submission, with a code object that declares the kernel or without one. -/
def submitImpl (processor : CommandProcessor) (queueCore : HostNativeQueueCore)
    (submission : Submission) : SubmissionReply :=
  match admitSubmission layouts processor.boundHsaQueueId queueCore submission with
  | .error rejection => failSubmission processor queueCore submission.memory rejection
  | .ok admitted =>
    if !submission.env.entryAllocates then
      failSubmission processor queueCore submission.memory ⟨"HSAQueueEntry allocation", .None⟩
    else
      let accepted := queueCore.acceptDispatch submission.fetched.ticket
      if !accepted.returned then
        failSubmission processor accepted.after submission.memory
          ⟨"queue dispatch acceptance", .None⟩
      else
        { returned := true
          processor := {
            boundHsaQueueId := some (processor.boundHsaQueueId.getD admitted.mqd.id) }
          queue := accepted.after
          memory := submission.memory
          task := some (createOwned queueCore submission admitted)
          admission := .Ready }

/-- A packet whose kernel a code object declares. -/
def submit (processor : CommandProcessor) (queueCore : HostNativeQueueCore)
    (submission : Submission) (metadata : CodeObjectMetadata) : SubmissionReply :=
  submitImpl layouts processor queueCore { submission with metadata := some metadata }

/-- A packet whose kernel descriptor is already live. -/
def submitResident (processor : CommandProcessor) (queueCore : HostNativeQueueCore)
    (submission : Submission) : SubmissionReply :=
  submitImpl layouts processor queueCore { submission with metadata := none }

end Submissions

end GemSim.Native
