import GemSim.Domain.CodeObject

/-!
# Dispatch types

The requests of a kernel dispatch, from the mapping of a code object to its release, and
what they return.

## Main definitions

* `OperationContext`, `DispatchIdentitySequence` — who asks, and the identities handed out
* `MapKernel`, `AllocateKernarg`, `PublishKernarg`, `SubmitKernel`, `UnmapKernel` — requests
* `MappingInfo`, `KernargInfo`, `DispatchAdmission`, `UnmapInfo` — results
-/

namespace GemSim.Domain

def MaximumSharedMemoryBytes : UInt32 := 65536
def MaximumWorkgroupDimension : UInt32 := 1024
def MaximumKernels : UInt32 := 16

structure OperationContext where
  owner : OwnerKey := {}
  leaseToken : UInt64 := 0

structure QueueLease where
  id : UInt64 := 0
  generation : UInt64 := 0
  sequence : UInt64 := 0
  deriving DecidableEq

structure SignalHandle where
  id : UInt64 := 0
  generation : UInt64 := 0
  deriving DecidableEq

/-- The identities that all sessions draw from. -/
structure DispatchIdentitySequence where
  nextMapping : UInt64 := 1
  nextTrace : UInt64 := 1

structure MapKernel where
  object : ObjectHandle := {}
  kernel : KernelIdentity := {}
  gfxTarget : UInt32 := 0
  relocationCount : UInt32 := 0
  kernargSize : UInt32 := 0
  kernargAlignment : UInt32 := 0
  descriptorPreloadDwords : UInt32 := 0
  pageBytes : UInt32 := 0

structure MappingInfo where
  object : ObjectHandle := {}
  mapping : MappingHandle := {}
  mappedBaseVa : UInt64 := 0
  mappedEndVa : UInt64 := 0
  descriptorVa : UInt64 := 0
  codeVa : UInt64 := 0
  entryVa : UInt64 := 0
  mappedBytes : UInt64 := 0
  kernelIndex : UInt32 := 0
  segmentCount : UInt32 := 0
  descriptorPreloadDwords : UInt32 := 0
  imageSha256 : Sha256 := Vector.replicate Sha256Bytes 0

instance : Inhabited MappingInfo := ⟨{}⟩

structure AllocateKernarg where
  object : ObjectHandle := {}
  mapping : MappingHandle := {}
  size : UInt64 := 0
  alignment : UInt64 := 0

structure KernargInfo where
  object : ObjectHandle := {}
  mapping : MappingHandle := {}
  allocation : AllocationHandle := {}
  gpuVa : UInt64 := 0
  size : UInt64 := 0
  alignment : UInt64 := 0
  imageSha256 : Sha256 := Vector.replicate Sha256Bytes 0

instance : Inhabited KernargInfo := ⟨{}⟩

structure PublishKernarg where
  object : ObjectHandle := {}
  mapping : MappingHandle := {}
  allocation : AllocationHandle := {}
  offset : UInt64 := 0
  bytes : List UInt8 := []

structure LaunchGeometry where
  grid : Vector UInt32 3 := Vector.replicate 3 0
  workgroup : Vector UInt32 3 := Vector.replicate 3 0
  numWarps : UInt32 := 0
  numCtas : UInt32 := 0
  sharedMemoryBytes : UInt32 := 0
  wavefrontSize : UInt32 := 0

structure SubmitKernel where
  object : ObjectHandle := {}
  mapping : MappingHandle := {}
  kernarg : AllocationHandle := {}
  queue : QueueLease := {}
  signal : SignalHandle := {}
  kernel : KernelIdentity := {}
  kernargOffset : UInt64 := 0
  kernargBytes : UInt64 := 0
  expectedSignalValue : UInt64 := 0
  geometry : LaunchGeometry := {}

structure DispatchAdmission where
  object : ObjectHandle := {}
  mapping : MappingHandle := {}
  kernarg : AllocationHandle := {}
  queue : QueueLease := {}
  signal : SignalHandle := {}
  expectedSignalValue : UInt64 := 0
  kernargVa : UInt64 := 0
  kernargBytes : UInt64 := 0
  kernargAlignment : UInt64 := 0
  ticket : UInt64 := 0
  trace : UInt64 := 0
  packetVa : UInt64 := 0
  kernelIndex : UInt32 := 0
  descriptorPreloadDwords : UInt32 := 0
  imageSha256 : Sha256 := Vector.replicate Sha256Bytes 0

instance : Inhabited DispatchAdmission := ⟨{}⟩

structure UnmapKernel where
  object : ObjectHandle := {}
  mapping : MappingHandle := {}

structure UnmapInfo where
  object : ObjectHandle := {}
  mapping : MappingHandle := {}
  imageSha256 : Sha256 := Vector.replicate Sha256Bytes 0

instance : Inhabited UnmapInfo := ⟨{}⟩

end GemSim.Domain
