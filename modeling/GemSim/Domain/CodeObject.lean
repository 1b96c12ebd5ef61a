import GemSim.Domain.Types
import Mathlib.Data.Nat.Notation

/-!
# Code-object types

The identity a code object declares for itself, and the requests and results of an
upload. Names are byte strings, as in the program.

## Main definitions

* `CodeObjectMetadata` — the declared identity of an image, `LoadSegment` one segment of it
* `BeginUpload`, `AppendUpload`, `CommitUpload` — the requests of an upload
* `UploadProgress`, `UploadResult` — what an upload operation returns
-/

namespace GemSim.Domain

abbrev ByteString := List UInt8

def Sha256Bytes : ℕ := 32
def KernelDescriptorBytes : ℕ := 64
def MaximumLoadSegments : ℕ := 16
def MaximumDescriptorPreloadDwords : ℕ := 64
def MaximumUploadChunkBytes : ℕ := 16 <<< 20

abbrev Sha256 := Vector UInt8 Sha256Bytes

structure KernelIdentity where
  index : UInt32 := 0
  imageSha256 : Sha256 := Vector.replicate Sha256Bytes 0
  name : ByteString := []
  deriving DecidableEq

structure LoadSegment where
  type : UInt32 := 0
  flags : UInt32 := 0
  fileOffset : UInt64 := 0
  virtualAddress : UInt64 := 0
  fileSize : UInt64 := 0
  memorySize : UInt64 := 0
  alignment : UInt64 := 0
  deriving DecidableEq

structure CodeObjectMetadata where
  imageSize : UInt64 := 0
  kernel : KernelIdentity := {}
  elfMachine : UInt16 := 0
  elfType : UInt16 := 0
  elfOsabi : UInt8 := 0
  elfAbiVersion : UInt8 := 0
  elfFlags : UInt32 := 0
  gfxTarget : UInt32 := 0
  codeObjectVersion : UInt32 := 0
  metadataMajor : UInt32 := 0
  metadataMinor : UInt32 := 0
  relocationCount : UInt32 := 0
  kernargSize : UInt32 := 0
  kernargAlignment : UInt32 := 0
  groupSegmentBytes : UInt32 := 0
  privateSegmentBytes : UInt32 := 0
  maximumWorkgroupSize : UInt32 := 0
  wavefrontSize : UInt32 := 0
  sgprCount : UInt32 := 0
  vgprCount : UInt32 := 0
  usesDynamicStack : Bool := false
  kernelEntryOffset : Int64 := 0
  codeVirtualAddress : UInt64 := 0
  codeFileOffset : UInt64 := 0
  codeSize : UInt64 := 0
  descriptorVirtualAddress : UInt64 := 0
  descriptorFileOffset : UInt64 := 0
  descriptorSymbol : ByteString := []
  descriptor : Vector UInt8 KernelDescriptorBytes := Vector.replicate KernelDescriptorBytes 0
  segments : List LoadSegment := []
  deriving DecidableEq

structure BeginUpload where
  metadata : CodeObjectMetadata

structure AppendUpload where
  object : ObjectHandle
  offset : UInt64
  chunkIndex : UInt32
  bytes : List UInt8

structure CommitUpload where
  object : ObjectHandle
  imageBytes : UInt64
  chunkCount : UInt32
  imageSha256 : Sha256

inductive MutationDisposition where
  | keep
  | abortMutable
  deriving DecidableEq

structure UploadProgress where
  object : ObjectHandle := {}
  acceptedOffset : UInt64 := 0
  acceptedBytes : UInt64 := 0
  chunkIndex : UInt32 := 0
  imageBytes : UInt64 := 0
  kernelIndex : UInt32 := 0
  segmentCount : UInt32 := 0
  imageSha256 : Sha256 := Vector.replicate Sha256Bytes 0
  committed : Bool := false

instance : Inhabited UploadProgress := ⟨{}⟩

structure UploadResult where
  result : Result UploadProgress
  disposition : MutationDisposition := .keep

structure CommittedCodeObject where
  object : ObjectHandle := {}
  metadata : CodeObjectMetadata := {}
  image : List UInt8 := []

instance : Inhabited CommittedCodeObject := ⟨{}⟩

end GemSim.Domain
