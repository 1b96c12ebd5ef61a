import GemSim.CodeObject.Metadata
import GemSim.CodeObject.Sha256
import GemSim.Lib.Handles

/-!
# Staged code objects

A code object is uploaded in chunks into a slot of a table that all owners share. Its
metadata are checked first; its bytes are accepted in order; the commit checks size,
number of chunks and digest. A request that does not fit the upload aborts the mutable
upload of its owner. The parse of the committed image is a parameter; whether an
allocation of host memory succeeds is an argument of the operation.

## Main definitions

* `HostGPUCodeObjectState` — the table, the counter of generations and the live counter
* `resolve` — the object a handle names for an owner
* `beginUpload`, `appendUpload`, `commitUpload`, `consumeCommitted`, … — its methods
* `Call`, `Reply`, `run`, `step` — the store as a machine
-/

namespace GemSim.CodeObject

open GemSim.Lib GemSim.Domain

abbrev MaximumStagedObjects : ℕ := 16

structure Object where
  owner : OwnerKey
  generation : UInt64
  metadata : CodeObjectMetadata
  image : List UInt8 := []
  acceptedOffset : UInt64 := 0
  nextChunk : UInt32 := 0
  committed : Bool := false

structure HostGPUCodeObjectState where
  objects : SlotTable MaximumStagedObjects Object := SlotTable.empty
  generations : IssueCounter := {}
  liveObjects : UInt64 := 0

/-- An object is the mutable upload of an owner. -/
def Object.mutableOf (owner : OwnerKey) (object : Object) : Bool :=
  object.owner == owner && !object.committed

/-- What the owner of an upload is told of it. -/
def progress (object : Object) (objectId acceptedOffset acceptedBytes : UInt64)
    (chunkIndex : UInt32) : UploadProgress :=
  { object := { id := objectId, generation := object.generation }
    acceptedOffset := acceptedOffset
    acceptedBytes := acceptedBytes
    chunkIndex := chunkIndex
    imageBytes := object.metadata.imageSize
    kernelIndex := object.metadata.kernel.index
    segmentCount := UInt32.ofNat object.metadata.segments.length
    imageSha256 := object.metadata.kernel.imageSha256
    committed := object.committed }

namespace HostGPUCodeObjectState

/-- The object a handle names for an owner, with its slot. -/
def resolve (state : HostGPUCodeObjectState) (owner : OwnerKey) (handle : ObjectHandle) :
    Option (Fin MaximumStagedObjects × Object) :=
  match slotOfId MaximumStagedObjects handle.id with
  | none => none
  | some slot =>
    match state.objects slot with
    | none => none
    | some object =>
      if object.owner = owner ∧ object.generation = handle.generation then some (slot, object)
      else none

/-- An owner holds an object under the id, whatever its generation. -/
def resolveOwned (state : HostGPUCodeObjectState) (owner : OwnerKey) (objectId : UInt64) : Bool :=
  match slotOfId MaximumStagedObjects objectId with
  | none => false
  | some slot => (state.objects slot).any fun object => object.owner == owner

def ownedByAnother (state : HostGPUCodeObjectState) (owner : OwnerKey) (objectId : UInt64) :
    Bool :=
  match slotOfId MaximumStagedObjects objectId with
  | none => false
  | some slot => (state.objects slot).any fun object => object.owner != owner

/-- Put back an object that was changed in its slot. -/
def withObject (state : HostGPUCodeObjectState) (slot : Fin MaximumStagedObjects)
    (object : Object) : HostGPUCodeObjectState :=
  { state with objects := state.objects.put slot object }

/-- Free the slot of an object. -/
def release (state : HostGPUCodeObjectState) (slot : Fin MaximumStagedObjects) :
    HostGPUCodeObjectState :=
  { state with
    objects := state.objects.drop slot
    liveObjects := state.liveObjects - 1 }

def abortMutable (state : HostGPUCodeObjectState) (owner : OwnerKey) : HostGPUCodeObjectState :=
  SlotTable.sweep HostGPUCodeObjectState.objects (Object.mutableOf owner)
    (fun slot _ state => state.release slot) state

def disconnect (state : HostGPUCodeObjectState) (owner : OwnerKey) : HostGPUCodeObjectState :=
  SlotTable.sweep HostGPUCodeObjectState.objects (fun object => object.owner == owner)
    (fun slot _ state => state.release slot) state

def clear (state : HostGPUCodeObjectState) : HostGPUCodeObjectState :=
  { state with objects := SlotTable.empty, liveObjects := 0 }

/-- Turn a request down, and abort the owner's mutable upload if the disposition says so. -/
def reject (state : HostGPUCodeObjectState) (owner : OwnerKey) (status : Status)
    (reason : FailureReason) (disposition : MutationDisposition) :
    UploadResult × HostGPUCodeObjectState :=
  ({ result := .failure status reason, disposition := disposition },
    if disposition = .abortMutable then state.abortMutable owner else state)

/-- The rejection of a request that names no mutable upload of its owner. -/
def rejectStale (state : HostGPUCodeObjectState) (owner : OwnerKey) (objectId : UInt64) :
    UploadResult × HostGPUCodeObjectState :=
  state.reject owner .staleState .state
    (if state.resolveOwned owner objectId then .abortMutable else .keep)

def beginUpload (state : HostGPUCodeObjectState) (owner : OwnerKey) (request : BeginUpload)
    (allocates : Bool) : UploadResult × HostGPUCodeObjectState :=
  let validation := validateCodeObjectMetadata request.metadata
  if !validation.ok then
    state.reject owner validation.status validation.reason .abortMutable
  else if state.objects.holds (Object.mutableOf owner) then state.reject owner .busy .busy .keep
  else if state.liveObjects ≥ UInt64.ofNat MaximumStagedObjects then
    state.reject owner .resourceExhausted .overflow .keep
  else
    match state.objects.firstFree with
    | none => state.reject owner .resourceExhausted .overflow .keep
    | some slot =>
      match state.generations.take with
      | none => state.reject owner .resourceExhausted .overflow .keep
      | some (generation, generations) =>
        let state := { state with generations := generations }
        if !allocates then state.reject owner .internal .state .keep
        else
          let object : Object :=
            { owner := owner, generation := generation, metadata := request.metadata }
          ({ result := .success (progress object (idOfSlot slot) 0 0 0) },
            { state with
              objects := state.objects.put slot object
              liveObjects := state.liveObjects + 1 })

/-- The next chunk of an upload has a byte, is not too large and fits the image. -/
def sizeValid (object : Object) (bytes : List UInt8) : Bool :=
  !bytes.isEmpty && decide (bytes.length ≤ MaximumUploadChunkBytes) &&
    object.acceptedOffset ≤ object.metadata.imageSize &&
    decide (bytes.length ≤ (object.metadata.imageSize - object.acceptedOffset).toNat)

def appendUpload (state : HostGPUCodeObjectState) (owner : OwnerKey) (request : AppendUpload)
    (allocates : Bool) : UploadResult × HostGPUCodeObjectState :=
  if state.ownedByAnother owner request.object.id then
    state.reject owner .ownerMismatch .invalidOwner .keep
  else
    match state.resolve owner request.object with
    | none => state.rejectStale owner request.object.id
    | some (slot, object) =>
      if object.committed then state.rejectStale owner request.object.id
      else if request.offset ≠ object.acceptedOffset ∨ request.chunkIndex ≠ object.nextChunk ∨
          !sizeValid object request.bytes then
        state.reject owner .staleState .state .abortMutable
      else if !allocates then state.reject owner .internal .state .abortMutable
      else
        let object : Object :=
          { object with
            image := object.image ++ request.bytes
            acceptedOffset := object.acceptedOffset + UInt64.ofNat request.bytes.length
            nextChunk := object.nextChunk + 1 }
        ({ result := .success (progress object request.object.id request.offset
            (UInt64.ofNat request.bytes.length) request.chunkIndex) },
          state.withObject slot object)

section Commit

variable (validateCodeObjectImage : List UInt8 → CodeObjectMetadata → Bool)

def commitUpload (state : HostGPUCodeObjectState) (owner : OwnerKey) (request : CommitUpload) :
    UploadResult × HostGPUCodeObjectState :=
  if state.ownedByAnother owner request.object.id then
    state.reject owner .ownerMismatch .invalidOwner .keep
  else
    match state.resolve owner request.object with
    | none => state.rejectStale owner request.object.id
    | some (slot, object) =>
      if object.committed then state.rejectStale owner request.object.id
      else if request.imageBytes ≠ object.metadata.imageSize ∨
          request.chunkCount ≠ object.nextChunk ∨
          request.imageSha256 ≠ object.metadata.kernel.imageSha256 ∨
          object.acceptedOffset ≠ object.metadata.imageSize ∨
          object.image.length ≠ object.metadata.imageSize.toNat then
        state.reject owner .staleState .state .abortMutable
      else if sha256 object.image ≠ object.metadata.kernel.imageSha256 ∨
          !validateCodeObjectImage object.image object.metadata then
        state.reject owner .staleState .state .abortMutable
      else
        let object : Object := { object with committed := true }
        ({ result := .success (progress object request.object.id object.metadata.imageSize
            object.metadata.imageSize object.nextChunk) },
          state.withObject slot object)

end Commit

def committedCodeObject (state : HostGPUCodeObjectState) (owner : OwnerKey)
    (handle : ObjectHandle) (allocates : Bool) : Result CommittedCodeObject :=
  if state.ownedByAnother owner handle.id then .failure .ownerMismatch .invalidOwner
  else
    match state.resolve owner handle with
    | none => .failure .staleState .state
    | some (_, object) =>
      if !object.committed then .failure .staleState .state
      else if !allocates then .failure .internal .state
      else .success { object := handle, metadata := object.metadata, image := object.image }

def consumeCommitted (state : HostGPUCodeObjectState) (owner : OwnerKey)
    (handle : ObjectHandle) : Result Unit × HostGPUCodeObjectState :=
  if state.ownedByAnother owner handle.id then
    (.failure .ownerMismatch .invalidOwner, state)
  else
    match state.resolve owner handle with
    | none => (.failure .staleState .state, state)
    | some (slot, object) =>
      if !object.committed then (.failure .staleState .state, state)
      else (.success (), state.release slot)

end HostGPUCodeObjectState

/-- A call of one of the store's methods. -/
inductive Call where
  | beginUpload (owner : OwnerKey) (request : BeginUpload) (allocates : Bool)
  | appendUpload (owner : OwnerKey) (request : AppendUpload) (allocates : Bool)
  | commitUpload (owner : OwnerKey) (request : CommitUpload)
  | committedCodeObject (owner : OwnerKey) (handle : ObjectHandle) (allocates : Bool)
  | consumeCommitted (owner : OwnerKey) (handle : ObjectHandle)
  | abortMutable (owner : OwnerKey)
  | disconnect (owner : OwnerKey)
  | clear

/-- What a call returns. -/
inductive Reply where
  | uploaded (result : UploadResult)
  | committed (result : Result CommittedCodeObject)
  | done (result : Result Unit)
  | nothing

/-- A call was turned down. -/
def Reply.failed : Reply → Bool
  | .uploaded result => !result.result.ok
  | .committed result => !result.ok
  | .done result => !result.ok
  | .nothing => false

/-- Who made a call; a clear has no owner. -/
def Call.owner : Call → Option OwnerKey
  | .beginUpload owner .. | .appendUpload owner .. | .commitUpload owner ..
  | .committedCodeObject owner .. | .consumeCommitted owner .. | .abortMutable owner
  | .disconnect owner => some owner
  | .clear => none

namespace HostGPUCodeObjectState

variable (validateCodeObjectImage : List UInt8 → CodeObjectMetadata → Bool)

def run (state : HostGPUCodeObjectState) : Call → Reply × HostGPUCodeObjectState
  | .beginUpload owner request allocates =>
    let (result, after) := state.beginUpload owner request allocates
    (.uploaded result, after)
  | .appendUpload owner request allocates =>
    let (result, after) := state.appendUpload owner request allocates
    (.uploaded result, after)
  | .commitUpload owner request =>
    let (result, after) := state.commitUpload validateCodeObjectImage owner request
    (.uploaded result, after)
  | .committedCodeObject owner handle allocates =>
    (.committed (state.committedCodeObject owner handle allocates), state)
  | .consumeCommitted owner handle =>
    let (result, after) := state.consumeCommitted owner handle
    (.done result, after)
  | .abortMutable owner => (.nothing, state.abortMutable owner)
  | .disconnect owner => (.nothing, state.disconnect owner)
  | .clear => (.nothing, state.clear)

def step (state : HostGPUCodeObjectState) (call : Call) : HostGPUCodeObjectState :=
  (state.run validateCodeObjectImage call).2

def reply (state : HostGPUCodeObjectState) (call : Call) : Reply :=
  (state.run validateCodeObjectImage call).1

/-- A freshly constructed store. -/
def boot : HostGPUCodeObjectState := {}

end HostGPUCodeObjectState

end GemSim.CodeObject
