import GemSim.Dispatch.CodeObjectMapper
import GemSim.Domain.Dispatch
import GemSim.Native.QueueCore

/-!
# The dispatch state of a connection

One owner maps one code object, allocates one kernarg buffer, publishes bytes into it and
submits one fetched packet of a queue. A submission pins both allocations until it is
retired or abandoned. An unmap releases first the kernarg buffer and then the mapping.

The memory behind the page leases and the queues are borrowed, so they are part of the
state. Each queue reads and writes the bytes of an address space of its own, and whether
such an access fails is an argument. What the command processor says of a packet is an
argument too: until it accepts the dispatch it only reads.

## Main definitions

* `MappingRecord`, `KernargRecord`, `SubmissionRecord`, `HostNativeDispatchStateV2`
* `map`, `allocateKernarg`, `publishKernarg`, `submit`, `retire`, `abandonSubmission`,
  `unmap`, `clear` — its operations
-/

namespace GemSim.Dispatch

open GemSim.Lib GemSim.Domain GemSim.Memory GemSim.CodeObject
open GemSim.Native (HostNativeQueueCore FetchedPacket)

def MinimumKernargAlignment : UInt64 := 8
def MaximumKernargAlignment : UInt64 := 65536
def IntMax : UInt64 := 0x7fffffff

structure MappingRecord where
  object : ObjectHandle
  mapping : MappingHandle
  descriptorPreloadDwords : UInt32
  descriptorPreloadOffset : UInt32
  value : Mapping
  metadata : CodeObjectMetadata

structure KernargRecord where
  object : ObjectHandle
  mapping : MappingHandle
  allocation : AllocationInfo
  logicalAlignment : UInt64
  lease : PageLease
  publishedRanges : List (UInt64 × UInt64) := []

structure SubmissionRecord where
  object : ObjectHandle
  mapping : MappingHandle
  kernarg : AllocationHandle
  kernargOffset : UInt64
  kernargSize : UInt64
  signal : SignalHandle
  expectedSignalValueBits : UInt64
  traceId : UInt64
  queue : ℕ
  ticket : UInt64
  queueIndex : UInt64
  lease : QueueLease
  requestId : UInt64

structure HostNativeDispatchStateV2 where
  context : HostNativeMemoryContext
  queues : ℕ → HostNativeQueueCore
  mapperOwner : OwnerKey
  boundOwner : OwnerKey
  mapping : Option MappingRecord := none
  kernarg : Option KernargRecord := none
  submission : Option SubmissionRecord := none
  identities : Option DispatchIdentitySequence
  lastFailure : FailureReason := .none
  lastStatus : Status := .ok
  failureReason : String := "none"

/-- What an operation returns, its out-parameter, and the state it leaves. -/
structure Reply (α : Type) where
  returned : Bool
  result : Result α
  after : HostNativeDispatchStateV2

/-- How the allocations of host memory of a map request end. -/
structure MapRequestEnv where
  mapper : MapEnv := {}
  reads : Bool := true
  emplaces : Bool := true

/-- How the allocations of a publication end: those of its write, and the list of ranges. -/
structure PublishEnv where
  write : WriteEnv := {}
  remembers : Bool := true

structure KernargEnv where
  allocates : Bool := true
  maps : Bool := true
  emplaces : Bool := true

/-- What the command processor says of the packet, and how the read of the descriptor ends. -/
structure SubmitEnv where
  reads : Bool := true
  admits : Bool := true
  refusal : String := "none"

def rangeFits (offset bytes size : UInt64) : Bool := offset ≤ size && bytes ≤ size - offset

/-- Merge a published range into the ranges from here on. -/
def mergePublished : List (UInt64 × UInt64) → UInt64 → UInt64 → Bool → List (UInt64 × UInt64)
  | [], start, stop, inserted => if inserted then [] else [(start, stop)]
  | (rangeStart, rangeEnd) :: rest, start, stop, inserted =>
    if rangeEnd < start then (rangeStart, rangeEnd) :: mergePublished rest start stop inserted
    else if stop < rangeStart then
      if inserted then (rangeStart, rangeEnd) :: mergePublished rest start stop true
      else (start, stop) :: (rangeStart, rangeEnd) :: mergePublished rest start stop true
    else mergePublished rest (min start rangeStart) (max stop rangeEnd) inserted

namespace HostNativeDispatchStateV2

/-- Remember why the last operation failed. -/
def fail (state : HostNativeDispatchStateV2) (status : Status) (failure : FailureReason)
    (reason : String) : HostNativeDispatchStateV2 :=
  { state with lastFailure := failure, lastStatus := status, failureReason := reason }

/-- Forget why the last operation failed. -/
def succeeded (state : HostNativeDispatchStateV2) : HostNativeDispatchStateV2 :=
  { state with lastFailure := .none, lastStatus := .ok, failureReason := "none" }

def failResult {α : Type} [Inhabited α] (state : HostNativeDispatchStateV2) (status : Status)
    (failure : FailureReason) (reason : String) : Reply α :=
  { returned := false
    result := .failure status failure
    after := state.fail status failure reason }

/-- The failure of an allocation leaves the call: its result is still the one it was reset to, and
no failure is noted. -/
def badAlloc {α : Type} [Inhabited α] (state : HostNativeDispatchStateV2) : Reply α :=
  { returned := false
    result := .failure .internal .none
    after := state }

def validateContext (state : HostNativeDispatchStateV2) (request : OperationContext) : Bool :=
  request.owner == state.boundOwner && request.leaseToken != 0

/-- The reply to a request of another owner, or without a token. -/
def refuseContext {α : Type} [Inhabited α] (state : HostNativeDispatchStateV2)
    (request : OperationContext) (invalid mismatch : String) : Reply α :=
  if request.owner = state.boundOwner then
    state.failResult .invalidArgument .invalidRequest invalid
  else state.failResult .ownerMismatch .invalidOwner mismatch

def validateObject (state : HostNativeDispatchStateV2) (object : ObjectHandle) : Bool :=
  state.mapping.any fun mapping =>
    object.id != 0 && object.generation != 0 && mapping.object == object

def validateMapping (state : HostNativeDispatchStateV2) (object : ObjectHandle)
    (handle : MappingHandle) : Bool :=
  state.validateObject object && handle.id != 0 && handle.generation != 0 &&
    state.mapping.any fun mapping => mapping.mapping == handle

def validateKernarg (state : HostNativeDispatchStateV2) (object : ObjectHandle)
    (handle : MappingHandle) (allocation : AllocationHandle) : Bool :=
  state.validateMapping object handle && allocation.id != 0 && allocation.generation != 0 &&
    state.kernarg.any fun kernarg => kernarg.allocation.allocation == allocation

variable (layout : Layout)

/-- The preload length and offset in the descriptor of a mapping. -/
def descriptorPreload (state : HostNativeDispatchStateV2) (value : Mapping) (reads : Bool) :
    Option (UInt32 × UInt32) :=
  (state.context.functionalRead value.descriptorGpuVa (UInt64.ofNat KernelDescriptorBytes) 0
    reads).map layout.kernargPreloadSpec

/-- Some published range holds the range. -/
def rangePublished (kernarg : KernargRecord) (offset bytes : UInt64) : Bool :=
  bytes != 0 && rangeFits offset bytes kernarg.allocation.size &&
    kernarg.publishedRanges.any fun (start, stop) =>
      offset ≥ start && offset ≤ stop && bytes ≤ stop - offset

/-- Unmap a code object whose map request fails later on. -/
def undoMap (state : HostNativeDispatchStateV2) (mapped : Mapping) : HostNativeDispatchStateV2 :=
  { state with context := (unmapCodeObject state.mapperOwner state.context mapped).2 }

/-- The checks of a map request before anything is mapped. -/
def validateMapRequest (state : HostNativeDispatchStateV2) (command : MapKernel)
    (image : List UInt8) (metadata : CodeObjectMetadata) :
    Option (Status × FailureReason × String) :=
  let (preloadLength, preloadOffset) := layout.kernargPreloadSpec metadata.descriptor.toList
  if command.object.id = 0 ∨ command.object.generation = 0 ∨
      command.kernel.index ≥ MaximumKernels ∨ image = [] ∨ command.gfxTarget ≠ 950 ∨
      command.relocationCount ≠ 0 ∨ command.pageBytes.toUInt64 ≠ state.context.pageSize ∨
      state.mapping.isSome ∨ command.kernel.imageSha256.toList.all (fun byte => byte == 0) ∨
      metadata.kernel.imageSha256.toList.all (fun byte => byte == 0) ∨
      command.kernel.name = [] ∨ metadata.kernel.name = [] ∨
      command.kernel.name ≠ metadata.kernel.name then
    if state.mapping.isSome then some (.busy, .busy, "MAP already owns a mapping")
    else some (.invalidArgument, .invalidRequest, "invalid MAP request")
  else if command.descriptorPreloadDwords.toNat > MaximumDescriptorPreloadDwords then
    some (.unsupportedFeature, .unsupportedPreload,
      "descriptor preload exceeds the native v2 bound")
  else if command.kernel.imageSha256 ≠ metadata.kernel.imageSha256 then
    some (.staleState, .invalidRequest, "MAP image digest mismatch")
  else if command.kernel.index ≠ metadata.kernel.index ∨
      command.kernargSize ≠ metadata.kernargSize ∨
      command.kernargAlignment ≠ metadata.kernargAlignment then
    some (.staleState, .invalidRequest, "MAP manifest metadata mismatch")
  else if preloadLength.toNat > MaximumDescriptorPreloadDwords then
    some (.unsupportedFeature, .unsupportedPreload,
      "descriptor preload exceeds the native v2 bound")
  else if (preloadLength = 0 ∧ preloadOffset ≠ 0) ∨
      preloadOffset.toUInt64 + preloadLength.toUInt64 > (metadata.kernargSize / 4).toUInt64 ∨
      command.descriptorPreloadDwords ≠ preloadLength then
    some (.staleState, .invalidRequest, "MAP descriptor preload metadata mismatch")
  else none

def map (state : HostNativeDispatchStateV2) (request : OperationContext) (command : MapKernel)
    (image : List UInt8) (metadata : CodeObjectMetadata) (env : MapRequestEnv) :
    Reply MappingInfo :=
  if !state.validateContext request then
    state.refuseContext request "invalid MAP request context" "MAP owner mismatch"
  else
    match state.validateMapRequest layout command image metadata with
    | some (status, failure, reason) => state.failResult status failure reason
    | none =>
      match mapCodeObject layout state.mapperOwner state.context image metadata env.mapper with
      | (.error .badAlloc, context) => { state with context := context }.badAlloc
      | (.error (.failed _), context) =>
        { state with context := context }.failResult .internal .mapping "code-object mapping failed"
      | (.ok mapped, context) =>
        let state := { state with context := context }
        let manifest := layout.kernargPreloadSpec metadata.descriptor.toList
        if !mapped.valid then
          state.failResult .internal .mapping "code-object mapping failed"
        else if !(context.memory.allocationView state.boundOwner mapped.allocation.allocation).any
            (fun view => view.gpuVa == mapped.allocation.gpuVa &&
              view.size == mapped.allocation.size) then
          (state.undoMap mapped).failResult .ownerMismatch .invalidOwner
            "mapped allocation owner mismatch"
        else
          match state.descriptorPreload layout mapped env.reads with
          | none =>
            (state.undoMap mapped).failResult .internal .mapping "mapped descriptor read failed"
          | some (preloadLength, preloadOffset) =>
            if (preloadLength, preloadOffset) ≠ manifest then
              (state.undoMap mapped).failResult .staleState .mapping
                "mapped descriptor preload metadata mismatch"
            else
              match state.identities with
              | none =>
                (state.undoMap mapped).failResult .resourceExhausted .overflow
                  "mapping identity exhausted"
              | some identities =>
                if identities.nextMapping = 0 ∨ mapped.lease.allocation.generation = 0 then
                  (state.undoMap mapped).failResult .resourceExhausted .overflow
                    "mapping identity exhausted"
                else
                  let handle : MappingHandle :=
                    { id := identities.nextMapping, generation := mapped.lease.allocation.generation }
                  let state := { state with
                    identities := some { identities with nextMapping := identities.nextMapping + 1 } }
                  let base := mapped.allocation.gpuVa
                  if !env.emplaces then
                    (state.undoMap mapped).failResult .resourceExhausted .mapping
                      "mapping state allocation failed"
                  else if mapped.mappedBytes > u64Max - base then
                    (state.undoMap mapped).failResult .resourceExhausted .overflow
                      "mapped range overflows GPU VA"
                  else
                    { returned := true
                      result := .success
                        { object := command.object
                          mapping := handle
                          mappedBaseVa := base
                          mappedEndVa := base + mapped.mappedBytes
                          descriptorVa := mapped.descriptorGpuVa
                          codeVa := mapped.codeGpuVa
                          entryVa := mapped.entryGpuVa
                          mappedBytes := mapped.mappedBytes
                          kernelIndex := command.kernel.index
                          segmentCount := mapped.segmentCount
                          descriptorPreloadDwords := preloadLength
                          imageSha256 := command.kernel.imageSha256 }
                      after := { state with
                        mapping := some
                          { object := command.object
                            mapping := handle
                            descriptorPreloadDwords := preloadLength
                            descriptorPreloadOffset := preloadOffset
                            value := mapped
                            metadata := metadata } }.succeeded }

/-- Free a kernarg allocation whose request fails later on. -/
def undoAllocation (state : HostNativeDispatchStateV2) (handle : AllocationHandle) :
    HostNativeDispatchStateV2 :=
  { state with context := (freeAllocation state.context state.boundOwner handle).2 }

def allocateKernarg (state : HostNativeDispatchStateV2) (request : OperationContext)
    (command : AllocateKernarg) (env : KernargEnv) : Reply KernargInfo :=
  if !state.validateContext request then
    state.refuseContext request "invalid ALLOC request context" "ALLOC owner mismatch"
  else if !state.validateMapping command.object command.mapping ∨ state.kernarg.isSome ∨
      command.size = 0 ∨ command.size > MaximumTransferBytes ∨ !powerOfTwo command.alignment ∨
      command.alignment < MinimumKernargAlignment ∨
      command.alignment > MaximumKernargAlignment then
    if state.kernarg.isSome then state.failResult .busy .busy "ALLOC already owns kernarg"
    else state.failResult .invalidArgument .invalidRequest "invalid ALLOC request"
  else
    -- the backing is aligned to pages, whatever alignment the kernel asks for
    let (allocation, memory) := state.context.memory.allocate state.boundOwner
      { size := command.size, alignment := state.context.pageSize } env.allocates
    let state := { state with context := { state.context with memory := memory } }
    if !allocation.ok then
      state.failResult allocation.status .allocation "kernarg allocation failed"
    else
      let handle := allocation.value.allocation
      match state.context.memory.allocationView state.boundOwner handle with
      | none =>
        (state.undoAllocation handle).failResult .internal .allocation
          "kernarg allocation identity or logical alignment mismatch"
      | some view =>
        if view.gpuVa % command.alignment ≠ 0 then
          (state.undoAllocation handle).failResult .internal .allocation
            "kernarg allocation identity or logical alignment mismatch"
        else
          match state.context.map view.gpuVa view.size env.maps with
          | (none, context) =>
            ({ state with context := context }.undoAllocation handle).failResult .internal .pageMap
              "kernarg page lease failed"
          | (some lease, context) =>
            let state := { state with context := context }
            if !env.emplaces then
              ({ state with context := (context.unmap lease).2 }.undoAllocation handle).failResult
                .resourceExhausted .allocation "kernarg state allocation failed"
            else
              { returned := true
                result := .success
                  { object := command.object
                    mapping := command.mapping
                    allocation := view.allocation
                    gpuVa := view.gpuVa
                    size := view.size
                    alignment := command.alignment
                    imageSha256 :=
                      (state.mapping.map fun mapping => mapping.metadata.kernel.imageSha256).getD
                        (Vector.replicate Sha256Bytes 0) }
                after := { state with
                  kernarg := some
                    { object := command.object
                      mapping := command.mapping
                      allocation := view
                      logicalAlignment := command.alignment
                      lease := lease } }.succeeded }

def publishKernarg (state : HostNativeDispatchStateV2) (request : OperationContext)
    (command : PublishKernarg) (env : PublishEnv) : Reply Unit :=
  let bytes := UInt64.ofNat command.bytes.length
  if !state.validateContext request then
    state.refuseContext request "invalid kernarg publication context"
      "kernarg publication owner mismatch"
  else if state.submission.isSome then
    state.failResult .busy .busy "kernarg is pinned by a submission"
  else
    match state.kernarg with
    | none => state.failResult .invalidArgument .publication "invalid kernarg publication"
    | some kernarg =>
      if !state.validateKernarg command.object command.mapping command.allocation ∨
          command.bytes = [] ∨ command.bytes.length > MaximumTransferBytes.toNat ∨
          !rangeFits command.offset bytes kernarg.allocation.size then
        state.failResult .invalidArgument .publication "invalid kernarg publication"
      else if command.offset > u64Max - kernarg.allocation.gpuVa then
        state.failResult .invalidArgument .overflow "kernarg publication address overflow"
      else
        match state.context.functionalWrite (kernarg.allocation.gpuVa + command.offset)
          command.bytes request.leaseToken env.write with
        | (.badAlloc, context) => { state with context := context }.badAlloc
        | (.refused, context) =>
          { state with context := context }.failResult .internal .publication
            "kernarg functional publication failed"
        | (.written, context) =>
          let state := { state with context := context }
          if !env.remembers then state.badAlloc
          else
            { returned := true
              result := .success ()
              after := { state with
                kernarg := some { kernarg with
                  publishedRanges := mergePublished kernarg.publishedRanges command.offset
                    (command.offset + bytes) false } }.succeeded }

/-- The fields of a submit request fit the mapping, the kernarg buffer and each other. -/
def submitFieldsValid (mapping : MappingRecord) (kernarg : KernargRecord)
    (command : SubmitKernel) : Bool :=
  let geometry := command.geometry
  let base := kernarg.allocation.gpuVa
  let effective := base + command.kernargOffset
  command.expectedSignalValue == 1 && command.signal.id != 0 && command.signal.generation != 0 &&
    command.kernargBytes != 0 && command.kernargBytes ≤ MaximumTransferBytes &&
    command.kernargBytes == mapping.metadata.kernargSize.toUInt64 &&
    rangeFits command.kernargOffset command.kernargBytes kernarg.allocation.size &&
    rangePublished kernarg command.kernargOffset command.kernargBytes &&
    command.kernargOffset ≤ u64Max - base && mapping.metadata.kernargAlignment != 0 &&
    effective % mapping.metadata.kernargAlignment.toUInt64 == 0 &&
    command.kernel.index < MaximumKernels && command.queue.id != 0 &&
    command.queue.generation != 0 && command.queue.sequence != 0 &&
    geometry.grid.toList.all (fun value => value != 0) &&
    geometry.workgroup.toList.all (fun value => value != 0) && geometry.numWarps != 0 &&
    geometry.numCtas != 0 && geometry.wavefrontSize == 64 &&
    command.kernel == mapping.metadata.kernel

/-- The fetched packet is the one the request describes. -/
def packetMatches (command : SubmitKernel) (effective completionSignalVa : UInt64)
    (fetched : FetchedPacket) : Bool :=
  let geometry := command.geometry
  layout.completionSignal fetched.bytes == completionSignalVa &&
    layout.kernargAddress fetched.bytes == effective &&
    geometry.workgroup.toList.all (fun value => value ≤ MaximumWorkgroupDimension) &&
    geometry.sharedMemoryBytes ≤ MaximumSharedMemoryBytes &&
    (geometry.workgroup.toList.map UInt32.toUInt64).foldl (· * ·) 1 ==
      geometry.numWarps.toUInt64 * geometry.wavefrontSize.toUInt64

/-- The identity of the task: the given one, or the next of the sequence. -/
def takeTrace (state : HostNativeDispatchStateV2) (dispatchIdOverride : UInt64) :
    Option (UInt64 × HostNativeDispatchStateV2) :=
  if dispatchIdOverride ≠ 0 then
    if dispatchIdOverride > IntMax then none else some (dispatchIdOverride, state)
  else
    match state.identities with
    | none => none
    | some identities =>
      if identities.nextTrace = 0 ∨ identities.nextTrace > IntMax then none
      else
        some (identities.nextTrace, { state with
          identities := some { identities with nextTrace := identities.nextTrace + 1 } })

def packetValid (packet : FetchedPacket) : Bool :=
  packet.ticket != 0 && packet.hostPacketVa != 0 && packet.queueGeneration != 0

/-- The packet is the pending one of its queue. -/
def queueIdentity (queue : HostNativeQueueCore) (fetched : FetchedPacket) : Bool :=
  fetched.activeQueueId == queue.queueConfig.activeQueueId &&
    fetched.queueGeneration == queue.queueConfig.generation &&
    fetched.registeredIndex == queue.regdIndex && queue.ownsPending fetched

/-- Pin an allocation of the owner. -/
def pin (state : HostNativeDispatchStateV2) (handle : AllocationHandle) (requestId : UInt64) :
    Bool × HostNativeDispatchStateV2 :=
  let (pinned, memory) :=
    state.context.memory.pinPinnedDispatchAllocation state.boundOwner handle requestId
  (pinned, { state with context := { state.context with memory := memory } })

/-- Release the pin of an allocation of the owner. -/
def unpin (state : HostNativeDispatchStateV2) (handle : AllocationHandle) (requestId : UInt64) :
    Bool × HostNativeDispatchStateV2 :=
  let (released, memory) :=
    state.context.memory.releasePinnedDispatchAllocation state.boundOwner handle requestId
  (released, { state with context := { state.context with memory := memory } })

def withQueue (state : HostNativeDispatchStateV2) (queue : ℕ) (core : HostNativeQueueCore) :
    HostNativeDispatchStateV2 :=
  { state with queues := Function.update state.queues queue core }

/-- The last steps of the command processor: accept the dispatch, if all checks passed. -/
def commandProcessorSubmit (queue : HostNativeQueueCore) (fetched : FetchedPacket) (admits : Bool) :
    Bool × HostNativeQueueCore :=
  if !admits then (false, queue)
  else
    let accepted := queue.acceptDispatch fetched.ticket
    (accepted.returned, accepted.after)

def submit (state : HostNativeDispatchStateV2) (request : OperationContext)
    (command : SubmitKernel) (completionSignalVa : UInt64) (queue : ℕ) (fetched : FetchedPacket)
    (dispatchIdOverride : UInt64) (env : SubmitEnv) : Reply DispatchAdmission :=
  if !state.validateContext request then
    state.refuseContext request "invalid SUBMIT request context" "SUBMIT owner mismatch"
  else if state.submission.isSome then state.failResult .busy .busy "SUBMIT already admitted"
  else
    match state.mapping, state.kernarg with
    | some mapping, some kernarg =>
      let effective := kernarg.allocation.gpuVa + command.kernargOffset
      let code := mapping.value.allocation.allocation
      let buffer := kernarg.allocation.allocation
      if !state.validateKernarg command.object command.mapping command.kernarg ∨
          !packetValid fetched ∨ !(state.queues queue).registered ∨
          completionSignalVa = 0 ∨ !submitFieldsValid mapping kernarg command then
        state.failResult .invalidArgument .invalidRequest "invalid SUBMIT request"
      else
        match state.takeTrace dispatchIdOverride with
        | none =>
          state.failResult .resourceExhausted .overflow "SUBMIT internal task identity exhausted"
        | some (traceId, state) =>
          if !queueIdentity (state.queues queue) fetched then
            state.failResult .staleState .queue "SUBMIT queue identity mismatch"
          else if !packetMatches layout command effective completionSignalVa fetched then
            state.failResult .staleState .queue "SUBMIT AQL geometry or kernarg identity mismatch"
          else
            match state.descriptorPreload layout mapping.value env.reads with
            | none => state.failResult .internal .mapping "SUBMIT descriptor read failed"
            | some (preloadLength, preloadOffset) =>
              if preloadLength ≠ mapping.descriptorPreloadDwords ∨
                  preloadOffset ≠ mapping.descriptorPreloadOffset then
                state.failResult .staleState .mapping "SUBMIT descriptor preload metadata changed"
              else
                -- the pins stand before the command processor reads
                match state.pin code request.leaseToken with
                | (false, state) => state.failResult .busy .busy "code mapping is already pinned"
                | (true, state) =>
                  match state.pin buffer request.leaseToken with
                  | (false, state) =>
                    (state.unpin code request.leaseToken).2.failResult .busy .busy
                      "kernarg allocation is already pinned"
                  | (true, state) =>
                    match commandProcessorSubmit (state.queues queue) fetched env.admits with
                    | (false, core) =>
                      let cancelled := core.cancelFetch fetched.ticket
                      let state := state.withQueue queue cancelled.after
                      let state := (state.unpin buffer request.leaseToken).2
                      let state := (state.unpin code request.leaseToken).2
                      if !cancelled.returned then
                        state.failResult .staleState .queue "CP failure left queue fetch pending"
                      else state.failResult .staleState .commandProcessor env.refusal
                    | (true, core) =>
                      { returned := true
                        result := .success
                          { object := command.object
                            mapping := command.mapping
                            kernarg := buffer
                            queue := command.queue
                            signal := command.signal
                            expectedSignalValue := command.expectedSignalValue
                            kernargVa := effective
                            kernargBytes := command.kernargBytes
                            kernargAlignment := kernarg.logicalAlignment
                            ticket := fetched.ticket
                            trace := traceId
                            packetVa := fetched.hostPacketVa
                            kernelIndex := command.kernel.index
                            descriptorPreloadDwords := preloadLength
                            imageSha256 := command.kernel.imageSha256 }
                        after := { state.withQueue queue core with
                          submission := some
                            { object := command.object
                              mapping := command.mapping
                              kernarg := command.kernarg
                              kernargOffset := command.kernargOffset
                              kernargSize := command.kernargBytes
                              signal := command.signal
                              expectedSignalValueBits := command.expectedSignalValue
                              traceId := traceId
                              queue := queue
                              ticket := fetched.ticket
                              queueIndex := fetched.queueIndex
                              lease := command.queue
                              requestId := request.leaseToken } }.succeeded }
    | _, _ => state.failResult .invalidArgument .invalidRequest "invalid SUBMIT request"

/-- Retire the queue slot of the submission and release its pins, whatever fails. -/
def abandonSubmission (state : HostNativeDispatchStateV2) (writes : Bool) :
    Bool × HostNativeDispatchStateV2 :=
  match state.submission with
  | none => (true, state)
  | some admitted =>
    let retired := (state.queues admitted.queue).retire admitted.queueIndex writes
    let state := state.withQueue admitted.queue retired.after
    let (kernargReleased, state) :=
      match state.kernarg with
      | none => (false, state)
      | some kernarg => state.unpin kernarg.allocation.allocation admitted.requestId
    let (mappingReleased, state) :=
      match state.mapping with
      | none => (false, state)
      | some mapping => state.unpin mapping.value.allocation.allocation admitted.requestId
    let state := { state with submission := none }
    if !retired.returned ∨ !kernargReleased ∨ !mappingReleased then
      (false, state.fail .internal .state "abandoned submission cleanup failed")
    else (true, state.succeeded)

/-- The request names the live submission. -/
def retireMatches (state : HostNativeDispatchStateV2) (request : OperationContext)
    (command : SubmitKernel) (queue : ℕ) (submission : SubmissionRecord) : Bool :=
  submission.queue == queue && command.object == submission.object &&
    command.mapping == submission.mapping && command.queue == submission.lease &&
    command.kernarg == submission.kernarg &&
    command.kernargOffset == submission.kernargOffset &&
    command.kernargBytes == submission.kernargSize && command.signal == submission.signal &&
    command.expectedSignalValue == submission.expectedSignalValueBits && submission.traceId != 0 &&
    state.validateKernarg command.object command.mapping command.kernarg &&
    (state.mapping.any fun mapping => command.kernel == mapping.metadata.kernel) &&
    request.leaseToken == submission.requestId

def retire (state : HostNativeDispatchStateV2) (request : OperationContext)
    (command : SubmitKernel) (queue : ℕ) (writes : Bool) : Reply Unit :=
  if !state.validateContext request then
    state.refuseContext request "invalid RETIRE request context" "RETIRE owner mismatch"
  else
    match state.submission with
    | none => state.failResult .invalidArgument .invalidRequest "no admitted submission"
    | some submission =>
      if !state.retireMatches request command queue submission then
        state.failResult .staleState .state "RETIRE identity mismatch"
      else
        match state.abandonSubmission writes with
        | (false, state) =>
          { returned := false
            result := .failure state.lastStatus state.lastFailure
            after := state }
        | (true, state) => { returned := true, result := .success (), after := state }

def releaseKernarg (state : HostNativeDispatchStateV2) : Bool × HostNativeDispatchStateV2 :=
  match state.kernarg with
  | none => (true, state)
  | some kernarg =>
    match state.context.unmap kernarg.lease with
    | (false, context) =>
      (false, { state with context := context }.fail .busy .pageMap
        "kernarg page lease release failed")
    | (true, context) =>
      let (response, memory) := context.memory.free state.boundOwner kernarg.allocation.allocation
      let state := { state with context := { context with memory := memory } }
      if !response.ok then
        (false, state.fail response.status .allocation "kernarg allocation release failed")
      else (true, { state with kernarg := none })

def releaseMapping (state : HostNativeDispatchStateV2) : Bool × HostNativeDispatchStateV2 :=
  match state.mapping with
  | none => (true, state)
  | some mapping =>
    match unmapCodeObject state.mapperOwner state.context mapping.value with
    | (.error _, context) =>
      (false, { state with context := context }.fail .busy .mapping "code mapping release failed")
    | (.ok (), context) => (true, { state with context := context, mapping := none })

def unmap (state : HostNativeDispatchStateV2) (request : OperationContext)
    (command : UnmapKernel) : Reply UnmapInfo :=
  if !state.validateContext request then
    state.refuseContext request "invalid UNMAP request context" "UNMAP owner mismatch"
  else if state.submission.isSome then
    state.failResult .busy .busy "UNMAP has an admitted submission"
  else if !state.validateMapping command.object command.mapping then
    state.failResult .staleState .state "invalid UNMAP identity"
  else
    let value : UnmapInfo :=
      { object := command.object
        mapping := command.mapping
        imageSha256 := (state.mapping.map fun mapping => mapping.metadata.kernel.imageSha256).getD
          (Vector.replicate Sha256Bytes 0) }
    match state.releaseKernarg with
    | (false, state) =>
      { returned := false
        result := { status := state.lastStatus, reason := state.lastFailure, value := value }
        after := state }
    | (true, state) =>
      match state.releaseMapping with
      | (false, state) =>
        { returned := false
          result := { status := state.lastStatus, reason := state.lastFailure, value := value }
          after := state }
      | (true, state) =>
        { returned := true, result := .success value, after := state.succeeded }

def clear (state : HostNativeDispatchStateV2) : Bool × HostNativeDispatchStateV2 :=
  if state.submission.isSome then
    (false, state.fail .busy .busy "cannot clear an admitted submission")
  else
    match state.releaseKernarg with
    | (false, state) => (false, state)
    | (true, state) =>
      match state.releaseMapping with
      | (false, state) => (false, state)
      | (true, state) => (true, state.succeeded)

end HostNativeDispatchStateV2

end GemSim.Dispatch
