import GemSim.Kmt.Call

/-!
# Session operations

The operations that read or configure the connection itself: closing it, version,
clock and topology queries, VM acquisition, memory policy, scratch backing and the
export of the shared backing file.
-/

namespace GemSim.Kmt

open GemSim.Lib HostGPUKmtState

variable (state : HostGPUKmtState) (call : Call)

def closeKfd : Submitted :=
  if !shapeValid call.request false 0 [] then malformed state call
  else if state.holdsObjects call.session then refuse state call .outOfResources
  else
    { state := state.releaseSession call.slot
      decision := call.succeed fun response => { response with
        objectId := 0
        objectGeneration := 0
        ownerId := call.session.ownerId
        ownerGeneration := call.session.ownerGeneration } }

def getVersion : Submitted :=
  if !shapeValid call.request false 0 [] then malformed state call
  else answer state call fun response => { response with
    resultWords := setWord (setWord (setWord (setWord response.resultWords 0 1) 1 9) 2 0) 3 0 }

/-- A misshapen clock request is answered by `invalidParameter`, which reports its
sequence number as not consumed. -/
def getClockCounters : Submitted :=
  if !shapeValid call.request false 0 [0] || wordAt call.request.argumentWords 0 != VisibleGpuId then
    { state := state, decision := invalidParameter call.request }
  else
    let sampled := state.sampleClockNanoseconds call.env.curTick
    { state := sampled.2
      decision := call.succeed fun response => { response with
        resultWords := setWords (setWords (setWords (setWords response.resultWords 0 1 sampled.1)
          2 3 sampled.1) 4 5 sampled.1) 6 7 ClockFrequencyHz } }

/-- The topology page: one node, one GPU, and the table capacities. -/
def topologyBuffer (jobEpoch : UInt64) (buffer : Buffer) : Buffer :=
  let buffer := store16 (store16 buffer 0 1) 2 0
  let buffer := store64 (store32 buffer 4 1) 8 jobEpoch
  let buffer := store32 (store32 (store32 buffer 16 950) 20 1) 24 64
  let buffer := store32 (store32 buffer 28 65536) 32 48
  let buffer := store32 (store32 (store32 buffer 36 MaximumQueues.toUInt32) 40
    MaximumAllocations.toUInt32) 44 MaximumEvents.toUInt32
  store16 (store16 buffer 48 1) 50 1

def topologySnapshot : Submitted :=
  if !shapeValid call.request false 0 [] then malformed state call
  else answer state call fun response =>
    let buffer := topologyBuffer call.header.jobEpoch response.copiedResult
    { response with
      objectId := 1
      objectGeneration := call.header.jobEpoch
      resultWords := setWords (setWord (setWord (setWord response.resultWords 0 1) 1 1) 2 0) 4 5
        call.header.jobEpoch
      resultBytes := 64
      copiedResult := buffer
      resultCrc32c := crc32c (buffer.leading 64) }

def aperturesBuffer (buffer : Buffer) : Buffer :=
  let buffer := store64 (store64 buffer 0 LdsBase) 8 LdsLimit
  let buffer := store64 (store64 buffer 16 ScratchBase) 24 ScratchLimit
  let buffer := store64 (store64 buffer 32 GpuvmBase) 40 GpuvmLimit
  store32 (store32 buffer 48 VisibleGpuId) 52 0

def processApertures : Submitted :=
  if !shapeValid call.request false 0 [0, 1] then malformed state call
  else
    let start := wordAt call.request.argumentWords 0
    let capacity := wordAt call.request.argumentWords 1
    let total : UInt32 := 1
    if capacity > ProcessAperturesPerPage || start > total then malformed state call
    else
      let returned := min capacity (total - start)
      answer state call fun response =>
        let response := { response with
          resultWords := setWord (setWord (setWord response.resultWords 0 start) 1 returned) 2 total }
        if returned != 0 then
          let buffer := aperturesBuffer response.copiedResult
          { response with
            copiedResult := buffer
            resultBytes := 56
            resultCrc32c := crc32c (buffer.leading 56) }
        else response

/-- Replace the session of the call and answer with the plain decision. -/
def configure (session : Session) : Submitted :=
  { state := state.withSession call.slot session, decision := call.decision }

def acquireVm : Submitted :=
  let gpuId := wordAt call.request.argumentWords 0
  let renderMinor := wordAt call.request.argumentWords 1
  let session := call.session
  if !shapeValid call.request false 0 [0, 1] || gpuId != VisibleGpuId || renderMinor < 128 ||
      renderMinor > 255 then malformed state call
  else if session.acquiredGpuId != 0 &&
      (session.acquiredGpuId != gpuId || session.acquiredRenderMinor != renderMinor) then
    refuse state call .invalidParameter
  else configure state call
    { session with acquiredGpuId := gpuId, acquiredRenderMinor := renderMinor }

def setMemoryPolicy : Submitted :=
  if !shapeValid call.request false 0 [0, 1, 2, 3, 4, 5, 6, 7] then malformed state call
  else
    let gpuId := wordAt call.request.argumentWords 0
    let defaultPolicy := wordAt call.request.argumentWords 1
    let alternatePolicy := wordAt call.request.argumentWords 2
    let miscFlags := wordAt call.request.argumentWords 3
    let base := splitWords call.request.argumentWords 4 5
    let size := splitWords call.request.argumentWords 6 7
    let session := call.session
    if gpuId != VisibleGpuId || (defaultPolicy != 0 && defaultPolicy != 1) ||
        (alternatePolicy != 0 && alternatePolicy != 1) || size == 0 || base > u64Max - size ||
        (base &&& 0xffff) != 0 || (size &&& 0xffff) != 0 then malformed state call
    else if session.memoryPolicySet &&
        (session.memoryPolicyGpuId != gpuId || session.memoryPolicyDefault != defaultPolicy ||
          session.memoryPolicyAlternate != alternatePolicy ||
          session.memoryPolicyMisc != miscFlags || session.memoryPolicyBase != base ||
          session.memoryPolicySize != size) then
      refuse state call .invalidParameter
    else configure state call { session with
      memoryPolicySet := true
      memoryPolicyGpuId := gpuId
      memoryPolicyDefault := defaultPolicy
      memoryPolicyAlternate := alternatePolicy
      memoryPolicyMisc := miscFlags
      memoryPolicyBase := base
      memoryPolicySize := size }

def setScratchBackingVa : Submitted :=
  if !shapeValid call.request false 0 [0, 1, 2] then malformed state call
  else
    let gpuId := wordAt call.request.argumentWords 0
    let va := splitWords call.request.argumentWords 1 2
    let session := call.session
    if gpuId != VisibleGpuId || va == 0 || (va &&& 0xffff) != 0 then malformed state call
    else if session.scratchBackingSet &&
        (session.scratchBackingGpuId != gpuId || session.scratchBackingVa != va) then
      refuse state call .invalidParameter
    else configure state call
      { session with scratchBackingSet := true, scratchBackingGpuId := gpuId, scratchBackingVa := va }

/-- The backing geometry `ExportBacking` admits. -/
def backingValid (bytes : UInt64) (pageBytes : UInt32) : Bool :=
  !(bytes < KmtSharedBackingDoorbellRegionBytes || pageBytes < 4096 ||
    (pageBytes &&& (pageBytes - 1)) != 0 || bytes % pageBytes.toUInt64 != 0 ||
    (bytes - KmtSharedBackingDoorbellRegionBytes) % KmtSharedBackingAlignmentBytes != 0)

def exportBacking : Submitted :=
  if !shapeValid call.request false 0 [0, 1, 2] then malformed state call
  else
    let bytes := splitWords call.request.argumentWords 0 1
    let pageBytes := wordAt call.request.argumentWords 2
    if !backingValid bytes pageBytes then malformed state call
    else if call.session.sharedBackingExported then refuse state call .memoryAlreadyRegistered
    else configure state call { call.session with
      sharedBackingExported := true
      sharedBackingBytes := bytes
      sharedBackingPageBytes := pageBytes }

end GemSim.Kmt
