import GemSim.Kmt.State

/-!
# Calls and responses

A request whose connection was found becomes a call. Its handler returns the state
after it, the response, and the generation it took, if it took one.

## Main definitions

* `Env` — what the run of one request takes from outside the state
* `Call` — a request with the session it was resolved to
* `Submitted` — state, decision and issued generation of one request
* `refuse`, `answer` — results that leave the state alone
-/

namespace GemSim.Kmt

open GemSim.Lib HostGPUKmtState

/-- What one request takes from outside: the simulator's clock, and whether filling
a slot runs out of memory. -/
structure Env where
  curTick : UInt64 := 0
  badAlloc : Bool := false

/-- A request whose session was found; `session` already carries the request's
sequence number. -/
structure Call where
  env : Env
  header : Header
  request : KmtRequest
  slot : Fin MaximumOwners
  session : Session

/-- The result of one request. `issued` records the generation taken while it ran. -/
structure Submitted where
  state : HostGPUKmtState
  decision : Decision
  issued : Option (GenerationKind × UInt64) := none

def responseFor (request : KmtRequest) : KmtResponse where
  operation := request.operation
  flags := request.flags
  operationSequence := request.operationSequence
  ownerId := request.ownerId
  ownerGeneration := request.ownerGeneration
  objectId := request.objectId
  objectGeneration := request.objectGeneration
  auxId := request.auxId
  auxGeneration := request.auxGeneration

def wireFailure (request : KmtRequest) (status : Status) : Decision where
  response := { responseFor request with status := .success, wireStatus := status.code }

def providerFailure (request : KmtRequest) (status : KmtStatus) : Decision where
  response := { responseFor request with status := status, wireStatus := Status.ok.code }

def invalidParameter (request : KmtRequest) : Decision :=
  providerFailure request .invalidParameter

def invalidHandle (request : KmtRequest) : Decision := providerFailure request .invalidHandle

/-- Object pair, aux pair, unused words and copied bytes have the operation's shape. -/
def shapeValid (request : KmtRequest) (objectRequired : Bool) (copiedBytes : UInt64)
    (usedWords : List (Fin KmtArgumentWordCount)) : Bool :=
  (if objectRequired then pairPresent request.objectId request.objectGeneration
    else pairAbsent request.objectId request.objectGeneration) &&
  pairAbsent request.auxId request.auxGeneration &&
  noWordsExcept request.argumentWords usedWords &&
  request.copiedBytes.toUInt64 == copiedBytes &&
  (if copiedBytes == 0 then request.copiedCrc32c == 0
    else crc32c (request.copiedBuffer.leading copiedBytes) == request.copiedCrc32c)

/-- The decision a resolved request starts from. -/
def Call.decision (call : Call) : Decision where
  sequenceConsumed := true
  response := { responseFor call.request with
    ownerId := call.session.ownerId
    ownerGeneration := call.session.ownerGeneration
    wireStatus := Status.ok.code }

/-- The decision of a resolved request with its response words and object filled in. -/
def Call.succeed (call : Call) (fill : KmtResponse → KmtResponse) : Decision :=
  { call.decision with response := fill call.decision.response }

/-- The decision of a resolved request that fails; nothing of a result is left. -/
def Call.fail (call : Call) (status : KmtStatus) : Decision :=
  call.succeed fun response => { response with
    status := status
    objectId := call.request.objectId
    objectGeneration := call.request.objectGeneration
    resultWords := Vector.replicate _ 0
    resultBytes := 0
    resultCrc32c := 0
    copiedResult := Vector.replicate _ 0 }

/-- Refuse the request and leave the state alone. -/
def refuse (state : HostGPUKmtState) (call : Call) (status : KmtStatus) : Submitted :=
  { state := state, decision := call.fail status }

def malformed (state : HostGPUKmtState) (call : Call) : Submitted :=
  refuse state call .invalidParameter

/-- Answer the request and leave the state alone. -/
def answer (state : HostGPUKmtState) (call : Call) (fill : KmtResponse → KmtResponse) : Submitted :=
  { state := state, decision := call.succeed fill }

end GemSim.Kmt
