import GemSim.Bridge.Hello

/-!
# Requests of the KMT envelope

A KMT request has fixed fields: the version, the operation and its sequence number, three
identities of an object and its generation, argument words, and a buffer whose used part has a
length and a checksum. The encoder stores the fields as they are. The decoder answers every
record that has the envelope of one, and accepts it if its fields make sense together.

## Main definitions

* `KmtRequest`, `KmtDecodeResult` — the request, and the answer of the decoder
* `decodeKmtRequestRecord`, `encodeKmtRequest` — from a record, and to one
-/

namespace GemSim.Bridge

open GemSim.Lib
open GemSim.Kmt (Status KmtCopiedBufferBytes KmtArgumentWordCount Words Buffer)

def KmtPayloadBytes : ℕ := 256
def KmtOperationMajor : UInt16 := 1
def KmtOperationMinor : UInt16 := 5
def KmtOperationOpenKfd : UInt16 := 1
def KmtOperationGetClockCounters : UInt16 := 28

/-- The message type of a KMT request. -/
def MessageKmtRequest : UInt16 := 14

/-- A request as its record carries it. The operation is a code, and may be one that is not
known. -/
structure KmtRequest where
  major : UInt16 := KmtOperationMajor
  minor : UInt16 := KmtOperationMinor
  operation : UInt16 := KmtOperationOpenKfd
  flags : UInt16 := 0
  operationSequence : UInt64 := 0
  ownerId : UInt64 := 0
  ownerGeneration : UInt64 := 0
  objectId : UInt64 := 0
  objectGeneration : UInt64 := 0
  auxId : UInt64 := 0
  auxGeneration : UInt64 := 0
  argumentWords : Words := Vector.replicate _ 0
  copiedBytes : UInt32 := 0
  copiedCrc32c : UInt32 := 0
  copiedBuffer : Buffer := Vector.replicate _ 0
  deriving DecidableEq

structure KmtDecodeResult where
  action : DecodeAction := .drop
  closeConnection : Bool := true
  status : Status := .malformed
  reason : String := ""
  header : Header := {}
  request : KmtRequest := {}
  deriving DecidableEq

def validKmtOperation (raw : UInt16) : Bool :=
  KmtOperationOpenKfd ≤ raw && raw ≤ KmtOperationGetClockCounters

/-- The checksum of some bytes that stand for themselves. -/
def crc32c (data : List UInt8) : UInt32 := calculateCrc32c data false

/-- The request in a payload. -/
def loadKmtRequest (payload : List UInt8) : KmtRequest :=
  { major := load16 payload 0
    minor := load16 payload 2
    operation := load16 payload 4
    flags := load16 payload 6
    operationSequence := load64 payload 8
    ownerId := load64 payload 16
    ownerGeneration := load64 payload 24
    objectId := load64 payload 32
    objectGeneration := load64 payload 40
    auxId := load64 payload 48
    auxGeneration := load64 payload 56
    argumentWords := Vector.ofFn fun index => load32 payload (64 + index.val * 4)
    copiedBytes := load32 payload 96
    copiedCrc32c := load32 payload 100
    copiedBuffer := loadBytes KmtCopiedBufferBytes payload 104 }

/-- The used part of the buffer. -/
def KmtRequest.copied (request : KmtRequest) : List UInt8 :=
  request.copiedBuffer.toList.take request.copiedBytes.toNat

/-- An identity is absent, or it has a generation. -/
def pairValid (id generation : UInt64) : Bool := (id == 0) == (generation == 0)

/-- The fields of a request, and the bytes behind them, contradict each other. -/
def invalidKmtFields (request : KmtRequest) (reservedZero : Bool) : Bool :=
  let ownerPair := pairValid request.ownerId request.ownerGeneration
  let objectPair := pairValid request.objectId request.objectGeneration
  let auxPair := pairValid request.auxId request.auxGeneration
  let copiedPaddingZero :=
    (request.copiedBuffer.toList.drop
      (min request.copiedBytes.toNat KmtCopiedBufferBytes)).all fun value => value == 0
  let copiedCrcValid :=
    if request.copiedBytes = 0 then request.copiedCrc32c == 0
    else request.copiedBytes.toNat ≤ KmtCopiedBufferBytes &&
      crc32c request.copied == request.copiedCrc32c
  !validKmtOperation request.operation || request.flags != 0 ||
    request.operationSequence == 0 || !ownerPair || !objectPair || !auxPair ||
    request.copiedBytes.toNat > KmtCopiedBufferBytes || !copiedPaddingZero ||
    !copiedCrcValid || !reservedZero

def decodeKmtRequestRecord (record : List UInt8) (configuredMaximum : UInt32) : KmtDecodeResult :=
  match decodeEstablishedEnvelope record configuredMaximum with
  | .error reason => { reason := reason }
  | .ok (header, payload) =>
    if header.messageType ≠ MessageKmtRequest then { reason := "expected KMT_REQUEST" }
    else if record.length - HeaderBytes ≠ KmtPayloadBytes then { reason := "KMT payload length" }
    else
      let request := loadKmtRequest payload
      let acknowledge (status : Status) (why : String) : KmtDecodeResult :=
        { action := .acknowledge
          closeConnection := false
          status := status
          reason := why
          header := header
          request := request }
      let reservedZero := (bytesAt payload 232 (KmtPayloadBytes - 232)).all fun value => value == 0
      if invalidKmtFields request reservedZero then
        acknowledge .malformed "invalid KMT fields"
      else if request.operation = KmtOperationOpenKfd ∧
          (request.ownerId ≠ 0 ∨ request.objectId ≠ 0 ∨ request.auxId ≠ 0) then
        acknowledge .malformed "OPEN_KFD carries an identity"
      else if request.major ≠ KmtOperationMajor ∨ request.minor ≠ KmtOperationMinor then
        acknowledge .unsupportedVersion "unsupported KMT operation version"
      else acknowledge .ok "valid KMT request"

/-- The payload of a request. -/
def storeKmtRequest (request : KmtRequest) : List UInt8 :=
  let payload := List.replicate KmtPayloadBytes 0
  let payload := store16 payload 0 request.major
  let payload := store16 payload 2 request.minor
  let payload := store16 payload 4 request.operation
  let payload := store16 payload 6 request.flags
  let payload := store64 payload 8 request.operationSequence
  let payload := store64 payload 16 request.ownerId
  let payload := store64 payload 24 request.ownerGeneration
  let payload := store64 payload 32 request.objectId
  let payload := store64 payload 40 request.objectGeneration
  let payload := store64 payload 48 request.auxId
  let payload := store64 payload 56 request.auxGeneration
  let payload := storeFields payload 64 4 KmtArgumentWordCount fun index =>
    bigEndian 4 (request.argumentWords[index]?.getD 0).toNat
  let payload := store32 payload 96 request.copiedBytes
  let payload := store32 payload 100 request.copiedCrc32c
  storeAt payload 104 request.copiedBuffer.toList

def encodeKmtRequest (header : Header) (request : KmtRequest) : List UInt8 :=
  encodeFrame { header with messageType := MessageKmtRequest } (storeKmtRequest request)

end GemSim.Bridge
