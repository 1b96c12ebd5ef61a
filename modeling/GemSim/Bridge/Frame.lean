import GemSim.Bridge.Protocol
import GemSim.Lib.Records

/-!
# The envelope of a record

Every record starts with a header of fixed length, which carries a checksum of the whole
record. For the checksum the bytes of the checksum itself count as zero. Numbers stand with
their highest byte first.

## Main definitions

* `load16`, `load32`, `load64`, `store16`, `store32`, `store64` — the numbers of a record
* `calculateCrc32c` — the checksum, with or without the bytes of the checksum itself
* `encodeFrame` — the record of a header and a payload
* `decodeEstablishedEnvelope` — the header and the payload of a record of an open connection
-/

namespace GemSim.Bridge

open GemSim.Lib
open GemSim.Kmt (crc32cByte)

def HeaderBytes : ℕ := 80
def CrcOffset : ℕ := 64
def UuidBytes : ℕ := 16
def CapabilityBytes : ℕ := 32
def MinimumRecordBytes : UInt32 := 4096
def MaximumRecordBytes : UInt32 := 65536
def MaximumHandshakeBytes : UInt32 := 4096

/-- The characters "GSIMRPC" and a zero. -/
def Magic : List UInt8 := [0x47, 0x53, 0x49, 0x4d, 0x52, 0x50, 0x43, 0]

def load16 (record : List UInt8) (offset : ℕ) : UInt16 :=
  UInt16.ofNat (ofBigEndian (bytesAt record offset 2))

def load32 (record : List UInt8) (offset : ℕ) : UInt32 :=
  UInt32.ofNat (ofBigEndian (bytesAt record offset 4))

def load64 (record : List UInt8) (offset : ℕ) : UInt64 :=
  UInt64.ofNat (ofBigEndian (bytesAt record offset 8))

def loadBytes (count : ℕ) (record : List UInt8) (offset : ℕ) : Vector UInt8 count :=
  Vector.ofFn fun index => record[offset + index.val]?.getD 0

def store16 (record : List UInt8) (offset : ℕ) (value : UInt16) : List UInt8 :=
  storeAt record offset (bigEndian 2 value.toNat)

def store32 (record : List UInt8) (offset : ℕ) (value : UInt32) : List UInt8 :=
  storeAt record offset (bigEndian 4 value.toNat)

def store64 (record : List UInt8) (offset : ℕ) (value : UInt64) : List UInt8 :=
  storeAt record offset (bigEndian 8 value.toNat)

def isZero {count : ℕ} (value : Vector UInt8 count) : Bool := value.all fun byte => byte == 0

/-- The byte at an index as it counts for the checksum. -/
def checkedByte (zeroRecordChecksum : Bool) (index : ℕ) (byte : UInt8) : UInt8 :=
  if zeroRecordChecksum ∧ CrcOffset ≤ index ∧ index < CrcOffset + 4 then 0 else byte

def calculateCrc32c (data : List UInt8) (zeroRecordChecksum : Bool) : UInt32 :=
  (data.mapIdx (checkedByte zeroRecordChecksum)).foldl crc32cByte 0xffffffff ^^^ 0xffffffff

def encodeFrame (header : Header) (payload : List UInt8) : List UInt8 :=
  let frame := List.replicate (HeaderBytes + payload.length) 0
  let frame := storeAt frame 0 Magic
  let frame := store16 frame 8 1
  let frame := store16 frame 10 0
  let frame := store16 frame 12 (UInt16.ofNat HeaderBytes)
  let frame := store16 frame 14 header.messageType
  let frame := store32 frame 16 0
  let frame := store32 frame 20 (UInt32.ofNat payload.length)
  let frame := store64 frame 24 header.requestId
  let frame := storeAt frame 32 header.daemonUuid.toList
  let frame := store64 frame 48 header.connectionId
  let frame := store64 frame 56 header.jobEpoch
  let frame := storeAt frame HeaderBytes payload
  store32 frame CrcOffset (calculateCrc32c frame true)

/-- The identities of a header. -/
def loadHeader (record : List UInt8) : Header :=
  { messageType := load16 record 14
    requestId := load64 record 24
    daemonUuid := loadBytes UuidBytes record 32
    connectionId := load64 record 48
    jobEpoch := load64 record 56 }

/-- The record carries its own checksum. -/
def checksumValid (record : List UInt8) : Bool :=
  calculateCrc32c record true == load32 record CrcOffset

/-- The header and the payload of a record, or the reason to drop it. -/
def decodeEstablishedEnvelope (record : List UInt8) (configuredMaximum : UInt32) :
    Except String (Header × List UInt8) :=
  if record.length < HeaderBytes ∨ record.length > MaximumRecordBytes.toNat ∨
      record.length > configuredMaximum.toNat then
    .error "record size"
  else if bytesAt record 0 8 ≠ Magic ∨ load16 record 8 ≠ 1 ∨ load16 record 10 ≠ 0 then
    .error "framing"
  else if (load16 record 12).toNat ≠ HeaderBytes ∨
      (load32 record 20).toNat ≠ record.length - HeaderBytes ∨ load32 record 16 ≠ 0 then
    .error "record envelope"
  else
    let header := loadHeader record
    if header.requestId = 0 ∨ header.connectionId = 0 ∨ isZero header.daemonUuid ∨
        header.jobEpoch = 0 ∨ load32 record 68 ≠ 0 ∨ load64 record 72 ≠ 0 then
      .error "request identity or reserved field"
    else if !checksumValid record then .error "CRC32C"
    else .ok (header, record.drop HeaderBytes)

end GemSim.Bridge
