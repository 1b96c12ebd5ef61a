import GemSim.Bridge.Frame

/-!
# The first record of a connection

A client opens a connection with a HELLO: fixed fields, then fields of a type, flags and a
length of their own, each padded with zeros to a multiple of eight bytes. No type stands
twice. Fields of an unknown type are kept if they are optional and noted if they are critical.

## Main definitions

* `Hello`, `Topology`, `Tlv`, `DecodeResult` — what the record says
* `parseTlvs` — the walk over the fields of variable length
* `decodeHelloRecord`, `encodeHello` — from a record, and to one
-/

namespace GemSim.Bridge

open GemSim.Lib
open GemSim.Kmt (Status)

def HelloFixedBytes : ℕ := 96
def TopologyValueBytes : ℕ := 24
def TopologyTlvType : UInt16 := 1
def CriticalTlvFlag : UInt16 := 1
def RuntimeRole : UInt16 := 1

/-- The message types of a HELLO and of its answer. -/
def MessageHello : UInt16 := 1
def MessageHelloAck : UInt16 := 2

abbrev Capabilities := Vector UInt8 CapabilityBytes
abbrev Nonce := Uuid

structure Topology where
  jobUuid : Uuid := Vector.replicate _ 0
  rank : UInt32 := 0
  worldSize : UInt32 := 0
  deriving DecidableEq

structure Tlv where
  type : UInt16 := 0
  flags : UInt16 := 0
  value : List UInt8 := []
  deriving DecidableEq

structure Hello where
  minimumMajor : UInt16 := 1
  minimumMinor : UInt16 := 0
  maximumMajor : UInt16 := 1
  maximumMinor : UInt16 := 0
  clientNonce : Nonce := Vector.replicate _ 0
  offered : Capabilities := Vector.replicate _ 0
  required : Capabilities := Vector.replicate _ 0
  receiveMaximum : UInt32 := MaximumRecordBytes
  topology : Topology := {}
  hasTopology : Bool := true
  optionalTlvs : List Tlv := []
  unknownCriticalTlv : Bool := false
  deriving DecidableEq

inductive DecodeAction where
  | drop
  | acknowledge
  deriving DecidableEq

structure DecodeResult where
  action : DecodeAction := .drop
  closeConnection : Bool := true
  status : Status := .malformed
  reason : String := ""
  header : Header := {}
  hello : Hello := {}
  hasHello : Bool := false
  deriving DecidableEq

def drop (reason : String) : DecodeResult := { reason := reason }

def acknowledge (status : Status) (reason : String) (header : Header) (hello : Hello) :
    DecodeResult :=
  { action := .acknowledge
    status := status
    reason := reason
    header := header
    hello := hello
    hasHello := true }

def versionOrdered (hello : Hello) : Bool :=
  hello.minimumMajor < hello.maximumMajor ||
    (hello.minimumMajor == hello.maximumMajor && hello.minimumMinor ≤ hello.maximumMinor)

def capabilitySubset (subset superset : Capabilities) : Bool :=
  (List.finRange CapabilityBytes).all fun index => subset[index] &&& ~~~superset[index] == 0

def appendTlv (payload : List UInt8) (type flags : UInt16) (value : List UInt8) : List UInt8 :=
  let start := payload.length
  let payload := payload ++ List.replicate (roundUp (8 + value.length) 8) 0
  let payload := store16 payload start type
  let payload := store16 payload (start + 2) flags
  let payload := store32 payload (start + 4) (UInt32.ofNat value.length)
  storeAt payload (start + 8) value

def appendTopology (payload : List UInt8) (topology : Topology) : List UInt8 :=
  let encoded := storeAt (List.replicate TopologyValueBytes 0) 0 topology.jobUuid.toList
  let encoded := store32 encoded 16 topology.rank
  let encoded := store32 encoded 20 topology.worldSize
  appendTlv payload TopologyTlvType CriticalTlvFlag encoded

/-- The topology of a field. -/
def loadTopology (data : List UInt8) (offset : ℕ) : Topology :=
  { jobUuid := loadBytes UuidBytes data offset
    rank := load32 data (offset + 16)
    worldSize := load32 data (offset + 20) }

/-- A field of variable length at its place; its padding ends where the next one starts. -/
structure TlvSpan where
  type : UInt16
  flags : UInt16
  valueOffset : ℕ
  valueEnd : ℕ
  paddedEnd : ℕ

/-- The field at an offset, or why there is none. -/
def readTlv (data : List UInt8) (seen : List UInt16) (offset : ℕ) : Except String TlvSpan :=
  if data.length - offset < 8 then .error "truncated TLV header"
  else
    let type := load16 data offset
    let flags := load16 data (offset + 2)
    let valueSize := (load32 data (offset + 4)).toNat
    if flags &&& ~~~CriticalTlvFlag ≠ 0 then .error "invalid TLV flags"
    else if type ∈ seen then .error "duplicate TLV type"
    else
      let valueOffset := offset + 8
      if valueSize > data.length - valueOffset then .error "truncated TLV value"
      else
        let valueEnd := valueOffset + valueSize
        if valueEnd > u64Max.toNat - 7 then .error "TLV length overflow"
        else
          let paddedEnd := roundUp valueEnd 8
          if paddedEnd > data.length then .error "truncated TLV padding"
          else if (bytesAt data valueEnd (paddedEnd - valueEnd)).any fun byte => byte != 0 then
            .error "nonzero TLV padding"
          else if type = TopologyTlvType ∧
              (flags ≠ CriticalTlvFlag ∨ valueSize ≠ TopologyValueBytes) then
            .error "malformed topology TLV"
          else
            .ok
              { type := type
                flags := flags
                valueOffset := valueOffset
                valueEnd := valueEnd
                paddedEnd := paddedEnd }

/-- What a field says. -/
def noteTlv (data : List UInt8) (hello : Hello) (span : TlvSpan) : Hello :=
  if span.type = TopologyTlvType then
    { hello with topology := loadTopology data span.valueOffset, hasTopology := true }
  else if span.flags &&& CriticalTlvFlag ≠ 0 then { hello with unknownCriticalTlv := true }
  else
    { hello with
      optionalTlvs := hello.optionalTlvs ++
        [{ type := span.type
           flags := span.flags
           value := bytesAt data span.valueOffset (span.valueEnd - span.valueOffset) }] }

theorem readTlv_advances {data : List UInt8} {seen : List UInt16} {offset : ℕ} {span : TlvSpan}
    (read : readTlv data seen offset = .ok span) : offset < span.paddedEnd := by
  unfold readTlv at read
  dsimp only at read
  split_ifs at read
  obtain rfl := Except.ok.inj read
  exact Nat.lt_of_lt_of_le (by omega) (le_roundUp (by decide))

/-- The loop over the fields: what they say up to the end or to a failure, and the failure. -/
def walkTlvs (data : List UInt8) (seen : List UInt16) (offset : ℕ) (hello : Hello) :
    Hello × Option String :=
  if offset < data.length then
    match _read : readTlv data seen offset with
    | .error reason => (hello, some reason)
    | .ok span => walkTlvs data (span.type :: seen) span.paddedEnd (noteTlv data hello span)
  else (hello, none)
termination_by data.length - offset
decreasing_by
  have := readTlv_advances _read
  omega

def parseTlvs (data : List UInt8) (hello : Hello) : Hello × Option String :=
  walkTlvs data [] 0 { hello with hasTopology := false }

/-- The fixed fields of a HELLO. -/
def loadHello (payload : List UInt8) : Hello :=
  { minimumMajor := load16 payload 0
    minimumMinor := load16 payload 2
    maximumMajor := load16 payload 4
    maximumMinor := load16 payload 6
    clientNonce := loadBytes UuidBytes payload 8
    offered := loadBytes CapabilityBytes payload 24
    required := loadBytes CapabilityBytes payload 56
    receiveMaximum := load32 payload 88 }

def decodeHelloRecord (record : List UInt8) (configuredMaximum : UInt32) : DecodeResult :=
  if record.length < HeaderBytes ∨ record.length > MaximumRecordBytes.toNat ∨
      record.length > MaximumHandshakeBytes.toNat ∨
      record.length > configuredMaximum.toNat then
    drop "record size"
  else if bytesAt record 0 8 ≠ Magic ∨ load16 record 8 ≠ 1 ∨ load16 record 10 ≠ 0 then
    drop "framing"
  else if (load16 record 12).toNat ≠ HeaderBytes ∨
      (load32 record 20).toNat ≠ record.length - HeaderBytes then
    drop "record length"
  else
    let rawType := load16 record 14
    if (rawType ≠ MessageHello ∧ rawType ≠ MessageHelloAck) ∨ load32 record 16 ≠ 0 then
      drop "message type or flags"
    else
      let header := loadHeader record
      if header.requestId = 0 ∨ load32 record 68 ≠ 0 ∨ load64 record 72 ≠ 0 then
        drop "request or reserved field"
      else if !checksumValid record then drop "CRC32C"
      else
        let payload := record.drop HeaderBytes
        if header.messageType ≠ MessageHello then drop "expected HELLO"
        else if header.connectionId ≠ 0 then drop "HELLO connection ID"
        else if payload.length < HelloFixedBytes then drop "uncorrelatable short HELLO"
        else
          let hello := loadHello payload
          let role := load16 payload 92
          let reserved := load16 payload 94
          if isZero hello.clientNonce then drop "zero client nonce"
          else if role ≠ RuntimeRole ∨ reserved ≠ 0 ∨
              hello.receiveMaximum < MinimumRecordBytes ∨
              hello.receiveMaximum > MaximumRecordBytes ∨ !versionOrdered hello ∨
              !capabilitySubset hello.required hello.offered then
            acknowledge .malformed "invalid HELLO fixed fields" header hello
          else
            match parseTlvs (payload.drop HelloFixedBytes) hello with
            | (hello, some reason) => acknowledge .malformed reason header hello
            | (hello, none) =>
              let topologyOffered := hello.offered[0] &&& 1 != 0
              if hello.hasTopology ≠ topologyOffered then
                acknowledge .malformed "topology TLV/capability mismatch" header hello
              else acknowledge .ok "valid HELLO" header hello

def encodeHello (header : Header) (hello : Hello) : List UInt8 :=
  let payload := List.replicate HelloFixedBytes 0
  let payload := store16 payload 0 hello.minimumMajor
  let payload := store16 payload 2 hello.minimumMinor
  let payload := store16 payload 4 hello.maximumMajor
  let payload := store16 payload 6 hello.maximumMinor
  let payload := storeAt payload 8 hello.clientNonce.toList
  let payload := storeAt payload 24 hello.offered.toList
  let payload := storeAt payload 56 hello.required.toList
  let payload := store32 payload 88 hello.receiveMaximum
  let payload := store16 payload 92 RuntimeRole
  let payload := if hello.hasTopology then appendTopology payload hello.topology else payload
  let payload := hello.optionalTlvs.foldl
    (fun payload tlv => appendTlv payload tlv.type tlv.flags tlv.value) payload
  encodeFrame { header with messageType := MessageHello, connectionId := 0 } payload

end GemSim.Bridge
