import GemSim.Bridge.Protocol
import GemSim.Lib.Records
import GemSim.Lib.Streams

/-!
# The tape of the bridge

The bridge can append every record that crosses its wire to a file. A record is written at once,
with a header of its own, by as many calls of the system as it takes. A call that fails tears the
tape: the descriptor is closed, and later records are only counted. A decoder walks the file by
the lengths in the headers.

## Main definitions

* `encodeFileHeader`, `encodeRecordHeader` — the headers
* `Writev` — what a call of the system answers
* `writeAll`, `adopt`, `append` — the operations of the tape
* `runAppends` — a sequence of appends
* `iter_records` — the decoder
-/

namespace GemSim.Bridge.HostGPUBridgeTape

open GemSim.Lib

/-- Whether a record came from a client or went to one. -/
inductive Direction where
  | Ingress
  | Egress
  deriving DecidableEq

def Direction.code : Direction → ℕ
  | Ingress => 0
  | Egress => 1

/-- The run that a tape belongs to. -/
structure Identity where
  tickFrequencyHz : UInt64 := 0
  epoch : UInt64 := 0
  rank : UInt32 := 0
  worldSize : UInt32 := 0
  maximumRecord : UInt32 := 0
  daemonUuid : Uuid := Vector.replicate _ 0
  jobUuid : Uuid := Vector.replicate _ 0

def FileHeaderBytes : ℕ := 80
def RecordHeaderBytes : ℕ := 48
def FormatMajor : ℕ := 1
def FormatMinor : ℕ := 0

/-- The characters "GSBRTAPE". -/
def Magic : List UInt8 := [0x47, 0x53, 0x42, 0x52, 0x54, 0x41, 0x50, 0x45]

def EINTR : ℤ := 4
def EBADF : ℤ := 9
def EBUSY : ℤ := 16
def ENOSPC : ℤ := 28

section Encoding

def storeBigEndian (record : List UInt8) (offset value width : ℕ) : List UInt8 :=
  storeAt record offset (bigEndian width value)

def encodeFileHeader (identity : Identity) : List UInt8 :=
  let header := List.replicate FileHeaderBytes 0
  let header := storeAt header 0 Magic
  let header := storeBigEndian header 8 FormatMajor 2
  let header := storeBigEndian header 10 FormatMinor 2
  let header := storeBigEndian header 12 FileHeaderBytes 2
  let header := storeBigEndian header 14 RecordHeaderBytes 2
  let header := storeBigEndian header 16 identity.tickFrequencyHz.toNat 8
  let header := storeBigEndian header 24 identity.epoch.toNat 8
  let header := storeBigEndian header 32 identity.rank.toNat 4
  let header := storeBigEndian header 36 identity.worldSize.toNat 4
  let header := storeBigEndian header 40 identity.maximumRecord.toNat 4
  let header := storeAt header 48 identity.daemonUuid.toList
  storeAt header 64 identity.jobUuid.toList

def encodeRecordHeader (direction : Direction) (carrier : Bool) (clientFd : Int32)
    (generation sequence simulatedTick monotonicNs : UInt64) (recordBytes : ℕ) : List UInt8 :=
  let header := List.replicate RecordHeaderBytes 0
  let header := storeBigEndian header 0 direction.code 1
  let header := storeBigEndian header 1 (if carrier then 1 else 0) 1
  let header := storeBigEndian header 4 clientFd.toUInt32.toNat 4
  let header := storeBigEndian header 8 recordBytes 4
  let header := storeBigEndian header 16 generation.toNat 8
  let header := storeBigEndian header 24 sequence.toNat 8
  let header := storeBigEndian header 32 simulatedTick.toNat 8
  storeBigEndian header 40 monotonicNs.toNat 8

end Encoding

end HostGPUBridgeTape

open HostGPUBridgeTape in
/-- The state of a tape. A descriptor below zero is closed. -/
structure HostGPUBridgeTape where
  descriptor : ℤ := -1
  sequence : UInt64 := 0
  appendedRecords : UInt64 := 0
  droppedRecords : UInt64 := 0
  failureErrno : ℤ := 0

namespace HostGPUBridgeTape

open GemSim.Lib

/-- A tape and the file behind its descriptor. -/
structure Recording where
  tape : HostGPUBridgeTape
  file : List UInt8

/-- What a call of the system answers: how many bytes it takes of those it is offered, or an
error. -/
inductive Writev where
  | wrote (count : ℕ)
  | failed (errno : ℤ)

section Writing

def close (tape : HostGPUBridgeTape) : HostGPUBridgeTape :=
  if tape.descriptor < 0 then tape else { tape with descriptor := -1 }

def Recording.fail (recording : Recording) (errno : ℤ) : Recording :=
  { recording with tape := close { recording.tape with failureErrno := errno } }

/-- The loop over the vectors that are left. It has not returned while the calls whose answers
are known are not enough. -/
def writeLoop : List Writev → List (List UInt8) → Recording → Option Bool × Recording
  | [], vectors, recording => (if vectors.isEmpty then some true else none, recording)
  | .failed errno :: calls, vectors, recording =>
    if vectors.isEmpty then (some true, recording)
    else if errno = EINTR then writeLoop calls vectors recording
    else (some false, recording.fail errno)
  | .wrote count :: calls, vectors, recording =>
    if vectors.isEmpty then (some true, recording)
    else
      let written := min count vectors.flatten.length
      if written = 0 then (some false, recording.fail ENOSPC)
      else writeLoop calls (advance vectors written)
        { recording with file := recording.file ++ vectors.flatten.take written }

def writeAll (calls : List Writev) (header bytes : List UInt8) (recording : Recording) :
    Option Bool × Recording :=
  writeLoop calls (header :: if bytes.length ≠ 0 then [bytes] else []) recording

end Writing

section Operations

/-- The tape takes a descriptor of an empty file, or gives the reason why it does not. -/
def adopt (fd : ℤ) (identity : Identity) (calls : List Writev) (recording : Recording) :
    Option (Except ℤ Unit) × Recording :=
  if fd < 0 then (some (.error EBADF), recording)
  else if recording.tape.descriptor ≥ 0 then (some (.error EBUSY), recording)
  else
    let adopted := { recording with tape := { recording.tape with descriptor := fd } }
    let result := writeAll calls (encodeFileHeader identity) [] adopted
    (result.1.map fun written => if written then .ok () else .error result.2.tape.failureErrno,
      result.2)

/-- A call of `append`: its arguments, the clock it samples and what the system answers. A null
pointer comes with a length of its own. -/
structure Append where
  direction : Direction
  clientFd : Int32
  generation : UInt64
  simulatedTick : UInt64
  carrier : Bool
  bytes : Option (List UInt8)
  length : ℕ
  backed : ∀ record ∈ bytes, record.length = length
  monotonicNs : UInt64
  calls : List Writev

/-- The record of a call. -/
def Append.record (call : Append) : List UInt8 := call.bytes.getD []

/-- The header of a call's record under a sequence number. -/
def Append.header (call : Append) (sequence : UInt64) : List UInt8 :=
  encodeRecordHeader call.direction call.carrier call.clientFd call.generation sequence
    call.simulatedTick call.monotonicNs call.length

def Recording.drop (recording : Recording) : Recording :=
  { recording with
    tape := { recording.tape with droppedRecords := recording.tape.droppedRecords + 1 } }

/-- Whether the record has been appended. The call may be waiting for the system. -/
def append (call : Append) (recording : Recording) : Option Bool × Recording :=
  if recording.tape.descriptor < 0 ∨ call.length > UInt32.size - 1 ∨
      call.length ≠ 0 ∧ call.bytes = none then
    (some false, recording.drop)
  else
    let result := writeAll call.calls (call.header (recording.tape.sequence + 1)) call.record
      recording
    match result.1 with
    | none => result
    | some false => (some false, result.2.drop)
    | some true =>
      (some true,
        { result.2 with
          tape :=
            { result.2.tape with
              sequence := result.2.tape.sequence + 1
              appendedRecords := result.2.tape.appendedRecords + 1 } })

/-- The results of the calls that return, and what they leave. -/
def runAppends : List Append → Recording → List Bool × Recording
  | [], recording => ([], recording)
  | call :: rest, recording =>
    let result := append call recording
    match result.1 with
    | none => ([], result.2)
    | some appended =>
      let later := runAppends rest result.2
      (appended :: later.1, later.2)

end Operations

section Decoding

/-- An entry of the decoder, with the bytes it hashes and previews. -/
structure Entry where
  sequence : ℕ
  direction : Option Direction
  carrier : Bool
  flags : ℕ
  client_fd : ℕ
  generation : ℕ
  sim_tick : ℕ
  monotonic_ns : ℕ
  record_bytes : ℕ
  record : List UInt8
  deriving DecidableEq

def fieldAt (header : List UInt8) (offset count : ℕ) : ℕ := ofBigEndian (bytesAt header offset count)

instance : NeZero RecordHeaderBytes := ⟨by decide⟩

/-- How many bytes follow a header. -/
def recordBytes (header : List UInt8) : ℕ := fieldAt header 8 4

def DIRECTIONS (code : ℕ) : Option Direction :=
  match code with
  | 0 => some .Ingress
  | 1 => some .Egress
  | _ => none

def entryOf (frame : List UInt8 × List UInt8) : Entry where
  sequence := fieldAt frame.1 24 8
  direction := DIRECTIONS (fieldAt frame.1 0 1)
  carrier := fieldAt frame.1 1 1 ≠ 0
  flags := fieldAt frame.1 2 2
  client_fd := fieldAt frame.1 4 4
  generation := fieldAt frame.1 16 8
  sim_tick := fieldAt frame.1 32 8
  monotonic_ns := fieldAt frame.1 40 8
  record_bytes := recordBytes frame.1
  record := frame.2

/-- The entries of a stream of records, and whether it is truncated. -/
def iter_records (stream : List UInt8) : List Entry × Bool :=
  let read := frames RecordHeaderBytes recordBytes stream
  (read.1.map entryOf, read.2)

structure FileHeader where
  format_major : ℕ
  format_minor : ℕ
  record_header_bytes : ℕ
  tick_frequency_hz : ℕ
  epoch : ℕ
  rank : ℕ
  world_size : ℕ
  maximum_record : ℕ
  daemon_uuid : List UInt8
  job_uuid : List UInt8
  deriving DecidableEq

def read_file_header (raw : List UInt8) : Except String FileHeader :=
  if raw.length ≠ FileHeaderBytes then .error "tape is shorter than one file header"
  else if bytesAt raw 0 8 ≠ Magic then .error "tape magic mismatch"
  else
    let major := fieldAt raw 8 2
    if major ≠ FormatMajor then .error s!"unsupported tape format major {major}"
    else
      let file_header_bytes := fieldAt raw 12 2
      let record_header_bytes := fieldAt raw 14 2
      if file_header_bytes ≠ FileHeaderBytes then
        .error s!"unexpected file header size {file_header_bytes}"
      else if record_header_bytes ≠ RecordHeaderBytes then
        .error s!"unexpected record header size {record_header_bytes}"
      else
        .ok
          { format_major := major
            format_minor := fieldAt raw 10 2
            record_header_bytes := record_header_bytes
            tick_frequency_hz := fieldAt raw 16 8
            epoch := fieldAt raw 24 8
            rank := fieldAt raw 32 4
            world_size := fieldAt raw 36 4
            maximum_record := fieldAt raw 40 4
            daemon_uuid := bytesAt raw 48 16
            job_uuid := bytesAt raw 64 16 }

end Decoding

end GemSim.Bridge.HostGPUBridgeTape
