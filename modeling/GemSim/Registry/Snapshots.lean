import Mathlib.Logic.Function.Basic
import GemSim.Registry.LiveRegistry

/-!
# A publisher and the readers of its files

A publisher writes each document to a file of its own, which then takes the place of the registry
file. After that it rewrites the lease, some bytes at a time. A reader looks at the registry, at
the lock, at the lease and at the registry again, and starts over when these do not agree. Every
step of a publish may raise, and the process may end at any time. The steps of the publisher and of
any number of readers come in any order.

## Main definitions

* `LiveRegistryPublisher`, `publish` — the publisher, and what it checks before it writes
* `Reader`, `readLease`, `confirm` — a reader, and what it makes of the files
* `System`, `step` — the parties with their files
-/

namespace GemSim.Registry

open GemSim.Lib

/-- A mapping of the caller, which has one value to a name. -/
abbrev Published : Type := { value : Json // value.Distinct }

/-- What the publisher and its readers agree on, and how bytes are digested. -/
structure Session where
  lease_path : PurePosixPath
  session_uuid : String
  sha256 : List UInt8 → String

/-- The registry, the lease, and whether the publisher holds the lock of the lease. -/
structure Files where
  registry : Option (List UInt8)
  lease : List UInt8
  locked : Bool

section Publisher

/-- How far a publish has come. -/
inductive Stage where
  | idle
  /-- The new document stands in a file of its own. -/
  | prepared (encoded : List UInt8)
  /-- The new document has taken the place of the old one. -/
  | renamed (encoded : List UInt8)
  /-- Some bytes of the new lease are written. -/
  | leasing (encoded : List UInt8) (offset : ℕ)
  /-- The process has ended. -/
  | gone

structure LiveRegistryPublisher where
  generation : ℤ
  closed : Bool
  stage : Stage

variable (session : Session)

/-- The generation that a document names. -/
def namedGeneration : Json → Option ℤ
  | .object fields => (fields.lookup "generation").bind asInteger
  | _ => none

/-- The checks of a publish, which lead to the bytes of the document. -/
def LiveRegistryPublisher.publish (publisher : LiveRegistryPublisher) (value : Json) :
    Except RegistryError (List UInt8) := do
  if publisher.closed then throw "live registry publisher is closed"
  if namedGeneration value ≠ some (publisher.generation + 1) then
    throw ("live registry generation must advance exactly once: expected " ++
      toString (publisher.generation + 1))
  let validated ← validate_live_registry value
  if parsePath validated.lease_path.toList ≠ session.lease_path then
    throw "live registry lease_path does not match held lease"
  pure (canonicalJson value)

/-- The bytes of the lease for a document. -/
def leaseData (generation : ℤ) (encoded : List UInt8) : List UInt8 :=
  canonicalJson (leaseDocument session.session_uuid
    { registry_generation := generation, registry_sha256 := session.sha256 encoded })

/-- The next step of a publish; a write takes at most as many bytes as are asked for. -/
def advance (count : ℕ) (publisher : LiveRegistryPublisher) (files : Files) :
    LiveRegistryPublisher × Files :=
  match publisher.stage with
  | .idle | .gone => (publisher, files)
  -- the replacement is atomic, so no reader finds a part of a document
  | .prepared encoded =>
    ({ publisher with stage := .renamed encoded }, { files with registry := some encoded })
  -- the lease is truncated and then written in place
  | .renamed encoded =>
    ({ publisher with stage := .leasing encoded 0 }, { files with lease := [] })
  | .leasing encoded offset =>
    let data := leaseData session (publisher.generation + 1) encoded
    if offset < data.length then
      ({ publisher with stage := .leasing encoded (min (offset + count) data.length) },
        { files with lease := data.take (offset + count) })
    else
      -- only now is the generation counted
      ({ publisher with generation := publisher.generation + 1, stage := .idle }, files)

/-- The step that is due raises, and the publish with it. -/
def LiveRegistryPublisher.raised (publisher : LiveRegistryPublisher) : LiveRegistryPublisher :=
  match publisher.stage with
  | .gone => publisher
  -- the generation is not counted, so a later publish has to carry the same one
  | _ => { publisher with stage := .idle }

/-- The lock is given back, once no publish is under way. -/
def close (publisher : LiveRegistryPublisher) (files : Files) : LiveRegistryPublisher × Files :=
  match publisher.stage with
  | .idle => ({ publisher with closed := true }, { files with locked := false })
  | _ => (publisher, files)

/-- The lock goes with the process. -/
def kill (publisher : LiveRegistryPublisher) (files : Files) : LiveRegistryPublisher × Files :=
  ({ publisher with stage := .gone }, { files with locked := false })

end Publisher

section Readers

structure LiveSnapshot where
  registry : LiveRegistry
  lease_held : Bool

def LiveSnapshot.effective_status (snapshot : LiveSnapshot) : String :=
  if snapshot.lease_held ∧ snapshot.registry.state = "READY" then "ON" else "OFF"

/-- How far an attempt has come; the number is that of the step that read the registry first. -/
inductive ReaderStage where
  | idle
  | start
  | opened (since : ℕ) (data : List UInt8) (registry : LiveRegistry)
  | probed (since : ℕ) (data : List UInt8) (registry : LiveRegistry) (held : Bool)
  | leased (since : ℕ) (data : List UInt8) (registry : LiveRegistry) (held : Bool) (lease : Lease)

/-- A reader with the attempts that it has left after this one. -/
structure Reader where
  stage : ReaderStage
  attempts : ℕ

variable (session : Session)

/-- The document that a reader finds in the registry. -/
def readRegistry (registry : Option (List UInt8)) :
    Except RegistryError (List UInt8 × LiveRegistry) := do
  let bytes ← match registry with
    | some bytes => pure bytes
    | none => throw "could not open registry"
  let data ← readRegular bytes "registry"
  let value ← decodeJson data "registry"
  let validated ← validate_live_registry value
  if parsePath validated.lease_path.toList ≠ session.lease_path then
    throw "registry lease_path is outside the canonical namespace"
  pure (data, validated)

def readLease (data : List UInt8) : Except RegistryError Lease := do
  if data.length > MAX_DOCUMENT_BYTES then throw "registry lease exceeds size limit"
  let value ← decodeJson data "registry lease"
  validateLease value

/-- What a reader has seen belongs together. -/
def confirm (first : List UInt8) (registry : LiveRegistry) (lease : Lease)
    (second : Option (List UInt8)) : Except RegistryError Unit := do
  let bytes ← match second with
    | some bytes => pure bytes
    | none => throw "could not open registry"
  let data ← readRegular bytes "registry"
  if first ≠ data then throw "live registry changed during read"
  if lease.registry_generation ≠ registry.generation then
    throw "live registry generation rollback or torn publish detected"
  if lease.registry_sha256 ≠ session.sha256 first then
    throw "live registry tamper or torn publish detected"

/-- An attempt has failed. The last one raises. -/
def Reader.failed (reader : Reader) : Reader :=
  match reader.stage, reader.attempts with
  | .idle, _ => reader
  -- the error of the last attempt is raised, and nothing is returned
  | _, 0 => { reader with stage := .idle }
  | _, attempts + 1 => { stage := .start, attempts := attempts }

/-- The next access of a reader at a step of the given number, and what it returns. -/
def Reader.access (reader : Reader) (clock : ℕ) (files : Files) : Reader × Option LiveSnapshot :=
  match reader.stage with
  | .idle => (reader, none)
  | .start =>
    match readRegistry session files.registry with
    | .ok (data, registry) => ({ reader with stage := .opened clock data registry }, none)
    | .error _ => (reader.failed, none)
  -- a shared lock is tried without waiting, and given back
  | .opened since data registry =>
    ({ reader with stage := .probed since data registry files.locked }, none)
  | .probed since data registry held =>
    match readLease files.lease with
    | .ok lease => ({ reader with stage := .leased since data registry held lease }, none)
    | .error _ => (reader.failed, none)
  | .leased _ data registry held lease =>
    match confirm session data registry lease files.registry with
    | .ok () =>
      ({ reader with stage := .idle }, some { registry := registry, lease_held := held })
    | .error _ => (reader.failed, none)

/-- The number of the step at which an attempt read the registry first. -/
def ReaderStage.since : ReaderStage → ℕ
  | .idle | .start => 0
  | .opened since .. | .probed since .. | .leased since .. => since

/-- A reader is called with the number of its attempts. -/
def Reader.call (reader : Reader) (retries : ℕ) : Reader :=
  match reader.stage, retries with
  | .idle, attempts + 1 => { stage := .start, attempts := attempts }
  | _, _ => reader

end Readers

section System

/-- A snapshot that was returned, with the numbers of the steps that its attempt began and ended
with. -/
structure Returned where
  snapshot : LiveSnapshot
  since : ℕ
  till : ℕ

/-- The parties and their files, and what has happened so far: the documents whose publish was
accepted, the files as they were before each step, and the snapshots that were returned. -/
structure System where
  publisher : LiveRegistryPublisher
  files : Files
  readers : ℕ → Reader
  accepted : List Published
  past : List Files
  returned : List Returned

inductive Input where
  | publish (value : Published)
  /-- The next step of the publisher. -/
  | advance (count : ℕ)
  /-- The next step of the publisher raises. -/
  | raise
  | close
  | kill
  /-- A reader is called. -/
  | call (reader retries : ℕ)
  /-- The next access of a reader. -/
  | access (reader : ℕ)
  /-- The next access of a reader raises. -/
  | disturb (reader : ℕ)

variable (session : Session)

/-- A publish is accepted when none is under way and its checks are passed. -/
def System.publish (system : System) (value : Published) : System :=
  match system.publisher.stage, system.publisher.publish session value.val with
  | .idle, .ok encoded =>
    { system with
      publisher := { system.publisher with stage := .prepared encoded }
      accepted := system.accepted ++ [value] }
  | _, _ => system

def System.access (system : System) (index : ℕ) : System :=
  let reader := system.readers index
  let (after, snapshot) := reader.access session system.past.length system.files
  { system with
    readers := Function.update system.readers index after
    returned := system.returned ++ (snapshot.toList.map fun snapshot =>
      { snapshot := snapshot, since := reader.stage.since, till := system.past.length }) }

/-- What an input does to the parties. -/
def System.act (system : System) : Input → System
  | .publish value => system.publish session value
  | .advance count =>
    let (publisher, files) := Registry.advance session count system.publisher system.files
    { system with publisher := publisher, files := files }
  | .raise => { system with publisher := system.publisher.raised }
  | .close =>
    let (publisher, files) := Registry.close system.publisher system.files
    { system with publisher := publisher, files := files }
  | .kill =>
    let (publisher, files) := Registry.kill system.publisher system.files
    { system with publisher := publisher, files := files }
  | .call index retries =>
    { system with
      readers := Function.update system.readers index ((system.readers index).call retries) }
  | .access index => system.access session index
  | .disturb index =>
    { system with readers := Function.update system.readers index (system.readers index).failed }

def step (system : System) (input : Input) : System :=
  { system.act session input with past := system.past ++ [system.files] }

/-- A publisher that has just been made: its lease is empty and locked. -/
def boot : System where
  publisher := { generation := 0, closed := false, stage := .idle }
  files := { registry := none, lease := [], locked := true }
  readers := fun _ => { stage := .idle, attempts := 0 }
  accepted := []
  past := []
  returned := []

end System

end GemSim.Registry
