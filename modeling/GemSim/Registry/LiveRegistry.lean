import GemSim.Registry.LaunchFile

/-!
# The registry of a running group

A supervisor publishes the state of its group in a file, and keeps a lease file locked as long as
it runs. The lease names the generation and the digest of the document that was published last.

## Main definitions

* `LiveRegistry`, `validate_live_registry` — a document of the registry, and its checks
* `Lease`, `leaseDocument`, `validateLease` — a lease, as it is written and as it is checked
-/

namespace GemSim.Registry

open GemSim.Lib

def LIVE_REGISTRY_SCHEMA : String := "amdgpu-sim.gemsim-live-registry.v1"
def LEASE_SCHEMA : String := "amdgpu-sim.gemsim-live-registry-lease.v1"
def REGISTRY_STATES : List String := ["STARTING", "READY", "OFF"]

/-- A document that has been checked. -/
structure LiveRegistry where
  document : List (String × Json)
  generation : ℤ
  state : String
  lease_path : String

section Fields

/-- The entries of a mapping. -/
def mappingOf (value : Json) (failure : RegistryError) :
    Except RegistryError (List (String × Json)) :=
  match value with
  | .object fields => .ok fields
  | _ => .error failure

def entry (fields : List (String × Json)) (name : String) : Json :=
  (fields.lookup name).getD .null

def scalarEntry (fields : List (String × Json)) (name : String) : Scalar :=
  scalarOfJson (entry fields name)

/-- The integer that a value equals. A truth value equals zero or one. -/
def asInteger : Json → Option ℤ
  | .integer value => some value
  | .boolean value => some (if value then 1 else 0)
  | _ => none

/-- A check of a value that may be missing. -/
def unlessNull (value : Json) (check : Except RegistryError Unit) : Except RegistryError Unit :=
  match value with
  | .null => .ok ()
  | _ => check

end Fields

section Registry

def rankKeys : List String :=
  ["rank", "world_size", "state", "worker_pid", "daemon_pid", "daemon_uuid", "endpoint",
    "runtime_directory", "triton_cache_directory", "gem5_cache_directory"]

/-- The processes of a rank. All of them run when the group is ready. -/
def checkProcesses (fields : List (String × Json)) (state : String) :
    Except RegistryError Unit := do
  let worker := scalarEntry fields "worker_pid"
  let daemon := scalarEntry fields "daemon_pid"
  let uuid := scalarEntry fields "daemon_uuid"
  unlessNull (entry fields "worker_pid")
    (discard (positiveInteger worker "live registry rank.worker_pid"))
  -- a rank that is not ready may lack its daemon, and its worker
  if state = "READY" then
    discard (positiveInteger worker "READY rank worker_pid")
    discard (positiveInteger daemon "READY rank daemon_pid")
    discard (canonicalUuid uuid "READY rank daemon_uuid")
  else
    unlessNull (entry fields "daemon_pid")
      (discard (positiveInteger daemon "live registry rank.daemon_pid"))
    unlessNull (entry fields "daemon_uuid")
      (discard (canonicalUuid uuid "live registry rank.daemon_uuid"))

/-- The number of a rank that has been checked. -/
def validateRegistryRank (state : String) (world : ℤ) (value : Json) :
    Except RegistryError ℤ := do
  let fields ← mappingOf value "live registry rank entry must be an object"
  exactKeys (fields.map Prod.fst) rankKeys "live registry rank"
  let rank ← nonnegativeInteger (scalarEntry fields "rank") "live registry rank.rank"
  if rank ≥ world ∨ asInteger (entry fields "world_size") ≠ some world then
    throw "live registry rank/world identity mismatch"
  if scalarEntry fields "state" ≠ .string state then
    throw "live registry rank state does not match registry state"
  checkProcesses fields state
  ["endpoint", "runtime_directory", "triton_cache_directory", "gem5_cache_directory"].forM
    fun key => discard (absoluteNormalPath (scalarEntry fields key) ("live registry rank." ++ key))
  pure rank

/-- The ranks of a document. There is one to each number below the size of the world. -/
def ranksOf (value : Json) (world : ℤ) : Except RegistryError (List Json) :=
  match value with
  | .array ranks =>
    if (ranks.length : ℤ) ≠ world then
      .error "live registry ranks must contain exactly world_size entries"
    else .ok ranks
  | _ => .error "live registry ranks must contain exactly world_size entries"

def stateOf (value : Scalar) : Except RegistryError String :=
  match value with
  | .string state =>
    if state ∈ REGISTRY_STATES then .ok state
    else .error ("invalid live registry state: " ++ state)
  | _ => .error "invalid live registry state"

def registryKeys : List String :=
  ["schema", "generation", "state", "updated_at_ns", "supervisor_pid", "supervisor_start_time",
    "lease_path", "job_uuid", "epoch", "world_size", "ranks"]

def validate_live_registry (value : Json) : Except RegistryError LiveRegistry := do
  let fields ← mappingOf value "live registry must be an object"
  exactKeys (fields.map Prod.fst) registryKeys "live registry"
  if scalarEntry fields "schema" ≠ .string LIVE_REGISTRY_SCHEMA then
    throw "live registry schema mismatch"
  let generation ← positiveInteger (scalarEntry fields "generation") "live registry generation"
  let state ← stateOf (scalarEntry fields "state")
  ["updated_at_ns", "supervisor_pid", "supervisor_start_time"].forM fun key =>
    discard (positiveInteger (scalarEntry fields key) ("live registry " ++ key))
  let lease_path ← absoluteNormalPath (scalarEntry fields "lease_path") "live registry lease_path"
  discard (canonicalUuid (scalarEntry fields "job_uuid") "live registry job_uuid")
  discard (positiveInteger (scalarEntry fields "epoch") "live registry epoch")
  let world ← positiveInteger (scalarEntry fields "world_size") "live registry world_size"
  let ranks ← ranksOf (entry fields "ranks") world
  let observed ← ranks.mapM (validateRegistryRank state world)
  if observed ≠ (List.range world.toNat).map Int.ofNat then
    throw "live registry ranks must be sorted and exactly 0..world_size-1"
  pure { document := fields, generation := generation, state := state, lease_path := lease_path }

end Registry

section Leases

/-- What a lease says of the document that was published last. -/
structure Lease where
  registry_generation : ℤ
  registry_sha256 : String
  deriving DecidableEq

/-- A lease as it is written. -/
def leaseDocument (session_uuid : String) (lease : Lease) : Json :=
  .object
    [("schema", .string LEASE_SCHEMA), ("session_uuid", .string session_uuid),
      ("registry_generation", .integer lease.registry_generation),
      ("registry_sha256", .string lease.registry_sha256)]

def digestOf (value : Scalar) : Except RegistryError String :=
  match value with
  | .string text =>
    if text.toList.length = 64 ∧ text.toList.all lowercaseHex = true then .ok text
    else .error "lease registry_sha256 must be lowercase SHA-256"
  | _ => .error "lease registry_sha256 must be lowercase SHA-256"

def validateLease (value : Json) : Except RegistryError Lease := do
  let fields ← mappingOf value "live registry lease must be an object"
  exactKeys (fields.map Prod.fst)
    ["schema", "session_uuid", "registry_generation", "registry_sha256"] "live registry lease"
  if scalarEntry fields "schema" ≠ .string LEASE_SCHEMA then
    throw "live registry lease schema mismatch"
  discard (canonicalUuid (scalarEntry fields "session_uuid") "live registry lease session_uuid")
  let generation ← positiveInteger (scalarEntry fields "registry_generation")
    "lease registry_generation"
  let digest ← digestOf (scalarEntry fields "registry_sha256")
  pure { registry_generation := generation, registry_sha256 := digest }

end Leases

end GemSim.Registry
