import Mathlib.Data.List.Sort
import GemSim.Lib.PosixPath

/-!
# Launch descriptors of a group

Every rank of a group is launched with a descriptor that names the group, the rank and the paths
it works with. A descriptor is checked on its own: its fields, and where its paths lie with
respect to each other. The descriptors of a group are checked together: they name one group, its
ranks, and paths that no two ranks share.

## Main definitions

* `Scalar`, `Field` — the values of a document
* `RankPathKey`, `RankLaunch` — the paths of a rank, and its descriptor
* `validate_rank_launch`, `validate_rank_launch_group` — the checks
-/

namespace GemSim.Registry

open GemSim.Lib

/-- A value that is not looked into. -/
inductive Scalar where
  | boolean (value : Bool)
  | integer (value : ℤ)
  | string (value : String)
  | other
  deriving DecidableEq

/-- A field of a document. -/
inductive Field where
  | scalar (value : Scalar)
  | mapping (fields : List (String × Scalar))
  deriving DecidableEq

/-- A document: a mapping, or something else. -/
abbrev Document := Option (List (String × Field))

inductive RankPathKey where
  | instance_directory
  | triton_cache_directory
  | runtime_directory
  | endpoint
  | gem5_output_directory
  | dispatch_trace_path
  | gem5_log_path
  | gem5_cache_directory
  deriving DecidableEq

def RankPathKey.name : RankPathKey → String
  | instance_directory => "instance_directory"
  | triton_cache_directory => "triton_cache_directory"
  | runtime_directory => "runtime_directory"
  | endpoint => "endpoint"
  | gem5_output_directory => "gem5_output_directory"
  | dispatch_trace_path => "dispatch_trace_path"
  | gem5_log_path => "gem5_log_path"
  | gem5_cache_directory => "gem5_cache_directory"

def RANK_PATH_KEYS : List RankPathKey :=
  [.instance_directory, .triton_cache_directory, .runtime_directory, .endpoint,
    .gem5_output_directory, .dispatch_trace_path, .gem5_log_path, .gem5_cache_directory]

def RANK_LAUNCH_SCHEMA : String := "amdgpu-sim.gemsim-rank-launch.v1"
def MIN_GROUP_WORLD_SIZE : ℤ := 2
def MAX_GROUP_WORLD_SIZE : ℤ := 16
def MANAGED_ENDPOINT_BYTES : ℕ := 108

/-- The text of a `RegistryError`. -/
abbrev RegistryError := String

/-- A descriptor that has been checked; its schema is known. -/
structure RankLaunch where
  job_uuid : String
  epoch : ℤ
  rank : ℤ
  world_size : ℤ
  paths : RankPathKey → String

section Fields

/-- Names as they stand in a message. -/
def namesText (names : List String) : String :=
  "[" ++ String.intercalate ", " (names.map fun name => "'" ++ name ++ "'") ++ "]"

def sortedNames (names : List String) : List String := names.insertionSort fun a b => a ≤ b

def exactKeys (actual wanted : List String) (context : String) : Except RegistryError Unit :=
  let missing := sortedNames (wanted.filter fun name => name ∉ actual)
  let extra := sortedNames (actual.filter fun name => name ∉ wanted)
  if missing = [] ∧ extra = [] then .ok ()
  else .error (context ++ " keys differ: missing=" ++ namesText missing ++ " extra=" ++
    namesText extra)

def scalarOf (fields : List (String × Field)) (name : String) : Scalar :=
  match fields.lookup name with
  | some (.scalar value) => value
  | _ => .other

def positiveInteger (value : Scalar) (context : String) : Except RegistryError ℤ :=
  match value with
  | .integer value =>
    if value ≤ 0 then .error (context ++ " must be a positive integer") else .ok value
  | _ => .error (context ++ " must be a positive integer")

def nonnegativeInteger (value : Scalar) (context : String) : Except RegistryError ℤ :=
  match value with
  | .integer value =>
    if value < 0 then .error (context ++ " must be a nonnegative integer") else .ok value
  | _ => .error (context ++ " must be a nonnegative integer")

def lowercaseHex (char : Char) : Bool :=
  ('0' ≤ char && char ≤ '9') || ('a' ≤ char && char ≤ 'f')

def canonicalUuid (value : Scalar) (context : String) : Except RegistryError String :=
  match value with
  | .string text =>
    if text.toList.length = 32 ∧ text.toList.all lowercaseHex = true then
      if text.toList = List.replicate 32 '0' then .error (context ++ " must be nonzero")
      else .ok text
    else .error (context ++ " must be a canonical lowercase 32-hex UUID")
  | _ => .error (context ++ " must be a canonical lowercase 32-hex UUID")

/-- The spelling of a path that is absolute and in normal form. -/
def absoluteNormalPath (value : Scalar) (context : String) : Except RegistryError String :=
  match value with
  | .string text =>
    if text.toList = [] then .error (context ++ " must be a nonempty path string")
    else if ¬ (parsePath text.toList).isAbsolute ∨
        parsePath (normpath text.toList) ≠ parsePath text.toList then
      .error (context ++ " must be an absolute normalized path")
    else .ok text
  | _ => .error (context ++ " must be a nonempty path string")

end Fields

section Launch

/-- The path of a rank. -/
def RankLaunch.path (launch : RankLaunch) (key : RankPathKey) : PurePosixPath :=
  parsePath (launch.paths key).toList

/-- The paths that lie directly in the runtime directory. -/
def runtimeKeys : List RankPathKey :=
  [.endpoint, .gem5_output_directory, .dispatch_trace_path, .gem5_log_path, .gem5_cache_directory]

/-- How the paths of a rank lie with respect to each other. -/
def checkPlaces (launch : RankLaunch) : Except RegistryError Unit := do
  let instance_ := launch.path .instance_directory
  let runtime := launch.path .runtime_directory
  if runtime.parent ≠ instance_ then
    throw "runtime_directory must be directly inside instance_directory"
  if (launch.path .triton_cache_directory).parent.parent ≠ instance_.parent then
    throw "triton cache must be private to its instance namespace"
  runtimeKeys.forM fun key =>
    if (launch.path key).parent ≠ runtime then
      throw (key.name ++ " must be directly inside runtime_directory")
    else pure ()
  if MANAGED_ENDPOINT_BYTES ≤ (String.ofList (launch.path .endpoint).text).utf8ByteSize then
    throw "rank launch endpoint exceeds the managed runtime path limit"

def validate_rank_launch (value : Document) : Except RegistryError RankLaunch := do
  let fields ← match value with
    | some fields => pure fields
    | none => throw "rank launch descriptor must be an object"
  exactKeys (fields.map Prod.fst) ["schema", "job_uuid", "epoch", "rank", "world_size", "paths"]
    "rank launch descriptor"
  if scalarOf fields "schema" ≠ .string RANK_LAUNCH_SCHEMA then
    throw "rank launch descriptor schema mismatch"
  let job_uuid ← canonicalUuid (scalarOf fields "job_uuid") "rank launch job_uuid"
  let epoch ← positiveInteger (scalarOf fields "epoch") "rank launch epoch"
  let world ← positiveInteger (scalarOf fields "world_size") "rank launch world_size"
  if ¬ (MIN_GROUP_WORLD_SIZE ≤ world ∧ world ≤ MAX_GROUP_WORLD_SIZE) then
    throw "rank launch world_size must be in 2..16"
  let rank ← nonnegativeInteger (scalarOf fields "rank") "rank launch rank"
  if rank ≥ world then throw "rank launch rank must be less than world_size"
  let paths ← match fields.lookup "paths" with
    | some (.mapping paths) => pure paths
    | _ => throw "rank launch paths must be an object"
  exactKeys (paths.map Prod.fst) (RANK_PATH_KEYS.map RankPathKey.name) "rank launch paths"
  let spelled (key : RankPathKey) : Except RegistryError String :=
    absoluteNormalPath ((paths.lookup key.name).getD .other) ("rank launch paths." ++ key.name)
  RANK_PATH_KEYS.forM fun key => discard (spelled key)
  let launch : RankLaunch :=
    { job_uuid := job_uuid
      epoch := epoch
      rank := rank
      world_size := world
      paths := fun key => (spelled key).toOption.getD "" }
  checkPlaces launch
  pure launch

/-- What names the group of a descriptor. -/
def RankLaunch.identity (launch : RankLaunch) : String × ℤ × ℤ :=
  (launch.job_uuid, launch.epoch, launch.world_size)

def validate_rank_launch_group (values : List Document) : Except RegistryError (List RankLaunch) := do
  let descriptors ← values.mapM validate_rank_launch
  if descriptors.length < 2 then throw "group launch requires at least two ranks"
  let first ← match descriptors.head? with
    | some first => pure first
    | none => throw "group launch requires at least two ranks"
  if (descriptors.length : ℤ) ≠ first.world_size then
    throw "group launch descriptor count does not equal world_size"
  descriptors.forM fun value =>
    if value.identity ≠ first.identity then throw "group launch descriptors have mixed identity"
    else pure ()
  let ranks := descriptors.map RankLaunch.rank
  if ranks.insertionSort (fun a b => a ≤ b) ≠
      (List.range first.world_size.toNat).map Int.ofNat then
    throw "group launch ranks must be exactly 0..world_size-1 once"
  RANK_PATH_KEYS.forM fun key =>
    if ¬ (descriptors.map fun value => value.paths key).Nodup then
      throw ("group launch path is shared across ranks: " ++ key.name)
    else pure ()
  pure (descriptors.insertionSort fun a b => a.rank ≤ b.rank)

end Launch

end GemSim.Registry
