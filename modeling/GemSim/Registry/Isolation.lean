import GemSim.Lib.Checks
import GemSim.Registry.RankLaunch

/-!
# Isolation of ranks

Two ranks of a group that has been accepted should not work with one path, nor should one work
inside the directory of the other. The checks compare the spellings of paths, and only those of
one kind. What decides is where the instance directories and the caches of the compiler lie;
every other path lies inside the instance directory of its rank.

## Main definitions

* `Isolated`, `GroupLaw` — no rank meets the paths of another
* `Separated` — the instance directories and the caches lie apart
* `Laid` — how the paths of one rank lie

## Main results

* `isolated_of_separated` — places apart isolate ranks
* `groupLaw_iff_separated` — exactly these groups are isolated
-/

namespace GemSim.Registry

open GemSim.Lib GemSim.Lib.Checks

section Laws

/-- Where a path of a rank ends. Two leading slashes name the same root as one. -/
def RankLaunch.place (launch : RankLaunch) (key : RankPathKey) : List Component :=
  (launch.path key).parts

/-- A place lies under a directory. -/
def Inside (place directory : List Component) : Prop := directory <+: place ∧ place ≠ directory

/-- No path of a rank is a path of another rank, or lies inside its instance directory. -/
def Isolated (launches : List RankLaunch) : Prop :=
  ∀ launch ∈ launches, ∀ other ∈ launches, launch.rank ≠ other.rank → ∀ key kind,
    launch.place key ≠ other.place kind ∧
      ¬ Inside (launch.place key) (other.place .instance_directory)

/-- The ranks of a group are numbered from zero on, and isolated. -/
structure GroupLaw (launches : List RankLaunch) : Prop where
  ranks : launches.map RankLaunch.rank = (List.range launches.length).map Int.ofNat
  isolated : Isolated launches

/-- The instance directories of two ranks lie apart, a cache lies apart from the instance
directory of another rank, and no cache is shared. -/
def Separated (launches : List RankLaunch) : Prop :=
  ∀ launch ∈ launches, ∀ other ∈ launches, launch.rank ≠ other.rank →
    ¬ other.place .instance_directory <+: launch.place .instance_directory ∧
      ¬ other.place .instance_directory <+: launch.place .triton_cache_directory ∧
      launch.place .triton_cache_directory ≠ other.place .triton_cache_directory

/-- How the paths of a rank lie: each leads downwards from the root, the runtime directory lies
in the instance directory, and the other paths but for the cache lie in the runtime directory. -/
structure Laid (launch : RankLaunch) : Prop where
  downwards : ∀ key, dotdot ∉ launch.place key
  runtime : (launch.path .runtime_directory).parent = launch.path .instance_directory
  inside : ∀ key ∈ runtimeKeys, (launch.path key).parent = launch.path .runtime_directory

end Laws

section Checks

variable {launch : RankLaunch} {value : Document}

theorem absoluteNormalPath_eq_ok {scalar : Scalar} {context text : String}
    (passed : absoluteNormalPath scalar context = .ok text) :
    (parsePath text.toList).isAbsolute ∧
      parsePath (normpath text.toList) = parsePath text.toList := by
  cases scalar with
  | string given =>
    simp only [absoluteNormalPath, ite_eq_iff', reduceCtorEq, imp_false, Except.ok.injEq,
      not_or, not_not] at passed
    obtain ⟨some, passed⟩ := passed
    obtain ⟨normal, same⟩ := passed some
    rw [← same normal]
    exact normal
  | boolean | integer | other => cases passed

theorem laid_of_checkPlaces (checked : checkPlaces launch = .ok ())
    (downwards : ∀ key, dotdot ∉ launch.place key) : Laid launch := by
  simp only [checkPlaces, bind_eq_ok, exists_unit, throw_bind, ite_throw_eq_ok, pure_eq_ok,
    List.forM_eq_forM, forM_eq_ok, not_not, and_true] at checked
  obtain ⟨runtime, -, inside, -⟩ := checked
  exact ⟨downwards, runtime, inside⟩

theorem laid_of_validate (ok : validate_rank_launch value = .ok launch) : Laid launch := by
  cases value with
  | none => cases ok
  | some fields =>
    simp only [validate_rank_launch, bind_eq_ok, exists_unit, throw_bind, ite_throw_eq_ok,
      pure_eq_ok, List.forM_eq_forM, not_not] at ok
    obtain ⟨_, rfl, -, -, uuid, -, epoch, -, world, -, -, rank, -, -, ok⟩ := ok
    split at ok
    case h_2 => cases ok
    case h_1 paths found =>
      simp only [bind_eq_ok, exists_unit, pure_eq_ok, forM_eq_ok, discard_eq_ok] at ok
      obtain ⟨_, rfl, -, normal, checked, rfl⟩ := ok
      refine laid_of_checkPlaces checked fun key => ?_
      have listed : key ∈ RANK_PATH_KEYS := by cases key <;> decide
      obtain ⟨text, passed⟩ := normal key listed
      obtain ⟨absolute, normal⟩ := absoluteNormalPath_eq_ok passed
      simp only [RankLaunch.place, RankLaunch.path, passed]
      exact dotdot_notMem_of_normal absolute normal

/-- What is known of a group that has been accepted. -/
structure Accepted (values : List Document) (launches : List RankLaunch) : Prop where
  descriptors : ∃ descriptors, values.mapM validate_rank_launch = .ok descriptors ∧
    launches.Perm descriptors
  ranks : launches.map RankLaunch.rank = (List.range launches.length).map Int.ofNat
  laid : ∀ launch ∈ launches, Laid launch

theorem accepted_of_group {values : List Document} {launches : List RankLaunch}
    (ok : validate_rank_launch_group values = .ok launches) : Accepted values launches := by
  simp only [validate_rank_launch_group, bind_eq_ok, throw_bind, ite_throw_eq_ok,
    List.forM_eq_forM] at ok
  obtain ⟨descriptors, found, -, ok⟩ := ok
  split at ok
  case h_2 => cases ok
  case h_1 first head =>
    simp only [bind_eq_ok, exists_unit, pure_eq_ok, ite_throw_eq_ok, not_not] at ok
    obtain ⟨_, rfl, count, -, ranks, -, rfl⟩ := ok
    have perm := List.perm_insertionSort (fun first second : RankLaunch =>
      first.rank ≤ second.rank) descriptors
    refine ⟨⟨descriptors, found, perm⟩, ?_, ?_⟩
    · rw [List.map_insertionSort (fun first second : RankLaunch => first.rank ≤ second.rank)
        (fun first second => first ≤ second) RankLaunch.rank descriptors
        fun _ _ _ _ => Iff.rfl, ranks, List.length_insertionSort, ← count, Int.toNat_natCast]
    · intro launch member
      obtain ⟨value, -, validated⟩ :=
        exists_of_mapM_eq_ok found ((List.mem_insertionSort _).mp member)
      exact laid_of_validate validated

end Checks

section Isolation

variable {launch other : RankLaunch} {launches : List RankLaunch} {key kind : RankPathKey}

/-- All paths of a rank but its cache lie at or under its instance directory. -/
theorem Laid.instance_above (laid : Laid launch) (other : key ≠ .triton_cache_directory) :
    launch.place .instance_directory <+: launch.place key := by
  have runtime : launch.place .instance_directory <+: launch.place .runtime_directory := by
    rw [RankLaunch.place, ← laid.runtime]
    exact parent_above _
  have inside : ∀ key ∈ runtimeKeys,
      launch.place .instance_directory <+: launch.place key := by
    intro key member
    have parent : launch.place .runtime_directory <+: launch.place key := by
      rw [RankLaunch.place, ← laid.inside key member]
      exact parent_above _
    exact runtime.trans parent
  cases key with
  | instance_directory => exact List.prefix_rfl
  | triton_cache_directory => exact absurd rfl other
  | runtime_directory => exact runtime
  | endpoint | gem5_output_directory | dispatch_trace_path | gem5_log_path | gem5_cache_directory =>
    exact inside _ (by decide)

/-- Where no instance directory is above the other and above the other's cache, no path of a rank
is at or under the instance directory of the other. -/
theorem not_instance_above (laid : Laid launch)
    (apart : ¬ other.place .instance_directory <+: launch.place .instance_directory)
    (converse : ¬ launch.place .instance_directory <+: other.place .instance_directory)
    (cache : ¬ other.place .instance_directory <+: launch.place .triton_cache_directory) :
    ¬ other.place .instance_directory <+: launch.place key := by
  by_cases triton : key = .triton_cache_directory
  · rwa [triton]
  · intro above
    rcases above_or_above above (laid.instance_above triton) with first | second
    · exact apart first
    · exact converse second

theorem isolated_of_separated (laid : ∀ launch ∈ launches, Laid launch)
    (separated : Separated launches) : Isolated launches := by
  intro launch member other also ranks key kind
  obtain ⟨apart, cache, caches⟩ := separated launch member other also ranks
  obtain ⟨converse, otherCache, -⟩ := separated other also launch member ranks.symm
  have outside : ∀ key, ¬ other.place .instance_directory <+: launch.place key := fun _ =>
    not_instance_above (laid launch member) apart converse cache
  have outsideOther : ∀ kind, ¬ launch.place .instance_directory <+: other.place kind := fun _ =>
    not_instance_above (laid other also) converse apart otherCache
  refine ⟨?_, fun inside => outside key inside.1⟩
  intro same
  -- a path that is shared lies under one of the instance directories, or is a cache of both
  by_cases kindTriton : kind = .triton_cache_directory
  · by_cases keyTriton : key = .triton_cache_directory
    · rw [kindTriton, keyTriton] at same
      exact caches same
    · have under := (laid launch member).instance_above keyTriton
      rw [same] at under
      exact outsideOther kind under
  · have under := (laid other also).instance_above kindTriton
    rw [← same] at under
    exact outside key under

theorem separated_of_isolated (isolated : Isolated launches) : Separated launches := by
  intro launch member other also ranks
  have apart : ∀ key, ¬ other.place .instance_directory <+: launch.place key := by
    intro key above
    obtain ⟨differ, outside⟩ := isolated launch member other also ranks key .instance_directory
    exact outside ⟨above, differ⟩
  exact ⟨apart _, apart _, (isolated launch member other also ranks _ _).1⟩

/-- Of the groups that are accepted, those whose instance directories and caches lie apart are
isolated, and no others. -/
theorem groupLaw_iff_separated {values : List Document}
    (ok : validate_rank_launch_group values = .ok launches) :
    (∃ descriptors, values.mapM validate_rank_launch = .ok descriptors ∧
      launches.Perm descriptors) ∧
      (∀ launch ∈ launches, ∀ key, dotdot ∉ launch.place key) ∧
      (GroupLaw launches ↔ Separated launches) := by
  have accepted := accepted_of_group ok
  refine ⟨accepted.descriptors, fun launch member => (accepted.laid launch member).downwards, ?_⟩
  constructor
  · intro law
    exact separated_of_isolated law.isolated
  · intro separated
    exact ⟨accepted.ranks, isolated_of_separated accepted.laid separated⟩

/-- The descriptor of a rank of two. -/
def document (rank : ℤ) (place : RankPathKey → String) : Document :=
  some
    [("schema", .scalar (.string RANK_LAUNCH_SCHEMA)),
      ("job_uuid", .scalar (.string "0123456789abcdef0123456789abcdef")),
      ("epoch", .scalar (.integer 1)),
      ("rank", .scalar (.integer rank)),
      ("world_size", .scalar (.integer 2)),
      ("paths", .mapping (RANK_PATH_KEYS.map fun key => (key.name, .string (place key))))]

/-- The paths of a rank in a directory, each with an ending. -/
def spelled (directory ending : String) : RankPathKey → String
  | .instance_directory => directory ++ "/i" ++ ending
  | .triton_cache_directory => directory ++ "/c/t" ++ ending
  | .runtime_directory => directory ++ "/i/run" ++ ending
  | .endpoint => directory ++ "/i/run/sock" ++ ending
  | .gem5_output_directory => directory ++ "/i/run/out" ++ ending
  | .dispatch_trace_path => directory ++ "/i/run/trace" ++ ending
  | .gem5_log_path => directory ++ "/i/run/log" ++ ending
  | .gem5_cache_directory => directory ++ "/i/run/cache" ++ ending

set_option maxRecDepth 10000 in
theorem groupLaw_iff_separated_two :
    ∃ launches, validate_rank_launch_group
        [document 0 (spelled "/a" ""), document 1 (spelled "/b" "")] = .ok launches ∧
      (GroupLaw launches ↔ Separated launches) := by
  have passed : (validate_rank_launch_group
      [document 0 (spelled "/a" ""), document 1 (spelled "/b" "")]).isOk = true := by
    decide +kernel
  cases found : validate_rank_launch_group
      [document 0 (spelled "/a" ""), document 1 (spelled "/b" "")] with
  | error failure =>
    rw [found] at passed
    cases passed
  | ok launches => exact ⟨launches, rfl, (groupLaw_iff_separated found).2.2⟩

/-- Two ranks whose paths differ by a slash at the end are accepted, and every path is shared. -/
theorem shared_accepted :
    ¬ ∀ values launches, validate_rank_launch_group values = .ok launches → GroupLaw launches := by
  intro law
  have shared : (validate_rank_launch_group
      [document 0 (spelled "/a" ""), document 1 (spelled "/a" "/")]).toOption.any (fun launches =>
        launches.any fun launch => launches.any fun other =>
          launch.rank ≠ other.rank ∧ launch.place .endpoint = other.place .endpoint) = true := by
    decide +kernel
  rw [Option.any_eq_true] at shared
  obtain ⟨launches, found, shared⟩ := shared
  simp only [List.any_eq_true, decide_eq_true_eq] at shared
  obtain ⟨launch, member, other, also, ranks, same⟩ := shared
  cases accepted : validate_rank_launch_group
      [document 0 (spelled "/a" ""), document 1 (spelled "/a" "/")] with
  | error failure =>
    rw [accepted] at found
    cases found
  | ok group =>
    rw [accepted] at found
    cases found
    exact ((law _ _ accepted).isolated launch member other also ranks _ _).1 same

end Isolation

end GemSim.Registry
