import GemSim.Checkpoint.CommitMessage
import GemSim.Lib.Entries
import GemSim.Lib.Outcomes
import GemSim.Lib.PosixPath

/-!
# The journal of a checkpoint

A checkpoint spans the root repository and some child repositories. Its journal is a file that
names the participants when it begins, records what each of them committed, binds the tree of the
root, and is moved away once the commit of the root is there. Every command runs under a lock. It
asks the repositories many things, each at a time of its own, and stops at the first answer that
does not fit.

What is asked is answered by a `World`, which depends on the time. The calls that make files
durable may fail, and so may each step that replaces a file. A file holds a journal as a value, and
what a call to `git` reads from its input is left out.

## Main definitions

* `Journal` — what a journal file holds
* `World`, `Control` — the answers of the outside, and the files of the coordinator
* `load_journal`, `atomic_json`, `retire_journal` — what happens to a file
* `verify_declared_initial_children`, `harden_commit` — what the repositories are asked
-/

namespace GemSim.Checkpoint

open GemSim.Lib
open GemSim.Registry (lowercaseHex)
open GemSim.Sysroot (isLowerOrDigit)

section Names

def isCheckpoint (text : String) : Bool := checkpointPattern text.toList

def isSha (text : String) : Bool := text.toList.length = 40 && text.toList.all lowercaseHex

def isChildId (text : String) : Bool :=
  match text.toList with
  | [] => false
  | first :: rest =>
    isLowerOrDigit first && rest.all fun char => isLowerOrDigit char || char = '-'

/-- A number with at least four places, as it stands in a checkpoint. -/
def paddedNumber (number : ℤ) : String :=
  let digits := (toString number.natAbs).toList
  if number < 0 then String.ofList ('-' :: List.replicate (3 - digits.length) '0' ++ digits)
  else String.ofList (List.replicate (4 - digits.length) '0' ++ digits)

end Names

section Data

/-- A commit and its tree. -/
structure Identity where
  head : String
  tree : String
  deriving DecidableEq

/-- A declared participant. The initial identity may be absent from the file, and where it is
there, the child may be absent from the previous root. -/
structure Declared where
  path : String
  target_head : Option String
  target_tree : Option String
  initial : Option (Option Identity)
  deriving DecidableEq

/-- What a participant committed. -/
structure Recorded where
  path : String
  head : String
  tree : String
  deriving DecidableEq

inductive Phase where
  | prepare
  | prepared
  | committed
  deriving DecidableEq

structure Journal where
  checkpoint_id : String
  phase : Phase
  started_at : String
  previous_root : String
  previous_checkpoint : String
  intent : String
  declared_children : List (String × Declared)
  participants_locked : Bool
  expected_children : List (String × Recorded)
  root_allowlist : List String
  expected_root_tree : Option String
  root_coordinator_commit : Option String
  staged_manifest_sha256 : Option String := none
  committed_at : Option String := none
  deriving DecidableEq

/-- What `git` prints, and whether it fails. -/
structure GitReply where
  failed : Bool
  output : String
  detail : String

structure Current where
  state : String
  checkpoint_id : String

structure AcceptedCheckpoint where
  sequence : Option ℤ
  status : String
  id : String

/-- The answers of the outside, at each time. -/
structure World where
  git : ℕ → List String → GitReply
  pathExists : ℕ → String → Bool
  isDirectory : ℕ → String → Bool
  /-- What the verifier of the workspace objects to. -/
  verifier : ℕ → List String → Option String
  current : ℕ → Option Current
  checkpoint : ℕ → String → Option AcceptedCheckpoint
  /-- Whether a call that makes files durable succeeds. -/
  disk : ℕ → Bool
  now : ℕ → String
  sha256 : String → String

/-- The files of the coordinator, and the time. -/
structure Control where
  active : List (String × Journal) := []
  retired : List (String × Journal) := []
  clock : ℕ := 0

inductive Failure where
  | transaction (text : String)
  | environment
  deriving DecidableEq

abbrev Command := Program Failure Control

end Data

section Asking

def fail {Value : Type} (text : String) : Command Value := throw (.transaction text)

def require (holds : Prop) [Decidable holds] (text : String) : Command Unit :=
  if holds then pure () else fail text

/-- An answer of the outside; the time goes on. -/
def ask {Value : Type} (answer : ℕ → Value) : Command Value := do
  let control ← get
  set { control with clock := control.clock + 1 }
  pure (answer control.clock)

variable (world : World)

/-- A call that makes files durable. -/
def onDisk : Command Unit := do
  if ← ask world.disk then pure () else throw .environment

def git (arguments : List String) : Command String := do
  let reply ← ask fun clock => world.git clock arguments
  require (reply.failed = false)
    ("git " ++ String.intercalate " " arguments ++ " failed: " ++ reply.detail)
  pure (String.ofList (strip reply.output.toList))

/-- What `git` prints, whether it fails or not. -/
def gitUnchecked (arguments : List String) : Command String := do
  let reply ← ask fun clock => world.git clock arguments
  pure (String.ofList (strip reply.output.toList))

def gitBytes (arguments : List String) : Command String := do
  let reply ← ask fun clock => world.git clock arguments
  require (reply.failed = false)
    ("git " ++ String.intercalate " " arguments ++ " failed: " ++ reply.detail)
  pure reply.output

end Asking

section Files

variable (world : World)

/-- The lock, with the directory that it lies in. -/
def transition_lock : Command Unit := do
  discard (git world ["rev-parse", "--absolute-git-dir"])
  onDisk world

def journal_path (checkpoint : String) : Command String := do
  require (isCheckpoint checkpoint = true) ("invalid Checkpoint-ID: '" ++ checkpoint ++ "'")
  pure checkpoint

/-- A new journal is there as a whole or not at all; afterwards the directory may still fail. -/
def atomic_json (path : String) (value : Journal) : Command Unit := do
  onDisk world
  modify fun control => { control with active := putEntry path value control.active }
  onDisk world

def load_journal (path : String) : Command Journal := do
  let control ← get
  match control.active.lookup path with
  | some value => pure value
  | none => fail ("cannot read transaction journal " ++ path)

def retire_journal (path : String) : Command Unit := do
  onDisk world
  let control ← get
  match control.retired.lookup path with
  | some before => do
    require (control.active.lookup path = some before)
      ("retired transaction journal already exists: " ++ path)
    onDisk world
    modify fun control =>
      { control with active := control.active.filter fun entry => entry.1 ≠ path }
    onDisk world
  | none => do
    onDisk world
    modify fun control =>
      { control with
        active := control.active.filter fun entry => entry.1 ≠ path
        retired := (control.active.filter fun entry => entry.1 = path) ++ control.retired }
    onDisk world
    onDisk world

end Files

section Repositories

variable (world : World)

def verify_child_identity (child_id : String) (child : Recorded) : Command Unit := do
  let head ← git world ["-C", child.path, "rev-parse", "HEAD"]
  require (head = child.head) ("child HEAD mismatch: " ++ child_id)
  let tree ← git world ["-C", child.path, "rev-parse", "HEAD^{tree}"]
  require (tree = child.tree) ("child tree mismatch: " ++ child_id)
  let status ← git world ["-C", child.path, "status", "--porcelain=v1", "--untracked-files=all"]
  require (status = "") ("child worktree is dirty: " ++ child_id)

def repository_layout (repo label : String) : Command String := do
  let git_directory ← git world ["-C", repo, "rev-parse", "--absolute-git-dir"]
  let common_directory ← git world
    ["-C", repo, "rev-parse", "--path-format=absolute", "--git-common-dir"]
  let symbolic ← gitUnchecked world ["-C", repo, "symbolic-ref", "-q", "HEAD"]
  require (git_directory = common_directory) (label ++
    " uses a linked worktree; transaction durability requires one Git directory")
  require ("refs/heads/".toList.isPrefixOf symbolic.toList = true) (label ++
    " has detached or non-branch HEAD; recovery requires a branch ref")
  pure common_directory

def fsync_reference_state (repo label : String) : Command Unit := do
  discard (repository_layout world repo label)
  onDisk world

/-- Every file system once; the messages count the repositories. -/
def sync_repository_filesystems (repositories : List String) : Command Unit := do
  repositories.zipIdx.forM fun repo =>
    discard (repository_layout world repo.1 ("durability repository " ++ toString repo.2))
  onDisk world

def harden_object_closure (repo positive label : String) : Command Unit := do
  let common_directory ← repository_layout world repo label
  onDisk world
  let packed ← ask fun clock => world.git clock
    ["-C", repo, "pack-objects", "--quiet", "--revs", "--no-thin", "--include-tag",
      common_directory ++ "/objects/pack/pack"]
  require (packed.failed = false ∧ isSha (String.ofList (strip packed.output.toList)) = true)
    ("cannot harden object closure for " ++ label ++ ": " ++ packed.detail)
  onDisk world
  discard (git world ["-C", repo, "cat-file", "-e", positive])

def harden_commit (repo head label : String) : Command Unit := do
  let now ← git world ["-C", repo, "rev-parse", "HEAD"]
  require (now = head) ("cannot harden a non-HEAD commit: " ++ label)
  harden_object_closure world repo head label
  fsync_reference_state world repo label

/-- What the previous root has at the path of a child. -/
def initial_child_identity (previous_root child_id relative : String) :
    Command (Option Identity) := do
  let listing ← git world ["ls-tree", previous_root, "--", relative]
  if listing = "" then pure none
  else
    match splitLines listing with
    | [record] => do
      let (metadata, separated, listed_path) := partition '\t' record.toList
      match separated, splitWords metadata with
      | true, [mode, object_type, head] => do
        require (String.ofList listed_path = relative ∧ String.ofList mode = "160000" ∧
            String.ofList object_type = "commit" ∧ isSha (String.ofList head) = true)
          ("previous root child entry is not a gitlink: " ++ child_id)
        let there ← ask fun clock => world.isDirectory clock relative
        require (there = true) ("previous child worktree is missing: " ++ child_id)
        let tree ← git world ["-C", relative, "rev-parse", String.ofList head ++ "^{tree}"]
        require (isSha tree = true) ("previous child tree is unavailable offline: " ++ child_id)
        pure (some { head := String.ofList head, tree := tree })
      | _, _ => fail ("previous root child entry is malformed: " ++ child_id)
    | _ => fail ("previous root has ambiguous child path: " ++ child_id)

def validated_child_path (value : String) : Command String := do
  let relative := parsePath value.toList
  require (¬ relative.isAbsolute ∧ dotdot ∉ relative.parts ∧ relative.parts.length = 2 ∧
    relative.parts.head? = some "projects".toList) ("unsafe child path: '" ++ value ++ "'")
  pure (String.ofList relative.text)

def validated_root_path (value : String) : Command String := do
  let relative := parsePath value.toList
  require (¬ relative.isAbsolute ∧ dotdot ∉ relative.parts ∧ value ≠ "" ∧ value ≠ ".")
    ("unsafe root allowlist path: '" ++ value ++ "'")
  pure (String.ofList relative.text)

/-- The initial identity of a participant is that of the previous root; one that is absent is
filled in. -/
def verify_initial_child (previous_root : String) (child : String × Declared) :
    Command (String × Declared) := do
  require (isChildId child.1 = true) "transaction has an invalid declared child"
  let relative ← validated_child_path child.2.path
  let expected ← initial_child_identity world previous_root child.1 relative
  match child.2.initial with
  | none => pure (child.1, { child.2 with initial := some expected })
  | some initial => do
    require (initial = expected) ("declared child initial identity mismatch: " ++ child.1)
    pure child

def verify_declared_initial_children (value : Journal) : Command Journal := do
  require (isSha value.previous_root = true) "transaction has no valid previous root"
  require (value.declared_children ≠ []) "transaction has no declared child participants"
  let declared ← value.declared_children.mapM (verify_initial_child world value.previous_root)
  pure { value with declared_children := declared }

end Repositories

end GemSim.Checkpoint
