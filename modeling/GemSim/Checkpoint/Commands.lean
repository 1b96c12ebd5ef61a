import GemSim.Checkpoint.Journal

/-!
# The commands of the coordinator

A checkpoint begins with its participants, declares their targets and the paths of the root,
records what each participant committed, prepares the tree of the root, and is finalized once the
commit of the root is there.

## Main definitions

* `BeginArguments`, `ChildArguments`, `RecordArguments` — what a command is given
* `Request`, `run` — the commands as one machine
-/

namespace GemSim.Checkpoint

open GemSim.Lib
open GemSim.Registry (namesText sortedNames)

structure BeginArguments where
  checkpoint : String
  intent : String
  started_at : Option String
  participant : List String
  root_path : List String

structure ChildArguments where
  checkpoint : String
  id : String
  path : String
  head : Option String
  tree : Option String

structure RecordArguments where
  checkpoint : String
  id : String
  path : String
  head : String
  tree : String

variable (world : World)

section Begin

/-- A participant is `ID=PATH`, with a target `@HEAD:TREE` behind it or none. -/
def parse_participant (encoded : String) : Command (String × Declared) := do
  let (participant, separator, target) := partition '@' encoded.toList
  let (child_id, equals, child_path) := partition '=' participant
  require (equals = true ∧ isChildId (String.ofList child_id) = true)
    ("invalid participant declaration: '" ++ encoded ++ "'")
  let relative ← validated_child_path (String.ofList child_path)
  let (target_head, colon, target_tree) := partition ':' target
  if separator then
    require (colon = true ∧ isSha (String.ofList target_head) = true ∧
      isSha (String.ofList target_tree) = true)
      ("invalid participant target: '" ++ encoded ++ "'")
    pure (String.ofList child_id, { path := relative
                                    target_head := some (String.ofList target_head)
                                    target_tree := some (String.ofList target_tree)
                                    initial := none })
  else
    pure (String.ofList child_id,
      { path := relative, target_head := none, target_tree := none, initial := none })

def declare_participant (declared : List (String × Declared)) (encoded : String) :
    Command (List (String × Declared)) := do
  let child ← parse_participant encoded
  require (∀ other ∈ declared, other.1 ≠ child.1 ∧ other.2.path ≠ child.2.path)
    ("duplicate participant declaration: '" ++ encoded ++ "'")
  pure (declared ++ [child])

/-- The paths in order, each of them once. -/
def root_paths (paths : List String) : Command (List String) := do
  let validated ← paths.mapM validated_root_path
  let root_allowlist := sortedNames validated.dedup
  require (root_allowlist.length = paths.length) "root allowlist contains duplicate paths"
  pure root_allowlist

def verify_begin_prerequisites (next_checkpoint : String) : Command Current := do
  let objection ← ask fun clock => world.verifier clock []
  require (objection = none)
    ("accepted workspace verification failed: " ++ objection.getD "")
  let current ← ask world.current
  match current with
  | none => fail "cannot read the accepted checkpoint"
  | some current => do
    let checkpoint ← ask fun clock => world.checkpoint clock current.checkpoint_id
    match checkpoint with
    | none => fail "cannot read the accepted checkpoint"
    | some checkpoint =>
      match checkpoint.sequence with
      | none => fail "current checkpoint is not an accepted ready state"
      | some sequence => do
        require (current.state = "ready" ∧ checkpoint.status = "accepted" ∧
            checkpoint.id = current.checkpoint_id ∧
            current.checkpoint_id = "CP-" ++ paddedNumber sequence)
          "current checkpoint is not an accepted ready state"
        require (next_checkpoint = "CP-" ++ paddedNumber (sequence + 1))
          ("next transaction checkpoint must be CP-" ++ paddedNumber (sequence + 1) ++ ", got " ++
            next_checkpoint)
        pure current

/-- A child that is new is not there yet, and another one is as the previous root has it. -/
def check_initial (child_id path : String) : Option Identity → Command Unit
  | none => do
    let there ← ask fun clock => world.pathExists clock path
    require (there = false)
      ("new child path already exists before transaction begin: " ++ child_id)
  | some identity =>
    verify_child_identity world child_id
      { path := path, head := identity.head, tree := identity.tree }

/-- A participant with the identity that the previous root has for it. -/
def initial_participant (previous_root : String) (child : String × Declared) :
    Command (String × Declared) := do
  let initial ← initial_child_identity world previous_root child.1 child.2.path
  check_initial world child.1 child.2.path initial
  pure (child.1, { child.2 with initial := some initial })

/-- The checkpoints that a commit message names. -/
def checkpoint_lines (message : String) : List String :=
  (splitLines message).filter fun line => "Checkpoint-ID: ".toList.isPrefixOf line.toList

/-- The journal of a checkpoint that begins. -/
def initial_journal (arguments : BeginArguments) (current : Current) (previous_root now : String)
    (declared_children : List (String × Declared)) (root_allowlist : List String) : Journal where
  checkpoint_id := arguments.checkpoint
  phase := .prepare
  started_at := (arguments.started_at.filter fun text => text ≠ "").getD now
  previous_root := previous_root
  previous_checkpoint := current.checkpoint_id
  intent := arguments.intent
  declared_children := declared_children
  participants_locked := true
  expected_children := []
  root_allowlist := root_allowlist
  expected_root_tree := none
  root_coordinator_commit := none

def command_begin (arguments : BeginArguments) : Command Unit := do
  let declared_children ← arguments.participant.foldlM declare_participant []
  let root_allowlist ← root_paths arguments.root_path
  require (declared_children ≠ []) "a transaction must predeclare at least one child participant"
  transition_lock world
  let path ← journal_path arguments.checkpoint
  let control ← get
  require (control.active = []) ("another transaction is active: " ++
    String.intercalate ", " (sortedNames (control.active.map fun entry => entry.1 ++ ".json")))
  let status ← git world ["status", "--porcelain=v1", "--untracked-files=all"]
  require (status = "") "root worktree must be clean before beginning a transaction"
  let current ← verify_begin_prerequisites world arguments.checkpoint
  discard (repository_layout world "." "root coordinator")
  let message ← git world ["log", "-1", "--format=%B"]
  require (checkpoint_lines message = ["Checkpoint-ID: " ++ current.checkpoint_id])
    "HEAD has no unique current Checkpoint-ID trailer"
  let previous_root ← git world ["rev-parse", "HEAD"]
  let declared_children ← declared_children.mapM (initial_participant world previous_root)
  let now ← ask world.now
  atomic_json world path
    (initial_journal arguments current previous_root now declared_children root_allowlist)

end Begin

section Declare

/-- No other participant has the path. -/
def check_path_free (declared : List (String × Declared)) (id relative : String) : Command Unit :=
  match declared.find? fun child => child.1 ≠ id ∧ child.2.path = relative with
  | some child => fail ("child path is already declared by " ++ child.1)
  | none => pure ()

/-- What is recorded already is what is declared. -/
def check_recorded (value : Journal) (arguments : ChildArguments) (relative : String) :
    Command Unit :=
  match value.expected_children.lookup arguments.id with
  | none => pure ()
  | some recorded => do
    require (recorded.path = relative) ("recorded child path conflicts: " ++ arguments.id)
    require (arguments.head = none ∨
        some recorded.head = arguments.head ∧ some recorded.tree = arguments.tree)
      ("recorded child target conflicts: " ++ arguments.id)

/-- The journal with the target of a participant. -/
def declare_target (value : Journal) (arguments : ChildArguments) (relative : String) :
    Command Journal := do
  match value.declared_children.lookup arguments.id with
  | none => fail ("child was not predeclared when the transaction began: " ++ arguments.id)
  | some previous => do
    check_path_free value.declared_children arguments.id relative
    require (previous.path = relative) ("declared child path changed: " ++ arguments.id)
    require ((previous.target_head = none ∧ previous.target_tree = none) ∨
        previous.target_head = arguments.head ∧ previous.target_tree = arguments.tree)
      ("declared child identity changed: " ++ arguments.id)
    check_recorded value arguments relative
    if previous.target_head = none ∧ previous.target_tree = none then
      pure { value with
        declared_children := putEntry arguments.id
          { previous with target_head := arguments.head, target_tree := arguments.tree }
          value.declared_children }
    else pure value

def command_declare_child (arguments : ChildArguments) : Command Unit := do
  let relative ← validated_child_path arguments.path
  require (arguments.head.isNone = arguments.tree.isNone)
    "declared child target needs both head and tree or neither"
  require (arguments.head.all isSha = true ∧ (arguments.head.isSome → arguments.tree.all isSha = true))
    "declared child target must use full SHA-1 object IDs"
  transition_lock world
  let path ← journal_path arguments.checkpoint
  let value ← load_journal path
  require (value.phase = .prepare) "participants can only be declared during prepare"
  require (value.participants_locked = true) "transaction participant set is not locked"
  let value ← verify_declared_initial_children world value
  let value ← declare_target value arguments relative
  atomic_json world path value

def command_declare_root (checkpoint : String) (path : List String) : Command Unit := do
  let paths ← root_paths path
  transition_lock world
  let path ← journal_path checkpoint
  let value ← load_journal path
  require (value.phase = .prepare) "root paths can only be declared during prepare"
  require (value.root_allowlist = [] ∨ value.root_allowlist = paths)
    "root allowlist changed after declaration"
  atomic_json world path { value with root_allowlist := paths }

end Declare

section Record

/-- What a participant committed fits the declaration. -/
def check_declared (value : Journal) (arguments : RecordArguments) (relative : String) :
    Command Unit := do
  match value.declared_children.lookup arguments.id with
  | none => fail ("child was not declared at transaction begin: " ++ arguments.id)
  | some declared => do
    require (declared.path = relative) ("child path differs from declaration: " ++ arguments.id)
    require ((declared.target_head = none ∨ declared.target_head = some arguments.head) ∧
        (declared.target_tree = none ∨ declared.target_tree = some arguments.tree))
      ("child target differs from declaration: " ++ arguments.id)

/-- No other participant has recorded the path. -/
def check_path_unrecorded (recorded : List (String × Recorded)) (id path : String) : Command Unit :=
  match recorded.find? fun child => child.1 ≠ id ∧ child.2.path = path with
  | some child => fail ("child path is already recorded by " ++ child.1)
  | none => pure ()

def command_record_child (arguments : RecordArguments) : Command Unit := do
  require (isSha arguments.head = true ∧ isSha arguments.tree = true)
    "child head and tree must be full SHA-1 object IDs"
  let relative ← validated_child_path arguments.path
  transition_lock world
  let path ← journal_path arguments.checkpoint
  let value ← load_journal path
  require (value.phase = .prepare) "children can only be recorded during prepare"
  require (value.participants_locked = true) "transaction participant set is not locked"
  let value ← verify_declared_initial_children world value
  check_declared value arguments relative
  let entry : Recorded := { path := relative, head := arguments.head, tree := arguments.tree }
  verify_child_identity world arguments.id entry
  check_path_unrecorded value.expected_children arguments.id arguments.path
  require (value.expected_children.lookup arguments.id = none ∨
      value.expected_children.lookup arguments.id = some entry)
    ("child identity changed after recording: " ++ arguments.id)
  harden_commit world relative arguments.head arguments.id
  sync_repository_filesystems world [relative]
  verify_child_identity world arguments.id entry
  atomic_json world path
    { value with expected_children := putEntry arguments.id entry value.expected_children }

end Record

section Prepare

/-- The pairs of a list, if its length is even. -/
def pairs {Value : Type} : List Value → Option (List (Value × Value))
  | [] => some []
  | [_] => none
  | first :: second :: rest => (pairs rest).map fun later => (first, second) :: later

/-- A record of the difference: its modes, and the path. -/
def staged_gitlink (record : List Char × List Char) : Command String := do
  match splitWords record.1 with
  | [':' :: old_mode, new_mode, _, _, _] => do
    let relative ← validated_child_path (String.ofList record.2)
    require ((old_mode = "000000".toList ∨ old_mode = "160000".toList) ∧
        new_mode = "160000".toList)
      ("staged project change is not a gitlink publication: " ++ relative)
    pure relative
  | _ => fail "staged projects diff has malformed metadata"

/-- One more link that changed. -/
def changed_gitlink (changed : List String) (record : List Char × List Char) :
    Command (List String) := do
  let relative ← staged_gitlink record
  require (relative ∉ changed) ("staged project path is duplicated: " ++ relative)
  pure (changed ++ [relative])

/-- Every changed link to a child is one of a participant. -/
def verify_staged_participant_gitlinks (value : Journal) : Command Unit := do
  require (isSha value.previous_root = true) "transaction has no valid previous root"
  require (value.declared_children ≠ []) "transaction has no declared child participants"
  let raw ← gitBytes world
    ["diff", "--cached", "--raw", "-z", "--no-renames", value.previous_root, "--", "projects"]
  let parts := raw.toList.splitOn '\x00'
  let parts := if parts.getLast? = some [] then parts.dropLast else parts
  match pairs parts with
  | none => fail "staged projects diff has malformed raw records"
  | some records => do
    let changed ← records.foldlM changed_gitlink []
    let expected := (value.declared_children.map fun child => child.2.path).dedup
    require ((∀ path ∈ changed, path ∈ expected) ∧ ∀ path ∈ expected, path ∈ changed)
      ("changed gitlinks differ from declared participants; missing=" ++
        namesText (sortedNames (expected.filter (· ∉ changed))) ++ ", extra=" ++
        namesText (sortedNames (changed.filter (· ∉ expected))))

/-- The participants by name. -/
def byName (children : List (String × Recorded)) : List (String × Recorded) :=
  children.insertionSort fun first second => first.1 ≤ second.1

/-- The link that is staged for a participant is the one recorded. -/
def verify_staged_link (child : String × Recorded) : Command Unit := do
  verify_child_identity world child.1 child.2
  let index ← git world ["ls-files", "--stage", "--", child.2.path]
  match splitWords index.toList with
  | mode :: head :: _ :: _ :: _ =>
    require (String.ofList mode = "160000" ∧ String.ofList head = child.2.head)
      ("staged gitlink mismatch for " ++ child.1)
  | _ => fail ("staged gitlink mismatch for " ++ child.1)

def command_prepare_root (checkpoint : String) : Command Unit := do
  transition_lock world
  let path ← journal_path checkpoint
  let value ← load_journal path
  require (value.phase = .prepare) "transaction is not in prepare phase"
  require (value.participants_locked = true) "transaction participant set is not locked"
  let value ← verify_declared_initial_children world value
  let declared := value.declared_children.map Prod.fst
  let recorded := value.expected_children.map Prod.fst
  require (declared ≠ [] ∧ (∀ child ∈ declared, child ∈ recorded) ∧
      ∀ child ∈ recorded, child ∈ declared)
    ("participant set is incomplete; missing=" ++
      namesText (sortedNames (declared.filter (· ∉ recorded))) ++ ", extra=" ++
      namesText (sortedNames (recorded.filter (· ∉ declared))))
  (byName value.expected_children).forM (verify_staged_link world)
  verify_staged_participant_gitlinks world value
  require (value.root_allowlist ≠ []) "root staged-path allowlist is not declared"
  let names ← git world ["diff", "--cached", "--name-only", "--diff-filter=ACDMRTUXB"]
  let staged := ((splitLines names).filter (· ≠ "")).dedup
  require ((∀ path ∈ staged, path ∈ value.root_allowlist) ∧
      ∀ path ∈ value.root_allowlist, path ∈ staged)
    ("staged paths differ from root allowlist; missing=" ++
      namesText (sortedNames (value.root_allowlist.filter (· ∉ staged))) ++ ", extra=" ++
      namesText (sortedNames (staged.filter (· ∉ value.root_allowlist))))
  let unstaged ← git world ["diff", "--name-only"]
  let untracked ← git world ["ls-files", "--others", "--exclude-standard"]
  require (unstaged = "" ∧ untracked = "") ("root has uncoordinated files; unstaged=" ++
    namesText (splitLines unstaged) ++ ", untracked=" ++ namesText (splitLines untracked))
  let root_tree ← git world ["write-tree"]
  harden_object_closure world "." root_tree "root prepared tree"
  discard (git world ["rev-parse", "--absolute-git-dir"])
  onDisk world
  discard (git world ["rev-parse", "--absolute-git-dir"])
  onDisk world
  sync_repository_filesystems world
    ("." :: value.expected_children.map fun child => child.2.path)
  let again ← git world ["write-tree"]
  require (again = root_tree) "root index changed across durability barrier"
  (byName value.expected_children).forM fun child => verify_child_identity world child.1 child.2
  let staged ← gitBytes world ["diff", "--cached", "--binary", "--full-index"]
  atomic_json world path
    { value with
      phase := .prepared
      expected_root_tree := some root_tree
      staged_manifest_sha256 := some (world.sha256 staged) }

end Prepare

section Finalize

/-- The link in the commit of the root is the one recorded. -/
def check_link (child : String × Recorded) (record : String) : Command Unit :=
  match splitWords record.toList with
  | mode :: _ :: head :: _ :: _ =>
    require (String.ofList mode = "160000" ∧ String.ofList head = child.2.head)
      ("coordinator gitlink mismatch for " ++ child.1)
  | _ => fail ("coordinator gitlink mismatch for " ++ child.1)

def verify_committed_link (child : String × Recorded) : Command Unit := do
  let record ← git world ["ls-tree", "HEAD", "--", child.2.path]
  check_link child record
  verify_child_identity world child.1 child.2

/-- The commit of the root: its name, its parent, its tree and its message. -/
structure RootCommit where
  head : String
  parent : String
  tree : String
  message : String

def root_commit : Command RootCommit := do
  let head ← git world ["rev-parse", "HEAD"]
  let parent ← git world ["rev-parse", "HEAD^"]
  let tree ← git world ["rev-parse", "HEAD^{tree}"]
  let message ← git world ["log", "-1", "--format=%B"]
  pure { head := head, parent := parent, tree := tree, message := message }

/-- The commit of the root is the one that was prepared. -/
def check_root_commit (value : Journal) (checkpoint : String) (commit : RootCommit) :
    Command Unit := do
  require (commit.parent = value.previous_root)
    "coordinator commit does not directly follow previous_root"
  require (some commit.tree = value.expected_root_tree)
    "coordinator commit tree differs from prepared root tree"
  require (messageFailures commit.message = []) ("coordinator commit message is invalid: " ++
    String.intercalate "\n" (messageFailures commit.message))
  require (checkpoint_lines commit.message = ["Checkpoint-ID: " ++ checkpoint])
    "coordinator commit has a mismatched Checkpoint-ID trailer"

/-- The state of the workspace is that of the checkpoint. -/
def check_current (checkpoint : String) : Option Current → Command Unit
  | none => throw .environment
  | some current =>
    require (current.checkpoint_id = checkpoint)
      "state/current.json does not point to this transaction"

/-- A journal that is committed already names the same commit. -/
def check_committed (value : Journal) (head : String) : Command Unit := do
  require (value.phase = .committed → value.root_coordinator_commit = some head)
    "committed transaction does not bind the coordinator HEAD"
  require (value.phase = .committed → value.committed_at.any (· ≠ "") = true)
    "committed transaction lacks a commit timestamp"

/-- The root is clean and has not moved. -/
def check_unmoved (head : String) : Command Unit := do
  let status ← git world ["status", "--porcelain=v1", "--untracked-files=all"]
  require (status = "") "root worktree is dirty after coordinator commit"
  let objection ← ask fun clock => world.verifier clock ["--allow-transaction"]
  require (objection = none)
    ("post-commit workspace verification failed: " ++ objection.getD "")
  let again ← git world ["rev-parse", "HEAD"]
  require (again = head) "root HEAD changed during post-commit verification"
  let status ← git world ["status", "--porcelain=v1", "--untracked-files=all"]
  require (status = "") "root worktree changed during post-commit verification"

/-- The root did not move while it was made durable. -/
def check_barrier (head tree : String) : Command Unit := do
  let again ← git world ["rev-parse", "HEAD"]
  require (again = head) "root identity changed across durability barrier"
  let again ← git world ["rev-parse", "HEAD^{tree}"]
  require (again = tree) "root identity changed across durability barrier"
  let status ← git world ["status", "--porcelain=v1", "--untracked-files=all"]
  require (status = "") "root identity changed across durability barrier"

/-- A journal that is prepared becomes committed. -/
def commit_journal (path : String) (value : Journal) (head committed_at : String) : Command Unit :=
  if value.phase = .prepared then
    atomic_json world path
      { value with
        phase := .committed
        root_coordinator_commit := some head
        committed_at := some committed_at }
  else pure ()

def command_finalize (checkpoint committed_at : String) : Command Unit := do
  transition_lock world
  let path ← journal_path checkpoint
  let value ← load_journal path
  let value ← verify_declared_initial_children world value
  require (value.phase ≠ .prepare) "transaction must be prepared before finalization"
  let commit ← root_commit world
  check_root_commit value checkpoint commit
  (byName value.expected_children).forM (verify_committed_link world)
  let current ← ask world.current
  check_current checkpoint current
  check_committed value commit.head
  check_unmoved world commit.head
  harden_commit world "." commit.head "root coordinator"
  sync_repository_filesystems world
    ("." :: value.expected_children.map fun child => child.2.path)
  check_barrier world commit.head commit.tree
  (byName value.expected_children).forM fun child => verify_child_identity world child.1 child.2
  commit_journal world path value commit.head committed_at
  retire_journal world path

end Finalize

section Machine

inductive Request where
  | begin (arguments : BeginArguments)
  | declareChild (arguments : ChildArguments)
  | declareRoot (checkpoint : String) (path : List String)
  | recordChild (arguments : RecordArguments)
  | prepareRoot (checkpoint : String)
  | finalize (checkpoint committed_at : String)

def command : Request → Command Unit
  | .begin arguments => command_begin world arguments
  | .declareChild arguments => command_declare_child world arguments
  | .declareRoot checkpoint path => command_declare_root world checkpoint path
  | .recordChild arguments => command_record_child world arguments
  | .prepareRoot checkpoint => command_prepare_root world checkpoint
  | .finalize checkpoint committed_at => command_finalize world checkpoint committed_at

/-- The files after a command, whether it stopped or not. -/
def step (control : Control) (request : Request) : Control :=
  ((command world request).result control).2

end Machine

end GemSim.Checkpoint
