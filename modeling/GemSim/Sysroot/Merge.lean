import GemSim.CodeObject.Sha256
import GemSim.Lib.FileTree
import GemSim.Sysroot.Packages

/-!
# The merge of packages

The trees of packages are merged into one tree, entry by entry. Directories may be shared, and so
may files and links that are the same. Before a link is made, its target is checked: it must be
relative, and its components must not lead upwards out of the tree, as far as their spelling says.

## Main definitions

* `Tree`, `Package` — what a package holds, and in which order it is seen
* `Merge` — an action on the tree that the packages are merged into
* `validate_relative_symlink` — the check of a target
* `merge_packages` — the merge
-/

namespace GemSim.Sysroot

open GemSim.CodeObject GemSim.Domain GemSim.Lib

section Trees

/-- A name in a directory. -/
structure FileName where
  text : Component
  named : Named text
  slashFree : '/' ∉ text
  deriving DecidableEq

structure File where
  uid : ℕ
  mode : ℕ
  content : List UInt8
  deriving DecidableEq

/-- What a package holds. Devices and the like are special. -/
inductive Tree where
  | directory (entries : List (FileName × Tree))
  | regular (file : File)
  | symlink (target : List Char)
  | special

def Tree.node : Tree → Option (Node File)
  | directory _ => some .directory
  | regular file => some (.regular file)
  | symlink target => some (.symlink target)
  | special => none

/-- An entry of a package, by the names that lead there. -/
structure Visit where
  relative : List FileName
  node : Option (Node File)

def Visit.place (visit : Visit) : Place := visit.relative.map FileName.text

/-- An entry of a directory, with what is seen below it. -/
structure Listed where
  name : FileName
  node : Option (Node File)
  seen : List Visit

/-- The entries of a directory in their order: what leads to a directory comes first. Links are
not followed. -/
def walkOrder (leads : List FileName → Bool) (above : List FileName) (entries : List Listed) :
    List Visit :=
  let inDirectories (entry : Listed) : Bool :=
    match entry.node with
    | some .directory => true
    | some (.symlink _) => leads (above ++ [entry.name])
    | _ => false
  let inOrder (list : List Listed) : List Listed :=
    list.insertionSort fun first second => first.name.text ≤ second.name.text
  let directories := inOrder (entries.filter inDirectories)
  let files := inOrder (entries.filter fun entry => ¬ inDirectories entry)
  (directories ++ files).map (fun entry => ⟨above ++ [entry.name], entry.node⟩) ++
    directories.flatMap Listed.seen

mutual

/-- What is seen below an entry. -/
def Tree.seen (leads : List FileName → Bool) (above : List FileName) : Tree → List Visit
  | .directory entries => walkOrder leads above (listing leads above entries)
  | _ => []

def listing (leads : List FileName → Bool) (above : List FileName) :
    List (FileName × Tree) → List Listed
  | [] => []
  | (name, tree) :: rest =>
    ⟨name, tree.node, tree.seen leads (above ++ [name])⟩ :: listing leads above rest

end

/-- A package that has been extracted. A link of it may lead to a directory, which depends on what
is around it, too. -/
structure Package where
  name : String
  entries : List (FileName × Tree)
  leadsToDirectory : List FileName → Bool

def Package.visits (package : Package) : List Visit :=
  (Tree.directory package.entries).seen package.leadsToDirectory []

end Trees

section Checks

inductive Errno where
  | ENOENT
  | EEXIST
  | ENOTDIR
  | ELOOP
  deriving DecidableEq

inductive MergeError where
  | sysroot (error : SysrootError)
  | os (errno : Errno)
  deriving DecidableEq

/-- What an entry is compared by. -/
inductive Entry where
  | regular (mode bytes : ℕ) (sha256 : Sha256)
  | symlink (target : List Char)
  | directory
  deriving DecidableEq

def pathText (relative : Place) : String := String.ofList (['/'].intercalate relative)

/-- A file that only its owner can write, and that changes no identity. -/
def trusted (user : ℕ) (file : File) : Bool :=
  (file.uid = user || file.uid = 0) && file.mode &&& 0o22 = 0 && file.mode &&& 0o7000 = 0

def entryOf (user : ℕ) (path : Place) (node : Option (Node File)) : Except MergeError Entry :=
  match node with
  | some (.regular file) =>
    if trusted user file then .ok (.regular file.mode file.content.length (sha256 file.content))
    else .error (.sysroot (.message ("expected a trusted regular file: " ++ pathText path)))
  | some (.symlink target) => .ok (.symlink target)
  | some .directory => .ok .directory
  | none => .error (.sysroot (.message ("special file in ROCm Debian package: " ++ pathText path)))

def FORBIDDEN_FILES : List String := ["libhsa-runtime64.so", "libhsakmt.so"]

/-- A library of the runtime, with or without a version, below some directory. -/
def forbidden_file (relative : Place) : Bool :=
  FORBIDDEN_FILES.any fun name =>
    ('/' :: name.toList) <:+ ['/'].intercalate relative ||
      ('/' :: name.toList ++ ['.']) <:+: ['/'].intercalate relative

/-- One component after those that are left so far. -/
def normalizeStep (error : MergeError) (normalized : List Component) (component : Component) :
    Except MergeError (List Component) :=
  if component = [] ∨ component = ['.'] then .ok normalized
  else if component = dotdot then
    if normalized = [] then .error error else .ok normalized.dropLast
  else .ok (normalized ++ [component])

def validate_relative_symlink (relative : Place) (target : List Char) :
    Except MergeError (List Component) :=
  let arrow := pathText relative ++ " -> " ++ String.ofList target
  let path := parsePath target
  if path.isAbsolute then
    .error (.sysroot (.message ("absolute symlink in ROCm sysroot: " ++ arrow)))
  else
    (relative.dropLast ++ path.parts).foldlM
      (normalizeStep (.sysroot (.message ("symlink escapes ROCm sysroot: " ++ arrow)))) []

end Checks

section Merging

/-- The tree that is merged into, the places that have been looked at, made or read, and the
packages that own each path. -/
structure Disk where
  tree : FileTree File
  touched : List Place
  owners : List (Place × List String)

abbrev Merge := StateT Disk (Except MergeError)

/-- A walk follows this many links. -/
def MAXSYMLINKS : ℕ := 40

variable (user : ℕ) (destination : Place)

/-- The walk of a path in the destination. -/
def lookUp (follow : Bool) (path : Place) : Merge Outcome := fun disk =>
  let walked := walk disk.tree follow MAXSYMLINKS destination path
  .ok (walked.outcome, { disk with touched := disk.touched ++ walked.visited })

/-- What is at a place. -/
def nodeAt (place : Place) : Merge (Option (Node File)) := fun disk => .ok (disk.tree place, disk)

def putNode (place : Place) (node : Node File) : Merge Unit := fun disk =>
  .ok ((), { disk with tree := disk.tree.put place node })

def pathExists (path : Place) : Merge Bool := do
  match ← lookUp destination true path with
  | .found _ => return true
  | _ => return false

def isDirectory (path : Place) : Merge Bool := do
  match ← lookUp destination true path with
  | .found place => return (← nodeAt place) = some .directory
  | _ => return false

def isSymlink (path : Place) : Merge Bool := do
  match ← lookUp destination false path with
  | .found place =>
    match ← nodeAt place with
    | some (.symlink _) => return true
    | _ => return false
  | _ => return false

/-- A directory or a link is made at the end of a path, where nothing may be yet. -/
def makeNode (path : Place) (node : Node File) : Merge (Option Errno) := do
  match ← lookUp destination false path with
  | .absent place [] => do
    putNode place node
    return none
  | .absent _ _ => return some .ENOENT
  | .found _ => return some .EEXIST
  | .notDirectory _ => return some .ENOTDIR
  | .tooManyLinks _ => return some .ELOOP

/-- What is not a directory yet cannot become one. -/
def unlessDirectory (path : Place) (errno : Errno) : Merge Unit := do
  if ← isDirectory destination path then return ()
  else throw (.os errno)

/-- A directory is made in one that is there already. -/
def makeDirectory (path : Place) : Merge Unit := do
  match ← makeNode destination path .directory with
  | none => return ()
  | some .ENOENT => throw (.os .ENOENT)
  | some errno => unlessDirectory destination path errno

/-- A directory is made with those above it. The path is given from its last name on. -/
def makeDirectories : Place → Merge Unit
  | [] => makeDirectory destination []
  | name :: above => do
    let path := (name :: above).reverse
    match ← makeNode destination path .directory with
    | none => return ()
    | some .ENOENT => do
      makeDirectories above
      makeDirectory destination path
    | some errno => unlessDirectory destination path errno

/-- The entry at the end of a path. -/
def destinationEntry (path : Place) : Merge Entry := do
  match ← lookUp destination false path with
  | .found place => do
    let node ← nodeAt place
    entryOf user path node
  | _ => throw (.os .ENOENT)

/-- A file is copied to where nothing is. It belongs to the user then. -/
def copyFile (path : Place) (file : File) : Merge Unit := do
  match ← lookUp destination true path with
  | .absent place [] => putNode place (.regular { file with uid := user })
  | .found _ => throw (.os .EEXIST)
  | _ => throw (.os .ENOENT)

def makeSymlink (path : Place) (target : List Char) : Merge Unit := do
  match ← makeNode destination path (.symlink target) with
  | none => return ()
  | some errno => throw (.os errno)

/-- A package becomes an owner of a path. -/
def addOwner (package : String) (path : Place) : Merge Unit := fun disk =>
  let known := disk.owners.any fun entry => entry.1 = path
  let owners :=
    if known then
      disk.owners.map fun entry => if entry.1 = path then (entry.1, entry.2 ++ [package]) else entry
    else disk.owners ++ [(path, [package])]
  .ok ((), { disk with owners := owners })

/-- Something is there, or a link that leads nowhere. -/
def isTaken (path : Place) : Merge Bool := do
  if ← pathExists destination path then return true
  else isSymlink destination path

/-- What is there is not replaced by something else. -/
def compareEntry (path : Place) (entry : Entry) : Merge Unit := do
  if (← destinationEntry user destination path) = entry then return ()
  else throw (.sysroot (.message ("ROCm package content collision: " ++ pathText path)))

/-- A file or a link is made, unless it is there already. -/
def mergeLeaf (path : Place) (entry : Entry) (create : Merge Unit) : Merge Unit := do
  makeDirectories destination path.dropLast.reverse
  if ← isTaken destination path then compareEntry user destination path entry
  else create

/-- What is there and is not a directory is not replaced by one. -/
def mergeDirectory (path : Place) : Merge Unit := do
  if ← pathExists destination path then
    if ← isDirectory destination path then makeDirectories destination path.reverse
    else throw (.sysroot (.message ("ROCm package path collision: " ++ pathText path)))
  else makeDirectories destination path.reverse

/-- An entry of a package is merged. -/
def mergeEntry (package : String) (path : Place) (entry : Entry) : Option (Node File) → Merge Unit
  | none => return ()
  | some .directory => mergeDirectory destination path
  | some (.symlink target) => do
    let _ ← validate_relative_symlink path target
    mergeLeaf user destination path entry (makeSymlink destination path target)
    addOwner package path
  | some (.regular file) => do
    mergeLeaf user destination path entry (copyFile user destination path file)
    addOwner package path

def mergeVisit (package : String) (visit : Visit) : Merge Unit :=
  if forbidden_file visit.place then
    throw (.sysroot (.message ("ROCr provider file is forbidden: " ++ package ++ ":" ++
      pathText visit.place)))
  else do
    let entry ← entryOf user visit.place visit.node
    mergeEntry user destination package visit.place entry visit.node

def merge_package (package : Package) : Merge Unit :=
  package.visits.forM (mergeVisit user destination package.name)

def merge_packages (packages : List Package) : Merge Unit :=
  packages.forM (merge_package user destination)

end Merging

end GemSim.Sysroot
