import GemSim.Lib.Json
import GemSim.Lib.Loop
import Mathlib.Data.Finset.Sort
import Mathlib.Data.Prod.Lex
import Mathlib.Data.String.Basic

/-!
# The packages of a sysroot

The packages of a sysroot are the roots and everything that they depend on. A dependency is a
group of alternatives: the first one in the index becomes a package of the sysroot, and where none
is in the index, the dependency is one that a replacement provides, or one that is left to the
outside. What has been decided for each group is recorded.

## Main definitions

* `dependency_groups` — the groups of a dependency field
* `Resolution`, `Record` — what is decided for a group
* `resolve_packages` — the packages, and the records
-/

namespace GemSim.Sysroot

open GemSim.Lib

section Errors

/-- The quotes of a text that is printed as a literal. -/
def reprQuote (text : List Char) : Char := if '\'' ∈ text ∧ '"' ∉ text then '"' else '\''

/-- A character of such a text. What is printable outside of ASCII is up to Unicode. -/
def reprChar (printable : Char → Bool) (quote char : Char) : List Char :=
  let code := char.toNat
  let digits (count : ℕ) : List Char :=
    (List.range count).map fun place => hexDigit (code / 16 ^ (count - 1 - place) % 16)
  if char = quote ∨ char = '\\' then ['\\', char]
  else if char = '\t' then ['\\', 't']
  else if char = '\n' then ['\\', 'n']
  else if char = '\r' then ['\\', 'r']
  else if 32 ≤ code ∧ code < 127 ∨ 127 < code ∧ printable char then [char]
  else if code < 0x100 then '\\' :: 'x' :: digits 2
  else if code < 0x10000 then '\\' :: 'u' :: digits 4
  else '\\' :: 'U' :: digits 8

def reprText (printable : Char → Bool) (text : List Char) : List Char :=
  reprQuote text :: (text.flatMap (reprChar printable (reprQuote text)) ++ [reprQuote text])

inductive SysrootError where
  | message (text : String)
  | unsupported (alternative : List Char)
  deriving DecidableEq

/-- The text of an error. -/
def SysrootError.text (printable : Char → Bool) : SysrootError → String
  | message text => text
  | unsupported alternative =>
    "unsupported Debian dependency: " ++ String.ofList (reprText printable alternative)

end Errors

/-- The fields of each package, by name. -/
abbrev PackageIndex := List (String × List (String × String))

def FORBIDDEN_PACKAGES : List String := ["hsa-rocr", "hsa-rocr-dev"]

section Dependencies

/-- White space of a text: what `strip` takes away and `\s` matches. -/
def isSpace (char : Char) : Bool :=
  let code := char.toNat
  (0x09 ≤ code && code ≤ 0x0d) || (0x1c ≤ code && code ≤ 0x20) || code = 0x85 || code = 0xa0 ||
    code = 0x1680 || (0x2000 ≤ code && code ≤ 0x200a) || code = 0x2028 || code = 0x2029 ||
    code = 0x202f || code = 0x205f || code = 0x3000

def isLowerOrDigit (char : Char) : Bool :=
  ('a' ≤ char && char ≤ 'z') || ('0' ≤ char && char ≤ '9')

/-- A character of a package name after the first one. -/
def isNameChar (char : Char) : Bool :=
  isLowerOrDigit char || char = '+' || char = '.' || char = '-'

/-- The name that an alternative starts with. What follows it, a version or an architecture, is
not looked at. -/
def alternativeName (alternative : List Char) : Except SysrootError String :=
  match alternative.dropWhile isSpace with
  | [] => .error (.unsupported alternative)
  | first :: rest =>
    if isLowerOrDigit first then .ok (String.ofList (first :: rest.takeWhile isNameChar))
    else .error (.unsupported alternative)

def dependency_groups (value : String) : Except SysrootError (List (List String)) :=
  if value.toList.all isSpace then .ok []
  else (value.toList.splitOn ',').mapM fun group => (group.splitOn '|').mapM alternativeName

end Dependencies

section Resolutions

inductive Resolution where
  | package (name : String)
  | replacement (name provider : String)
  | external (name : String)
  deriving DecidableEq

structure Record where
  package : String
  alternatives : List String
  resolution : Resolution
  deriving DecidableEq

/-- The entries of a resolution. -/
def Resolution.fields : Resolution → List (String × Json)
  | package name => [("kind", .string "package"), ("name", .string name)]
  | replacement name provider =>
    [("kind", .string "replacement"), ("name", .string name), ("provider", .string provider)]
  | external name => [("kind", .string "external"), ("name", .string name)]

def canonical_json (fields : List (String × Json)) : String :=
  String.ofList (dumps (.object fields)) ++ "\n"

/-- What the records are sorted by. -/
def Record.key (record : Record) : String ×ₗ (List String ×ₗ String) :=
  toLex (record.package, toLex (record.alternatives, canonical_json record.resolution.fields))

end Resolutions

section Resolving

variable (records : PackageIndex) (replacements : List (String × String))
  (external_dependencies : Finset String)

def available (name : String) : Bool := (records.lookup name).isSome

/-- A name that may become a package. -/
def selectable (name : String) : Bool := available records name && name ∉ FORBIDDEN_PACKAGES

/-- The dependency field of a package. -/
def depends (name : String) : String :=
  (((records.lookup name).getD []).lookup "Depends").getD ""

/-- The names that wait at the end of the list for the next one to be taken, the packages that
have been selected, and what has been decided. -/
structure Worklist where
  pending : List String
  selected : Finset String
  resolutions : List Record

def resolveGroup (name : String) (work : Worklist) (alternatives : List String) :
    Except SysrootError Worklist :=
  match alternatives.find? (selectable records) with
  | some internal =>
    .ok { work with
      pending := work.pending ++ [internal]
      resolutions := work.resolutions ++ [⟨name, alternatives, .package internal⟩] }
  | none =>
    match alternatives.findSome? fun candidate =>
        (replacements.lookup candidate).map (candidate, ·) with
    | some (replacement, provider) =>
      .ok { work with
        resolutions := work.resolutions ++
          [⟨name, alternatives, .replacement replacement provider⟩] }
    | none =>
      match alternatives.find? (· ∈ external_dependencies) with
      | some external =>
        .ok { work with
          resolutions := work.resolutions ++ [⟨name, alternatives, .external external⟩] }
      | none =>
        .error (.message ("unresolved dependency of " ++ name ++ ": " ++
          String.intercalate " | " alternatives))

/-- A name that has not been selected yet is selected, and its groups are resolved. -/
def selectPackage (name : String) (work : Worklist) : Except SysrootError Worklist := do
  if ¬ selectable records name then
    throw (.message ("root ROCm package is unavailable or forbidden: " ++ name))
  let groups ← dependency_groups (depends records name)
  groups.foldlM (resolveGroup records replacements external_dependencies name)
    { work with selected := insert name work.selected }

/-- One pass takes the last name. -/
def resolvePass (work : Worklist) :
    Pass Worklist (Except SysrootError (List String × List Record)) :=
  match work.pending.getLast? with
  | none =>
    .finish (.ok (work.selected.sort,
      work.resolutions.insertionSort fun first second => first.key ≤ second.key))
  | some name =>
    let rest := { work with pending := work.pending.dropLast }
    if name ∈ work.selected then .next rest
    else
      match selectPackage records replacements external_dependencies name rest with
      | .error error => .finish (.error error)
      | .ok after => .next after

def resolve_packages (roots : List String) (passes : ℕ) :
    Ending (Except SysrootError (List String × List Record)) :=
  loop (resolvePass records replacements external_dependencies) passes ⟨roots, ∅, []⟩

end Resolving

end GemSim.Sysroot
