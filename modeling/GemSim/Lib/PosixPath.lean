import Mathlib.Data.List.Basic
import Mathlib.Data.List.Infix
import Mathlib.Data.Nat.Notation

/-!
# Paths

A path is a root and the components under it. Slashes that are doubled and components that say
nothing do not count, so that one path has many spellings; a component that leads upwards does
count, and only the normal form of a spelling has none. A spelling whose path is that of its
normal form leads downwards only, and then the components say where in the tree it ends.

## Main definitions

* `PurePosixPath` — a path
* `parsePath`, `normpath` — the path of a spelling, and its normal form
* `PurePosixPath.parent` — the path without its last component

## Main results

* `dotdot_notMem_of_normal` — an absolute path in normal form leads downwards
* `above_or_above` — two places above a third one
-/

namespace GemSim.Lib

/-- A component, by its characters. -/
abbrev Component := List Char

/-- The component that leads upwards. -/
def dotdot : Component := ['.', '.']

/-- The root is none, one slash, or two. -/
structure PurePosixPath where
  root : ℕ
  parts : List Component
  deriving DecidableEq

section Definitions

/-- The slashes of the root of a spelling. From three on, they count as one. -/
def rootSlashes : List Char → ℕ
  | '/' :: '/' :: '/' :: _ => 1
  | '/' :: '/' :: _ => 2
  | '/' :: _ => 1
  | _ => 0

/-- A component that says something. -/
def significant (component : Component) : Bool := component ≠ [] ∧ component ≠ ['.']

def parsePath (value : List Char) : PurePosixPath where
  root := rootSlashes value
  parts := (value.splitOn '/').filter significant

/-- One component after those that are there. -/
def normStep (slashes : ℕ) (done : List Component) (component : Component) : List Component :=
  if ¬ significant component then done
  else if component ≠ dotdot ∨ (slashes = 0 ∧ done = []) ∨ done.getLast? = some dotdot then
    done ++ [component]
  else done.dropLast

def normpath (value : List Char) : List Char :=
  if value = [] then ['.']
  else
    let slashes := rootSlashes value
    let components := (value.splitOn '/').foldl (normStep slashes) []
    let path := List.replicate slashes '/' ++ ['/'].intercalate components
    if path = [] then ['.'] else path

namespace PurePosixPath

def isAbsolute (path : PurePosixPath) : Prop := path.root ≠ 0

instance (path : PurePosixPath) : Decidable path.isAbsolute := inferInstanceAs (Decidable (_ ≠ _))

/-- The parent of a root is the root. -/
def parent (path : PurePosixPath) : PurePosixPath := { path with parts := path.parts.dropLast }

/-- The characters of a path. -/
def text (path : PurePosixPath) : List Char :=
  let text := List.replicate path.root '/' ++ ['/'].intercalate path.parts
  if text = [] then ['.'] else text

end PurePosixPath

end Definitions

section Normal

variable {value : List Char} {slashes : ℕ} {components done : List Component}
  {component : Component}

theorem notMem_of_mem_splitOn (value : List Char) :
    ∀ component ∈ value.splitOn '/', '/' ∉ component := by
  induction value with
  | nil => simp
  | cons char rest ih =>
    rw [List.splitOn_cons_eq_if_modifyHead]
    by_cases slash : char = '/'
    · simpa [slash] using ih
    · rw [if_neg (by simpa using slash)]
      obtain ⟨first, others, split⟩ := List.exists_cons_of_ne_nil (List.splitOn_ne_nil '/' rest)
      rw [split] at ih ⊢
      intro component member
      rcases List.mem_cons.mp member with rfl | member
      · have there := ih first List.mem_cons_self
        simpa [eq_comm, slash] using there
      · exact ih component (List.mem_cons_of_mem _ member)

/-- What a normal form is made of under a root. -/
structure NormalParts (components : List Component) : Prop where
  significant : ∀ component ∈ components, significant component = true
  slashFree : ∀ component ∈ components, '/' ∉ component
  downwards : dotdot ∉ components

theorem normalParts_normStep (absolute : slashes ≠ 0) (slashFree : '/' ∉ component)
    (normal : NormalParts done) : NormalParts (normStep slashes done component) := by
  rw [normStep]
  by_cases counts : significant component = true
  · have last : done.getLast? ≠ some dotdot := fun last =>
      normal.downwards (List.mem_of_getLast? last)
    rw [if_neg (not_not.mpr counts)]
    by_cases other : component = dotdot
    · -- a component that leads upwards removes one
      rw [if_neg (by simp [other, absolute, last])]
      exact ⟨fun part member => normal.significant part (List.mem_of_mem_dropLast member),
        fun part member => normal.slashFree part (List.mem_of_mem_dropLast member),
        fun member => normal.downwards (List.mem_of_mem_dropLast member)⟩
    · rw [if_pos (.inl other)]
      refine ⟨?_, ?_, ?_⟩
      · intro part member
        rcases List.mem_append.mp member with member | member
        · exact normal.significant part member
        · rwa [List.mem_singleton.mp member]
      · intro part member
        rcases List.mem_append.mp member with member | member
        · exact normal.slashFree part member
        · rwa [List.mem_singleton.mp member]
      · intro member
        rcases List.mem_append.mp member with member | member
        · exact normal.downwards member
        · exact other (List.mem_singleton.mp member).symm
  · rwa [if_pos counts]

theorem normalParts_foldl (absolute : slashes ≠ 0)
    (slashFree : ∀ component ∈ components, '/' ∉ component) (normal : NormalParts done) :
    NormalParts (components.foldl (normStep slashes) done) := by
  induction components generalizing done with
  | nil => exact normal
  | cons component components ih =>
    rw [List.foldl_cons]
    exact ih (fun other member => slashFree other (List.mem_cons_of_mem _ member))
      (normalParts_normStep absolute (slashFree component List.mem_cons_self) normal)

/-- The components of a text that was joined under a root. -/
theorem filter_splitOn_join (normal : NormalParts components) (slashes : ℕ) :
    ((List.replicate slashes '/' ++ ['/'].intercalate components).splitOn '/').filter significant =
      components := by
  induction slashes with
  | zero =>
    rw [List.replicate_zero, List.nil_append]
    by_cases empty : components = []
    · rw [empty]
      rfl
    · rw [List.splitOn_intercalate '/' normal.slashFree empty, List.filter_eq_self]
      exact normal.significant
  | succ slashes ih =>
    rw [List.replicate_succ, List.cons_append, List.splitOn_cons_eq_if_modifyHead, if_pos (by simp),
      List.filter_cons_of_neg (by simp [significant]), ih]

/-- An absolute path in normal form leads downwards only. -/
theorem dotdot_notMem_of_normal (absolute : (parsePath value).isAbsolute)
    (normal : parsePath (normpath value) = parsePath value) :
    dotdot ∉ (parsePath value).parts := by
  have parts := normalParts_foldl absolute (notMem_of_mem_splitOn value)
    (⟨by simp, by simp, by simp⟩ : NormalParts [])
  have given : value ≠ [] := by
    rintro rfl
    exact absolute rfl
  have some : List.replicate (rootSlashes value) '/' ++
      ['/'].intercalate ((value.splitOn '/').foldl (normStep (rootSlashes value)) []) ≠ [] := by
    intro empty
    have slashes := (List.append_eq_nil_iff.mp empty).1
    rw [List.replicate_eq_nil_iff] at slashes
    exact absolute slashes
  have joined : (parsePath (normpath value)).parts =
      (value.splitOn '/').foldl (normStep (rootSlashes value)) [] := by
    rw [normpath, if_neg given]
    dsimp only
    rw [if_neg some, parsePath]
    exact filter_splitOn_join parts _
  rw [← normal, joined]
  exact parts.downwards

end Normal

section Places

variable {first second place : List Component}

/-- Of two places above a third one, one is above the other. -/
theorem above_or_above (above : first <+: place) (also : second <+: place) :
    first <+: second ∨ second <+: first := by
  rcases Nat.le_total first.length second.length with short | long
  · exact .inl (List.prefix_of_prefix_length_le above also short)
  · exact .inr (List.prefix_of_prefix_length_le also above long)

/-- A path is below its parent. -/
theorem parent_above (path : PurePosixPath) : path.parent.parts <+: path.parts :=
  List.dropLast_prefix _

end Places

end GemSim.Lib
