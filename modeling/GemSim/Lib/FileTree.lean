import GemSim.Lib.PosixPath

/-!
# File trees

A file tree holds directories, files and symbolic links. A path is walked from a directory by its
components, and where a component names a link, the target of the link is walked first. So a
component that leads upwards leads up from where the walk has come to, which may be somewhere else
than the path says.

## Main definitions

* `Node`, `FileTree` — what is at a place, and where things are
* `walk` — the walk of a path from a directory, with the places that it visits
* `Climbs` — components that lead upwards only from some places
* `Within` — a walk that stays under a root

## Main results

* `climbs_and` — two conditions on the places at once
* `downwards_of_climbs` — no component leads upwards where none is allowed to
-/

namespace GemSim.Lib

/-- The names that lead to a place from the root, the outermost one first. -/
abbrev Place := List Component

inductive Node (File : Type*) where
  | directory
  | regular (file : File)
  | symlink (target : List Char)
  deriving DecidableEq

/-- What is at each place. -/
abbrev FileTree (File : Type*) := Place → Option (Node File)

section Definitions

variable {File : Type*}

def FileTree.put (tree : FileTree File) (place : Place) (node : Node File) : FileTree File :=
  fun other => if other = place then some node else tree other

/-- How a walk ends. -/
inductive Outcome where
  | found (place : Place)
  /-- Nothing is there, and components are left. -/
  | absent (place : Place) (rest : List Component)
  | notDirectory (place : Place)
  | tooManyLinks (place : Place)
  deriving DecidableEq

/-- Where a walk ends. -/
def Outcome.place : Outcome → Place
  | found place | absent place _ | notDirectory place | tooManyLinks place => place

structure Walked where
  visited : List Place
  outcome : Outcome
  deriving DecidableEq

def Walked.visit (place : Place) (walked : Walked) : Walked :=
  { walked with visited := place :: walked.visited }

/-- The walk of components. What is left where a link has to be followed is walked by `expand`. A
link at the very end is followed only if asked for. -/
def steps (tree : FileTree File) (follow : Bool) (expand : Place → List Component → Walked) :
    Place → List Component → Walked
  | place, [] => ⟨[], .found place⟩
  | place, component :: rest =>
    if ¬ significant component then steps tree follow expand place rest
    else if component = dotdot then
      (steps tree follow expand place.dropLast rest).visit place.dropLast
    else
      let next := place ++ [component]
      match tree next with
      | none => ⟨[next], .absent next rest⟩
      | some .directory => (steps tree follow expand next rest).visit next
      | some (.regular _) =>
        if rest = [] then ⟨[next], .found next⟩ else ⟨[next], .notDirectory next⟩
      | some (.symlink target) =>
        if rest = [] ∧ ¬ follow then ⟨[next], .found next⟩
        else
          (expand (if rootSlashes target = 0 then place else [])
            (target.splitOn '/' ++ rest)).visit next

/-- A walk that follows a number of links. -/
def walk (tree : FileTree File) (follow : Bool) : ℕ → Place → List Component → Walked
  | 0 => steps tree follow fun place _ => ⟨[], .tooManyLinks place⟩
  | links + 1 => steps tree follow (walk tree follow links)

/-- Components that lead upwards only from places that are allowed, if each name is taken for a
directory. -/
def Climbs (allowed : Place → Prop) : Place → List Component → Prop
  | _, [] => True
  | place, component :: rest =>
    if ¬ significant component then Climbs allowed place rest
    else if component = dotdot then allowed place ∧ Climbs allowed place.dropLast rest
    else Climbs allowed (place ++ [component]) rest

instance decidableClimbs (allowed : Place → Prop) [DecidablePred allowed] :
    (place : Place) → (components : List Component) → Decidable (Climbs allowed place components)
  | _, [] => isTrue trivial
  | place, component :: rest =>
    have := decidableClimbs allowed place rest
    have := decidableClimbs allowed place.dropLast rest
    have := decidableClimbs allowed (place ++ [component]) rest
    inferInstanceAs (Decidable (if ¬ significant component then Climbs allowed place rest
      else if component = dotdot then allowed place ∧ Climbs allowed place.dropLast rest
      else Climbs allowed (place ++ [component]) rest))

/-- No link is at a place or on the way to it. -/
def Clear (links : Place → Prop) (place : Place) : Prop := ∀ link, links link → ¬ link <+: place

/-- A place below the root to which no link leads. -/
def Level (links : Place → Prop) (place : Place) : Prop := place ≠ [] ∧ Clear links place

/-- A walk stays under a root. -/
structure Within (root : Place) (walked : Walked) : Prop where
  visited : ∀ place ∈ walked.visited, root <+: place
  ends : root <+: walked.outcome.place

end Definitions

section Components

variable {component : Component}

/-- A component that is the name of an entry. -/
def Named (component : Component) : Prop := significant component = true ∧ component ≠ dotdot

instance (component : Component) : Decidable (Named component) :=
  inferInstanceAs (Decidable (_ ∧ _))

theorem named_or (component : Component) :
    significant component = false ∨ component = dotdot ∨ Named component := by
  by_cases counts : significant component = true
  · by_cases upwards : component = dotdot
    · exact Or.inr (Or.inl upwards)
    · exact Or.inr (Or.inr ⟨counts, upwards⟩)
  · exact Or.inl (Bool.eq_false_iff.mpr counts)

end Components

section Climbing

variable {allowed also : Place → Prop} {place : Place} {component : Component}
  {components rest : List Component}

theorem climbs_skip (skipped : significant component = false) :
    Climbs allowed place (component :: rest) ↔ Climbs allowed place rest := by
  rw [Climbs, if_pos (by simp [skipped])]

theorem climbs_up :
    Climbs allowed place (dotdot :: rest) ↔ allowed place ∧ Climbs allowed place.dropLast rest := by
  rw [Climbs, if_neg (by decide), if_pos rfl]

theorem climbs_name (named : Named component) :
    Climbs allowed place (component :: rest) ↔ Climbs allowed (place ++ [component]) rest := by
  rw [Climbs, if_neg (not_not.mpr named.1), if_neg named.2]

theorem climbs_and : Climbs (fun above => allowed above ∧ also above) place components ↔
    Climbs allowed place components ∧ Climbs also place components := by
  induction components generalizing place with
  | nil => exact (and_self_iff).symm
  | cons component rest ih =>
    rcases named_or component with skipped | rfl | named
    · simp only [climbs_skip skipped, ih]
    · simp only [climbs_up, ih]
      exact and_and_and_comm
    · simp only [climbs_name named, ih]

/-- Where nothing below a place is allowed, components do not lead upwards. -/
theorem downwards_of_climbs (below : ∀ more, ¬ allowed (place ++ more))
    (climbs : Climbs allowed place components) : dotdot ∉ components := by
  induction components generalizing place with
  | nil => exact List.not_mem_nil
  | cons component rest ih =>
    intro member
    rcases named_or component with skipped | rfl | named
    · rcases List.mem_cons.mp member with rfl | member
      · cases skipped
      · exact ih below ((climbs_skip skipped).mp climbs) member
    · exact below [] (by simpa using (climbs_up.mp climbs).1)
    · rcases List.mem_cons.mp member with same | member
      · exact named.2 same.symm
      · refine ih (fun more => ?_) ((climbs_name named).mp climbs) member
        rw [List.append_assoc]
        exact below _

end Climbing

section Walks

variable {File : Type*} {tree : FileTree File} {follow : Bool}
  {expand : Place → List Component → Walked} {root place : Place} {component : Component}
  {rest : List Component} {walked : Walked}

theorem steps_skip (skipped : significant component = false) :
    steps tree follow expand place (component :: rest) = steps tree follow expand place rest := by
  rw [steps, if_pos (by simp [skipped])]

theorem steps_up :
    steps tree follow expand place (dotdot :: rest) =
      (steps tree follow expand place.dropLast rest).visit place.dropLast := by
  rw [steps, if_neg (by decide), if_pos rfl]

theorem Within.visit (within : Within root walked) (inside : root <+: place) :
    Within root (walked.visit place) where
  visited := by
    intro other member
    rcases List.mem_cons.mp member with rfl | member
    · exact inside
    · exact within.visited other member
  ends := within.ends

end Walks

section Changes

variable {File : Type*} {tree : FileTree File} {place other : Place} {node : Node File}

@[simp] theorem put_self : tree.put place node place = some node := if_pos rfl

theorem put_of_ne (elsewhere : other ≠ place) : tree.put place node other = tree other :=
  if_neg elsewhere

end Changes

end GemSim.Lib
