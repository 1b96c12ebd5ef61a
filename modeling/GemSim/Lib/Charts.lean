import GemSim.Lib.FileTree

/-!
# Charts of links

As long as no link is passed, a path leads where it says. Behind a link it may be enough to know how
deep a walk has come at least, since a component that leads upwards does not lead out of a tree from
deep inside of it.

A chart says which links of a tree lie where their paths say, what the other ones are called, and
how deep the links of each name lead at least. Paths can be trodden on the chart alone. No walk of a
path that can be trodden leaves a tree that the chart is right about.

## Main definitions

* `Spot` — what is known of where a walk has come to
* `Chart`, `Chart.tread` — a chart, and what is known behind a path that is trodden on it
* `Charted` — a tree that a chart is right about

## Main results

* `walk_within` — no walk of a path that can be trodden leaves a charted tree
* `walk_lands` — where a path leads at whose end nothing is yet
* `Charted.put`, `Charted.putLink` — what keeps a tree charted
-/

namespace GemSim.Lib

section Definitions

variable {File : Type*}

/-- What is known of where a walk has come to. -/
inductive Spot where
  | known (place : Place)
  /-- Some place that is so deep at least. -/
  | below (depth : ℕ)
  deriving DecidableEq

namespace Spot

def depth : Spot → ℕ
  | known place => place.length
  | below depth => depth

def up : Spot → Spot
  | known place => known place.dropLast
  | below depth => below (depth - 1)

def enter : Spot → Component → Spot
  | known place, name => known (place ++ [name])
  | below depth, _ => below (depth + 1)

/-- A place that a walk may have come to. -/
def Tells : Spot → Place → Prop
  | known place, other => other = place
  | below depth, other => depth ≤ other.length

instance decidableTells : (spot : Spot) → (place : Place) → Decidable (spot.Tells place)
  | known place, other => inferInstanceAs (Decidable (other = place))
  | below depth, other => inferInstanceAs (Decidable (depth ≤ other.length))

/-- What one spot tells is told by another one, too, which may tell less. -/
inductive Finer : Spot → Spot → Prop
  | same (spot : Spot) : Finer spot spot
  | deeper {spot : Spot} {depth : ℕ} (deep : depth ≤ spot.depth) : Finer spot (below depth)

end Spot

/-- What is known of the links of a tree. -/
structure Chart where
  /-- Where links lie. -/
  fixed : List Place
  /-- What links are called that may lie anywhere. -/
  loose : List Component
  /-- How deep the links of a name lead at least. -/
  lift : Component → ℕ

namespace Chart

variable (chart : Chart)

def Shows (directory : Place) (name : Component) : Prop :=
  directory ++ [name] ∈ chart.fixed ∨ name ∈ chart.loose

/-- A link is shown wherever it may lie. -/
def Marks : Spot → Component → Prop
  | .known directory, name => chart.Shows directory name
  | .below _, name => name ∈ chart.loose

instance decidableMarks : (spot : Spot) → (name : Component) → Decidable (chart.Marks spot name)
  | .known _, _ => inferInstanceAs (Decidable (_ ∨ _))
  | .below _, _ => inferInstanceAs (Decidable (_ ∈ _))

/-- A link may be passed under a name. -/
def Passes (spot : Spot) (name : Component) : Prop :=
  (∃ link ∈ chart.fixed, link.getLast? = some name ∧ spot.Tells link.dropLast) ∨ name ∈ chart.loose

instance (spot : Spot) (name : Component) : Decidable (chart.Passes spot name) :=
  inferInstanceAs (Decidable (_ ∨ _))

/-- What is known behind a name, whether a link is passed there or not. -/
def enter (spot : Spot) (name : Component) : Spot :=
  if chart.Passes spot name then .below (min (spot.depth + 1) (chart.lift name))
  else spot.enter name

/-- What is known behind a path. It has to be known that no component leads upwards from the top. -/
def tread : Spot → List Component → Option Spot
  | spot, [] => some spot
  | spot, component :: rest =>
    -- empty names and single dots lead nowhere
    if ¬ significant component then tread spot rest
    else if component = dotdot then
      if spot.depth = 0 then none else tread spot.up rest
    else tread (chart.enter spot component) rest

/-- A target that can be trodden from a spot, and leads as deep as the chart says. -/
def Reaches (spot : Spot) (name : Component) (target : List Char) : Prop :=
  ∃ last ∈ chart.tread spot (target.splitOn '/'), chart.lift name ≤ last.depth

instance (spot : Spot) (name : Component) (target : List Char) :
    Decidable (chart.Reaches spot name target) :=
  inferInstanceAs (Decidable (∃ last ∈ chart.tread spot (target.splitOn '/'), _))

/-- A chart is right about a link in a directory. -/
structure Right (directory : Place) (name : Component) (target : List Char) : Prop where
  named : Named name
  shown : chart.Shows directory name
  relative : rootSlashes target = 0
  leads : ∃ spot : Spot, spot.Tells directory ∧ chart.Reaches spot name target

end Chart

/-- A chart is right about every link under a root. -/
def Charted (root : Place) (chart : Chart) (tree : FileTree File) : Prop :=
  ∀ directory name target, tree (root ++ (directory ++ [name])) = some (.symlink target) →
    chart.Right directory name target

end Definitions

section Spots

variable {spot other : Spot} {place : Place} {name : Component}

theorem Spot.depth_up : spot.up.depth = spot.depth - 1 := by
  cases spot with
  | known place => exact List.length_dropLast
  | below depth => rfl

theorem Spot.depth_enter : (spot.enter name).depth = spot.depth + 1 := by
  cases spot with
  | known place => exact List.length_append
  | below depth => rfl

theorem Spot.Tells.depth_le (tells : spot.Tells place) : spot.depth ≤ place.length := by
  cases spot with
  | known known => exact (congrArg List.length tells).ge
  | below depth => exact tells

theorem Spot.Tells.up (tells : spot.Tells place) : spot.up.Tells place.dropLast := by
  cases spot with
  | known known => exact congrArg List.dropLast tells
  | below depth =>
    rw [Spot.Tells] at tells
    rw [Spot.up, Spot.Tells, List.length_dropLast]
    omega

theorem Spot.Tells.enter (tells : spot.Tells place) : (spot.enter name).Tells (place ++ [name]) := by
  cases spot with
  | known known => exact congrArg (· ++ [name]) tells
  | below depth =>
    rw [Spot.Tells] at tells
    rw [Spot.enter, Spot.Tells, List.length_append, List.length_singleton]
    omega

theorem Spot.Finer.depth_le (finer : spot.Finer other) : other.depth ≤ spot.depth := by
  cases finer with
  | same => exact le_rfl
  | deeper deep => exact deep

theorem Spot.Finer.tells (finer : spot.Finer other) (tells : spot.Tells place) :
    other.Tells place := by
  cases finer with
  | same => exact tells
  | deeper deep => exact deep.trans tells.depth_le

theorem Spot.Finer.up (finer : spot.Finer other) : spot.up.Finer other.up := by
  cases finer with
  | same => exact .same _
  | deeper deep =>
    refine .deeper ?_
    rw [Spot.depth_up]
    omega

end Spots

section Treading

variable {chart : Chart} {spot other last : Spot} {place directory : Place} {name : Component}
  {components rest : List Component}

theorem Chart.Marks.shows (marks : chart.Marks spot name) (tells : spot.Tells directory) :
    chart.Shows directory name := by
  cases spot with
  | known known =>
    obtain rfl : directory = known := tells
    exact marks
  | below depth => exact Or.inr marks

theorem Chart.Shows.passes (shows : chart.Shows directory name) (tells : spot.Tells directory) :
    chart.Passes spot name := by
  refine shows.imp_left fun fixed => ⟨_, fixed, List.getLast?_concat, ?_⟩
  rwa [List.dropLast_concat]

theorem Chart.Passes.coarser (passes : chart.Passes spot name) (finer : spot.Finer other) :
    chart.Passes other name := by
  refine passes.imp_left ?_
  rintro ⟨link, fixed, called, tells⟩
  exact ⟨link, fixed, called, finer.tells tells⟩

theorem Spot.Tells.chartEnter (tells : spot.Tells place) :
    (chart.enter spot name).Tells (place ++ [name]) := by
  rw [Chart.enter]
  split
  · have := tells.depth_le
    rw [Spot.Tells, List.length_append, List.length_singleton]
    omega
  · exact tells.enter

theorem Spot.Finer.chartEnter (finer : spot.Finer other) :
    (chart.enter spot name).Finer (chart.enter other name) := by
  cases finer with
  | same => exact .same _
  | @deeper depth deep =>
    -- behind the name a walk is so deep, whether a link is passed or not
    have least : min (depth + 1) (chart.lift name) ≤ (chart.enter spot name).depth := by
      rw [Chart.enter]
      split
      · rw [Spot.depth]
        omega
      · rw [Spot.depth_enter]
        omega
    by_cases passes : chart.Passes (.below depth) name
    · have coarse : chart.enter (.below depth) name =
          .below (min (depth + 1) (chart.lift name)) := if_pos passes
      rw [coarse]
      exact .deeper least
    · have free : ¬ chart.Passes spot name := fun passed => passes (passed.coarser (.deeper deep))
      rw [Chart.enter, Chart.enter, if_neg free, if_neg passes]
      refine .deeper ?_
      rw [Spot.depth_enter]
      exact Nat.succ_le_succ deep

theorem tread_skip (skipped : significant component = false) :
    chart.tread spot (component :: rest) = chart.tread spot rest := by
  rw [Chart.tread, if_pos (by simp [skipped])]

theorem tread_up_eq_some : chart.tread spot (dotdot :: rest) = some last ↔
    spot.depth ≠ 0 ∧ chart.tread spot.up rest = some last := by
  rw [Chart.tread, if_neg (by decide), if_pos rfl]
  split
  · rename_i top
    exact ⟨nofun, fun deep => absurd top deep.1⟩
  · rename_i deep
    exact ⟨fun treads => ⟨deep, treads⟩, And.right⟩

theorem tread_name (named : Named name) :
    chart.tread spot (name :: rest) = chart.tread (chart.enter spot name) rest := by
  rw [Chart.tread, if_neg (not_not.mpr named.1), if_neg named.2]

theorem tread_append (treads : chart.tread spot components = some other) :
    chart.tread spot (components ++ rest) = chart.tread other rest := by
  induction components generalizing spot with
  | nil => rw [List.nil_append, Option.some.inj treads]
  | cons component components ih =>
    rw [List.cons_append]
    rcases named_or component with skipped | rfl | named
    · rw [tread_skip skipped] at treads ⊢
      exact ih treads
    · obtain ⟨deep, behind⟩ := tread_up_eq_some.mp treads
      rw [Chart.tread, if_neg (by decide), if_pos rfl, if_neg deep]
      exact ih behind
    · rw [tread_name named] at treads ⊢
      exact ih treads

/-- What can be trodden from a spot can be trodden where more is known. -/
theorem Spot.Finer.tread (finer : spot.Finer other)
    (treads : chart.tread other components = some last) :
    ∃ behind, chart.tread spot components = some behind ∧ behind.Finer last := by
  -- each step keeps the one spot finer than the other
  induction components generalizing spot other with
  | nil =>
    obtain rfl := Option.some.inj treads
    exact ⟨spot, rfl, finer⟩
  | cons component rest ih =>
    rcases named_or component with skipped | rfl | named
    · rw [tread_skip skipped] at treads ⊢
      exact ih finer treads
    · obtain ⟨deep, further⟩ := tread_up_eq_some.mp treads
      obtain ⟨behind, trodden, finer'⟩ := ih finer.up further
      have := finer.depth_le
      exact ⟨behind, tread_up_eq_some.mpr ⟨by omega, trodden⟩, finer'⟩
    · rw [tread_name named] at treads ⊢
      exact ih finer.chartEnter treads

/-- Names can be trodden from everywhere. -/
theorem tread_of_notMem (downwards : dotdot ∉ components) :
    ∃ last, chart.tread spot components = some last := by
  induction components generalizing spot with
  | nil => exact ⟨spot, rfl⟩
  | cons component rest ih =>
    rw [List.mem_cons, not_or] at downwards
    rcases named_or component with skipped | rfl | named
    · rw [tread_skip skipped]
      exact ih downwards.2
    · exact absurd rfl downwards.1
    · rw [tread_name named]
      exact ih downwards.2

theorem passes_known : chart.Passes (.known place) name ↔ chart.Shows place name := by
  refine or_congr_left ⟨?_, fun fixed => ⟨_, fixed, List.getLast?_concat, List.dropLast_concat⟩⟩
  rintro ⟨link, fixed, called, rfl⟩
  rwa [List.dropLast_append_getLast? name called]

/-- Names that pass no link lead where they say. -/
theorem tread_known (named : ∀ name ∈ components, Named name)
    (plain : ∀ more name, more ++ [name] <+: components → ¬ chart.Shows (place ++ more) name) :
    chart.tread (.known place) components = some (.known (place ++ components)) := by
  induction components generalizing place with
  | nil => rw [List.append_nil, Chart.tread]
  | cons name rest ih =>
    have first := plain [] name (List.cons_prefix_cons.mpr ⟨rfl, List.nil_prefix⟩)
    rw [List.append_nil, ← passes_known] at first
    rw [tread_name (named name List.mem_cons_self), Chart.enter, if_neg first, Spot.enter, ih,
      List.append_assoc, List.singleton_append]
    · exact fun other member => named other (List.mem_cons_of_mem name member)
    · intro more other before
      rw [List.append_assoc, List.singleton_append]
      exact plain (name :: more) other (List.cons_prefix_cons.mpr ⟨rfl, before⟩)

/-- Components that lead upwards only where no link has been passed can be trodden, if every link
lies where the chart says. -/
theorem tread_of_climbs (rigid : chart.loose = [])
    (climbs : Climbs (Level (· ∈ chart.fixed)) place components) :
    ∃ last, chart.tread (.known place) components = some last := by
  -- as long as no link has been passed, the spot is the place that the path says
  induction components generalizing place with
  | nil => exact ⟨.known place, rfl⟩
  | cons component rest ih =>
    rcases named_or component with skipped | rfl | named
    · rw [tread_skip skipped]
      exact ih ((climbs_skip skipped).mp climbs)
    · obtain ⟨⟨lower, -⟩, behind⟩ := climbs_up.mp climbs
      obtain ⟨last, treads⟩ := ih behind
      exact ⟨last, tread_up_eq_some.mpr ⟨mt List.eq_nil_of_length_eq_zero lower, treads⟩⟩
    · have behind := (climbs_name named).mp climbs
      rw [tread_name named, Chart.enter]
      split
      · rename_i passes
        -- behind the link no component leads upwards
        have link : place ++ [component] ∈ chart.fixed := by
          have shows := passes_known.mp passes
          rwa [Chart.Shows, rigid, or_iff_left List.not_mem_nil] at shows
        refine tread_of_notMem (downwards_of_climbs ?_ behind)
        exact fun more level => level.2 _ link (List.prefix_append _ more)
      · exact ih behind

end Treading

section Walks

variable {File : Type*} {tree : FileTree File} {toEnd : Bool}
  {expand : Place → List Component → Walked} {root place final : Place} {chart : Chart}
  {spot last : Spot} {name : Component} {components rest : List Component} {target : List Char}

theorem Spot.Tells.ne_nil (tells : spot.Tells place) (deep : spot.depth ≠ 0) : place ≠ [] := by
  rintro rfl
  exact deep (Nat.le_zero.mp tells.depth_le)

/-- Where a link is followed, its target can be trodden with what is left of the path, and no less
is known at the end. -/
theorem Chart.Right.follow (right : chart.Right place name target) (tells : spot.Tells place)
    (named : Named name) (treads : chart.tread spot (name :: rest) = some last) :
    ∃ own behind : Spot, own.Tells place ∧
      chart.tread own (target.splitOn '/' ++ rest) = some behind ∧ behind.Finer last := by
  obtain ⟨own, here, reached, trodden, deep⟩ := right.leads
  rw [tread_name named, Chart.enter, if_pos (right.shown.passes tells)] at treads
  -- the target ends at least as deep as the chart says of the name
  have finer : reached.Finer (.below (min (spot.depth + 1) (chart.lift name))) :=
    .deeper ((min_le_right _ _).trans deep)
  obtain ⟨behind, further, kept⟩ := finer.tread treads
  exact ⟨own, behind, here, (tread_append trodden).trans further, kept⟩

theorem steps_within (charted : Charted root chart tree)
    (expanded : ∀ (spot last : Spot) place components, spot.Tells place →
      chart.tread spot components = some last → Within root (expand (root ++ place) components))
    (tells : spot.Tells place) (treads : chart.tread spot components = some last) :
    Within root (steps tree toEnd expand (root ++ place) components) := by
  -- the spot tells where the walk is, and what is left can be trodden from it
  induction components generalizing spot place with
  | nil => exact ⟨fun place none => absurd none List.not_mem_nil, List.prefix_append root place⟩
  | cons component rest ih =>
    rcases named_or component with skipped | rfl | named
    · rw [tread_skip skipped] at treads
      rw [steps_skip skipped]
      exact ih tells treads
    · obtain ⟨deep, behind⟩ := tread_up_eq_some.mp treads
      rw [steps_up, List.dropLast_append_of_ne_nil (tells.ne_nil deep)]
      exact (ih tells.up behind).visit (List.prefix_append root place.dropLast)
    · have inside : root <+: root ++ (place ++ [component]) := List.prefix_append root _
      have only : ∀ outcome : Outcome, root <+: outcome.place →
          Within root ⟨[root ++ (place ++ [component])], outcome⟩ := by
        intro outcome ends
        exact ⟨fun other member => List.mem_singleton.mp member ▸ inside, ends⟩
      rw [steps, if_neg (not_not.mpr named.1), if_neg named.2, List.append_assoc]
      dsimp only
      cases there : tree (root ++ (place ++ [component])) with
      | none => exact only _ inside
      | some node =>
        cases node with
        | directory =>
          rw [tread_name named] at treads
          exact (ih tells.chartEnter treads).visit inside
        | regular file =>
          dsimp only
          split
          · exact only _ inside
          · exact only _ inside
        | symlink target =>
          dsimp only
          split
          · exact only _ inside
          · have right := charted _ _ _ there
            obtain ⟨own, behind, here, trodden, -⟩ := right.follow tells named treads
            rw [if_pos right.relative]
            exact (expanded own behind _ _ here trodden).visit inside

/-- A path that can be trodden is walked inside of a charted tree. -/
theorem walk_within (charted : Charted root chart tree) (tells : spot.Tells place)
    (treads : chart.tread spot components = some last) (limit : ℕ) :
    Within root (walk tree toEnd limit (root ++ place) components) := by
  -- each link that is followed starts a walk with one link less to follow
  induction limit generalizing spot last place components with
  | zero =>
    refine steps_within charted (fun _ _ place components _ _ => ?_) tells treads
    exact ⟨fun place none => absurd none List.not_mem_nil, List.prefix_append root place⟩
  | succ limit ih =>
    exact steps_within charted (fun _ _ _ _ tells treads => ih tells treads) tells treads

theorem walk_within_root (charted : Charted root chart tree) (downwards : dotdot ∉ components)
    (limit : ℕ) : Within root (walk tree toEnd limit root components) := by
  obtain ⟨last, treads⟩ := @tread_of_notMem chart (.known []) components downwards
  have top : (Spot.known []).Tells [] := rfl
  have within := @walk_within File tree toEnd root [] chart _ last components charted top treads
  rw [List.append_nil] at within
  exact within limit

theorem steps_lands (charted : Charted root chart tree) (named : Named name)
    (expanded : ∀ (spot last : Spot) place components, spot.Tells place →
      chart.tread spot components = some last →
      (expand (root ++ place) (components ++ [name])).outcome = .absent final [] →
      ∃ directory, final = root ++ (directory ++ [name]) ∧ last.Tells directory)
    (tells : spot.Tells place) (treads : chart.tread spot components = some last)
    (ends : (steps tree false expand (root ++ place) (components ++ [name])).outcome =
      .absent final []) :
    ∃ directory, final = root ++ (directory ++ [name]) ∧ last.Tells directory := by
  -- the last name is not followed, so it is entered from where the rest leads
  induction components generalizing spot place with
  | nil =>
    obtain rfl := Option.some.inj treads
    rw [List.nil_append, steps, if_neg (not_not.mpr named.1), if_neg named.2,
      List.append_assoc] at ends
    dsimp only at ends
    cases there : tree (root ++ (place ++ [name])) with
    | none =>
      rw [there] at ends
      obtain ⟨rfl, -⟩ := Outcome.absent.inj ends
      exact ⟨place, rfl, tells⟩
    | some node =>
      rw [there] at ends
      cases node <;> cases ends
  | cons component rest ih =>
    have more : rest ++ [name] ≠ [] := by simp
    rw [List.cons_append] at ends
    rcases named_or component with skipped | rfl | isName
    · rw [tread_skip skipped] at treads
      rw [steps_skip skipped] at ends
      exact ih tells treads ends
    · obtain ⟨deep, behind⟩ := tread_up_eq_some.mp treads
      rw [steps_up, List.dropLast_append_of_ne_nil (tells.ne_nil deep)] at ends
      exact ih tells.up behind ends
    · rw [steps, if_neg (not_not.mpr isName.1), if_neg isName.2, List.append_assoc] at ends
      dsimp only at ends
      cases there : tree (root ++ (place ++ [component])) with
      | none =>
        rw [there] at ends
        exact absurd (Outcome.absent.inj ends).2 more
      | some node =>
        rw [there] at ends
        cases node with
        | directory =>
          rw [tread_name isName] at treads
          exact ih tells.chartEnter treads ends
        | regular file =>
          dsimp only at ends
          rw [if_neg more] at ends
          cases ends
        | symlink target =>
          have right := charted _ _ _ there
          obtain ⟨own, behind, here, trodden, finer⟩ := right.follow tells isName treads
          dsimp only at ends
          rw [if_neg fun atEnd => more atEnd.1, if_pos right.relative] at ends
          have further := expanded own behind place (target.splitOn '/' ++ rest) here trodden
          rw [List.append_assoc] at further
          obtain ⟨directory, same, landed⟩ := further ends
          exact ⟨directory, same, finer.tells landed⟩

/-- A path at whose end nothing is yet leads into a directory that is known from the chart. -/
theorem walk_lands {limit : ℕ} (charted : Charted root chart tree) (named : Named name)
    (tells : spot.Tells place) (treads : chart.tread spot components = some last)
    (ends : (walk tree false limit (root ++ place) (components ++ [name])).outcome =
      .absent final []) :
    ∃ directory, final = root ++ (directory ++ [name]) ∧ last.Tells directory := by
  induction limit generalizing spot last place components with
  | zero =>
    refine steps_lands charted named (fun _ _ place components _ _ ends => ?_) tells treads ends
    cases ends
  | succ limit ih =>
    exact steps_lands charted named (fun _ _ _ _ tells treads ends => ih tells treads ends) tells
      treads ends

end Walks

section Changes

variable {File : Type*} {tree : FileTree File} {root place directory : Place} {chart : Chart}
  {node : Node File} {name : Component} {target : List Char}

/-- What is put into a tree and is no link needs no place on the chart. -/
theorem Charted.put (charted : Charted root chart tree) (plain : ∀ target, node ≠ .symlink target) :
    Charted root chart (tree.put place node) := by
  intro directory name target there
  by_cases here : root ++ (directory ++ [name]) = place
  · rw [here, put_self] at there
    exact absurd (Option.some.inj there) (plain target)
  · rw [put_of_ne here] at there
    exact charted directory name target there

/-- A link that is put into a tree has to be on the chart. -/
theorem Charted.putLink (charted : Charted root chart tree)
    (right : chart.Right directory name target) :
    Charted root chart (tree.put (root ++ (directory ++ [name])) (.symlink target)) := by
  intro other called text there
  by_cases here : other ++ [called] = directory ++ [name]
  · obtain ⟨rfl, same⟩ := List.append_inj' here rfl
    obtain rfl := List.singleton_inj.mp same
    rw [put_self] at there
    obtain rfl := Node.symlink.inj (Option.some.inj there)
    exact right
  · rw [put_of_ne fun same => here (List.append_cancel_left same)] at there
    exact charted other called text there

end Changes

end GemSim.Lib
