import GemSim.Lib.Charts
import GemSim.Lib.Checks
import GemSim.Lib.Triples
import GemSim.Sysroot.Merge

/-!
# Containment of the merge

Whatever packages are merged, the links of the merged tree should lead to places inside of it, and
nothing outside of it should be touched. The check of a link takes the components of its target for
directories. That is right where no component that leads upwards stands behind a link, and no link
lies behind another one. Elsewhere it has to be known that a component which leads upwards stands
deep enough, wherever the links before it lead; two links are enough to leave the tree otherwise.

## Main definitions

* `Contained` — links that stay inside, and nothing touched outside
* `Chartable` — links that are so deep at least that nothing leads upwards from the top
* `Straight` — links behind which nothing leads upwards

## Main results

* `contained_of_chartable` — packages whose links can be charted are merged inside
* `Straight.chartable`, `contained_of_straight` — so are packages with straight links
* `not_always_contained` — packages that are merged outside
-/

namespace GemSim.Sysroot

open GemSim.Lib GemSim.Lib.Checks

section Laws

/-- A destination with nothing in it. -/
def Vacant (destination : Place) (tree : FileTree File) : Prop :=
  tree destination = some .directory ∧ ∀ place ≠ [], tree (destination ++ place) = none

/-- Every link in the destination leads to a place inside of it, what has been touched lies inside
of it, and what lies outside is as before. -/
structure Contained (destination : Place) (tree : FileTree File) (disk : Disk) : Prop where
  links : ∀ directory name target, destination <+: directory →
    disk.tree (directory ++ [name]) = some (.symlink target) →
    destination <+: (walk disk.tree true MAXSYMLINKS directory [name]).outcome.place
  touched : ∀ place ∈ disk.touched, destination <+: place
  outside : ∀ place, ¬ destination <+: place → disk.tree place = tree place

theorem Visit.named (visit : Visit) : ∀ name ∈ visit.place, Named name := by
  intro name member
  obtain ⟨fileName, -, rfl⟩ := List.mem_map.mp member
  exact fileName.named

/-- The links of packages, with their targets. -/
def linksOf (packages : List Package) : List (Place × List Char) :=
  packages.flatMap fun package => package.visits.filterMap fun visit =>
    match visit.node with
    | some (.symlink target) => some (visit.place, target)
    | _ => none

def LinkAt (packages : List Package) (place : Place) : Prop :=
  place ∈ (linksOf packages).map Prod.fst

/-- Each link that passes its check is on a chart: its path can be trodden, the chart shows it where
the path leads, and its target can be trodden from there. -/
def OnChart (packages : List Package) (chart : Chart) : Prop :=
  ∀ link ∈ linksOf packages, (validate_relative_symlink link.1 link.2).isOk →
    ∀ name ∈ link.1.getLast?, ∃ spot ∈ chart.tread (.known []) link.1.dropLast,
      chart.Marks spot name ∧ chart.Reaches spot name link.2

instance (packages : List Package) (chart : Chart) : Decidable (OnChart packages chart) :=
  inferInstanceAs (Decidable (∀ link ∈ linksOf packages, _ → ∀ name ∈ link.1.getLast?,
    ∃ spot ∈ chart.tread (.known []) link.1.dropLast,
      chart.Marks spot name ∧ chart.Reaches spot name link.2))

/-- Packages whose links can be charted. -/
def Chartable (packages : List Package) : Prop := ∃ chart, OnChart packages chart

/-- No link lies behind another one, and no target leads upwards from a link or from behind one. -/
structure Straight (packages : List Package) : Prop where
  apart : ∀ link ∈ linksOf packages, ∀ other ∈ linksOf packages, link.1 <+: other.1 →
    link.1 = other.1
  upwards : ∀ link ∈ linksOf packages,
    Climbs (Clear (LinkAt packages)) link.1.dropLast (link.2.splitOn '/')

instance (packages : List Package) (place : Place) : Decidable (Clear (LinkAt packages) place) :=
  inferInstanceAs (Decidable (∀ link ∈ (linksOf packages).map Prod.fst, ¬ link <+: place))

instance (packages : List Package) : Decidable (Straight packages) :=
  decidable_of_iff
    ((∀ link ∈ linksOf packages, ∀ other ∈ linksOf packages, link.1 <+: other.1 →
      link.1 = other.1) ∧
      ∀ link ∈ linksOf packages,
        Climbs (Clear (LinkAt packages)) link.1.dropLast (link.2.splitOn '/'))
    ⟨fun both => ⟨both.1, both.2⟩, fun straight => ⟨straight.apart, straight.upwards⟩⟩

theorem mem_linksOf {packages : List Package} {package : Package} {visit : Visit}
    {target : List Char} (listed : package ∈ packages) (seen : visit ∈ package.visits)
    (node : visit.node = some (.symlink target)) : (visit.place, target) ∈ linksOf packages := by
  refine List.mem_flatMap.mpr ⟨package, listed, List.mem_filterMap.mpr ⟨visit, seen, ?_⟩⟩
  rw [node]

/-- Links have names on the way to them. -/
theorem named_of_linkAt {packages : List Package} {place : Place} (link : LinkAt packages place) :
    ∀ name ∈ place, Named name := by
  obtain ⟨⟨_, target⟩, member, rfl⟩ := List.mem_map.mp link
  obtain ⟨package, -, inside⟩ := List.mem_flatMap.mp member
  obtain ⟨visit, -, found⟩ := List.mem_filterMap.mp inside
  split at found
  · obtain ⟨rfl, -⟩ := Prod.mk.inj (Option.some.inj found)
    exact visit.named
  · cases found

end Laws

section Validation

variable {error : MergeError} {place normalized : Place} {components : List Component}
  {target : List Char}

theorem normalizeStep_name {name : Component} (named : Named name) :
    normalizeStep error place name = .ok (place ++ [name]) := by
  have counts := named.1
  rw [significant, decide_eq_true_iff] at counts
  rw [normalizeStep, if_neg (by simp [counts.1, counts.2]), if_neg named.2]

theorem normalize_names (named : ∀ name ∈ components, Named name) :
    components.foldlM (normalizeStep error) place = .ok (place ++ components) := by
  induction components generalizing place with
  | nil => simp [pure, Except.pure]
  | cons name rest ih =>
    rw [List.foldlM_cons, normalizeStep_name (named name List.mem_cons_self)]
    refine (ih fun other member => named other (List.mem_cons_of_mem name member)).trans ?_
    rw [List.append_assoc, List.singleton_append]

/-- Components that have been checked do not lead upwards from the top. -/
theorem climbs_of_normalize
    (checked :
      (components.filter significant).foldlM (normalizeStep error) place = .ok normalized) :
    Climbs (· ≠ []) place components := by
  -- what is left of the normalized path is where the components lead, links aside
  induction components generalizing place with
  | nil => trivial
  | cons component rest ih =>
    rcases named_or component with skipped | rfl | named
    · rw [List.filter_cons_of_neg (by simp [skipped])] at checked
      exact (climbs_skip skipped).mpr (ih checked)
    · rw [List.filter_cons_of_pos rfl, List.foldlM_cons, bind_eq_ok] at checked
      obtain ⟨after, step, behind⟩ := checked
      rw [normalizeStep, if_neg (by decide), if_pos rfl] at step
      by_cases top : place = []
      · rw [if_pos top] at step
        cases step
      · rw [if_neg top] at step
        obtain rfl := Except.ok.inj step
        exact climbs_up.mpr ⟨top, ih behind⟩
    · rw [List.filter_cons_of_pos named.1, List.foldlM_cons, normalizeStep_name named] at checked
      exact (climbs_name named).mpr (ih checked)

/-- What the check of a link says about its target. -/
theorem climbs_of_validate (named : ∀ name ∈ place, Named name)
    (checked : validate_relative_symlink place target = .ok normalized) :
    rootSlashes target = 0 ∧ Climbs (· ≠ []) place.dropLast (target.splitOn '/') := by
  rw [validate_relative_symlink] at checked
  by_cases absolute : (parsePath target).isAbsolute
  · rw [if_pos absolute] at checked
    cases checked
  · rw [if_neg absolute, List.foldlM_append,
      normalize_names fun name member => named name (List.mem_of_mem_dropLast member)] at checked
    exact ⟨not_not.mp absolute, climbs_of_normalize checked⟩

end Validation

section Actions

variable {user : ℕ} {destination : Place} {tree : FileTree File} {chart : Chart}
  {packages : List Package} {path : Place}

/-- What the merge keeps. -/
structure Kept (destination : Place) (tree : FileTree File) (chart : Chart) (disk : Disk) :
    Prop where
  charted : Charted destination chart disk.tree
  touched : ∀ place ∈ disk.touched, destination <+: place
  outside : ∀ place, ¬ destination <+: place → disk.tree place = tree place

theorem dotdot_notMem (named : ∀ name ∈ path, Named name) : dotdot ∉ path :=
  fun member => (named dotdot member).2 rfl

/-- What a walk in the destination ends with. -/
def Ends (destination : Place) (tree : FileTree File) (chart : Chart) (follow : Bool)
    (path : Place) (outcome : Outcome) (disk : Disk) : Prop :=
  Kept destination tree chart disk ∧ destination <+: outcome.place ∧
    outcome = (walk disk.tree follow MAXSYMLINKS destination path).outcome

theorem lookUp_kept {follow : Bool} (named : ∀ name ∈ path, Named name) :
    Triple (Kept destination tree chart) (lookUp destination follow path)
      (Ends destination tree chart follow path) := by
  intro disk outcome after kept ran
  obtain ⟨rfl, rfl⟩ := Prod.mk.inj (Except.ok.inj ran)
  have within := @walk_within_root File disk.tree follow destination chart path kept.charted
    (dotdot_notMem named) MAXSYMLINKS
  refine ⟨⟨kept.charted, ?_, kept.outside⟩, within.ends, rfl⟩
  intro place member
  rcases List.mem_append.mp member with before | visited
  · exact kept.touched place before
  · exact within.visited place visited

theorem nodeAt_kept {place : Place} :
    Triple (Kept destination tree chart) (nodeAt place)
      fun _ => Kept destination tree chart := by
  intro disk node after kept ran
  obtain ⟨-, rfl⟩ := Prod.mk.inj (Except.ok.inj ran)
  exact kept

/-- A node that is put where a walk has ended lies in the destination. -/
theorem Kept.put {disk : Disk} {place : Place} {node : Node File}
    (kept : Kept destination tree chart disk) (inside : destination <+: place)
    (charted : Charted destination chart (disk.tree.put place node)) :
    Kept destination tree chart { disk with tree := disk.tree.put place node } where
  charted := charted
  touched := kept.touched
  outside := by
    intro other elsewhere
    refine (put_of_ne ?_).trans (kept.outside other elsewhere)
    rintro rfl
    exact elsewhere inside

theorem pathExists_kept (named : ∀ name ∈ path, Named name) :
    Triple (Kept destination tree chart) (pathExists destination path)
      fun _ => Kept destination tree chart := by
  rw [pathExists]
  refine Triple.bind (lookUp_kept named) fun outcome => ?_
  cases outcome <;> exact Triple.pure fun disk ended => ended.1

theorem isDirectory_kept (named : ∀ name ∈ path, Named name) :
    Triple (Kept destination tree chart) (isDirectory destination path)
      fun _ => Kept destination tree chart := by
  rw [isDirectory]
  refine Triple.bind (lookUp_kept named) fun outcome => ?_
  cases outcome with
  | found place =>
    refine Triple.bind (Triple.weaken nodeAt_kept fun disk ended => ended.1) fun node => ?_
    exact Triple.pure fun disk kept => kept
  | absent | notDirectory | tooManyLinks => exact Triple.pure fun disk ended => ended.1

theorem isSymlink_kept (named : ∀ name ∈ path, Named name) :
    Triple (Kept destination tree chart) (isSymlink destination path)
      fun _ => Kept destination tree chart := by
  rw [isSymlink]
  refine Triple.bind (lookUp_kept named) fun outcome => ?_
  cases outcome with
  | found place =>
    refine Triple.bind (Triple.weaken nodeAt_kept fun disk ended => ended.1) fun node => ?_
    split
    · exact Triple.pure fun disk kept => kept
    · exact Triple.pure fun disk kept => kept
  | absent | notDirectory | tooManyLinks => exact Triple.pure fun disk ended => ended.1

/-- What is made fits into the tree if it does so where its path ends. -/
theorem makeNode_kept {node : Node File} (named : ∀ name ∈ path, Named name)
    (fits : ∀ disk place, Kept destination tree chart disk →
      (walk disk.tree false MAXSYMLINKS destination path).outcome = .absent place [] →
      Charted destination chart (disk.tree.put place node)) :
    Triple (Kept destination tree chart) (makeNode destination path node)
      fun _ => Kept destination tree chart := by
  rw [makeNode]
  refine Triple.bind (lookUp_kept named) fun outcome => ?_
  -- only where nothing is yet, and nothing is left of the path, a node is put
  cases outcome with
  | absent place rest =>
    cases rest with
    | nil =>
      intro disk errno after ended ran
      obtain ⟨kept, inside, walked⟩ := ended
      obtain ⟨-, rfl⟩ := Prod.mk.inj (Except.ok.inj ran)
      exact kept.put inside (fits disk place kept walked.symm)
    | cons component rest => exact Triple.pure fun disk ended => ended.1
  | found | notDirectory | tooManyLinks => exact Triple.pure fun disk ended => ended.1

theorem makeDirectoryNode_kept (named : ∀ name ∈ path, Named name) :
    Triple (Kept destination tree chart) (makeNode destination path .directory)
      fun _ => Kept destination tree chart := by
  apply makeNode_kept named
  intro disk place kept _
  apply kept.charted.put
  intro target same
  cases same

theorem unlessDirectory_kept {errno : Errno} (named : ∀ name ∈ path, Named name) :
    Triple (Kept destination tree chart) (unlessDirectory destination path errno)
      fun _ => Kept destination tree chart := by
  rw [unlessDirectory]
  refine Triple.bind (isDirectory_kept named) fun there => ?_
  cases there with
  | true => exact Triple.pure fun disk kept => kept
  | false => exact Triple.throw

theorem makeDirectory_kept (named : ∀ name ∈ path, Named name) :
    Triple (Kept destination tree chart) (makeDirectory destination path)
      fun _ => Kept destination tree chart := by
  rw [makeDirectory]
  refine Triple.bind (makeDirectoryNode_kept named) fun errno => ?_
  split
  · exact Triple.pure fun disk kept => kept
  · exact Triple.throw
  · exact unlessDirectory_kept named

theorem makeDirectories_kept (named : ∀ name ∈ path, Named name) :
    Triple (Kept destination tree chart) (makeDirectories destination path)
      fun _ => Kept destination tree chart := by
  induction path with
  | nil => exact makeDirectory_kept named
  | cons name above ih =>
    have reversed : ∀ other ∈ (name :: above).reverse, Named other :=
      fun other member => named other (List.mem_reverse.mp member)
    rw [makeDirectories]
    refine Triple.bind (makeDirectoryNode_kept reversed) fun errno => ?_
    split
    · exact Triple.pure fun disk kept => kept
    · have behind := ih fun other member => named other (List.mem_cons_of_mem name member)
      refine Triple.bind behind fun _ => ?_
      exact makeDirectory_kept reversed
    · exact unlessDirectory_kept reversed

theorem destinationEntry_kept (named : ∀ name ∈ path, Named name) :
    Triple (Kept destination tree chart) (destinationEntry user destination path)
      fun _ => Kept destination tree chart := by
  rw [destinationEntry]
  refine Triple.bind (lookUp_kept named) fun outcome => ?_
  cases outcome with
  | found place =>
    refine Triple.bind (Triple.weaken nodeAt_kept fun disk ended => ended.1) fun node => ?_
    exact Triple.lift fun entry disk _ kept => kept
  | absent | notDirectory | tooManyLinks => exact Triple.throw

theorem copyFile_kept {file : File} (named : ∀ name ∈ path, Named name) :
    Triple (Kept destination tree chart) (copyFile user destination path file)
      fun _ => Kept destination tree chart := by
  rw [copyFile]
  refine Triple.bind (lookUp_kept named) fun outcome => ?_
  cases outcome with
  | absent place rest =>
    cases rest with
    | nil =>
      intro disk done after ended ran
      obtain ⟨kept, inside, -⟩ := ended
      obtain ⟨-, rfl⟩ := Prod.mk.inj (Except.ok.inj ran)
      apply kept.put inside
      apply kept.charted.put
      intro target same
      cases same
    | cons component rest => exact Triple.throw
  | found | notDirectory | tooManyLinks => exact Triple.throw

/-- A link lies where the chart shows it, if its path can be trodden. -/
theorem makeSymlink_kept {target : List Char} (named : ∀ name ∈ path, Named name)
    (relative : rootSlashes target = 0)
    (marked : ∀ name ∈ path.getLast?, ∃ spot ∈ chart.tread (.known []) path.dropLast,
      chart.Marks spot name ∧ chart.Reaches spot name target) :
    Triple (Kept destination tree chart) (makeSymlink destination path target)
      fun _ => Kept destination tree chart := by
  have made : Triple (Kept destination tree chart)
      (makeNode destination path (.symlink target)) fun _ => Kept destination tree chart := by
    apply makeNode_kept named
    intro disk place kept walked
    -- an empty path leads to the destination, where something is
    rcases path.eq_nil_or_concat' with rfl | ⟨directory, name, rfl⟩
    · rw [MAXSYMLINKS, walk, steps] at walked
      cases walked
    · obtain ⟨spot, trodden, marks, reaches⟩ := marked name List.getLast?_concat
      rw [List.dropLast_concat] at trodden
      have isName := named name (List.mem_append_right directory (List.mem_singleton_self name))
      have top : (Spot.known []).Tells [] := rfl
      rw [← List.append_nil destination] at walked
      obtain ⟨landing, rfl, tells⟩ := walk_lands kept.charted isName top trodden walked
      exact kept.charted.putLink ⟨isName, marks.shows tells, relative, spot, tells, reaches⟩
  rw [makeSymlink]
  refine Triple.bind made fun errno => ?_
  split
  · exact Triple.pure fun disk kept => kept
  · exact Triple.throw

theorem addOwner_kept {package : String} :
    Triple (Kept destination tree chart) (addOwner package path)
      fun _ => Kept destination tree chart := by
  intro disk done after kept ran
  obtain ⟨-, rfl⟩ := Prod.mk.inj (Except.ok.inj ran)
  exact ⟨kept.charted, kept.touched, kept.outside⟩

end Actions

section Merging

variable {user : ℕ} {destination : Place} {tree : FileTree File} {chart : Chart}
  {packages : List Package} {path : Place}

theorem isTaken_kept (named : ∀ name ∈ path, Named name) :
    Triple (Kept destination tree chart) (isTaken destination path)
      fun _ => Kept destination tree chart := by
  rw [isTaken]
  refine Triple.bind (pathExists_kept named) fun there => ?_
  cases there with
  | true => exact Triple.pure fun disk kept => kept
  | false => exact isSymlink_kept named

theorem compareEntry_kept {entry : Entry} (named : ∀ name ∈ path, Named name) :
    Triple (Kept destination tree chart) (compareEntry user destination path entry)
      fun _ => Kept destination tree chart := by
  rw [compareEntry]
  refine Triple.bind (destinationEntry_kept named) fun other => ?_
  split
  · exact Triple.pure fun disk kept => kept
  · exact Triple.throw

theorem mergeLeaf_kept {entry : Entry} {create : Merge Unit} (named : ∀ name ∈ path, Named name)
    (created : Triple (Kept destination tree chart) create
      fun _ => Kept destination tree chart) :
    Triple (Kept destination tree chart) (mergeLeaf user destination path entry create)
      fun _ => Kept destination tree chart := by
  have above : ∀ name ∈ path.dropLast.reverse, Named name :=
    fun name member => named name (List.mem_of_mem_dropLast (List.mem_reverse.mp member))
  rw [mergeLeaf]
  refine Triple.bind (makeDirectories_kept above) fun _ => ?_
  refine Triple.bind (isTaken_kept named) fun taken => ?_
  cases taken with
  | true => exact compareEntry_kept named
  | false => exact created

theorem mergeDirectory_kept (named : ∀ name ∈ path, Named name) :
    Triple (Kept destination tree chart) (mergeDirectory destination path)
      fun _ => Kept destination tree chart := by
  have made : Triple (Kept destination tree chart) (makeDirectories destination path.reverse)
      fun _ => Kept destination tree chart :=
    makeDirectories_kept fun name member => named name (List.mem_reverse.mp member)
  rw [mergeDirectory]
  refine Triple.bind (pathExists_kept named) fun there => ?_
  cases there with
  | true =>
    refine Triple.bind (isDirectory_kept named) fun directory => ?_
    cases directory with
    | true => exact made
    | false => exact Triple.throw
  | false => exact made

theorem mergeVisit_kept (onChart : OnChart packages chart) {package : Package}
    (listed : package ∈ packages) {visit : Visit} (seen : visit ∈ package.visits) :
    Triple (Kept destination tree chart) (mergeVisit user destination package.name visit)
      fun _ => Kept destination tree chart := by
  have named := visit.named
  -- the cases are those of the source: a forbidden file, a special one, and the three kinds of node
  rw [mergeVisit]
  split
  · exact Triple.throw
  · refine Triple.liftBind fun entry _ => ?_
    cases there : visit.node with
    | none => exact Triple.pure fun disk kept => kept
    | some node =>
      cases node with
      | directory => exact mergeDirectory_kept named
      | regular file =>
        exact Triple.bind (mergeLeaf_kept named (copyFile_kept named)) fun _ => addOwner_kept
      | symlink target =>
        refine Triple.liftBind fun normalized checked => ?_
        have passes : (validate_relative_symlink visit.place target).isOk = true := by
          rw [checked]
          rfl
        have marked := onChart _ (mem_linksOf listed seen there) passes
        have relative := (climbs_of_validate named checked).1
        refine Triple.bind (mergeLeaf_kept named ?_) fun _ => addOwner_kept
        exact makeSymlink_kept named relative marked

theorem merge_packages_kept (onChart : OnChart packages chart) :
    Triple (Kept destination tree chart) (merge_packages user destination packages)
      fun _ => Kept destination tree chart := by
  apply Triple.forM
  intro package listed
  apply Triple.forM
  intro visit seen
  exact mergeVisit_kept onChart listed seen

theorem kept_start (vacant : Vacant destination tree) :
    Kept destination tree chart ⟨tree, [], []⟩ where
  charted directory name target there := by
    have below : directory ++ [name] ≠ [] := List.append_ne_nil_of_right_ne_nil _ (by simp)
    cases (vacant.2 _ below).symm.trans there
  touched place none := absurd none List.not_mem_nil
  outside _ _ := rfl

theorem Kept.contained {disk : Disk} (kept : Kept destination tree chart disk) :
    Contained destination tree disk where
  links := by
    rintro _ name target ⟨above, rfl⟩ there
    rw [List.append_assoc] at there
    have named := (kept.charted _ _ _ there).named
    have here : (Spot.known above).Tells above := rfl
    obtain ⟨last, treads⟩ := @tread_of_notMem chart (.known above) [name]
      fun member => named.2 (List.mem_singleton.mp member).symm
    exact (walk_within kept.charted here treads MAXSYMLINKS).ends
  touched := kept.touched
  outside := kept.outside

theorem contained_of_onChart {after : Disk} (vacant : Vacant destination tree)
    (onChart : OnChart packages chart)
    (merged : (merge_packages user destination packages).run ⟨tree, [], []⟩ = .ok ((), after)) :
    Contained destination tree after :=
  (merge_packages_kept onChart _ _ _ (kept_start vacant) merged).contained

/-- Packages whose links can be charted are merged inside of the destination. -/
theorem contained_of_chartable {after : Disk} (vacant : Vacant destination tree)
    (chartable : Chartable packages)
    (merged : (merge_packages user destination packages).run ⟨tree, [], []⟩ = .ok ((), after)) :
    Contained destination tree after := by
  obtain ⟨chart, onChart⟩ := chartable
  exact contained_of_onChart vacant onChart merged

/-- The chart on which every link lies where its path says, and may lead to the top. -/
def levelChart (packages : List Package) : Chart where
  fixed := (linksOf packages).map Prod.fst
  loose := []
  lift _ := 0

/-- On the way to a straight link no other one is passed. -/
theorem Straight.plain (straight : Straight packages) {link : Place × List Char} {name : Component}
    (member : link ∈ linksOf packages) (called : name ∈ link.1.getLast?) {more : Place}
    {other : Component} (before : more ++ [other] <+: link.1.dropLast) :
    ¬ (levelChart packages).Shows more other := by
  rintro (fixed | loose)
  · obtain ⟨above, listed, same⟩ := List.mem_map.mp fixed
    -- another link on the way would lie before this one
    have equal : above.1 = link.1 :=
      straight.apart above listed link member (same ▸ before.trans (List.dropLast_prefix _))
    have shorter := before.length_le
    rw [← same, equal, List.length_dropLast] at shorter
    have longer : 0 < link.1.length :=
      List.length_pos_of_mem (List.mem_of_getLast? called)
    omega
  · exact absurd loose List.not_mem_nil

/-- Straight links can be charted. -/
theorem Straight.chartable (straight : Straight packages) : Chartable packages := by
  refine ⟨levelChart packages, ?_⟩
  intro link member passes name called
  have listed : LinkAt packages link.1 := List.mem_map_of_mem member
  have named := named_of_linkAt listed
  have here : link.1.dropLast ++ [name] = link.1 := List.dropLast_append_getLast? name called
  have trodden := @tread_known (levelChart packages) [] link.1.dropLast
    (fun name member => named name (List.mem_of_mem_dropLast member))
    fun more other before => straight.plain member called before
  -- the check has made sure that no component leads upwards from the top
  cases checked : validate_relative_symlink link.1 link.2 with
  | error error =>
    rw [checked] at passes
    cases passes
  | ok normalized =>
    obtain ⟨-, nonempty⟩ := climbs_of_validate named checked
    have climbs : Climbs (Level (LinkAt packages)) link.1.dropLast (link.2.splitOn '/') :=
      climbs_and.mpr ⟨nonempty, straight.upwards link member⟩
    obtain ⟨last, treads⟩ := @tread_of_climbs (levelChart packages) _ _ rfl climbs
    exact ⟨_, trodden, Or.inl (here.symm ▸ listed), last, treads, Nat.zero_le _⟩

/-- Packages with straight links are merged inside of the destination. -/
theorem contained_of_straight {after : Disk} (vacant : Vacant destination tree)
    (straight : Straight packages)
    (merged : (merge_packages user destination packages).run ⟨tree, [], []⟩ = .ok ((), after)) :
    Contained destination tree after := by
  obtain ⟨chart, onChart⟩ := straight.chartable
  exact contained_of_onChart vacant onChart merged

end Merging

section Examples

def emptyDestination : FileTree File := fun place =>
  if place = [] ∨ place = [['t']] then some .directory else none

def nameLib : FileName := ⟨['l', 'i', 'b'], by decide, by decide⟩
def nameLib64 : FileName := ⟨['l', 'i', 'b', '6', '4'], by decide, by decide⟩
def nameOpt : FileName := ⟨['o', 'p', 't'], by decide, by decide⟩

theorem vacant_emptyDestination : Vacant [['t']] emptyDestination := by
  constructor
  · rfl
  · intro place below
    rw [emptyDestination, if_neg]
    simp [below]

/-- A directory, a link to it, and a link that leads upwards behind that one. -/
def libraryPackage : Package where
  name := "library"
  entries :=
    [(nameLib, .directory []), (nameLib64, .symlink ['l', 'i', 'b']),
      (nameOpt, .symlink ['l', 'i', 'b', '6', '4', '/', '.', '.'])]
  leadsToDirectory _ := true

/-- A link behind a link of the other package. -/
def optionalPackage : Package where
  name := "optional"
  entries := [(nameLib64, .directory [(nameOpt, .symlink ['.', '.', '/', 'l', 'i', 'b'])])]
  leadsToDirectory _ := true

/-- Both links at the top are fixed. The one behind them may lie anywhere, and what is called as it
is may lead to the top. -/
def libraryChart : Chart where
  fixed := [[nameLib64.text], [nameOpt.text]]
  loose := [nameOpt.text]
  lift name := if name = nameLib64.text then 1 else 0

theorem contained_of_chartable_two :
    Chartable [libraryPackage, optionalPackage] ∧ ∃ after,
      (merge_packages 0 [['t']] [libraryPackage, optionalPackage]).run
          ⟨emptyDestination, [], []⟩ = .ok ((), after) ∧
        Contained [['t']] emptyDestination after := by
  have chartable : Chartable [libraryPackage, optionalPackage] := ⟨libraryChart, by decide +kernel⟩
  have merges : ((merge_packages 0 [['t']] [libraryPackage, optionalPackage]).run
      ⟨emptyDestination, [], []⟩).isOk = true := by
    decide +kernel
  refine ⟨chartable, ?_⟩
  cases merged : (merge_packages 0 [['t']] [libraryPackage, optionalPackage]).run
      ⟨emptyDestination, [], []⟩ with
  | error error =>
    rw [merged] at merges
    cases merges
  | ok result =>
    exact ⟨result.2, rfl, contained_of_chartable vacant_emptyDestination chartable merged⟩

/-- A link to its own directory, and a link that leads upwards behind it. The check takes the first
one for a directory of its own. -/
def escapingPackage : Package where
  name := "escaping"
  entries := [(nameLib, .symlink ['.']), (nameLib64, .symlink ['l', 'i', 'b', '/', '.', '.'])]
  leadsToDirectory _ := true

/-- A directory where the escaping package has a link. -/
def followingPackage : Package where
  name := "following"
  entries := [(nameLib64, .directory [(nameOpt, .directory [])])]
  leadsToDirectory _ := false

/-- Two packages that are merged without an error, and a directory is made beside the
destination. -/
theorem not_always_contained :
    ¬ ∀ user destination tree packages after, Vacant destination tree →
      (merge_packages user destination packages).run ⟨tree, [], []⟩ = .ok ((), after) →
      Contained destination tree after := by
  intro always
  -- the second package makes its directory through the link that has left the destination
  have escapes : ((merge_packages 0 [['t']] [escapingPackage, followingPackage]).run
      ⟨emptyDestination, [], []⟩).toOption.map (fun result => result.2.tree [nameOpt.text]) =
        some (some .directory) := by
    decide +kernel
  cases merged : (merge_packages 0 [['t']] [escapingPackage, followingPackage]).run
      ⟨emptyDestination, [], []⟩ with
  | error error =>
    rw [merged] at escapes
    cases escapes
  | ok result =>
    have contained := always 0 [['t']] emptyDestination _ result.2 vacant_emptyDestination merged
    have same := contained.outside [nameOpt.text] (by decide)
    rw [merged] at escapes
    have there : result.2.tree [nameOpt.text] = some .directory := Option.some.inj escapes
    rw [same] at there
    cases there

end Examples

end GemSim.Sysroot
