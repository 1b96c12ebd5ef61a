import GemSim.Lib.Checks
import GemSim.Lib.Worklist
import GemSim.Sysroot.Packages

/-!
# Resolution of packages

The packages are the least set that holds the roots and, for each group of a package, the first
alternative that may become a package. What is decided for a group depends on its alternatives
alone, and every group of every package is decided once. So neither the order of the roots nor
that of the search shows in the result, and a package that is missing is missed in any order.

## Main definitions

* `First`, `Resolves` — what is decided for the alternatives of a group
* `Leads`, `Faulty` — what a package depends on, and the packages that cannot be had
* `Resolved`, `ResolveLaw` — what the result is

## Main results

* `resolveLaw_unique` — the law leaves one result for all roots with the same members
* `resolveLaw` — the search ends, and the law holds
-/

namespace GemSim.Sysroot

open scoped List
open GemSim.Lib GemSim.Lib.Checks

section Laws

variable (records : PackageIndex) (replacements : List (String × String))
  (external_dependencies : Finset String)

/-- The first of the alternatives for which something holds. -/
def First (holds : String → Prop) (alternatives : List String) (name : String) : Prop :=
  ∃ before after, alternatives = before ++ name :: after ∧ holds name ∧
    ∀ other ∈ before, ¬ holds other

/-- In the index, and not forbidden. -/
def Selectable (name : String) : Prop :=
  (∃ fields, records.lookup name = some fields) ∧ name ∉ FORBIDDEN_PACKAGES

def Replaced (name : String) : Prop := ∃ provider, replacements.lookup name = some provider

/-- What is decided for alternatives. Packages come first, then replacements. -/
inductive Resolves (alternatives : List String) : Resolution → Prop
  | package {name : String} (first : First (Selectable records) alternatives name) :
      Resolves alternatives (.package name)
  | replacement {name provider : String} (none : ∀ other ∈ alternatives, ¬ Selectable records other)
      (first : First (Replaced replacements) alternatives name)
      (provided : replacements.lookup name = some provider) :
      Resolves alternatives (.replacement name provider)
  | external {name : String} (none : ∀ other ∈ alternatives, ¬ Selectable records other)
      (missing : ∀ other ∈ alternatives, ¬ Replaced replacements other)
      (first : First (· ∈ external_dependencies) alternatives name) :
      Resolves alternatives (.external name)

/-- The dependency field of a package in the index has these groups. -/
def HasGroups (name : String) (groups : List (List String)) : Prop :=
  (∃ fields, records.lookup name = some fields) ∧
    dependency_groups (depends records name) = .ok groups

/-- One of the groups of a package decides for another package. -/
def Leads (name next : String) : Prop :=
  ∃ groups, HasGroups records name groups ∧
    ∃ alternatives ∈ groups, First (Selectable records) alternatives next

/-- A package that is unavailable or forbidden, or has a dependency field that cannot be read, or
a group for which nothing can be decided. -/
def Faulty (name : String) : Prop :=
  ¬ Selectable records name ∨ (¬ ∃ groups, HasGroups records name groups) ∨
    ∃ groups, HasGroups records name groups ∧ ∃ alternatives ∈ groups,
      ¬ ∃ resolution, Resolves records replacements external_dependencies alternatives resolution

/-- What a record is about. -/
def Record.subject (record : Record) : String × List String :=
  (record.package, record.alternatives)

/-- The groups of a package. -/
def groupsOf (name : String) : List (List String) :=
  (dependency_groups (depends records name)).toOption.getD []

/-- The subjects of the records of a package. -/
def subjectsOf (name : String) : List (String × List String) :=
  (groupsOf records name).map fun alternatives => (name, alternatives)

/-- The packages and the records of a search that has succeeded. -/
structure Resolved (roots packages : List String) (resolutions : List Record) : Prop where
  least : IsLeast {set | Closed roots (Leads records) set} {name | name ∈ packages}
  sorted : packages.Pairwise (· < ·)
  permitted : ∀ name ∈ packages, name ∉ FORBIDDEN_PACKAGES
  parsed : ∀ name ∈ packages, HasGroups records name (groupsOf records name)
  once : (resolutions.map Record.subject).Perm (packages.flatMap (subjectsOf records))
  decided : ∀ record ∈ resolutions,
    Resolves records replacements external_dependencies record.alternatives record.resolution
  ordered : resolutions.Pairwise fun first second => first.key ≤ second.key

/-- A search succeeds so, or a package that it needs is faulty. -/
structure ResolveLaw (roots : List String)
    (outcome : Except SysrootError (List String × List Record)) : Prop where
  succeeds : ∀ packages resolutions, outcome = .ok (packages, resolutions) →
    Resolved records replacements external_dependencies roots packages resolutions
  fails : (∃ error, outcome = .error error) ↔
    ∃ name, Reached roots (Leads records) name ∧
      Faulty records replacements external_dependencies name

end Laws

section Decisions

variable {records : PackageIndex} {replacements : List (String × String)}
  {external_dependencies : Finset String} {name other : String} {alternatives : List String}
  {holds : String → Prop} {first second : Resolution}

theorem selectable_iff : selectable records name = true ↔ Selectable records name := by
  simp [selectable, available, Selectable, Option.isSome_iff_exists]

theorem First.mem (first : First holds alternatives name) : name ∈ alternatives := by
  obtain ⟨before, after, rfl, -, -⟩ := first
  simp

theorem First.satisfied (first : First holds alternatives name) : holds name := by
  obtain ⟨-, -, -, there, -⟩ := first
  exact there

theorem First.unique (first : First holds alternatives name)
    (second : First holds alternatives other) : name = other := by
  obtain ⟨before, after, rfl, here, none⟩ := first
  obtain ⟨front, back, same, there, nowhere⟩ := second
  rcases List.append_eq_append_iff.mp same with ⟨between, rfl, rest⟩ | ⟨between, rfl, rest⟩
  · cases between with
    | nil => exact (List.cons.inj rest).1
    | cons head tail =>
      obtain ⟨rfl, -⟩ := List.cons.inj rest
      exact absurd here (nowhere _ (by simp))
  · cases between with
    | nil => exact (List.cons.inj rest).1.symm
    | cons head tail =>
      obtain ⟨rfl, -⟩ := List.cons.inj rest
      exact absurd there (none _ (by simp))

theorem first_of_find {test : String → Bool} (agrees : ∀ name, test name = true ↔ holds name) :
    alternatives.find? test = some name ↔ First holds alternatives name := by
  simp only [List.find?_eq_some_iff_append, First, Bool.not_eq_true', ← agrees,
    Bool.not_eq_true]
  constructor
  · rintro ⟨here, before, after, rfl, none⟩
    exact ⟨before, after, rfl, here, none⟩
  · rintro ⟨before, after, rfl, here, none⟩
    exact ⟨here, before, after, rfl, none⟩

/-- What is decided for alternatives is decided by them. -/
theorem Resolves.unique
    (one : Resolves records replacements external_dependencies alternatives first)
    (another : Resolves records replacements external_dependencies alternatives second) :
    first = second := by
  cases one with
  | package here =>
    cases another with
    | package there => rw [here.unique there]
    | replacement none _ _ => exact absurd here.satisfied (none _ here.mem)
    | external none _ _ => exact absurd here.satisfied (none _ here.mem)
  | replacement none here provided =>
    cases another with
    | package there => exact absurd there.satisfied (none _ there.mem)
    | replacement _ there again =>
      obtain rfl := here.unique there
      rw [provided] at again
      rw [Option.some.inj again]
    | external _ missing _ => exact absurd here.satisfied (missing _ here.mem)
  | external none missing here =>
    cases another with
    | package there => exact absurd there.satisfied (none _ there.mem)
    | replacement _ there _ => exact absurd there.satisfied (missing _ there.mem)
    | external _ _ there => rw [here.unique there]

end Decisions

section Groups

variable {records : PackageIndex} {replacements : List (String × String)}
  {external_dependencies : Finset String} {name other provider : String}
  {alternatives : List String} {groups : List (List String)} {work after : Worklist}

theorem replacement_iff :
    (alternatives.findSome? fun candidate =>
        (replacements.lookup candidate).map (candidate, ·)) = some (name, provider) ↔
      First (Replaced replacements) alternatives name ∧
        replacements.lookup name = some provider := by
  simp only [List.findSome?_eq_some_iff, Option.map_eq_some_iff, Prod.mk.injEq,
    Option.map_eq_none_iff, First, Replaced, not_exists]
  constructor
  · rintro ⟨before, candidate, after, rfl, ⟨found, provided, rfl, rfl⟩, none⟩
    refine ⟨⟨before, after, rfl, ⟨found, provided⟩, fun other member provider there => ?_⟩,
      provided⟩
    rw [none other member] at there
    cases there
  · rintro ⟨⟨before, after, rfl, -, none⟩, provided⟩
    refine ⟨before, name, after, rfl, ⟨provider, provided, rfl, rfl⟩, fun other member => ?_⟩
    exact Option.eq_none_iff_forall_ne_some.mpr (none other member)

/-- The name that a record makes pending. -/
def Record.pending (record : Record) : List String :=
  match record.resolution with
  | .package name => [name]
  | _ => []

def Worklist.record (work : Worklist) (record : Record) : Worklist :=
  { work with
    pending := work.pending ++ record.pending
    resolutions := work.resolutions ++ [record] }

/-- A group is recorded with what is decided for it, unless nothing can be decided. -/
theorem resolveGroup_cases (name : String) (work : Worklist) (alternatives : List String) :
    (∃ resolution,
      Resolves records replacements external_dependencies alternatives resolution ∧
      resolveGroup records replacements external_dependencies name work alternatives =
        .ok (work.record ⟨name, alternatives, resolution⟩)) ∨
    (¬ ∃ resolution,
      Resolves records replacements external_dependencies alternatives resolution) ∧
      ∃ error, resolveGroup records replacements external_dependencies name work alternatives =
        .error error := by
  rw [resolveGroup]
  cases internal : alternatives.find? (selectable records) with
  | some found =>
    left
    exact ⟨_, .package ((first_of_find fun _ => selectable_iff).mp internal), rfl⟩
  | none =>
    have none : ∀ other ∈ alternatives, ¬ Selectable records other := by
      intro other member
      rw [← selectable_iff]
      exact List.find?_eq_none.mp internal other member
    cases replacement : alternatives.findSome? fun candidate =>
        (replacements.lookup candidate).map (candidate, ·) with
    | some found =>
      left
      obtain ⟨found, provider⟩ := found
      obtain ⟨first, provided⟩ := replacement_iff.mp replacement
      refine ⟨_, .replacement none first provided, ?_⟩
      simp [Worklist.record, Record.pending]
    | none =>
      have missing : ∀ other ∈ alternatives, ¬ Replaced replacements other := by
        rintro other member ⟨provider, there⟩
        have nowhere := List.findSome?_eq_none_iff.mp replacement other member
        rw [there] at nowhere
        cases nowhere
      cases outside : alternatives.find? (· ∈ external_dependencies) with
      | some found =>
        left
        refine ⟨_, .external none missing ((first_of_find fun _ => decide_eq_true_iff).mp outside),
          ?_⟩
        simp [Worklist.record, Record.pending]
      | none =>
        right
        refine ⟨?_, _, rfl⟩
        rintro ⟨resolution, decided⟩
        cases decided with
        | package first => exact none _ first.mem first.satisfied
        | replacement _ first _ => exact missing _ first.mem first.satisfied
        | external _ _ first =>
          have nowhere := List.find?_eq_none.mp outside _ first.mem
          exact nowhere (decide_eq_true first.satisfied)

/-- The groups of a package have been recorded, one after the other. -/
structure Recorded (records : PackageIndex) (replacements : List (String × String))
    (external_dependencies : Finset String) (name : String) (groups : List (List String))
    (list : List Record) : Prop where
  subjects : list.map Record.subject = groups.map fun alternatives => (name, alternatives)
  decided : ∀ record ∈ list,
    Resolves records replacements external_dependencies record.alternatives record.resolution

theorem resolveGroups_cases (name : String) (groups : List (List String)) (work : Worklist) :
    (∃ list, Recorded records replacements external_dependencies name groups list ∧
      groups.foldlM (resolveGroup records replacements external_dependencies name) work =
        .ok { work with
          pending := work.pending ++ list.flatMap Record.pending
          resolutions := work.resolutions ++ list }) ∨
    (∃ alternatives ∈ groups, ¬ ∃ resolution,
      Resolves records replacements external_dependencies alternatives resolution) ∧
      ∃ error, groups.foldlM (resolveGroup records replacements external_dependencies name) work =
        .error error := by
  induction groups generalizing work with
  | nil =>
    left
    refine ⟨[], ⟨rfl, fun record none => absurd none List.not_mem_nil⟩, ?_⟩
    simp [pure, Except.pure]
  | cons alternatives groups ih =>
    rw [List.foldlM_cons]
    rcases resolveGroup_cases name work alternatives with
      ⟨resolution, decides, recorded⟩ | ⟨undecided, error, failed⟩
    · rw [recorded]
      rcases ih (work.record ⟨name, alternatives, resolution⟩) with
        ⟨list, ⟨subjects, decided⟩, folded⟩ | ⟨⟨other, member, undecided⟩, error, failed⟩
      · left
        refine ⟨⟨name, alternatives, resolution⟩ :: list, ⟨?_, ?_⟩, ?_⟩
        · rw [List.map_cons, List.map_cons, subjects]
          rfl
        · intro record member
          rcases List.mem_cons.mp member with rfl | member
          · exact decides
          · exact decided record member
        · refine folded.trans ?_
          simp [Worklist.record]
      · exact Or.inr ⟨⟨other, List.mem_cons_of_mem _ member, undecided⟩, error, failed⟩
    · right
      rw [failed]
      exact ⟨⟨alternatives, List.mem_cons_self, undecided⟩, error, rfl⟩

variable (records replacements external_dependencies) in
/-- A package is selected with all its groups, unless it is faulty. -/
theorem selectPackage_cases (name : String) (work : Worklist) :
    (∃ groups list, Selectable records name ∧ HasGroups records name groups ∧
      Recorded records replacements external_dependencies name groups list ∧
      selectPackage records replacements external_dependencies name work =
        .ok ⟨work.pending ++ list.flatMap Record.pending, insert name work.selected,
          work.resolutions ++ list⟩) ∨
    Faulty records replacements external_dependencies name ∧
      ∃ error, selectPackage records replacements external_dependencies name work =
        .error error := by
  rw [selectPackage]
  by_cases there : selectable records name = true
  · have available := selectable_iff.mp there
    rw [if_neg (not_not.mpr there)]
    cases parsed : dependency_groups (depends records name) with
    | error error =>
      right
      refine ⟨Or.inr (Or.inl ?_), error, rfl⟩
      rintro ⟨groups, -, other⟩
      rw [parsed] at other
      cases other
    | ok groups =>
      have hasGroups : HasGroups records name groups := ⟨available.1, parsed⟩
      rcases resolveGroups_cases name groups { work with selected := insert name work.selected }
        with ⟨list, recorded, folded⟩ | ⟨⟨alternatives, member, undecided⟩, error, failed⟩
      · exact Or.inl ⟨groups, list, available, hasGroups, recorded, folded⟩
      · exact Or.inr ⟨Or.inr (Or.inr ⟨groups, hasGroups, alternatives, member, undecided⟩),
          error, failed⟩
  · rw [if_pos there]
    exact Or.inr ⟨Or.inl fun available => there (selectable_iff.mpr available), _, rfl⟩

/-- What the groups of a package make pending is what the package leads to. -/
theorem Recorded.pending_iff {list : List Record}
    (recorded : Recorded records replacements external_dependencies name groups list)
    (hasGroups : HasGroups records name groups) :
    other ∈ list.flatMap Record.pending ↔ Leads records name other := by
  constructor
  · intro member
    obtain ⟨record, there, pending⟩ := List.mem_flatMap.mp member
    have subject : record.subject ∈ list.map Record.subject := List.mem_map_of_mem there
    rw [recorded.subjects] at subject
    obtain ⟨alternatives, inside, same⟩ := List.mem_map.mp subject
    obtain ⟨-, rfl⟩ := Prod.mk.inj same
    refine ⟨groups, hasGroups, _, inside, ?_⟩
    have decided := recorded.decided record there
    obtain ⟨package, alternatives, resolution⟩ := record
    cases decided with
    | package first =>
      obtain rfl := List.mem_singleton.mp pending
      exact first
    | replacement => cases pending
    | external => cases pending
  · rintro ⟨others, ⟨-, parsed⟩, alternatives, inside, first⟩
    obtain rfl := Except.ok.inj (hasGroups.2.symm.trans parsed)
    have subject : (name, alternatives) ∈ list.map Record.subject := by
      rw [recorded.subjects]
      exact List.mem_map_of_mem inside
    obtain ⟨record, there, same⟩ := List.mem_map.mp subject
    obtain ⟨-, rfl⟩ := Prod.mk.inj same
    refine List.mem_flatMap.mpr ⟨record, there, ?_⟩
    have decided := (recorded.decided record there).unique (.package first)
    simp [Record.pending, decided]

end Groups

section Searches

variable {records : PackageIndex} {replacements : List (String × String)}
  {external_dependencies : Finset String} {roots : List String} {work : Worklist}

/-- What is known of a search while it runs. -/
structure Running (records : PackageIndex) (replacements : List (String × String))
    (external_dependencies : Finset String) (roots : List String) (work : Worklist) : Prop where
  search : Search roots (Leads records) work.pending work.selected
  selectable : ∀ name ∈ work.selected, Selectable records name
  parsed : ∀ name ∈ work.selected, HasGroups records name (groupsOf records name)
  once : (work.resolutions.map Record.subject).Perm
    (work.selected.toList.flatMap (subjectsOf records))
  decided : ∀ record ∈ work.resolutions,
    Resolves records replacements external_dependencies record.alternatives record.resolution

theorem running_start :
    Running records replacements external_dependencies roots ⟨roots, ∅, []⟩ where
  search := search_start
  selectable name none := absurd none (Finset.notMem_empty name)
  parsed name none := absurd none (Finset.notMem_empty name)
  once := by simp
  decided record none := absurd none List.not_mem_nil

theorem HasGroups.eq {name : String} {groups : List (List String)}
    (hasGroups : HasGroups records name groups) : groupsOf records name = groups := by
  rw [groupsOf, hasGroups.2]
  rfl

/-- A package that has been selected is not faulty: all its groups have been decided. -/
theorem Running.not_faulty (running : Running records replacements external_dependencies roots work)
    {name : String} (member : name ∈ work.selected) :
    ¬ Faulty records replacements external_dependencies name := by
  rintro (missing | unread | ⟨groups, hasGroups, alternatives, inside, undecided⟩)
  · exact missing (running.selectable name member)
  · exact unread ⟨_, running.parsed name member⟩
  · have subject : (name, alternatives) ∈ work.resolutions.map Record.subject := by
      rw [running.once.mem_iff, List.mem_flatMap]
      refine ⟨name, Finset.mem_toList.mpr member, ?_⟩
      rw [subjectsOf, hasGroups.eq]
      exact List.mem_map_of_mem inside
    obtain ⟨record, there, same⟩ := List.mem_map.mp subject
    obtain ⟨-, rfl⟩ := Prod.mk.inj same
    exact undecided ⟨_, running.decided record there⟩

theorem selectable_mem {name : String} (selectable : Selectable records name) :
    name ∈ (records.map Prod.fst).toFinset := by
  obtain ⟨⟨fields, found⟩, -⟩ := selectable
  rw [List.mem_toFinset, List.mem_map]
  obtain ⟨before, after, rfl, -⟩ := List.lookup_eq_some_iff.mp found
  exact ⟨(name, fields), by simp, rfl⟩

/-- A package is selected, and its groups are recorded. -/
theorem Running.select {name : String} {rest : List String} {groups : List (List String)}
    {list : List Record}
    (running : Running records replacements external_dependencies roots work)
    (taken : work.pending = rest ++ [name]) (fresh : name ∉ work.selected)
    (selectable : Selectable records name) (hasGroups : HasGroups records name groups)
    (recorded : Recorded records replacements external_dependencies name groups list) :
    Running records replacements external_dependencies roots
      ⟨rest ++ list.flatMap Record.pending, insert name work.selected,
        work.resolutions ++ list⟩ := by
  have member : name ∈ work.pending := by
    rw [taken]
    exact List.mem_append_right rest (List.mem_singleton_self name)
  constructor
  · refine running.search.visit member ?_ ?_ ?_
    · intro other there
      rw [taken, List.mem_append, List.mem_singleton] at there
      exact there.imp_left (List.mem_append_left _)
    · intro other there
      rw [taken]
      rcases List.mem_append.mp there with before | added
      · exact Or.inl (List.mem_append_left _ before)
      · exact Or.inr ((recorded.pending_iff hasGroups).mp added)
    · intro next leading
      exact List.mem_append_right rest ((recorded.pending_iff hasGroups).mpr leading)
  · intro other there
    rcases Finset.mem_insert.mp there with rfl | before
    · exact selectable
    · exact running.selectable other before
  · intro other there
    rcases Finset.mem_insert.mp there with rfl | before
    · rw [hasGroups.eq]
      exact hasGroups
    · exact running.parsed other before
  · have own : list.map Record.subject = subjectsOf records name := by
      rw [recorded.subjects, subjectsOf, hasGroups.eq]
    calc (work.resolutions ++ list).map Record.subject
        = work.resolutions.map Record.subject ++ subjectsOf records name := by
          rw [List.map_append, own]
      _ ~ work.selected.toList.flatMap (subjectsOf records) ++ subjectsOf records name :=
          running.once.append_right _
      _ ~ subjectsOf records name ++ work.selected.toList.flatMap (subjectsOf records) :=
          List.perm_append_comm
      _ ~ (insert name work.selected).toList.flatMap (subjectsOf records) :=
          ((Finset.toList_insert fresh).flatMap_right (subjectsOf records)).symm
  · intro record there
    rcases List.mem_append.mp there with before | added
    · exact running.decided record before
    · exact recorded.decided record added

/-- How a search ends. -/
theorem Running.finished (running : Running records replacements external_dependencies roots work)
    (done : work.pending = []) :
    ResolveLaw records replacements external_dependencies roots
      (.ok (work.selected.sort,
        work.resolutions.insertionSort fun first second => first.key ≤ second.key)) := by
  have search := running.search
  rw [done] at search
  constructor
  · rintro packages resolutions same
    obtain ⟨rfl, rfl⟩ := Prod.mk.inj (Except.ok.inj same)
    have perm := List.perm_insertionSort (fun first second : Record => first.key ≤ second.key)
      work.resolutions
    refine ⟨?_, ?_, ?_, ?_, ?_, ?_, ?_⟩
    · have reached : {name | name ∈ work.selected.sort} =
          {name | Reached roots (Leads records) name} := by
        ext name
        rw [Set.mem_ofPred_eq, Finset.mem_sort, search.finished]
        rfl
      rw [reached]
      exact isLeast_reached
    · exact (Finset.sortedLT_sort work.selected).pairwise
    · intro name member
      exact (running.selectable name ((Finset.mem_sort _).mp member)).2
    · intro name member
      exact running.parsed name ((Finset.mem_sort _).mp member)
    · refine (perm.map Record.subject).trans (running.once.trans ?_)
      exact (Finset.sort_perm_toList work.selected _).symm.flatMap_right (subjectsOf records)
    · intro record member
      exact running.decided record (perm.mem_iff.mp member)
    · exact List.pairwise_insertionSort _ _
  · constructor
    · rintro ⟨error, failed⟩
      cases failed
    · rintro ⟨name, reached, faulty⟩
      exact absurd faulty (running.not_faulty (search.finished.mpr reached))

/-- One pass ends the search, or goes on with less to do. -/
theorem Running.pass (running : Running records replacements external_dependencies roots work) :
    (∃ outcome, resolvePass records replacements external_dependencies work = .finish outcome ∧
      ResolveLaw records replacements external_dependencies roots outcome) ∨
    ∃ after, resolvePass records replacements external_dependencies work = .next after ∧
      Running records replacements external_dependencies roots after ∧
      Remaining (records.map Prod.fst).toFinset after.pending after.selected <
        Remaining (records.map Prod.fst).toFinset work.pending work.selected := by
  cases last : work.pending.getLast? with
  | none =>
    left
    refine ⟨_, ?_, running.finished (List.getLast?_eq_none_iff.mp last)⟩
    rw [resolvePass, last]
  | some name =>
    have split := List.dropLast_append_getLast? name last
    have taken : ∀ other, other ∈ work.pending ↔
        other ∈ work.pending.dropLast ∨ other = name := by
      intro other
      rw [← split, List.dropLast_concat, List.mem_append, List.mem_singleton]
    by_cases done : name ∈ work.selected
    · right
      refine ⟨{ work with pending := work.pending.dropLast }, ?_, ?_, ?_⟩
      · rw [resolvePass, last]
        exact if_pos done
      · exact ⟨running.search.skip taken done, running.selectable, running.parsed, running.once,
          running.decided⟩
      · apply remaining_skip
        rw [← split, List.dropLast_concat, List.length_append, List.length_singleton]
        exact Nat.lt_succ_self _
    · have member : name ∈ work.pending := (taken name).mpr (Or.inr rfl)
      rcases selectPackage_cases records replacements external_dependencies name
          { work with pending := work.pending.dropLast } with
        ⟨groups, list, selectable, hasGroups, recorded, selected⟩ | ⟨faulty, error, failed⟩
      · right
        refine ⟨⟨work.pending.dropLast ++ list.flatMap Record.pending, insert name work.selected,
          work.resolutions ++ list⟩, ?_, ?_, ?_⟩
        · rw [resolvePass, last]
          simp only [done, if_false]
          rw [selected]
        · exact running.select split.symm done selectable hasGroups recorded
        · exact remaining_visit (selectable_mem selectable) done
      · left
        refine ⟨.error error, ?_, ?_⟩
        · rw [resolvePass, last]
          simp only [done, if_false]
          rw [failed]
        · constructor
          · intro packages resolutions same
            cases same
          · constructor
            · intro
              exact ⟨name, running.search.sound name (Or.inl member), faulty⟩
            · intro
              exact ⟨error, rfl⟩

end Searches

section Uniqueness

variable {records : PackageIndex} {replacements : List (String × String)}
  {external_dependencies : Finset String} {roots others packages members : List String}
  {resolutions decisions : List Record}
  {outcome other : Except SysrootError (List String × List Record)}

/-- Records that have been decided are the same when they are about the same. -/
theorem injOn_subject : Set.InjOn Record.subject {record |
    Resolves records replacements external_dependencies record.alternatives record.resolution} := by
  rintro ⟨package, alternatives, first⟩ one ⟨_, _, second⟩ another same
  obtain ⟨rfl, rfl⟩ := Prod.mk.inj same
  obtain rfl : first = second := Resolves.unique one another
  rfl

/-- Decided records are a permutation of others when what they are about is one. -/
theorem perm_of_subjects
    (first : ∀ record ∈ resolutions,
      Resolves records replacements external_dependencies record.alternatives record.resolution)
    (second : ∀ record ∈ decisions,
      Resolves records replacements external_dependencies record.alternatives record.resolution)
    (same : resolutions.map Record.subject ~ decisions.map Record.subject) :
    resolutions ~ decisions := by
  have : Nonempty Record := ⟨⟨"", [], .external ""⟩⟩
  have back := (@injOn_subject records replacements external_dependencies).leftInvOn_invFunOn
  have recover : ∀ list : List Record,
      (∀ record ∈ list,
        Resolves records replacements external_dependencies record.alternatives record.resolution) →
      (list.map Record.subject).map (Function.invFunOn Record.subject {record |
        Resolves records replacements external_dependencies record.alternatives
          record.resolution}) = list := by
    intro list decided
    rw [List.map_map]
    exact (List.map_congr_left fun record member => back (decided record member)).trans
      (List.map_id' list)
  rw [← recover resolutions first, ← recover decisions second]
  exact same.map _

/-- The packages and the records are those of the roots, in whatever order these are given. -/
theorem Resolved.unique (same : ∀ name, name ∈ roots ↔ name ∈ others)
    (first : Resolved records replacements external_dependencies roots packages resolutions)
    (second : Resolved records replacements external_dependencies others members decisions) :
    packages = members ∧ resolutions = decisions := by
  have closed : ∀ set, Closed roots (Leads records) set ↔ Closed others (Leads records) set := by
    intro set
    constructor
    · intro closed
      exact ⟨fun root member => closed.roots root ((same root).mpr member), closed.leads⟩
    · intro closed
      exact ⟨fun root member => closed.roots root ((same root).mp member), closed.leads⟩
  have least := second.least
  simp only [← closed] at least
  have sets := first.least.unique least
  have packages_eq : packages = members := by
    refine first.sorted.sortedLT.eq_of_mem_iff second.sorted.sortedLT fun name => ?_
    exact Set.ext_iff.mp sets name
  subst packages_eq
  refine ⟨rfl, ?_⟩
  have perm := perm_of_subjects first.decided second.decided (first.once.trans second.once.symm)
  refine perm.eq_of_pairwise (fun one another there here below above => ?_) first.ordered
    second.ordered
  have key := Prod.mk.inj (toLex.injective (le_antisymm below above))
  have rest := Prod.mk.inj (toLex.injective key.2)
  apply injOn_subject (first.decided one there) (second.decided another here)
  exact Prod.ext key.1 rest.1

theorem resolveLaw_unique (same : ∀ name, name ∈ roots ↔ name ∈ others)
    (first : ResolveLaw records replacements external_dependencies roots outcome)
    (second : ResolveLaw records replacements external_dependencies others other) :
    outcome.toOption = other.toOption := by
  have fails : (∃ error, outcome = .error error) ↔ ∃ error, other = .error error := by
    rw [first.fails, second.fails]
    simp only [reached_congr same]
  cases outcome with
  | error error =>
    obtain ⟨another, rfl⟩ := fails.mp ⟨error, rfl⟩
    rfl
  | ok found =>
    cases other with
    | error error =>
      obtain ⟨another, failed⟩ := fails.mpr ⟨error, rfl⟩
      cases failed
    | ok another =>
      obtain ⟨packages, resolutions⟩ := found
      obtain ⟨members, decisions⟩ := another
      obtain ⟨rfl, rfl⟩ := (first.succeeds _ _ rfl).unique same (second.succeeds _ _ rfl)
      rfl

end Uniqueness

/-- The search ends, with the packages and records that the law asks for. Roots with the same
members have the same result, or fail together. -/
theorem resolveLaw (records : PackageIndex) (replacements : List (String × String))
    (external_dependencies : Finset String) (roots : List String) :
    ∃ outcome,
      (∃ passes, ∀ extra,
        resolve_packages records replacements external_dependencies roots (passes + extra) =
          .finished outcome) ∧
      ResolveLaw records replacements external_dependencies roots outcome ∧
      ∀ others, (∀ name, name ∈ others ↔ name ∈ roots) → ∀ passes other,
        resolve_packages records replacements external_dependencies others passes =
          .finished other → other.toOption = outcome.toOption := by
  have ends : ∀ roots, ∃ passes outcome,
      resolve_packages records replacements external_dependencies roots passes =
        .finished outcome ∧
      ResolveLaw records replacements external_dependencies roots outcome := by
    intro roots
    refine loop_finished (InvImage.wf (fun work : Worklist =>
      Remaining (records.map Prod.fst).toFinset work.pending work.selected) wellFounded_lt)
      (fun work running => Running.pass running) running_start
  obtain ⟨passes, outcome, ended, law⟩ := ends roots
  refine ⟨outcome, ⟨passes, loop_add ended finished_ne_running⟩, law, ?_⟩
  intro others same count other finished
  obtain ⟨more, another, ended, lawful⟩ := ends others
  obtain rfl := loop_unique finished ended
  exact resolveLaw_unique same lawful law

end GemSim.Sysroot
