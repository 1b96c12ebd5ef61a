import Mathlib.Data.List.Nodup

/-!
# Entries

A mapping as the list of its entries, in the order in which their names were added.

## Main definitions

* `putEntry` — the value of a name is replaced, or the name is added

## Main results

* `lookup_putEntry_self`, `lookup_putEntry_of_ne` — what is found after that
* `mem_putEntry`, `names_putEntry`, `map_putEntry` — the entries and their names
-/

namespace GemSim.Lib

variable {Name Value : Type} [DecidableEq Name] {entries : List (Name × Value)} {name other : Name}
  {value : Value}

/-- The value of a name is replaced, or the name is added. -/
def putEntry (name : Name) (value : Value) (entries : List (Name × Value)) :
    List (Name × Value) :=
  if entries.any fun entry => entry.1 = name then
    entries.map fun entry => if entry.1 = name then (name, value) else entry
  else entries ++ [(name, value)]

theorem mem_of_lookup (found : entries.lookup name = some value) : (name, value) ∈ entries := by
  obtain ⟨before, after, shape, -⟩ := List.lookup_eq_some_iff.mp found
  rw [shape]
  simp

theorem lookup_of_mem (nodup : (entries.map Prod.fst).Nodup) (member : (name, value) ∈ entries) :
    entries.lookup name = some value := by
  induction entries with
  | nil => cases member
  | cons entry rest ih =>
    rw [List.map_cons, List.nodup_cons] at nodup
    rcases List.mem_cons.mp member with rfl | later
    · exact List.lookup_cons_self
    · have ne : name ≠ entry.1 := by
        intro same
        rw [same] at later
        exact nodup.1 (List.mem_map.mpr ⟨(entry.1, value), later, rfl⟩)
      rw [List.lookup_cons, beq_false_of_ne ne]
      exact ih nodup.2 later

theorem lookup_putEntry_self (name : Name) (value : Value) (entries : List (Name × Value)) :
    (putEntry name value entries).lookup name = some value := by
  unfold putEntry
  split
  · rename_i there
    induction entries with
    | nil => simp at there
    | cons entry rest ih =>
      by_cases same : entry.1 = name
      · rw [List.map_cons, if_pos same]
        exact List.lookup_cons_self
      · rw [List.map_cons, if_neg same, List.lookup_cons, beq_false_of_ne (Ne.symm same)]
        refine ih ?_
        simpa [same] using there
  · rename_i absent
    rw [List.lookup_append, List.lookup_cons_self]
    have none : entries.lookup name = none := by
      rw [List.lookup_eq_none_iff]
      intro entry member
      simp only [List.any_eq_true, not_exists, not_and, decide_eq_true_eq] at absent
      rw [bne_iff_ne]
      exact Ne.symm (absent entry member)
    rw [none]
    rfl

theorem lookup_putEntry_of_ne (ne : other ≠ name) (value : Value) (entries : List (Name × Value)) :
    (putEntry name value entries).lookup other = entries.lookup other := by
  unfold putEntry
  split
  · clear * - ne
    induction entries with
    | nil => rfl
    | cons entry rest ih =>
      by_cases same : entry.1 = name
      · rw [List.map_cons, if_pos same, List.lookup_cons, List.lookup_cons, beq_false_of_ne ne,
          same, beq_false_of_ne ne]
        exact ih
      · rw [List.map_cons, if_neg same, List.lookup_cons, List.lookup_cons, ih]
  · rw [List.lookup_append]
    have none : [(name, value)].lookup other = none := by
      rw [List.lookup_cons, beq_false_of_ne ne]
      rfl
    rw [none, Option.or_none]

theorem mem_putEntry {entry : Name × Value} (member : entry ∈ putEntry name value entries) :
    entry = (name, value) ∨ entry ∈ entries ∧ entry.1 ≠ name := by
  unfold putEntry at member
  split at member
  · obtain ⟨before, there, made⟩ := List.mem_map.mp member
    split at made
    · exact .inl made.symm
    · rename_i ne
      rw [← made]
      exact .inr ⟨there, ne⟩
  · rename_i absent
    rcases List.mem_append.mp member with there | new
    · simp only [List.any_eq_true, not_exists, not_and, decide_eq_true_eq] at absent
      exact .inr ⟨there, absent entry there⟩
    · exact .inl (List.mem_singleton.mp new)

/-- The names stay in order, with a new one at their end. -/
theorem names_putEntry (name : Name) (value : Value) (entries : List (Name × Value)) :
    (putEntry name value entries).map Prod.fst =
      if name ∈ entries.map Prod.fst then entries.map Prod.fst
      else entries.map Prod.fst ++ [name] := by
  unfold putEntry
  have there : (entries.any fun entry => decide (entry.1 = name)) = true ↔
      name ∈ entries.map Prod.fst := by
    simp [List.any_eq_true, List.mem_map]
  by_cases member : name ∈ entries.map Prod.fst
  · rw [if_pos (there.mpr member), if_pos member, List.map_map]
    refine List.map_congr_left fun entry _ => ?_
    rw [Function.comp_apply]
    split
    · rename_i same
      exact same.symm
    · rfl
  · rw [if_neg (mt there.mp member), if_neg member, List.map_append]
    rfl

/-- What a new value does not change, is the same for all entries. -/
theorem map_putEntry {Image : Type} {image : Name × Value → Image}
    (there : name ∈ entries.map Prod.fst)
    (same : ∀ entry ∈ entries, entry.1 = name → image (name, value) = image entry) :
    (putEntry name value entries).map image = entries.map image := by
  have found : (entries.any fun entry => decide (entry.1 = name)) = true := by
    simpa [List.any_eq_true, List.mem_map] using there
  rw [putEntry, if_pos found, List.map_map]
  refine List.map_congr_left fun entry member => ?_
  rw [Function.comp_apply]
  split
  · rename_i here
    exact same entry member here
  · rfl

theorem nodup_putEntry (nodup : (entries.map Prod.fst).Nodup) (name : Name) (value : Value) :
    ((putEntry name value entries).map Prod.fst).Nodup := by
  rw [names_putEntry]
  split
  · exact nodup
  · rename_i absent
    refine List.nodup_append.mpr ⟨nodup, List.nodup_singleton _, ?_⟩
    intro first there second new
    rw [List.mem_singleton.mp new]
    rintro rfl
    exact absent there

end GemSim.Lib
