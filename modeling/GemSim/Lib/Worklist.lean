import GemSim.Lib.Loop
import Mathlib.Data.Finset.Card
import Mathlib.Data.Prod.Lex
import Mathlib.Data.Set.Basic
import Mathlib.Logic.Relation
import Mathlib.Order.Bounds.Basic

/-!
# Worklists

Names lead to names. A search takes names from a list of pending ones, visits those that it has
not visited yet, and puts what they lead to on the list. When nothing is pending any more, it has
visited the least set that holds the roots and is closed under what names lead to. The order in
which the names are taken does not matter for this, nor does it matter whether names lead around
in circles.

## Main definitions

* `Reached`, `Closed` — what the roots lead to, and the sets that keep it
* `Search` — the invariant of a search
* `Remaining` — how much a search has left to do

## Main results

* `isLeast_reached` — what is reached is the least closed set
* `Search.finished` — a search without pending names has visited what is reached
* `remaining_visit`, `remaining_skip` — each step leaves less to do
-/

namespace GemSim.Lib

variable {Name : Type*} {roots : List Name} {leads : Name → Name → Prop} {name next : Name}

section Closures

/-- The roots, and what they lead to in any number of steps. -/
def Reached (roots : List Name) (leads : Name → Name → Prop) (name : Name) : Prop :=
  ∃ root ∈ roots, Relation.ReflTransGen leads root name

/-- A set that holds the roots, and what its members lead to. -/
structure Closed (roots : List Name) (leads : Name → Name → Prop) (set : Set Name) : Prop where
  roots : ∀ root ∈ roots, root ∈ set
  leads : ∀ name ∈ set, ∀ next, leads name next → next ∈ set

theorem reached_root (root : name ∈ roots) : Reached roots leads name := ⟨name, root, .refl⟩

theorem Reached.lead (reached : Reached roots leads name) (leading : leads name next) :
    Reached roots leads next := by
  obtain ⟨root, member, path⟩ := reached
  exact ⟨root, member, path.tail leading⟩

theorem isLeast_reached :
    IsLeast {set | Closed roots leads set} {name | Reached roots leads name} := by
  constructor
  · exact ⟨fun root member => reached_root member, fun name reached next => reached.lead⟩
  · rintro set closed name ⟨root, member, path⟩
    induction path with
    | refl => exact closed.roots root member
    | tail _ leading ih => exact closed.leads _ ih _ leading

/-- What is reached depends on which roots there are, and on nothing else about them. -/
theorem reached_congr {others : List Name} (same : ∀ name, name ∈ roots ↔ name ∈ others) :
    Reached roots leads name ↔ Reached others leads name := by
  simp only [Reached, same]

end Closures

section Searches

variable {pending : List Name} {visited : Finset Name}

/-- What a search has pending or visited is reached, and the roots and what the visited names
lead to are visited or pending. -/
structure Search (roots : List Name) (leads : Name → Name → Prop) (pending : List Name)
    (visited : Finset Name) : Prop where
  sound : ∀ name, name ∈ pending ∨ name ∈ visited → Reached roots leads name
  roots : ∀ root ∈ roots, root ∈ pending ∨ root ∈ visited
  leads : ∀ name ∈ visited, ∀ next, leads name next → next ∈ pending ∨ next ∈ visited

theorem search_start : Search roots leads roots ∅ where
  sound := by
    rintro name (root | none)
    · exact reached_root root
    · exact absurd none (Finset.notMem_empty name)
  roots root member := Or.inl member
  leads name none := absurd none (Finset.notMem_empty name)

/-- A name that has been visited is not visited again. -/
theorem Search.skip {rest : List Name} (search : Search roots leads pending visited)
    (taken : ∀ other, other ∈ pending ↔ other ∈ rest ∨ other = name) (done : name ∈ visited) :
    Search roots leads rest visited := by
  have kept : ∀ other, other ∈ pending ∨ other ∈ visited → other ∈ rest ∨ other ∈ visited := by
    rintro other (there | there)
    · rcases (taken other).mp there with rest | rfl
      · exact Or.inl rest
      · exact Or.inr done
    · exact Or.inr there
  constructor
  · rintro other (there | there)
    · exact search.sound other (Or.inl ((taken other).mpr (Or.inl there)))
    · exact search.sound other (Or.inr there)
  · intro root member
    exact kept root (search.roots root member)
  · intro other there next leading
    exact kept next (search.leads other there next leading)

theorem Search.finished (search : Search roots leads [] visited) :
    name ∈ visited ↔ Reached roots leads name := by
  constructor
  · intro there
    exact search.sound name (Or.inr there)
  · have closed : Closed roots leads {name | name ∈ visited} := by
      constructor
      · intro root member
        exact (search.roots root member).resolve_left List.not_mem_nil
      · intro name there next leading
        exact (search.leads name there next leading).resolve_left List.not_mem_nil
    intro reached
    exact isLeast_reached.2 closed reached

variable [DecidableEq Name]

/-- A name is visited, and what it leads to becomes pending. -/
theorem Search.visit {after : List Name} (search : Search roots leads pending visited)
    (taken : name ∈ pending)
    (leaves : ∀ other ∈ pending, other ∈ after ∨ other = name)
    (keeps : ∀ other ∈ after, other ∈ pending ∨ leads name other)
    (adds : ∀ next, leads name next → next ∈ after) :
    Search roots leads after (insert name visited) := by
  have reached : Reached roots leads name := search.sound name (Or.inl taken)
  have kept : ∀ other, other ∈ pending ∨ other ∈ visited →
      other ∈ after ∨ other ∈ insert name visited := by
    rintro other (there | there)
    · rcases leaves other there with rest | rfl
      · exact Or.inl rest
      · exact Or.inr (Finset.mem_insert_self other visited)
    · exact Or.inr (Finset.mem_insert_of_mem there)
  constructor
  · rintro other (there | there)
    · rcases keeps other there with before | leading
      · exact search.sound other (Or.inl before)
      · exact reached.lead leading
    · rcases Finset.mem_insert.mp there with rfl | before
      · exact reached
      · exact search.sound other (Or.inr before)
  · intro root member
    exact kept root (search.roots root member)
  · intro other there next leading
    rcases Finset.mem_insert.mp there with rfl | before
    · exact Or.inl (adds next leading)
    · exact kept next (search.leads other before next leading)

/-- What a search has left to do: the names that it may still visit, and those that it has to take
from its list before it visits one. -/
def Remaining (known : Finset Name) (pending : List Name) (visited : Finset Name) : ℕ ×ₗ ℕ :=
  toLex ((known \ visited).card, pending.length)

theorem remaining_skip {known : Finset Name} {rest : List Name}
    (less : rest.length < pending.length) :
    Remaining known rest visited < Remaining known pending visited :=
  Prod.Lex.toLex_lt_toLex.mpr (Or.inr ⟨rfl, less⟩)

theorem remaining_visit {known : Finset Name} {after : List Name} (there : name ∈ known)
    (fresh : name ∉ visited) :
    Remaining known after (insert name visited) < Remaining known pending visited := by
  apply Prod.Lex.toLex_lt_toLex.mpr
  left
  apply Finset.card_lt_card
  apply Finset.ssubset_iff_subset_ne.mpr
  constructor
  · exact Finset.sdiff_subset_sdiff (Finset.Subset.refl _) (Finset.subset_insert name visited)
  · intro same
    have left : name ∈ known \ visited := Finset.mem_sdiff.mpr ⟨there, fresh⟩
    rw [← same, Finset.mem_sdiff] at left
    exact left.2 (Finset.mem_insert_self name visited)

end Searches

end GemSim.Lib
