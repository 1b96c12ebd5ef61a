import Mathlib.Data.List.Pairwise
import Mathlib.Order.MinMax

/-!
# Sets of points kept as lists of intervals

A set of points of a linear order is kept as a list of half-open intervals, sorted and with a
gap between any two of them. A new interval is inserted in one pass, which swallows every
interval it meets or touches.

## Main definitions

* `Covers` — some interval of the list contains the point
* `Spaced` — the intervals are nonempty, sorted and apart
* `insertInterval` — one pass that inserts an interval

## Main results

* `Spaced.insertInterval` — an insertion keeps the list spaced
* `covers_insertInterval` — an insertion adds the points of its interval and no others
* `Spaced.contained_iff` — a nonempty interval is covered exactly if one interval contains it
-/

namespace GemSim.Lib

variable {α : Type*} [LinearOrder α] {intervals : List (α × α)} {start stop point : α}

/-- Some interval of the list contains the point. -/
def Covers (intervals : List (α × α)) (point : α) : Prop :=
  ∃ interval ∈ intervals, interval.1 ≤ point ∧ point < interval.2

/-- The intervals are nonempty, sorted, and with a gap between any two. -/
structure Spaced (intervals : List (α × α)) : Prop where
  nonempty : ∀ interval ∈ intervals, interval.1 < interval.2
  apart : intervals.Pairwise fun earlier later => earlier.2 < later.1

/-- Insert an interval into the rest of a list; the flag tells that it was put down before. -/
def insertInterval : List (α × α) → α → α → Bool → List (α × α)
  | [], start, stop, inserted => if inserted then [] else [(start, stop)]
  | (first, last) :: rest, start, stop, inserted =>
    if last < start then (first, last) :: insertInterval rest start stop inserted
    else if stop < first then
      if inserted then (first, last) :: insertInterval rest start stop true
      else (start, stop) :: (first, last) :: insertInterval rest start stop true
    else insertInterval rest (min start first) (max stop last) inserted

theorem covers_nil : ¬ Covers ([] : List (α × α)) point := by
  rintro ⟨interval, member, -⟩
  cases member

theorem covers_cons {interval : α × α} :
    Covers (interval :: intervals) point ↔
      (interval.1 ≤ point ∧ point < interval.2) ∨ Covers intervals point := by
  simp [Covers]

theorem Spaced.tail {interval : α × α} (spaced : Spaced (interval :: intervals)) :
    Spaced intervals where
  nonempty := fun other member => spaced.nonempty other (List.mem_cons_of_mem _ member)
  apart := (List.pairwise_cons.mp spaced.apart).2

theorem spaced_nil : Spaced ([] : List (α × α)) where
  nonempty := fun _ member => by cases member
  apart := .nil

theorem Spaced.cons {interval : α × α} (spaced : Spaced intervals)
    (proper : interval.1 < interval.2) (gap : ∀ other ∈ intervals, interval.2 < other.1) :
    Spaced (interval :: intervals) where
  nonempty := by
    intro other member
    rcases List.mem_cons.mp member with rfl | later
    · exact proper
    · exact spaced.nonempty other later
  apart := List.pairwise_cons.mpr ⟨gap, spaced.apart⟩

/-- Once the interval was put down, the rest of a list beyond it is kept. -/
theorem insertInterval_beyond (spaced : Spaced intervals) (proper : start < stop)
    (beyond : ∀ other ∈ intervals, stop < other.1) :
    insertInterval intervals start stop true = intervals := by
  induction intervals with
  | nil => rfl
  | cons interval rest ih =>
    have here := beyond interval (List.mem_cons_self ..)
    have nonempty := spaced.nonempty interval (List.mem_cons_self ..)
    have kept := ih spaced.tail fun other member => beyond other (List.mem_cons_of_mem _ member)
    obtain ⟨first, last⟩ := interval
    have above : ¬ last < start := (proper.trans (here.trans nonempty)).not_gt
    rw [insertInterval, if_neg above, if_pos here, if_pos rfl, kept]

/-- What the insertion leaves lies at or above what lies below it all. -/
theorem lt_insertInterval {bound : α} (below : bound < start)
    (gap : ∀ other ∈ intervals, bound < other.1) :
    ∀ inserted, ∀ other ∈ insertInterval intervals start stop inserted, bound < other.1 := by
  induction intervals generalizing start stop with
  | nil =>
    intro inserted other member
    cases inserted with
    | true => cases member
    | false =>
      obtain rfl := List.mem_singleton.mp member
      exact below
  | cons interval rest ih =>
    obtain ⟨first, last⟩ := interval
    have here : bound < first := gap (first, last) (List.mem_cons_self ..)
    have later : ∀ other ∈ rest, bound < other.1 :=
      fun other member => gap other (List.mem_cons_of_mem _ member)
    intro inserted other member
    unfold insertInterval at member
    split at member
    · rcases List.mem_cons.mp member with rfl | member
      · exact here
      · exact ih below later inserted other member
    split at member
    · split at member
      · rcases List.mem_cons.mp member with rfl | member
        · exact here
        · exact ih below later true other member
      · rcases List.mem_cons.mp member with rfl | member
        · exact below
        rcases List.mem_cons.mp member with rfl | member
        · exact here
        · exact ih below later true other member
    · exact ih (lt_min below here) later inserted other member

/-- An insertion keeps the list spaced. -/
theorem Spaced.insertInterval (spaced : Spaced intervals) (proper : start < stop) :
    Spaced (insertInterval intervals start stop false) := by
  induction intervals generalizing start stop with
  | nil => exact spaced_nil.cons proper fun _ member => by cases member
  | cons interval rest ih =>
    obtain ⟨first, last⟩ := interval
    have nonempty : first < last := spaced.nonempty (first, last) (List.mem_cons_self ..)
    have gap := (List.pairwise_cons.mp spaced.apart).1
    unfold Lib.insertInterval
    split
    · rename_i before
      exact (ih spaced.tail proper).cons nonempty (lt_insertInterval before gap false)
    split
    · rename_i beyond
      have later : ∀ other ∈ rest, stop < other.1 :=
        fun other member => beyond.trans (nonempty.trans (gap other member))
      rw [if_neg Bool.false_ne_true, insertInterval_beyond spaced.tail proper later]
      refine spaced.cons proper fun other member => ?_
      rcases List.mem_cons.mp member with rfl | member
      · exact beyond
      · exact later other member
    · -- the two meet or touch, and go on as one
      exact ih spaced.tail ((min_le_left _ _).trans_lt (proper.trans_le (le_max_left _ _)))

/-- The union of two intervals that meet or touch. -/
theorem mem_union_iff {first last : α} (touches : start ≤ last) (reaches : first ≤ stop) :
    (min start first ≤ point ∧ point < max stop last) ↔
      (first ≤ point ∧ point < last) ∨ (start ≤ point ∧ point < stop) := by
  rw [min_le_iff, lt_max_iff]
  constructor
  · rintro ⟨low, high⟩
    rcases low with low | low
    · rcases high with high | high
      · exact .inr ⟨low, high⟩
      · rcases lt_or_ge point stop with inside | outside
        · exact .inr ⟨low, inside⟩
        · exact .inl ⟨reaches.trans outside, high⟩
    · rcases high with high | high
      · rcases lt_or_ge point last with inside | outside
        · exact .inl ⟨low, inside⟩
        · exact .inr ⟨touches.trans outside, high⟩
      · exact .inl ⟨low, high⟩
  · rintro (⟨low, high⟩ | ⟨low, high⟩)
    · exact ⟨.inr low, .inr high⟩
    · exact ⟨.inl low, .inl high⟩

/-- An insertion adds the points of its interval and no others. -/
theorem covers_insertInterval (spaced : Spaced intervals) (proper : start < stop) :
    Covers (insertInterval intervals start stop false) point ↔
      Covers intervals point ∨ (start ≤ point ∧ point < stop) := by
  induction intervals generalizing start stop with
  | nil =>
    rw [insertInterval, if_neg Bool.false_ne_true, covers_cons]
    simp only [covers_nil, or_false, false_or]
  | cons interval rest ih =>
    obtain ⟨first, last⟩ := interval
    have nonempty : first < last := spaced.nonempty (first, last) (List.mem_cons_self ..)
    have gap := (List.pairwise_cons.mp spaced.apart).1
    unfold insertInterval
    split
    · rw [covers_cons, covers_cons, ih spaced.tail proper, or_assoc]
    split
    · rename_i beyond
      have later : ∀ other ∈ rest, stop < other.1 :=
        fun other member => beyond.trans (nonempty.trans (gap other member))
      rw [if_neg Bool.false_ne_true, insertInterval_beyond spaced.tail proper later, covers_cons,
        or_comm]
    · rename_i touches reaches
      rw [ih spaced.tail ((min_le_left _ _).trans_lt (proper.trans_le (le_max_left _ _))),
        covers_cons, mem_union_iff (not_lt.mp touches) (not_lt.mp reaches), or_assoc,
        or_left_comm]

/-- Two intervals of a spaced list that share a point are one. -/
theorem Spaced.eq_of_mem (spaced : Spaced intervals) {one other : α × α} (first : one ∈ intervals)
    (second : other ∈ intervals) (touches : one.1 ≤ other.2) (reaches : other.1 ≤ one.2) :
    one = other := by
  induction intervals with
  | nil => cases first
  | cons interval rest ih =>
    have gap := (List.pairwise_cons.mp spaced.apart).1
    rcases List.mem_cons.mp first with rfl | behind
    · rcases List.mem_cons.mp second with rfl | later
      · rfl
      · exact absurd reaches (gap other later).not_ge
    · rcases List.mem_cons.mp second with rfl | later
      · exact absurd touches (gap one behind).not_ge
      · exact ih spaced.tail behind later

/-- A nonempty interval is covered exactly if one interval of a spaced list contains it. -/
theorem Spaced.contained_iff (spaced : Spaced intervals) (proper : start < stop) :
    (∃ interval ∈ intervals, interval.1 ≤ start ∧ stop ≤ interval.2) ↔
      ∀ point, start ≤ point → point < stop → Covers intervals point := by
  constructor
  · rintro ⟨interval, member, low, high⟩ point above below
    exact ⟨interval, member, low.trans above, below.trans_le high⟩
  · intro covered
    obtain ⟨interval, member, low, high⟩ := covered start le_rfl proper
    refine ⟨interval, member, low, not_lt.mp fun short => ?_⟩
    -- the end of the interval would be covered by another one
    obtain ⟨other, there, reaches, beyond⟩ := covered interval.2 high.le short
    have same := spaced.eq_of_mem member there ((low.trans high.le).trans beyond.le) reaches
    rw [← same] at beyond
    exact lt_irrefl _ beyond

end GemSim.Lib
