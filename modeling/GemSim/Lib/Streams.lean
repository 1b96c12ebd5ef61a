import Mathlib.Algebra.NeZero
import Mathlib.Algebra.Order.Ring.Nat
import Mathlib.Data.List.Basic
import Mathlib.Data.List.Infix
import Mathlib.Data.Nat.Notation

/-!
# Streams of framed records

A writer hands a list of vectors to a call that takes some of their bytes, and goes on with
those that are left. A reader takes a header of fixed size from a stream, and then as many bytes
as the header announces, until the stream ends; it may end inside a record.

## Main definitions

* `advance` — the vectors that are left after some bytes
* `frames` — the records of a stream, and whether it ends inside one
* `Framed` — a header that announces the bytes behind it

## Main results

* `flatten_advance` — what is left of the bytes
* `frames_flatten_append` — a reader finds the records of a writer, however the last one ends
-/

namespace GemSim.Lib

variable {Byte : Type*}

section Vectors

/-- The vectors without their first bytes, and without the vectors that are used up. -/
def advance : List (List Byte) → ℕ → List (List Byte)
  | [], _ => []
  | vector :: rest, count =>
    if vector.length ≤ count then advance rest (count - vector.length)
    else vector.drop count :: rest

theorem flatten_advance (vectors : List (List Byte)) (count : ℕ) :
    (advance vectors count).flatten = vectors.flatten.drop count := by
  induction vectors generalizing count with
  | nil => simp [advance]
  | cons vector rest ih =>
    rw [advance, List.flatten_cons, List.drop_append]
    by_cases whole : vector.length ≤ count
    · rw [if_pos whole, ih, List.drop_eq_nil_of_le whole, List.nil_append]
    · have none : count - vector.length = 0 := by omega
      rw [if_neg whole, List.flatten_cons, none, List.drop_zero]

/-- No vector that is left is empty. -/
theorem ne_nil_of_mem_advance {vectors : List (List Byte)} (full : ∀ vector ∈ vectors, vector ≠ [])
    (count : ℕ) : ∀ vector ∈ advance vectors count, vector ≠ [] := by
  induction vectors generalizing count with
  | nil => simp [advance]
  | cons vector rest ih =>
    rw [advance]
    have others := fun other member => full other (List.mem_cons_of_mem _ member)
    by_cases whole : vector.length ≤ count
    · rw [if_pos whole]
      exact ih others _
    · rw [if_neg whole]
      intro other member
      rcases List.mem_cons.mp member with rfl | member
      · rw [ne_eq, List.drop_eq_nil_iff]
        exact whole
      · exact others other member

end Vectors

section Frames

variable (size : ℕ) (lengthOf : List Byte → ℕ)

/-- The records at the start of a stream, and whether the stream ends inside one. -/
def frames [NeZero size] (stream : List Byte) : List (List Byte × List Byte) × Bool :=
  if stream.length = 0 then ([], false)
  else if stream.length < size then ([], true)
  else
    let header := stream.take size
    let body := (stream.drop size).take (lengthOf header)
    if body.length ≠ lengthOf header then ([], true)
    else
      let rest := frames (stream.drop (size + lengthOf header))
      ((header, body) :: rest.1, rest.2)
termination_by stream.length
decreasing_by
  have positive := Nat.pos_of_ne_zero (NeZero.ne size)
  rw [List.length_drop]
  omega

/-- A header of the right size, and as many bytes as it announces. -/
structure Framed (record : List Byte × List Byte) : Prop where
  header : record.1.length = size
  body : record.2.length = lengthOf record.1

variable {size lengthOf} [NeZero size] {record : List Byte × List Byte}

theorem frames_nil : frames size lengthOf [] = ([], false) := by
  rw [frames, if_pos List.length_nil]

/-- A whole record is read, and then the rest of the stream. -/
theorem frames_append (framed : Framed size lengthOf record) (rest : List Byte) :
    frames size lengthOf (record.1 ++ record.2 ++ rest) =
      (record :: (frames size lengthOf rest).1, (frames size lengthOf rest).2) := by
  obtain ⟨header, body⟩ := record
  obtain ⟨sized, announced⟩ := framed
  dsimp only at sized announced ⊢
  have positive := Nat.pos_of_ne_zero (NeZero.ne size)
  have enough : (header ++ body ++ rest).length = size + lengthOf header + rest.length := by
    rw [List.length_append, List.length_append, sized, announced]
  have first : (header ++ body ++ rest).take size = header := by
    rw [List.append_assoc, ← sized, List.take_left]
  have second : (header ++ body ++ rest).drop size = body ++ rest := by
    rw [List.append_assoc, ← sized, List.drop_left]
  have third : (header ++ body ++ rest).drop (size + lengthOf header) = rest := by
    rw [← List.drop_drop, second, ← announced, List.drop_left]
  rw [frames, if_neg (by omega), if_neg (by omega)]
  dsimp only
  rw [first, second, third, ← announced, List.take_left, if_neg (not_not.mpr rfl)]

/-- A record that is cut short is not read. -/
theorem frames_torn (framed : Framed size lengthOf record) {torn : List Byte}
    (start : torn <+: record.1 ++ record.2) (short : torn ≠ record.1 ++ record.2) :
    frames size lengthOf torn = ([], decide (torn.length ≠ 0)) := by
  obtain ⟨header, body⟩ := record
  obtain ⟨sized, announced⟩ := framed
  dsimp only at sized announced start short
  have cut : torn.length < size + lengthOf header := by
    refine lt_of_le_of_ne ?_ fun same => short (start.eq_of_length ?_)
    · have most := start.length_le
      rwa [List.length_append, sized, announced] at most
    · rw [same, List.length_append, sized, announced]
  rw [frames]
  by_cases empty : torn.length = 0
  · rw [if_pos empty]
    simp [empty]
  · rw [if_neg empty, decide_eq_true empty]
    by_cases few : torn.length < size
    · rw [if_pos few]
    · -- the header is whole, and the bytes behind it are too few
      have first : torn.take size = header := by
        obtain ⟨rest, whole⟩ := start
        have both := congrArg (List.take size) whole
        rwa [List.take_append_of_le_length (not_lt.mp few),
          List.take_append_of_le_length (le_of_eq sized.symm), ← sized, List.take_length,
          sized] at both
      rw [if_neg few]
      dsimp only
      rw [first, if_pos]
      rw [List.length_take, List.length_drop]
      omega

/-- A reader finds every record that is whole. -/
theorem frames_flatten_append {records : List (List Byte × List Byte)}
    (framed : ∀ record ∈ records, Framed size lengthOf record) {torn : List Byte} {cut : Bool}
    (rest : frames size lengthOf torn = ([], cut)) :
    frames size lengthOf ((records.map fun record => record.1 ++ record.2).flatten ++ torn) =
      (records, cut) := by
  induction records with
  | nil => exact rest
  | cons record records ih =>
    rw [List.map_cons, List.flatten_cons, List.append_assoc,
      frames_append (framed record List.mem_cons_self),
      ih fun other member => framed other (List.mem_cons_of_mem _ member)]

end Frames

end GemSim.Lib
