import Mathlib.Data.List.Basic
import Mathlib.Data.List.Range
import Mathlib.Tactic.Common
import GemSim.Lib.Checks

/-!
# The segments of an allreduce

One allreduce over a tensor is split into segments, each small enough for one descriptor
of the carrier. The segments follow each other in the tensor, and their sequence numbers
follow each other in the live epoch.

## Main definitions

* `AllReduceSegment`, `planAllreduceSegments` — the plan of one allreduce

## Main results

* `planAllreduceSegments_ok` — when a plan is made, and which
* `segmentLoop_elements`, `segmentLoop_sequences` — what the segments of a plan cover
-/

namespace GemSim.Collective

open GemSim.Lib.Checks

def CarrierMaxPayloadBytes : ℕ := 16 * 1024 * 1024
def ManagedMaxSingleAllocationBytes : ℕ := 2 * 1024 * 1024 * 1024
def DeviceMaxElementCount : ℕ := 0x7fffffff
def MaxWorldSize : ℕ := 16
def Uint64Max : ℕ := 0xffffffffffffffff
def Int64Max : ℕ := 0x7fffffffffffffff

/-- What a call of the engine raises. -/
inductive EngineFailure where
  | valueError
  | typeError
  | stateError
  | forkError
  | sequenceExhausted
  | engineError
  /-- Whatever a callee outside of the engine raises, with the abort status it carries. -/
  | raised (status : Option ℤ) (failedRank : Option ℤ)
  deriving DecidableEq

/-- An argument that is to be an integer: its value, if it is exactly one. -/
abbrev Argument := Option ℤ

/-- The data type argument: a name, or an object that prints as a name. -/
inductive DType where
  | name (text : String)
  | object (text : String)
  deriving DecidableEq

structure AllReduceSegment where
  index : ℕ
  sequence : ℕ
  offsetElements : ℕ
  elementCount : ℕ
  byteCount : ℕ
  deriving DecidableEq

def exactInteger (value : Argument) (minimum maximum : ℤ) : Except EngineFailure ℤ :=
  match value with
  | none => .error .valueError
  | some value => if value < minimum ∨ value > maximum then .error .valueError else .ok value

/-- The name the data type argument gives, without the prefix of the library. -/
def DType.text : DType → String
  | .name text => text
  | .object text => if text.startsWith "torch." then (text.drop 6).toString else text

/-- The wire code of a data type and the bytes of one element. -/
def dtypeSpec (dtype : DType) : Except EngineFailure (ℕ × ℕ) :=
  if dtype.text = "bfloat16" then .ok (1, 2)
  else if dtype.text = "float32" then .ok (2, 4)
  else .error .typeError

/-- The most elements a segment may have. -/
def segmentLimit (dtypeBytes : ℕ) : ℕ :=
  min (min (CarrierMaxPayloadBytes / dtypeBytes) (ManagedMaxSingleAllocationBytes / dtypeBytes))
    DeviceMaxElementCount

/-- The loop over the indices of the segments, with the offset reached so far. -/
def segmentLoop (elementCount dtypeBytes firstSequence : ℕ) :
    List ℕ → ℕ → List AllReduceSegment
  | [], _ => []
  | index :: rest, offset =>
    let count := min (segmentLimit dtypeBytes) (elementCount - offset)
    { index := index
      sequence := firstSequence + index
      offsetElements := offset
      elementCount := count
      byteCount := count * dtypeBytes } ::
      segmentLoop elementCount dtypeBytes firstSequence rest (offset + count)

def segmentCount (elementCount dtypeBytes : ℕ) : ℕ :=
  (elementCount + segmentLimit dtypeBytes - 1) / segmentLimit dtypeBytes

/-- Split one allreduce into contiguous segments of descriptor size. -/
def planAllreduceSegments (elementCount worldSize : Argument) (dtype : DType)
    (firstSequence : Argument) : Except EngineFailure (List AllReduceSegment) := do
  let elementCount ← exactInteger elementCount 1 Int64Max
  let _ ← exactInteger worldSize 2 MaxWorldSize
  let firstSequence ← exactInteger firstSequence 1 Uint64Max
  let (_, dtypeBytes) ← dtypeSpec dtype
  let elements := elementCount.toNat
  if elements > ManagedMaxSingleAllocationBytes / dtypeBytes then .error .valueError
  else
    let count := segmentCount elements dtypeBytes
    if firstSequence.toNat + count - 1 ≥ Uint64Max then .error .sequenceExhausted
    else .ok (segmentLoop elements dtypeBytes firstSequence.toNat (List.range count) 0)

section Plan

variable {elementCount dtypeBytes firstSequence : ℕ}

/-- The segment of an index. -/
def segmentAt (elementCount dtypeBytes firstSequence index : ℕ) : AllReduceSegment where
  index := index
  sequence := firstSequence + index
  offsetElements := min (index * segmentLimit dtypeBytes) elementCount
  elementCount := min (segmentLimit dtypeBytes)
    (elementCount - min (index * segmentLimit dtypeBytes) elementCount)
  byteCount := min (segmentLimit dtypeBytes)
    (elementCount - min (index * segmentLimit dtypeBytes) elementCount) * dtypeBytes

/-- Each segment begins where the one before it ends. -/
theorem segmentAt_next (elementCount dtypeBytes firstSequence index : ℕ) :
    (segmentAt elementCount dtypeBytes firstSequence index).offsetElements +
        (segmentAt elementCount dtypeBytes firstSequence index).elementCount =
      (segmentAt elementCount dtypeBytes firstSequence (index + 1)).offsetElements := by
  simp only [segmentAt, Nat.succ_mul]
  omega

/-- The loop makes the segments of its indices. -/
theorem segmentLoop_eq (elementCount dtypeBytes firstSequence first count : ℕ) :
    segmentLoop elementCount dtypeBytes firstSequence (List.range' first count)
        (segmentAt elementCount dtypeBytes firstSequence first).offsetElements =
      (List.range' first count).map (segmentAt elementCount dtypeBytes firstSequence) := by
  induction count generalizing first with
  | zero => rfl
  | succ count ih =>
    have next := segmentAt_next elementCount dtypeBytes firstSequence first
    rw [List.range'_succ, List.map_cons, ← ih (first + 1), ← next]
    rfl

theorem segmentLimit_pos (bytes : dtypeBytes = 2 ∨ dtypeBytes = 4) : 0 < segmentLimit dtypeBytes := by
  rcases bytes with rfl | rfl
  · decide
  · decide

theorem segmentLimit_bytes (dtypeBytes : ℕ) :
    segmentLimit dtypeBytes * dtypeBytes ≤ CarrierMaxPayloadBytes := by
  have small : segmentLimit dtypeBytes ≤ CarrierMaxPayloadBytes / dtypeBytes :=
    (min_le_left _ _).trans (min_le_left _ _)
  exact (Nat.mul_le_mul_right _ small).trans (Nat.div_mul_le_self _ _)

/-- The elements of the first segments, in order. -/
theorem segmentAt_elements (elementCount dtypeBytes firstSequence count : ℕ) :
    ((List.range count).map (segmentAt elementCount dtypeBytes firstSequence)).flatMap
        (fun segment => List.range' segment.offsetElements segment.elementCount) =
      List.range (min (count * segmentLimit dtypeBytes) elementCount) := by
  induction count with
  | zero => simp
  | succ count ih =>
    have next := segmentAt_next elementCount dtypeBytes firstSequence count
    have here : (segmentAt elementCount dtypeBytes firstSequence count).offsetElements =
      min (count * segmentLimit dtypeBytes) elementCount := rfl
    have there : (segmentAt elementCount dtypeBytes firstSequence (count + 1)).offsetElements =
      min ((count + 1) * segmentLimit dtypeBytes) elementCount := rfl
    rw [List.range_succ, List.map_append, List.flatMap_append, ih, ← here, ← there, ← next,
      List.range_eq_range', List.range_eq_range', ← List.range'_append_1, Nat.zero_add]
    simp

/-- There are as many segments as it takes, and none is empty. -/
theorem lt_segmentCount_iff (positive : 0 < segmentLimit dtypeBytes) {index : ℕ} :
    index < segmentCount elementCount dtypeBytes ↔
      index * segmentLimit dtypeBytes < elementCount := by
  unfold segmentCount
  rw [Nat.lt_iff_add_one_le, Nat.le_div_iff_mul_le positive, Nat.succ_mul]
  omega

/-- What the segments of a plan cover. -/
structure PlanLaw (elementCount dtypeBytes firstSequence : ℕ) (segments : List AllReduceSegment) :
    Prop where
  elements : segments.flatMap (fun segment =>
    List.range' segment.offsetElements segment.elementCount) = List.range elementCount
  nonempty : ∀ segment ∈ segments, 0 < segment.elementCount
  bytes : ∀ segment ∈ segments, segment.byteCount = segment.elementCount * dtypeBytes ∧
    segment.byteCount ≤ CarrierMaxPayloadBytes
  indices : segments.map AllReduceSegment.index = List.range segments.length
  sequences : segments.map AllReduceSegment.sequence = List.range' firstSequence segments.length
  below : ∀ segment ∈ segments, segment.sequence < Uint64Max

theorem planLaw_of_loop (bytes : dtypeBytes = 2 ∨ dtypeBytes = 4)
    (room : firstSequence + segmentCount elementCount dtypeBytes - 1 < Uint64Max) :
    PlanLaw elementCount dtypeBytes firstSequence
      (segmentLoop elementCount dtypeBytes firstSequence
        (List.range (segmentCount elementCount dtypeBytes)) 0) := by
  have positive := segmentLimit_pos bytes
  have closed : segmentLoop elementCount dtypeBytes firstSequence
      (List.range (segmentCount elementCount dtypeBytes)) 0 =
        (List.range (segmentCount elementCount dtypeBytes)).map
          (segmentAt elementCount dtypeBytes firstSequence) := by
    have start : (segmentAt elementCount dtypeBytes firstSequence 0).offsetElements = 0 := by
      simp [segmentAt]
    have loop := segmentLoop_eq elementCount dtypeBytes firstSequence 0
      (segmentCount elementCount dtypeBytes)
    rw [start, ← List.range_eq_range'] at loop
    exact loop
  rw [closed]
  have shape : ∀ segment ∈ (List.range (segmentCount elementCount dtypeBytes)).map
      (segmentAt elementCount dtypeBytes firstSequence), ∃ index,
        index < segmentCount elementCount dtypeBytes ∧
          segment = segmentAt elementCount dtypeBytes firstSequence index := by
    intro segment member
    obtain ⟨index, below, rfl⟩ := List.mem_map.mp member
    exact ⟨index, List.mem_range.mp below, rfl⟩
  refine ⟨?_, ?_, ?_, ?_, ?_, ?_⟩
  · rw [segmentAt_elements]
    congr 1
    refine min_eq_right ?_
    by_contra short
    rw [not_le, ← lt_segmentCount_iff positive] at short
    exact absurd short (lt_irrefl _)
  · intro segment member
    obtain ⟨index, below, rfl⟩ := shape segment member
    rw [lt_segmentCount_iff positive] at below
    simp only [segmentAt]
    omega
  · intro segment member
    obtain ⟨index, -, rfl⟩ := shape segment member
    exact ⟨rfl, (Nat.mul_le_mul_right _ (min_le_left _ _)).trans (segmentLimit_bytes dtypeBytes)⟩
  · rw [List.map_map, List.length_map, List.length_range]
    exact List.map_id _
  · rw [List.map_map, List.length_map, List.length_range, List.range'_eq_map_range]
    rfl
  · intro segment member
    obtain ⟨index, below, rfl⟩ := shape segment member
    simp only [segmentAt]
    omega

theorem exactInteger_eq_ok {value : Argument} {minimum maximum result : ℤ} :
    exactInteger value minimum maximum = .ok result ↔
      value = some result ∧ minimum ≤ result ∧ result ≤ maximum := by
  unfold exactInteger
  cases value with
  | none => simp
  | some value =>
    dsimp only
    split
    · simp
      omega
    · simp only [Except.ok.injEq, Option.some.injEq]
      constructor
      · rintro rfl
        omega
      · rintro ⟨rfl, -⟩
        rfl

theorem dtypeSpec_bytes {dtype : DType} {code bytes : ℕ} (spec : dtypeSpec dtype = .ok (code, bytes)) :
    bytes = 2 ∨ bytes = 4 := by
  unfold dtypeSpec at spec
  split at spec
  · cases spec
    exact .inl rfl
  split at spec
  · cases spec
    exact .inr rfl
  · cases spec

/-- When a plan is made: the arguments are in range, the tensor fits an allocation, and the
sequence numbers are not exhausted. -/
structure Plannable (elementCount worldSize : Argument) (dtype : DType) (firstSequence : Argument)
    (elements dtypeBytes first : ℕ) : Prop where
  elementCount : elementCount = some (elements : ℤ) ∧ 1 ≤ elements ∧ elements ≤ Int64Max
  worldSize : ∃ size : ℤ, worldSize = some size ∧ 2 ≤ size ∧ size ≤ MaxWorldSize
  firstSequence : firstSequence = some (first : ℤ) ∧ 1 ≤ first ∧ first ≤ Uint64Max
  dtype : ∃ code, dtypeSpec dtype = .ok (code, dtypeBytes)
  fits : elements ≤ ManagedMaxSingleAllocationBytes / dtypeBytes
  room : first + segmentCount elements dtypeBytes - 1 < Uint64Max

/-- A plan is made exactly of plannable arguments, and it is the one of the loop. -/
theorem planAllreduceSegments_ok {elements worldSize : Argument} {dtype : DType}
    {first : Argument} {segments : List AllReduceSegment} :
    planAllreduceSegments elements worldSize dtype first = .ok segments ↔
      ∃ count bytes start, Plannable elements worldSize dtype first count bytes start ∧
        segments = segmentLoop count bytes start (List.range (segmentCount count bytes)) 0 := by
  unfold planAllreduceSegments
  simp only [bind_eq_ok, exactInteger_eq_ok]
  constructor
  · rintro ⟨count, ⟨rfl, low, high⟩, size, sized, start, ⟨rfl, above, below⟩, ⟨code, bytes⟩, spec,
      planned⟩
    lift count to ℕ using (by omega)
    lift start to ℕ using (by omega)
    rw [Int.toNat_natCast, Int.toNat_natCast] at planned
    split at planned
    · cases planned
    rename_i fits
    split at planned
    · cases planned
    rename_i room
    refine ⟨count, bytes, start, ⟨⟨rfl, by omega, by omega⟩, ⟨size, sized⟩,
      ⟨rfl, by omega, by omega⟩, ⟨code, spec⟩, not_lt.mp fits, not_le.mp room⟩, ?_⟩
    exact (Except.ok.inj planned).symm
  · rintro ⟨count, bytes, start, plannable, rfl⟩
    obtain ⟨⟨rfl, low, high⟩, ⟨size, sized⟩, ⟨rfl, above, below⟩, ⟨code, spec⟩, fits, room⟩ := plannable
    refine ⟨count, ⟨rfl, by omega, by omega⟩, size, sized, start, ⟨rfl, by omega, by omega⟩,
      (code, bytes), spec, ?_⟩
    rw [Int.toNat_natCast, Int.toNat_natCast, if_neg (not_lt.mpr fits), if_neg (not_le.mpr room)]

/-- Every plan covers its tensor. -/
theorem planLaw_of_plan {elements worldSize : Argument} {dtype : DType} {first : Argument}
    {segments : List AllReduceSegment}
    (planned : planAllreduceSegments elements worldSize dtype first = .ok segments) :
    ∃ count bytes start, Plannable elements worldSize dtype first count bytes start ∧
      PlanLaw count bytes start segments := by
  obtain ⟨count, bytes, start, plannable, rfl⟩ := planAllreduceSegments_ok.mp planned
  obtain ⟨code, spec⟩ := plannable.dtype
  exact ⟨count, bytes, start, plannable, planLaw_of_loop (dtypeSpec_bytes spec) plannable.room⟩

end Plan

end GemSim.Collective
