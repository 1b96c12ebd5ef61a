import GemSim.Dispatch.CleanupLaw
import GemSim.Lib.Intervals

/-!
# The published bytes of a kernarg buffer

A publication into the kernarg buffer is remembered as a range of its bytes. The ranges of a
buffer are an interval list, so a submit that asks whether its kernarg bytes are published is
told yes exactly when every one of them was covered by a publication since the buffer was
allocated. No other operation changes the ranges.

## Main definitions

* `KernargRecord.ranges` — the published ranges, as intervals of natural numbers
* `publications` — the publications since the buffer was allocated
* `PublishedLaw` — what the ranges of a buffer say of its publications

## Main results

* `mergePublished_toNat` — a merge is an insertion into an interval list
* `publishedLaw_of_run` — the law holds in every state of every run
-/

namespace GemSim.Dispatch

open GemSim.Lib GemSim.Domain GemSim.Memory
open HostNativeDispatchStateV2 (rangePublished)

section Ranges

/-- The ends of a range as natural numbers. -/
def natRange (range : UInt64 × UInt64) : ℕ × ℕ := (range.1.toNat, range.2.toNat)

/-- The published ranges, as intervals of natural numbers. -/
def KernargRecord.ranges (kernarg : KernargRecord) : List (ℕ × ℕ) :=
  kernarg.publishedRanges.map natRange

/-- A merge of a published range is an insertion into an interval list. -/
theorem mergePublished_toNat (ranges : List (UInt64 × UInt64)) (start stop : UInt64)
    (inserted : Bool) :
    (mergePublished ranges start stop inserted).map natRange =
      insertInterval (ranges.map natRange) start.toNat stop.toNat inserted := by
  induction ranges generalizing start stop inserted with
  | nil => cases inserted <;> rfl
  | cons range rest ih =>
    obtain ⟨first, last⟩ := range
    have before : last < start ↔ last.toNat < start.toNat := UInt64.lt_iff_toNat_lt
    have beyond : stop < first ↔ stop.toNat < first.toNat := UInt64.lt_iff_toNat_lt
    simp only [mergePublished, List.map_cons, natRange, insertInterval]
    split
    · rename_i below
      rw [if_pos (before.mp below), List.map_cons, ih]
      rfl
    rename_i below
    rw [if_neg (mt before.mpr below)]
    split
    · rename_i above
      rw [if_pos (beyond.mp above)]
      cases inserted with
      | true =>
        rw [if_pos rfl, if_pos rfl, List.map_cons, ih]
        rfl
      | false =>
        rw [if_neg Bool.false_ne_true, if_neg Bool.false_ne_true, List.map_cons, List.map_cons, ih]
        rfl
    · rename_i above
      rw [if_neg (mt beyond.mpr above), ih, toNat_min, toNat_max]

/-- A query asks for one stored range that holds the range in question. -/
theorem rangePublished_iff (kernarg : KernargRecord) (offset bytes : UInt64) :
    rangePublished kernarg offset bytes = true ↔
      0 < bytes.toNat ∧ offset.toNat + bytes.toNat ≤ kernarg.allocation.size.toNat ∧
        ∃ range ∈ kernarg.ranges, range.1 ≤ offset.toNat ∧
          offset.toNat + bytes.toNat ≤ range.2 := by
  have inside : ∀ {start stop : UInt64}, start ≤ stop →
      (bytes ≤ stop - start ↔ start.toNat + bytes.toNat ≤ stop.toNat) := by
    intro start stop le
    rw [UInt64.le_iff_toNat_le, toNat_sub_exact (UInt64.le_iff_toNat_le.mp le)]
    have := UInt64.le_iff_toNat_le.mp le
    omega
  have fits : rangeFits offset bytes kernarg.allocation.size = true ↔
      offset.toNat + bytes.toNat ≤ kernarg.allocation.size.toNat := by
    simp only [rangeFits, Bool.and_eq_true, decide_eq_true_eq]
    constructor
    · rintro ⟨le, room⟩
      exact (inside le).mp room
    · intro room
      have le : offset ≤ kernarg.allocation.size := UInt64.le_iff_toNat_le.mpr (by omega)
      exact ⟨le, (inside le).mpr room⟩
  simp only [rangePublished, Bool.and_eq_true, fits, bne_iff_ne, ne_zero_iff_toNat_pos,
    List.any_eq_true, decide_eq_true_eq, and_assoc]
  refine and_congr_right fun _ => and_congr_right fun _ => ?_
  constructor
  · rintro ⟨⟨start, stop⟩, member, above, below, room⟩
    exact ⟨_, List.mem_map_of_mem member, UInt64.le_iff_toNat_le.mp above, (inside below).mp room⟩
  · rintro ⟨range, stored, above, room⟩
    obtain ⟨⟨start, stop⟩, member, rfl⟩ := List.mem_map.mp stored
    have below : offset ≤ stop := UInt64.le_iff_toNat_le.mpr ((Nat.le_add_right _ _).trans room)
    exact ⟨(start, stop), member, UInt64.le_iff_toNat_le.mpr above, below, (inside below).mpr room⟩

/-- What the ranges of a buffer say of its publications. -/
structure PublishedLaw (kernarg : KernargRecord) (publications : List (ℕ × ℕ)) : Prop where
  spaced : Spaced kernarg.ranges
  published : ∀ offset bytes : UInt64, rangePublished kernarg offset bytes = true ↔
    1 ≤ bytes.toNat ∧ offset.toNat + bytes.toNat ≤ kernarg.allocation.size.toNat ∧
      ∀ byte, offset.toNat ≤ byte → byte < offset.toNat + bytes.toNat →
        Covers publications byte

/-- The ranges are spaced and hold exactly the bytes that were published. -/
structure Tracks (kernarg : KernargRecord) (publications : List (ℕ × ℕ)) : Prop where
  spaced : Spaced kernarg.ranges
  covers : ∀ byte, Covers kernarg.ranges byte ↔ Covers publications byte

theorem Tracks.law {kernarg : KernargRecord} {publications : List (ℕ × ℕ)}
    (tracks : Tracks kernarg publications) : PublishedLaw kernarg publications where
  spaced := tracks.spaced
  published := by
    intro offset bytes
    rw [rangePublished_iff]
    refine and_congr_right fun positive => and_congr_right fun _ => ?_
    rw [tracks.spaced.contained_iff (Nat.lt_add_of_pos_right positive)]
    simp only [tracks.covers]

/-- A publication is inserted into the ranges. -/
theorem Tracks.publish {kernarg : KernargRecord} {publications : List (ℕ × ℕ)}
    (tracks : Tracks kernarg publications) {start stop : UInt64} (proper : start.toNat < stop.toNat) :
    Tracks { kernarg with publishedRanges := mergePublished kernarg.publishedRanges start stop false }
      ((start.toNat, stop.toNat) :: publications) := by
  have same : KernargRecord.ranges { kernarg with
      publishedRanges := mergePublished kernarg.publishedRanges start stop false } =
        insertInterval kernarg.ranges start.toNat stop.toNat false :=
    mergePublished_toNat kernarg.publishedRanges start stop false
  refine ⟨?_, fun byte => ?_⟩
  · rw [same]
    exact tracks.spaced.insertInterval proper
  · rw [same, covers_insertInterval tracks.spaced proper, tracks.covers, covers_cons, or_comm]

end Ranges

namespace HostNativeDispatchStateV2

variable (layout : Layout) {state : HostNativeDispatchStateV2}

section Requests

theorem map_kernarg (state : HostNativeDispatchStateV2) (request : OperationContext)
    (command : MapKernel) (image : List UInt8) (metadata : CodeObjectMetadata)
    (env : MapRequestEnv) :
    (state.map layout request command image metadata env).after.kernarg = state.kernarg := by
  unfold map
  split
  · exact refuseContext_kernarg state request _ _
  split
  · rfl
  split
  · rfl
  · rfl
  dsimp only
  split
  · rfl
  split
  · rfl
  split
  · rfl
  split
  · rfl
  split
  · rfl
  split
  · rfl
  split
  · rfl
  split
  · rfl
  · rfl

/-- A kernarg request keeps the buffer, or makes one into which nothing was published. -/
theorem allocateKernarg_kernarg (state : HostNativeDispatchStateV2) (request : OperationContext)
    (command : AllocateKernarg) (env : KernargEnv) :
    ((state.allocateKernarg request command env).returned = false ∧
        (state.allocateKernarg request command env).after.kernarg = state.kernarg) ∨
      ((state.allocateKernarg request command env).returned = true ∧
        ∃ kernarg, (state.allocateKernarg request command env).after.kernarg = some kernarg ∧
          kernarg.publishedRanges = []) := by
  unfold allocateKernarg
  split
  · obtain ⟨-, -, failed⟩ := @refuseContext_quiet KernargInfo _ state request
      "invalid ALLOC request context" "ALLOC owner mismatch"
    exact .inl ⟨failed, refuseContext_kernarg state request _ _⟩
  split
  · split
    · exact .inl ⟨rfl, rfl⟩
    · exact .inl ⟨rfl, rfl⟩
  dsimp only
  split
  · exact .inl ⟨rfl, rfl⟩
  split
  · exact .inl ⟨rfl, rfl⟩
  split
  · exact .inl ⟨rfl, rfl⟩
  split
  · exact .inl ⟨rfl, rfl⟩
  split
  · exact .inl ⟨rfl, rfl⟩
  · exact .inr ⟨rfl, _, rfl, rfl⟩

/-- A publication keeps the ranges, or merges a range of the buffer into them. -/
theorem publishKernarg_kernarg (state : HostNativeDispatchStateV2) (request : OperationContext)
    (command : PublishKernarg) (env : PublishEnv) :
    ((state.publishKernarg request command env).returned = false ∧
        (state.publishKernarg request command env).after.kernarg = state.kernarg) ∨
      ((state.publishKernarg request command env).returned = true ∧
        ∃ kernarg stop, state.kernarg = some kernarg ∧ command.bytes ≠ [] ∧
          stop.toNat = command.offset.toNat + command.bytes.length ∧
          (state.publishKernarg request command env).after.kernarg = some { kernarg with
            publishedRanges := mergePublished kernarg.publishedRanges command.offset stop
              false }) := by
  unfold publishKernarg
  dsimp only
  split
  · obtain ⟨-, -, failed⟩ := @refuseContext_quiet Unit _ state request
      "invalid kernarg publication context" "kernarg publication owner mismatch"
    exact .inl ⟨failed, refuseContext_kernarg state request _ _⟩
  split
  · exact .inl ⟨rfl, rfl⟩
  split
  · exact .inl ⟨rfl, rfl⟩
  rename_i kernarg here
  split
  · exact .inl ⟨rfl, here.symm ▸ rfl⟩
  rename_i checked
  split
  · exact .inl ⟨rfl, here.symm ▸ rfl⟩
  split
  · exact .inl ⟨rfl, here.symm ▸ rfl⟩
  · exact .inl ⟨rfl, here.symm ▸ rfl⟩
  split
  · exact .inl ⟨rfl, here.symm ▸ rfl⟩
  -- the range fits the buffer, so its end is no overflow
  simp only [not_or, Bool.not_eq_true', Bool.not_eq_false, not_lt] at checked
  obtain ⟨-, nonempty, small, fits⟩ := checked
  have count : (UInt64.ofNat command.bytes.length).toNat = command.bytes.length :=
    toNat_ofNat_of_lt (small.trans_lt (UInt64.toNat_lt _))
  simp only [rangeFits, Bool.and_eq_true, decide_eq_true_eq] at fits
  have low := UInt64.le_iff_toNat_le.mp fits.1
  have room := UInt64.le_iff_toNat_le.mp fits.2
  rw [toNat_sub_exact low, count] at room
  have size := kernarg.allocation.size.toNat_lt
  refine .inr ⟨rfl, kernarg, command.offset + UInt64.ofNat command.bytes.length, here, nonempty,
    ?_, rfl⟩
  rw [toNat_add_exact (by rw [count]; omega), count]

theorem submit_kernarg (state : HostNativeDispatchStateV2) (request : OperationContext)
    (command : SubmitKernel) (completionSignalVa : UInt64) (queue : ℕ)
    (fetched : Native.FetchedPacket) (dispatchIdOverride : UInt64) (env : SubmitEnv) :
    (state.submit layout request command completionSignalVa queue fetched dispatchIdOverride
      env).after.kernarg = state.kernarg := by
  unfold submit
  split
  · exact refuseContext_kernarg state request _ _
  split
  · rfl
  split
  · dsimp only
    split
    · rfl
    split
    · rfl
    rename_i traceId traced taken
    obtain ⟨identities, rfl⟩ := takeTrace_eq_some taken
    split
    · rfl
    split
    · rfl
    split
    · rfl
    split
    · rfl
    split
    · rename_i middle denied
      obtain rfl := congrArg Prod.snd denied
      rfl
    rename_i middle pinned
    obtain rfl := congrArg Prod.snd pinned
    split
    · rename_i last denied
      obtain rfl := congrArg Prod.snd denied
      rfl
    rename_i last both
    obtain rfl := congrArg Prod.snd both
    split
    · split
      · rfl
      · rfl
    · rfl
  · rfl

theorem abandonSubmission_kernarg (state : HostNativeDispatchStateV2) (writes : Bool) :
    (state.abandonSubmission writes).2.kernarg = state.kernarg := by
  unfold abandonSubmission
  split
  · rfl
  dsimp only
  -- whether the cleanup succeeds or not, the buffer and the mapping are there or not
  split
  all_goals
    split
    · split
      · rfl
      · rfl
    · split
      · rfl
      · rfl

theorem retire_kernarg (state : HostNativeDispatchStateV2) (request : OperationContext)
    (command : SubmitKernel) (queue : ℕ) (writes : Bool) :
    (state.retire request command queue writes).after.kernarg = state.kernarg := by
  unfold retire
  split
  · exact refuseContext_kernarg state request _ _
  split
  · rfl
  split
  · rfl
  have kept := abandonSubmission_kernarg state writes
  split
  · rename_i after failed
    rw [failed] at kept
    exact kept
  · rename_i after done
    rw [done] at kept
    exact kept

/-- A release keeps the buffer as it is, or drops it. -/
def Keeps (state after : HostNativeDispatchStateV2) : Prop :=
  after.kernarg = state.kernarg ∨ after.kernarg = none

theorem Keeps.after {middle after : HostNativeDispatchStateV2} (keeps : Keeps state middle)
    (same : after.kernarg = middle.kernarg) : Keeps state after := by
  unfold Keeps
  rw [same]
  exact keeps

theorem releaseKernarg_kernarg (state : HostNativeDispatchStateV2) :
    Keeps state state.releaseKernarg.2 := by
  unfold releaseKernarg
  split
  · exact .inl rfl
  split
  · exact .inl rfl
  dsimp only
  split
  · exact .inl rfl
  · exact .inr rfl

theorem releaseMapping_kernarg (state : HostNativeDispatchStateV2) :
    state.releaseMapping.2.kernarg = state.kernarg := by
  unfold releaseMapping
  split
  · rfl
  split
  · rfl
  · rfl

theorem unmap_kernarg (state : HostNativeDispatchStateV2) (request : OperationContext)
    (command : UnmapKernel) : Keeps state (state.unmap request command).after := by
  unfold unmap
  split
  · exact .inl (refuseContext_kernarg state request _ _)
  split
  · exact .inl rfl
  split
  · exact .inl rfl
  have first := releaseKernarg_kernarg state
  dsimp only
  split
  · rename_i after failed
    rw [failed] at first
    exact first
  rename_i middle released
  rw [released] at first
  have second := releaseMapping_kernarg middle
  split
  · rename_i after failed
    rw [failed] at second
    exact first.after second
  · rename_i after done
    rw [done] at second
    exact first.after second

theorem clear_kernarg (state : HostNativeDispatchStateV2) : Keeps state state.clear.2 := by
  unfold clear
  split
  · exact .inl rfl
  have first := releaseKernarg_kernarg state
  split
  · rename_i after failed
    rw [failed] at first
    exact first
  rename_i middle released
  rw [released] at first
  have second := releaseMapping_kernarg middle
  split
  · rename_i after failed
    rw [failed] at second
    exact first.after second
  · rename_i after done
    rw [done] at second
    exact first.after second

theorem elsewhere_kernarg (state : HostNativeDispatchStateV2) (call : Others) :
    (state.elsewhere call).kernarg = state.kernarg := by
  cases call with
  | memory call =>
    unfold elsewhere
    dsimp only
    split
    · rfl
    · rfl
  | queue queue call => rfl
  | addressSpace queue bytes => rfl
  | identities value => rfl

end Requests

section Runs

/-- The publications into the buffer of the state after an operation. -/
def publications (state : HostNativeDispatchStateV2) (input : Input) (since : List (ℕ × ℕ)) :
    List (ℕ × ℕ) :=
  match input with
  | .allocateKernarg _ _ _ => if state.succeeds layout input then [] else since
  | .publishKernarg _ command _ =>
    if state.succeeds layout input then
      (command.offset.toNat, command.offset.toNat + command.bytes.length) :: since
    else since
  | _ => since

/-- A step of the state, with the publications since its buffer was allocated. -/
def recordStep (recorded : HostNativeDispatchStateV2 × List (ℕ × ℕ)) (input : Input) :
    HostNativeDispatchStateV2 × List (ℕ × ℕ) :=
  (recorded.1.step layout input, recorded.1.publications layout input recorded.2)

/-- The record of publications does not change the run. -/
theorem recordStep_run (recorded : HostNativeDispatchStateV2 × List (ℕ × ℕ))
    (inputs : List Input) :
    (runFrom (recordStep layout) recorded inputs).1 = runFrom (step layout) recorded.1 inputs := by
  induction inputs generalizing recorded with
  | nil => rfl
  | cons input rest ih => exact ih _

/-- The buffer, if there is one, tracks its publications. -/
def Tracked (recorded : HostNativeDispatchStateV2 × List (ℕ × ℕ)) : Prop :=
  ∀ kernarg, recorded.1.kernarg = some kernarg → Tracks kernarg recorded.2

theorem Tracked.keeps {since : List (ℕ × ℕ)} {after : HostNativeDispatchStateV2}
    (tracked : Tracked (state, since)) (keeps : Keeps state after) : Tracked (after, since) := by
  intro kernarg found
  rcases keeps with same | dropped
  · exact tracked kernarg (same.symm.trans found)
  · exact absurd (dropped.symm.trans found) (by simp)

/-- An operation that fails publishes nothing. -/
theorem publications_of_failed {input : Input} (since : List (ℕ × ℕ))
    (failed : state.succeeds layout input = false) :
    state.publications layout input since = since := by
  unfold publications
  split
  · rw [failed, if_neg Bool.false_ne_true]
  · rw [failed, if_neg Bool.false_ne_true]
  · rfl

theorem tracked_step (recorded : HostNativeDispatchStateV2 × List (ℕ × ℕ)) (input : Input)
    (tracked : Tracked recorded) : Tracked (recordStep layout recorded input) := by
  obtain ⟨state, since⟩ := recorded
  cases input with
  | map request command image metadata env =>
    exact tracked.keeps (.inl (map_kernarg layout state request command image metadata env))
  | allocateKernarg request command env =>
    rcases allocateKernarg_kernarg state request command env with
      ⟨failed, same⟩ | ⟨done, made, found, fresh⟩
    · have kept := @publications_of_failed layout state (.allocateKernarg request command env) since
        failed
      rw [recordStep, kept]
      exact tracked.keeps (.inl same)
    · have reset : state.publications layout (.allocateKernarg request command env) since = [] :=
        if_pos done
      rw [recordStep, reset]
      intro kernarg here
      obtain rfl := Option.some.inj (found.symm.trans here)
      have none : made.ranges = [] := by rw [KernargRecord.ranges, fresh]; rfl
      refine ⟨none ▸ spaced_nil, fun byte => ?_⟩
      rw [none]
  | publishKernarg request command env =>
    rcases publishKernarg_kernarg state request command env with
      ⟨failed, same⟩ | ⟨done, old, stop, found, nonempty, ends, after⟩
    · have kept := @publications_of_failed layout state (.publishKernarg request command env) since
        failed
      rw [recordStep, kept]
      exact tracked.keeps (.inl same)
    · have added : state.publications layout (.publishKernarg request command env) since =
          (command.offset.toNat, command.offset.toNat + command.bytes.length) :: since :=
        if_pos done
      rw [recordStep, added, ← ends]
      intro kernarg here
      obtain rfl := Option.some.inj (after.symm.trans here)
      have proper : command.offset.toNat < stop.toNat := by
        have := List.length_pos_of_ne_nil nonempty
        omega
      exact (tracked old found).publish proper
  | submit request command completionSignalVa queue fetched dispatchIdOverride env =>
    exact tracked.keeps (.inl (submit_kernarg layout state request command completionSignalVa queue
      fetched dispatchIdOverride env))
  | retire request command queue writes =>
    exact tracked.keeps (.inl (retire_kernarg state request command queue writes))
  | abandonSubmission writes => exact tracked.keeps (.inl (abandonSubmission_kernarg state writes))
  | unmap request command => exact tracked.keeps (unmap_kernarg state request command)
  | clear => exact tracked.keeps (clear_kernarg state)
  | others call => exact tracked.keeps (.inl (elsewhere_kernarg state call))

/-- In every state of every run, the ranges of the buffer are spaced, and a range of it is
published exactly if every byte was covered by a publication since the buffer was allocated. -/
theorem publishedLaw_of_run (contextOwner mapperOwner boundOwner : OwnerKey) (pageSize : UInt64)
    (identities : Option DispatchIdentitySequence) (spaces : ℕ → SparseBytes)
    (inputs : List Input) :
    let state := boot contextOwner mapperOwner boundOwner pageSize identities spaces
    let recorded := runFrom (recordStep layout) (state, []) inputs
    recorded.1 = runFrom (step layout) state inputs ∧
      ∀ kernarg, recorded.1.kernarg = some kernarg → PublishedLaw kernarg recorded.2 := by
  intro state recorded
  refine ⟨recordStep_run layout _ inputs, fun kernarg found => ?_⟩
  have start : Tracked (state, []) := by
    intro kernarg found
    cases found
  exact (invariant_runFrom (recordStep layout) Tracked (tracked_step layout) start inputs kernarg
    found).law

end Runs

end HostNativeDispatchStateV2

end GemSim.Dispatch
