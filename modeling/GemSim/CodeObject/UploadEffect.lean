import GemSim.CodeObject.UploadState

/-!
# What the calls of the upload store do

A call that is turned down frees at most the mutable upload of its own owner. An accepted
`beginUpload` fills a free slot under a fresh generation, an accepted `appendUpload`
lengthens the image of a mutable upload, an accepted `commitUpload` closes one whose image
has the declared size and digest; all else frees slots.

## Main definitions

* `Shrinks` — a later store that holds nothing new
* `TurnedDown` — what a call that fails leaves

## Main results

* `resolve_eq_some` — what a handle names
* `beginUpload_cases`, `appendUpload_cases`, `commitUpload_cases`, `consumeCommitted_cases` —
  a call is turned down or has its effect
-/

namespace GemSim.CodeObject

open GemSim.Lib GemSim.Domain

namespace HostGPUCodeObjectState

variable {state middle after : HostGPUCodeObjectState} {owner : OwnerKey} {handle : ObjectHandle}
  {slot : Fin MaximumStagedObjects} {object : Object}

theorem resolve_eq_some :
    state.resolve owner handle = some (slot, object) ↔
      slotOfId MaximumStagedObjects handle.id = some slot ∧ state.objects slot = some object ∧
        object.owner = owner ∧ object.generation = handle.generation := by
  unfold resolve
  constructor
  · intro found
    split at found
    · cases found
    · rename_i other named
      split at found
      · cases found
      · rename_i record here
        split_ifs at found with same
        obtain ⟨rfl, rfl⟩ := Prod.mk.inj (Option.some.inj found)
        exact ⟨named, here, same⟩
  · rintro ⟨named, here, same⟩
    rw [named]
    dsimp only
    rw [here]
    exact if_pos same

section Shrinking

/-- A later store that holds nothing but objects held before, each as it was. -/
structure Shrinks (state after : HostGPUCodeObjectState) : Prop where
  held : ∀ slot object, after.objects slot = some object → state.objects slot = some object
  bound : state.generations.bound ≤ after.generations.bound
  live : state.liveObjects.toNat = state.objects.live →
    after.liveObjects.toNat = after.objects.live

theorem Shrinks.refl (state : HostGPUCodeObjectState) : Shrinks state state :=
  ⟨fun _ _ here => here, le_rfl, id⟩

theorem Shrinks.trans (first : Shrinks state middle) (second : Shrinks middle after) :
    Shrinks state after where
  held slot object here := first.held slot object (second.held slot object here)
  bound := first.bound.trans second.bound
  live := second.live ∘ first.live

theorem shrinks_release (here : state.objects slot = some object) :
    Shrinks state (state.release slot) where
  held _ _ found := (SlotTable.drop_eq_some.mp found).2
  bound := le_rfl
  live exact := SlotTable.live_drop exact here

theorem shrinks_issue {generation : UInt64} {generations : IssueCounter}
    (taken : state.generations.take = some (generation, generations)) :
    Shrinks state { state with generations := generations } where
  held _ _ here := here
  bound := (IssueCounter.take_spec taken).2.2 ▸ Nat.le_succ _
  live := id

theorem shrinks_sweep (test : Object → Bool) :
    Shrinks state (SlotTable.sweep HostGPUCodeObjectState.objects test
      (fun slot _ state => state.release slot) state) := by
  refine SlotTable.sweep_induct (Shrinks state) ?_ (.refl state)
  intro middle slot object shrinks here _
  exact shrinks.trans (shrinks_release here)

theorem objects_sweep (test : Object → Bool) (state : HostGPUCodeObjectState) :
    (SlotTable.sweep HostGPUCodeObjectState.objects test
      (fun slot _ state => state.release slot) state).objects =
      state.objects.keep fun object => !test object :=
  SlotTable.sweep_table HostGPUCodeObjectState.objects (fun _ _ _ => rfl) state

theorem shrinks_abortMutable : Shrinks state (state.abortMutable owner) := shrinks_sweep _

theorem shrinks_disconnect : Shrinks state (state.disconnect owner) := shrinks_sweep _

theorem shrinks_clear : Shrinks state state.clear where
  held _ _ here := by cases here
  bound := le_rfl
  live _ := by simp [clear]

/-- What a call that fails leaves: every committed object and every object of another
owner is where it was. -/
structure TurnedDown (owner : OwnerKey) (state after : HostGPUCodeObjectState) : Prop where
  shrinks : Shrinks state after
  kept : ∀ slot object, state.objects slot = some object →
    object.committed = true ∨ object.owner ≠ owner → after.objects slot = some object

theorem TurnedDown.refl (owner : OwnerKey) (state : HostGPUCodeObjectState) :
    TurnedDown owner state state := ⟨.refl state, fun _ _ here _ => here⟩

theorem turnedDown_abortMutable : TurnedDown owner state (state.abortMutable owner) where
  shrinks := shrinks_abortMutable
  kept slot object here spared := by
    rw [abortMutable, objects_sweep]
    refine SlotTable.keep_eq_some.mpr ⟨here, ?_⟩
    rcases spared with committed | other
    · simp [Object.mutableOf, committed]
    · simp [Object.mutableOf, other]

theorem turnedDown_reject (status : Status) (reason : FailureReason)
    (disposition : MutationDisposition) :
    TurnedDown owner state (state.reject owner status reason disposition).2 := by
  unfold reject
  dsimp only
  split
  · exact turnedDown_abortMutable
  · exact .refl owner state

theorem turnedDown_rejectStale (objectId : UInt64) :
    TurnedDown owner state (state.rejectStale owner objectId).2 := turnedDown_reject _ _ _

end Shrinking

section Requests

/-- What an accepted `beginUpload` does. -/
structure Begun (state : HostGPUCodeObjectState) (owner : OwnerKey) (request : BeginUpload)
    (slot : Fin MaximumStagedObjects) (generation : UInt64) (generations : IssueCounter) :
    Prop where
  valid : (validateCodeObjectMetadata request.metadata).ok = true
  alone : state.objects.holds (Object.mutableOf owner) = false
  free : state.objects slot = none
  taken : state.generations.take = some (generation, generations)

/-- A begin is turned down, or puts a fresh object of its owner into a free slot. -/
theorem beginUpload_cases (state : HostGPUCodeObjectState) (owner : OwnerKey)
    (request : BeginUpload) (allocates : Bool) :
    ((state.beginUpload owner request allocates).1.result.ok = false ∧
        TurnedDown owner state (state.beginUpload owner request allocates).2) ∨
      ∃ slot generation generations, Begun state owner request slot generation generations ∧
        (state.beginUpload owner request allocates).1.result.ok = true ∧
        (state.beginUpload owner request allocates).1.result.value.object =
          { id := idOfSlot slot, generation := generation } ∧
        (state.beginUpload owner request allocates).2 = { state with
          generations := generations
          objects := state.objects.put slot
            { owner := owner, generation := generation, metadata := request.metadata }
          liveObjects := state.liveObjects + 1 } := by
  unfold beginUpload
  dsimp only
  split
  · rename_i invalid
    rw [Bool.not_eq_true'] at invalid
    exact .inl ⟨invalid, turnedDown_reject _ _ _⟩
  rename_i valid
  split
  · exact .inl ⟨rfl, turnedDown_reject _ _ _⟩
  rename_i alone
  split
  · exact .inl ⟨rfl, turnedDown_reject _ _ _⟩
  split
  · exact .inl ⟨rfl, turnedDown_reject _ _ _⟩
  rename_i slot free
  split
  · exact .inl ⟨rfl, turnedDown_reject _ _ _⟩
  rename_i generation generations taken
  split
  · exact .inl ⟨rfl, shrinks_issue taken, fun _ _ here _ => here⟩
  · refine .inr ⟨slot, generation, generations, ?_, rfl, rfl, rfl⟩
    exact ⟨by simpa using valid, by simpa using alone, SlotTable.firstFree_spec free, taken⟩

/-- The object an accepted chunk leaves. -/
def Object.append (object : Object) (bytes : List UInt8) : Object :=
  { object with
    image := object.image ++ bytes
    acceptedOffset := object.acceptedOffset + UInt64.ofNat bytes.length
    nextChunk := object.nextChunk + 1 }

/-- A chunk is turned down, or lengthens the mutable upload it names. -/
theorem appendUpload_cases (state : HostGPUCodeObjectState) (owner : OwnerKey)
    (request : AppendUpload) (allocates : Bool) :
    ((state.appendUpload owner request allocates).1.result.ok = false ∧
        TurnedDown owner state (state.appendUpload owner request allocates).2) ∨
      ∃ slot object, state.resolve owner request.object = some (slot, object) ∧
        object.committed = false ∧ sizeValid object request.bytes = true ∧
        (state.appendUpload owner request allocates).1.result.ok = true ∧
        (state.appendUpload owner request allocates).2 =
          state.withObject slot (Object.append object request.bytes) := by
  unfold appendUpload
  split
  · exact .inl ⟨rfl, turnedDown_reject _ _ _⟩
  split
  · exact .inl ⟨rfl, turnedDown_rejectStale _⟩
  rename_i slot object found
  split
  · exact .inl ⟨rfl, turnedDown_rejectStale _⟩
  rename_i open'
  split
  · exact .inl ⟨rfl, turnedDown_reject _ _ _⟩
  rename_i fits
  split
  · exact .inl ⟨rfl, turnedDown_reject _ _ _⟩
  · simp only [not_or, Bool.not_eq_true', Bool.not_eq_false] at fits
    exact .inr ⟨slot, object, found, by simpa using open', fits.2.2, rfl, rfl⟩

variable (validateCodeObjectImage : List UInt8 → CodeObjectMetadata → Bool)

/-- A commit is turned down, or closes an upload whose image is what was declared. -/
theorem commitUpload_cases (state : HostGPUCodeObjectState) (owner : OwnerKey)
    (request : CommitUpload) :
    ((state.commitUpload validateCodeObjectImage owner request).1.result.ok = false ∧
        TurnedDown owner state (state.commitUpload validateCodeObjectImage owner request).2) ∨
      ∃ slot object, state.resolve owner request.object = some (slot, object) ∧
        object.committed = false ∧ object.image.length = object.metadata.imageSize.toNat ∧
        sha256 object.image = object.metadata.kernel.imageSha256 ∧
        (state.commitUpload validateCodeObjectImage owner request).1.result.ok = true ∧
        (state.commitUpload validateCodeObjectImage owner request).2 =
          state.withObject slot { object with committed := true } := by
  unfold commitUpload
  split
  · exact .inl ⟨rfl, turnedDown_reject _ _ _⟩
  split
  · exact .inl ⟨rfl, turnedDown_rejectStale _⟩
  rename_i slot object found
  split
  · exact .inl ⟨rfl, turnedDown_rejectStale _⟩
  rename_i open'
  split
  · exact .inl ⟨rfl, turnedDown_reject _ _ _⟩
  rename_i sizes
  split
  · exact .inl ⟨rfl, turnedDown_reject _ _ _⟩
  · rename_i digest
    rw [not_or, not_not] at digest
    simp only [not_or, not_not] at sizes
    exact .inr ⟨slot, object, found, by simpa using open', sizes.2.2.2.2, digest.1, rfl, rfl⟩

/-- A committed object is not consumed, or its slot is freed. -/
theorem consumeCommitted_cases (state : HostGPUCodeObjectState) (owner : OwnerKey)
    (handle : ObjectHandle) :
    ((state.consumeCommitted owner handle).1.ok = false ∧
        (state.consumeCommitted owner handle).2 = state) ∨
      ∃ slot object, state.resolve owner handle = some (slot, object) ∧
        (state.consumeCommitted owner handle).1.ok = true ∧
        (state.consumeCommitted owner handle).2 = state.release slot := by
  unfold consumeCommitted
  split
  · exact .inl ⟨rfl, rfl⟩
  split
  · exact .inl ⟨rfl, rfl⟩
  rename_i slot object found
  split
  · exact .inl ⟨rfl, rfl⟩
  · exact .inr ⟨slot, object, found, rfl, rfl⟩

end Requests

end HostGPUCodeObjectState

end GemSim.CodeObject
