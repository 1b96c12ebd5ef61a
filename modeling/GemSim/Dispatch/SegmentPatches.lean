import GemSim.Dispatch.CodeObjectMapper
import GemSim.Lib.Patches
import GemSim.Memory.Refinement

/-!
# Segments as patches

While a code object is mapped, only one allocation of the memory changes, the one that was
made for it. A write into it is a patch on its bytes, however it is split into transfers and
chunks; a segment is one patch, the bytes the file holds and zeros up to its size in memory.
The checks of the segments keep the patches apart.

## Main definitions

* `Opened` — a memory with one allocation more
* `Admitted` — what an allocation is given for
* `segmentPatch` — what a segment puts into the allocation

## Main results

* `functionalWrite_opened` — a write into the allocation is a patch on its bytes
* `copySegments_opened` — the segments are patches, one after the other
* `spanSegments_spec`, `apart_of_overlap` — what the checks of the segments say
-/

namespace GemSim.Dispatch

open GemSim.Lib GemSim.Domain GemSim.Memory GemSim.CodeObject

section Addresses

variable {memory : HostGPUMemoryState} {owner : OwnerKey} {slot : Fin MaximumAllocations}
  {record : Allocation}

theorem toNat_virtualAddress (slot : Fin MaximumAllocations) :
    (virtualAddress slot).toNat = VirtualAddressBase.toNat + slot.val * VirtualAddressStride.toNat := by
  have small : slot.val < 1024 := slot.isLt
  have base : VirtualAddressBase.toNat = 0x0000100000000000 := by decide
  have stride : VirtualAddressStride.toNat = 0x80000000 := by decide
  have scaled : (UInt64.ofNat slot.val * VirtualAddressStride).toNat = slot.val * 0x80000000 := by
    rw [UInt64.toNat_mul, toNat_ofNat_of_lt (by omega), stride, Nat.mod_eq_of_lt (by omega)]
  rw [virtualAddress, toNat_add_exact (by rw [scaled, base]; omega), scaled, base, stride]

/-- An offset in an allocation does not carry its address into the next slot. -/
theorem toNat_address {offset : UInt64} (small : offset.toNat ≤ VirtualAddressStride.toNat) :
    (virtualAddress slot + offset).toNat =
      VirtualAddressBase.toNat + slot.val * VirtualAddressStride.toNat + offset.toNat := by
  have inTable : slot.val < 1024 := slot.isLt
  have base : VirtualAddressBase.toNat = 0x0000100000000000 := by decide
  have stride : VirtualAddressStride.toNat = 0x80000000 := by decide
  have first := toNat_virtualAddress slot
  rw [toNat_add_exact (by rw [first, base, stride]; omega), first]

/-- A range inside the allocation of a slot is found by its addresses. -/
theorem view_inside {offset bytes : UInt64} (here : memory.allocations slot = some record)
    (bounded : record.size ≤ MaximumAllocationBytes) (some : bytes ≠ 0)
    (inside : offset.toNat + bytes.toNat ≤ record.size.toNat) :
    memory.allocationViewContaining owner (virtualAddress slot + offset) bytes =
      if record.owner = owner then
        .some (infoOf slot record.generation record.size record.alignment)
      else none := by
  have inTable : slot.val < 1024 := slot.isLt
  have base : VirtualAddressBase.toNat = 0x0000100000000000 := by decide
  have stride : VirtualAddressStride.toNat = 0x80000000 := by decide
  have largest : MaximumAllocationBytes.toNat = 0x80000000 := by decide
  have positive := ne_zero_iff_toNat_pos.mp some
  rw [UInt64.le_iff_toNat_le, largest] at bounded
  have address : (virtualAddress slot + offset).toNat = _ := toNat_address (by rw [stride]; omega)
  have relative : (virtualAddress slot + offset - VirtualAddressBase).toNat =
      slot.val * 0x80000000 + offset.toNat := by
    rw [toNat_sub_exact (by rw [address]; omega), address, base, stride]
    omega
  have index : ((virtualAddress slot + offset - VirtualAddressBase) / VirtualAddressStride).toNat =
      slot.val := by
    rw [UInt64.toNat_div, relative, stride]
    omega
  have within : (virtualAddress slot + offset - VirtualAddressBase) % VirtualAddressStride =
      offset := by
    rw [← UInt64.toNat_inj, UInt64.toNat_mod, relative, stride]
    omega
  have below : ¬ (bytes = 0 ∨ virtualAddress slot + offset < VirtualAddressBase) := by
    rw [not_or, UInt64.lt_iff_toNat_lt, address]
    exact ⟨some, by omega⟩
  have same : ∀ inside, (⟨((virtualAddress slot + offset - VirtualAddressBase) /
      VirtualAddressStride).toNat, inside⟩ : Fin MaximumAllocations) = slot :=
    fun _ => Fin.ext index
  unfold HostGPUMemoryState.allocationViewContaining
  rw [if_neg below]
  dsimp only
  rw [dif_pos (by rw [index]; exact slot.isLt), same, here, within]
  dsimp only
  have fits : ¬ (offset > record.size ∨ bytes > record.size - offset) := by
    rw [not_or, gt_iff_lt, gt_iff_lt, UInt64.lt_iff_toNat_lt, UInt64.lt_iff_toNat_lt,
      toNat_sub_exact (by omega)]
    omega
  by_cases owned : record.owner = owner
  · rw [if_pos owned, if_neg (by rw [not_or, not_not]; exact ⟨owned, fits⟩)]
  · rw [if_neg owned, if_pos (.inl owned)]

end Addresses

section Opened

variable {before now : HostNativeMemoryContext} {slot : Fin MaximumAllocations}
  {record : Allocation} {held : List PageLease}

def handleOf (slot : Fin MaximumAllocations) (record : Allocation) : AllocationHandle :=
  { id := idOfSlot slot, generation := record.generation }

theorem validHandle_handleOf (issued : record.generation ≠ 0) :
    validHandle (handleOf slot record) = true := by
  have nonzero : idOfSlot slot ≠ 0 := by
    have value := toNat_idOfSlot (by decide) slot
    exact ne_zero_iff_toNat_pos.mpr (by omega)
  simp [validHandle, handleOf, nonzero, issued]

/-- A slot that was empty holds an allocation, and else the memory is as it was. -/
structure Opened (before now : HostNativeMemoryContext) (slot : Fin MaximumAllocations)
    (record : Allocation) (held : List PageLease) : Prop where
  empty : before.memory.allocations slot = none
  owner : now.owner = before.owner
  pageSize : now.pageSize = before.pageSize
  leases : now.leases = held
  allocations : now.memory.allocations = before.memory.allocations.put slot record
  liveAllocations : now.memory.liveAllocations = before.memory.liveAllocations + 1
  liveBytes : now.memory.liveBytes = before.memory.liveBytes + record.size

theorem Opened.here (opened : Opened before now slot record held) :
    now.memory.allocations slot = some record := by
  rw [opened.allocations]
  exact SlotTable.put_same _ _ _

theorem Opened.resolve (opened : Opened before now slot record held) :
    now.memory.resolve record.owner (handleOf slot record) = some (slot, record) :=
  HostGPUMemoryState.resolve_eq_some.mpr
    ⟨slotOfId_idOfSlot (by decide) slot, opened.here, rfl, rfl⟩

/-- The allocation itself may change, but for its size. -/
theorem Opened.withAllocation (opened : Opened before now slot record held) {other : Allocation}
    (size : other.size = record.size) :
    Opened before { now with memory := now.memory.withAllocation slot other } slot other held where
  empty := opened.empty
  owner := opened.owner
  pageSize := opened.pageSize
  leases := opened.leases
  allocations := by
    simp only [HostGPUMemoryState.withAllocation, opened.allocations, SlotTable.put,
      Function.update_idem]
  liveAllocations := opened.liveAllocations
  liveBytes := by rw [size]; exact opened.liveBytes

/-- What an allocation is given for: its request fits the memory, which has a slot and a
generation left for it. -/
structure Admitted (memory : HostGPUMemoryState) (owner : OwnerKey) (request : AllocationRequest)
    (allocates : Bool) (slot : Fin MaximumAllocations) : Prop where
  byOwner : validOwner owner = true
  nonempty : request.size ≠ 0
  aligned : request.alignment = 4096 ∨ request.alignment = 65536
  bounded : request.size ≤ MaximumAllocationBytes
  room : request.size ≤ MaximumTotalBytes - memory.liveBytes
  live : memory.liveAllocations < UInt64.ofNat MaximumAllocations
  free : memory.allocations.firstFree = some slot
  generation : memory.generations.take ≠ none
  allocates : allocates = true

/-- An admitted allocation is a slot that was empty, with zeros in it. -/
theorem opened_of_allocate (context : HostNativeMemoryContext) (owner : OwnerKey)
    (request : AllocationRequest) (allocates : Bool) :
    (∃ generations, (context.memory.allocate owner request allocates).2 =
        { context.memory with generations := generations } ∧
      (context.memory.allocate owner request allocates).1.ok = false ∧
      ∀ slot, ¬ Admitted context.memory owner request allocates slot) ∨
    ∃ slot generation,
      Admitted context.memory owner request allocates slot ∧ generation ≠ 0 ∧
      (context.memory.allocate owner request allocates).1 =
        .success (infoOf slot generation request.size request.alignment) ∧
      Opened context
        { context with memory := (context.memory.allocate owner request allocates).2 } slot
        { owner := owner
          generation := generation
          size := request.size
          alignment := request.alignment } context.leases := by
  unfold HostGPUMemoryState.allocate
  split
  · rename_i unnamed
    refine .inl ⟨_, rfl, rfl, fun slot admitted => ?_⟩
    rw [admitted.byOwner] at unnamed
    cases unnamed
  rename_i named
  split
  · rename_i malformed
    refine .inl ⟨_, rfl, rfl, fun slot admitted => ?_⟩
    rcases malformed with empty | ⟨small, large⟩
    · exact admitted.nonempty empty
    · exact admitted.aligned.elim small large
  rename_i formed
  rw [not_or, not_and_or, not_not, not_not] at formed
  split
  · rename_i full
    refine .inl ⟨_, rfl, rfl, fun slot admitted => ?_⟩
    rcases full with large | crowded | many
    · exact absurd admitted.bounded (UInt64.not_le.mpr large)
    · exact absurd admitted.room (UInt64.not_le.mpr crowded)
    · exact absurd admitted.live (UInt64.not_lt.mpr many)
  rename_i room
  rw [not_or, not_or, gt_iff_lt, gt_iff_lt, UInt64.not_lt, UInt64.not_lt, ge_iff_le,
    UInt64.not_le] at room
  split
  · rename_i none
    refine .inl ⟨_, rfl, rfl, fun slot admitted => ?_⟩
    rw [admitted.free] at none
    cases none
  rename_i slot free
  split
  · rename_i exhausted
    exact .inl ⟨_, rfl, rfl, fun slot admitted => admitted.generation exhausted⟩
  rename_i generation generations taken
  dsimp only
  split
  · rename_i throws
    refine .inl ⟨_, rfl, rfl, fun slot admitted => ?_⟩
    rw [admitted.allocates] at throws
    cases throws
  rename_i allocates
  refine .inr ⟨slot, generation, ?_, (IssueCounter.take_spec taken).1, rfl, ?_⟩
  · exact
      { byOwner := by simpa using named
        nonempty := formed.1
        aligned := formed.2
        bounded := room.1
        room := room.2.1
        live := room.2.2
        free := free
        generation := by rw [taken]; exact Option.some_ne_none _
        allocates := by simpa using allocates }
  exact
    { empty := SlotTable.firstFree_spec free
      owner := rfl
      pageSize := rfl
      leases := rfl
      allocations := rfl
      liveAllocations := rfl
      liveBytes := rfl }

end Opened

section Writes

variable {before now : HostNativeMemoryContext} {slot : Fin MaximumAllocations}
  {record : Allocation} {held : List PageLease}

/-- The bytes of an allocation, by their offset. -/
def contentsOf (record : Allocation) : ℕ → UInt8 := ChunkMap.contents ChunkBytes record.chunks

/-- A copy into the allocation is a patch on its bytes, or changes nothing. -/
theorem copyFromHost_opened (opened : Opened before now slot record held) (source : List UInt8)
    (offset bytes dispatchRequestId : UInt64) (throwsAfter : Option ℕ) (owner : OwnerKey)
    (owned : record.owner = owner) :
    ∃ chunks, Opened before { now with memory := (now.memory.copyFromHost owner
          { range := { allocation := handleOf slot record, offset := offset, bytes := bytes }
            bytes := source } dispatchRequestId throwsAfter).2 } slot
        { record with chunks := chunks } held ∧
      ((now.memory.copyFromHost owner
          { range := { allocation := handleOf slot record, offset := offset, bytes := bytes }
            bytes := source } dispatchRequestId throwsAfter).1.ok = true →
        ChunkMap.contents ChunkBytes chunks =
          Patch.apply ⟨offset.toNat, source⟩ (contentsOf record)) := by
  subst owned
  unfold HostGPUMemoryState.copyFromHost
  dsimp only
  split
  · rename_i refused
    refine ⟨record.chunks, opened, ?_⟩
    intro accepted
    rw [accepted] at refused
    cases refused
  split
  · refine ⟨record.chunks, opened, ?_⟩
    intro accepted
    cases accepted
  rename_i length
  rw [opened.resolve]
  dsimp only
  split
  · -- the chunks that were created are erased again
    refine ⟨record.chunks, ?_, by intro accepted; cases accepted⟩
    rw [ChunkMap.eraseChunks_insertChunks fun index member =>
      ChunkMap.missing_absent ChunkBytes index (List.mem_of_mem_take member)]
    exact opened.withAllocation rfl
  · refine ⟨_, opened.withAllocation rfl, fun _ => ?_⟩
    funext address
    rw [ChunkMap.contents_write, ← not_not.mp length]
    by_cases inside : offset.toNat ≤ address ∧ address < offset.toNat + source.length
    · have below : address - offset.toNat < source.length := by omega
      rw [if_pos inside, Patch.apply, if_pos inside.1, List.getD_eq_getElem?_getD,
        List.getElem?_eq_getElem below]
      rfl
    · have spared : ¬ Patch.covers ⟨offset.toNat, source⟩ address := inside
      rw [if_neg inside, Patch.apply_of_not_covers spared]
      rfl

/-- A write into the allocation is a patch on its bytes, or changes nothing. -/
theorem functionalWrite_opened (opened : Opened before now slot record held)
    (bounded : record.size ≤ MaximumAllocationBytes) {offset : UInt64} {source : List UInt8}
    (inside : offset.toNat + source.length ≤ record.size.toNat) (dispatchRequestId : UInt64)
    (env : WriteEnv) :
    ∃ chunks, Opened before (now.functionalWrite (virtualAddress slot + offset) source
        dispatchRequestId env).2 slot { record with chunks := chunks } held ∧
      ((now.functionalWrite (virtualAddress slot + offset) source dispatchRequestId env).1 = .written →
        ChunkMap.contents ChunkBytes chunks =
          Patch.apply ⟨offset.toNat, source⟩ (contentsOf record)) := by
  have length : (UInt64.ofNat source.length).toNat = source.length :=
    toNat_ofNat_of_lt (by have := record.size.toNat_lt; omega)
  unfold HostNativeMemoryContext.functionalWrite
  split
  · exact ⟨record.chunks, opened, by intro ended; cases ended⟩
  rename_i admitted
  rw [not_or] at admitted
  have nonempty : UInt64.ofNat source.length ≠ 0 := by
    rw [ne_zero_iff_toNat_pos, length]
    exact List.length_pos_iff.mpr admitted.1
  have found := @view_inside _ now.owner slot record offset _ opened.here bounded nonempty
    (by rw [length]; exact inside)
  unfold HostNativeMemoryContext.functionalWriteVector
  dsimp only
  rw [HostNativeMemoryContext.resolveRange, found]
  -- an allocation of another owner is not resolved, and nothing is written
  by_cases owned : record.owner = now.owner
  · rw [if_pos owned]
    dsimp only [Option.map_some, infoOf]
    split
    · exact ⟨record.chunks, opened, by intro ended; cases ended⟩
    split
    · exact ⟨record.chunks, opened, by intro ended; cases ended⟩
    have relative : virtualAddress slot + offset - virtualAddress slot = offset := by
      rw [UInt64.add_comm, UInt64.add_sub_cancel]
    rw [relative]
    obtain ⟨chunks, copied, patched⟩ := copyFromHost_opened opened source offset
      (UInt64.ofNat source.length) dispatchRequestId env.throwsAfter now.owner owned
    refine ⟨chunks, copied, fun ended => patched ?_⟩
    by_contra failed
    rw [HostGPUMemoryState.functionalWriteBytes, handleOf] at *
    rw [if_neg failed] at ended
    cases ended
  · rw [if_neg owned]
    exact ⟨record.chunks, opened, by intro ended; cases ended⟩

/-- The pieces of a range stay in it. -/
theorem transferPieces_inside {bytes : ℕ} {piece : ℕ × ℕ} (member : piece ∈ transferPieces bytes) :
    piece.1 + piece.2 ≤ bytes := by
  have largest : MaximumTransferBytes.toNat = 16777216 := by decide
  obtain ⟨index, there, rfl⟩ := List.mem_map.mp member
  rw [List.mem_range, largest] at there
  dsimp only
  rw [largest]
  omega

/-- The pieces of a range leave nothing of it out. -/
theorem transferPieces_cover {bytes index : ℕ} (below : index < bytes) :
    ∃ piece ∈ transferPieces bytes, piece.1 ≤ index ∧ index < piece.1 + piece.2 := by
  have largest : MaximumTransferBytes.toNat = 16777216 := by decide
  refine ⟨_, List.mem_map.mpr ⟨index / 16777216, List.mem_range.mpr ?_, rfl⟩, ?_⟩
  · rw [largest]
    omega
  · dsimp only
    rw [largest]
    omega

/-- The patch that a piece of a range is. -/
def piecePatch (first : ℕ) (whole : List UInt8) (piece : ℕ × ℕ) : Patch UInt8 :=
  ⟨first + piece.1, (whole.drop piece.1).take piece.2⟩

/-- The pieces of a range together have the effect of the range. -/
theorem applyAll_transferPieces (first : ℕ) (whole : List UInt8) (store : ℕ → UInt8) :
    Patch.applyAll ((transferPieces whole.length).map (piecePatch first whole)) store =
      Patch.apply ⟨first, whole⟩ store := by
  apply Patch.applyAll_eq_apply
  · intro patch member address here
    obtain ⟨piece, there, rfl⟩ := List.mem_map.mp member
    have fits := transferPieces_inside there
    obtain ⟨above, below⟩ := here
    simp only [piecePatch, List.length_take, List.length_drop] at above below ⊢
    refine ⟨⟨by dsimp only; omega, by dsimp only; omega⟩, ?_⟩
    rw [List.getElem?_take_of_lt (by omega), List.getElem?_drop]
    congr 1
    omega
  · intro address here
    obtain ⟨above, below⟩ := here
    dsimp only at above below
    obtain ⟨piece, member, inside⟩ := @transferPieces_cover whole.length (address - first) (by omega)
    have fits := transferPieces_inside member
    refine ⟨_, List.mem_map.mpr ⟨piece, member, rfl⟩, ?_, ?_⟩
    · simp only [piecePatch]
      omega
    · simp only [piecePatch, List.length_take, List.length_drop]
      omega

/-- Pieces of a range of the allocation are patches on its bytes. -/
theorem writePieces_opened (opened : Opened before now slot record held)
    (bounded : record.size ≤ MaximumAllocationBytes) {offset : UInt64} {whole : List UInt8}
    (inside : offset.toNat + whole.length ≤ record.size.toNat) (env : UInt64 → WriteEnv)
    (source : ℕ → ℕ → List UInt8) {pieces : List (ℕ × ℕ)}
    (agree : ∀ piece ∈ pieces, piece.1 + piece.2 ≤ whole.length ∧
      source piece.1 piece.2 = (whole.drop piece.1).take piece.2) :
    ∃ chunks, Opened before (writePieces env (virtualAddress slot + offset) source pieces now).2
        slot { record with chunks := chunks } held ∧
      ((writePieces env (virtualAddress slot + offset) source pieces now).1 = .written →
        ChunkMap.contents ChunkBytes chunks =
          Patch.applyAll (pieces.map (piecePatch offset.toNat whole)) (contentsOf record)) := by
  -- on the pieces, each of them a patch on what those before it have left
  induction pieces generalizing now record with
  | nil => exact ⟨record.chunks, opened, fun _ => rfl⟩
  | cons piece rest ih =>
    obtain ⟨fits, part⟩ := agree piece List.mem_cons_self
    have room := record.size.toNat_lt
    have copied : (UInt64.ofNat piece.1).toNat = piece.1 := toNat_ofNat_of_lt (by omega)
    have start : (offset + UInt64.ofNat piece.1).toNat = offset.toNat + piece.1 := by
      rw [toNat_add_exact (by rw [copied]; omega), copied]
    unfold writePieces
    split
    · exact ⟨record.chunks, opened, nofun⟩
    rw [UInt64.add_assoc, part]
    obtain ⟨chunks, wrote, patched⟩ := functionalWrite_opened opened bounded
      (show (offset + UInt64.ofNat piece.1).toNat + ((whole.drop piece.1).take piece.2).length ≤
        record.size.toNat by rw [start, List.length_take, List.length_drop]; omega) 0
      (env (virtualAddress slot + (offset + UInt64.ofNat piece.1)))
    rw [start] at patched
    dsimp only
    split
    · rename_i after succeeded
      rw [succeeded] at wrote patched
      obtain ⟨last, written, all⟩ := ih wrote bounded inside
        fun piece member => agree piece (List.mem_cons_of_mem _ member)
      refine ⟨last, written, fun ended => ?_⟩
      rw [all ended, List.map_cons, Patch.applyAll_cons, contentsOf, patched rfl]
      rfl
    · rename_i ended after stopped failed
      rw [failed] at wrote
      -- a piece that fails ends the loop, with its own outcome
      exact ⟨chunks, wrote, fun written => absurd written stopped⟩

/-- A range of the allocation that is written is one patch on its bytes. -/
theorem writeRange_opened (opened : Opened before now slot record held)
    (bounded : record.size ≤ MaximumAllocationBytes) {offset : UInt64} {source : List UInt8}
    (inside : offset.toNat + source.length ≤ record.size.toNat) (env : MapEnv) :
    ∃ chunks, Opened before (writeRange env (virtualAddress slot + offset) source now).2
        slot { record with chunks := chunks } held ∧
      ((writeRange env (virtualAddress slot + offset) source now).1 = .written →
        ChunkMap.contents ChunkBytes chunks =
          Patch.apply ⟨offset.toNat, source⟩ (contentsOf record)) := by
  obtain ⟨chunks, wrote, patched⟩ := writePieces_opened opened bounded inside env.writes
    (fun copied count => (source.drop copied).take count)
    fun piece member => ⟨transferPieces_inside member, rfl⟩
  rw [applyAll_transferPieces] at patched
  exact ⟨chunks, wrote, patched⟩

/-- A range of the allocation that is cleared is one patch of zeros. -/
theorem zeroRange_opened (opened : Opened before now slot record held)
    (bounded : record.size ≤ MaximumAllocationBytes) {offset bytes : UInt64}
    (inside : offset.toNat + bytes.toNat ≤ record.size.toNat) (env : MapEnv) :
    ∃ chunks, Opened before (zeroRange env (virtualAddress slot + offset) bytes now).2
        slot { record with chunks := chunks } held ∧
      ((zeroRange env (virtualAddress slot + offset) bytes now).1 = true →
        ChunkMap.contents ChunkBytes chunks =
          Patch.apply ⟨offset.toNat, List.replicate bytes.toNat 0⟩ (contentsOf record)) := by
  unfold zeroRange
  split
  · rename_i none
    refine ⟨record.chunks, opened, fun _ => ?_⟩
    rw [none, UInt64.toNat_zero, List.replicate_zero, Patch.apply_nil]
    rfl
  split
  · exact ⟨record.chunks, opened, nofun⟩
  have length : (List.replicate bytes.toNat (0 : UInt8)).length = bytes.toNat :=
    List.length_replicate
  obtain ⟨chunks, wrote, patched⟩ := @writePieces_opened _ _ _ _ _ opened bounded offset
    (List.replicate bytes.toNat 0) (by rw [length]; exact inside) env.writes
    (fun _ count => List.replicate count 0) (transferPieces bytes.toNat) (by
      intro piece member
      have fits := transferPieces_inside member
      rw [length, List.drop_replicate, List.take_replicate, Nat.min_eq_left (by omega)]
      exact ⟨fits, rfl⟩)
  have whole := applyAll_transferPieces offset.toNat (List.replicate bytes.toNat 0)
    (contentsOf record)
  rw [length] at whole
  rw [whole] at patched
  generalize writePieces env.writes (virtualAddress slot + offset)
    (fun _ count => List.replicate count 0) (transferPieces bytes.toNat) now = reply at wrote patched ⊢
  obtain ⟨ended, after⟩ := reply
  exact ⟨chunks, wrote, fun cleared => patched (beq_iff_eq.mp cleared)⟩

end Writes

section Segments

variable {before now : HostNativeMemoryContext} {slot : Fin MaximumAllocations}
  {record : Allocation} {held : List PageLease} {image : List UInt8} {segment : LoadSegment}
  {segments : List LoadSegment}

/-- What a segment puts into the allocation of its image. -/
def segmentPatch (image : List UInt8) (mappedBase : UInt64) (segment : LoadSegment) :
    Patch UInt8 :=
  ⟨(segment.virtualAddress - mappedBase).toNat,
    (image.drop segment.fileOffset.toNat).take segment.fileSize.toNat ++
      List.replicate (segment.memorySize - segment.fileSize).toNat 0⟩

theorem fits_of_valid (valid : loadSegmentValid image segment = true) :
    segment.fileSize.toNat ≤ segment.memorySize.toNat ∧ segment.memorySize ≠ 0 ∧
      segment.fileOffset.toNat + segment.fileSize.toNat ≤ image.length := by
  simp only [loadSegmentValid, Bool.and_eq_true, decide_eq_true_eq, bne_iff_ne, ge_iff_le] at valid
  obtain ⟨⟨⟨⟨⟨⟨-, some⟩, larger⟩, -⟩, -⟩, inside⟩, -⟩ := valid
  exact ⟨UInt64.le_iff_toNat_le.mp larger, some, inside⟩

theorem length_fileBytes (valid : loadSegmentValid image segment = true) :
    ((image.drop segment.fileOffset.toNat).take segment.fileSize.toNat).length =
      segment.fileSize.toNat := by
  have inside := (fits_of_valid valid).2.2
  rw [List.length_take, List.length_drop]
  omega

theorem length_segmentPatch (valid : loadSegmentValid image segment = true) (mappedBase : UInt64) :
    (segmentPatch image mappedBase segment).values.length = segment.memorySize.toNat := by
  have larger := (fits_of_valid valid).1
  rw [segmentPatch, List.length_append, length_fileBytes valid, List.length_replicate,
    toNat_sub_exact larger]
  omega

/-- A segment that is copied is one patch on the bytes of the allocation. -/
theorem copySegment_opened (valid : loadSegmentValid image segment = true)
    (opened : Opened before now slot record held)
    (bounded : record.size ≤ MaximumAllocationBytes) (env : MapEnv) (mappedBase : UInt64) :
    ∃ chunks, Opened before
        (copySegment env image (virtualAddress slot) mappedBase record.size segment now).2 slot
        { record with chunks := chunks } held ∧
      ∀ mapped, (copySegment env image (virtualAddress slot) mappedBase record.size segment
          now).1 = .ok mapped →
        (segment.virtualAddress - mappedBase).toNat + segment.memorySize.toNat ≤
            record.size.toNat ∧
          ChunkMap.contents ChunkBytes chunks =
            (segmentPatch image mappedBase segment).apply (contentsOf record) := by
  obtain ⟨larger, -, -⟩ := fits_of_valid valid
  have length := length_fileBytes valid
  have room := record.size.toNat_lt
  unfold copySegment
  extract_lets relative mappedAddress bytes
  split
  · exact ⟨record.chunks, opened, nofun⟩
  rename_i inside
  simp only [not_or, gt_iff_lt, UInt64.not_lt, UInt64.le_iff_toNat_le] at inside
  obtain ⟨start, fits, -⟩ := inside
  rw [toNat_sub_exact start] at fits
  obtain ⟨chunks, wrote, patched⟩ := @writeRange_opened _ _ _ _ _ opened bounded relative bytes
    (by rw [length]; omega) env
  split
  · rename_i middle failed
    rw [failed] at wrote
    exact ⟨chunks, wrote, nofun⟩
  · rename_i middle failed
    rw [failed] at wrote
    exact ⟨chunks, wrote, nofun⟩
  rename_i middle copied
  rw [copied] at wrote patched
  dsimp only at wrote patched
  have rest : (segment.memorySize - segment.fileSize).toNat =
      segment.memorySize.toNat - segment.fileSize.toNat := toNat_sub_exact larger
  -- the zeros begin where the file bytes end
  have tail : (relative + segment.fileSize).toNat = relative.toNat + segment.fileSize.toNat :=
    toNat_add_exact (by omega)
  have address : mappedAddress + segment.fileSize =
      virtualAddress slot + (relative + segment.fileSize) := UInt64.add_assoc _ _ _
  obtain ⟨last, cleared, zeroed⟩ := @zeroRange_opened _ _ _ _ _ wrote bounded
    (relative + segment.fileSize) (segment.memorySize - segment.fileSize)
    (by rw [tail, rest]; dsimp only; omega) env
  rw [← address] at cleared zeroed
  split
  rename_i done after ended
  rw [ended] at cleared zeroed
  dsimp only at cleared zeroed
  split
  · exact ⟨last, cleared, nofun⟩
  rename_i complete
  rw [Bool.not_eq_true, Bool.not_eq_false'] at complete
  refine ⟨last, cleared, fun mapped _ => ⟨?_, ?_⟩⟩
  · show relative.toNat + segment.memorySize.toNat ≤ record.size.toNat
    omega
  · -- the file bytes and the zeros after them are one patch
    rw [zeroed complete, contentsOf, patched rfl, segmentPatch, Patch.apply_append, length,
      tail]

theorem copySegments_opened (valid : ∀ segment ∈ segments, loadSegmentValid image segment = true)
    (opened : Opened before now slot record held)
    (bounded : record.size ≤ MaximumAllocationBytes) (env : MapEnv) (mappedBase : UInt64) :
    ∃ chunks, Opened before
        (copySegments env image (virtualAddress slot) mappedBase record.size segments now).2 slot
        { record with chunks := chunks } held ∧
      ∀ mapped, (copySegments env image (virtualAddress slot) mappedBase record.size segments
          now).1 = .ok mapped →
        (∀ segment ∈ segments, (segment.virtualAddress - mappedBase).toNat +
            segment.memorySize.toNat ≤ record.size.toNat) ∧
          ChunkMap.contents ChunkBytes chunks =
            Patch.applyAll (segments.map (segmentPatch image mappedBase)) (contentsOf record) := by
  induction segments generalizing now record with
  | nil => exact ⟨record.chunks, opened, fun _ _ => ⟨nofun, rfl⟩⟩
  | cons segment rest ih =>
    obtain ⟨chunks, wrote, patched⟩ :=
      copySegment_opened (valid segment List.mem_cons_self) opened bounded env mappedBase
    unfold copySegments
    split
    · rename_i failure after failed
      rw [failed] at wrote
      exact ⟨chunks, wrote, nofun⟩
    rename_i mapped after copied
    rw [copied] at wrote patched
    obtain ⟨fits, first⟩ := patched mapped rfl
    obtain ⟨last, written, all⟩ := ih
      (fun segment member => valid segment (List.mem_cons_of_mem _ member)) wrote bounded
    refine ⟨last, written, ?_⟩
    intro done ended
    have finished : ∃ others, (copySegments env image (virtualAddress slot) mappedBase record.size
        rest after).1 = .ok others := by
      cases reply : (copySegments env image (virtualAddress slot) mappedBase record.size rest
        after).1 with
      | error failure =>
        dsimp only at ended
        rw [reply] at ended
        cases ended
      | ok others => exact ⟨others, rfl⟩
    obtain ⟨others, finished⟩ := finished
    obtain ⟨inside, later⟩ := all others finished
    refine ⟨?_, ?_⟩
    · rintro other member
      rcases List.mem_cons.mp member with rfl | member
      · exact fits
      · exact inside other member
    · rw [later, List.map_cons, Patch.applyAll_cons, contentsOf, first]

/-- An accepted round of the loop over the segments. -/
theorem spanSegments_cons_eq_ok {rest : List LoadSegment} {lower upper : UInt64}
    {span : UInt64 × UInt64}
    (accepted : spanSegments image (segment :: rest) lower upper = .ok span) :
    loadSegmentValid image segment = true ∧ rest.any (segmentsOverlap segment) = false ∧
      ∃ virtualEnd, rangeEnd segment.virtualAddress segment.memorySize = some virtualEnd ∧
        spanSegments image rest (min lower segment.virtualAddress) (max upper virtualEnd) =
          .ok span := by
  rw [spanSegments_cons] at accepted
  generalize rangeEnd segment.virtualAddress segment.memorySize = ending at *
  by_cases valid : loadSegmentValid image segment = true
  case neg =>
    rw [if_pos (by simpa using valid)] at accepted
    cases accepted
  rw [if_neg (by simpa using valid)] at accepted
  cases ending with
  | none => cases accepted
  | some virtualEnd =>
    dsimp only at accepted
    by_cases apart : rest.any (segmentsOverlap segment) = true
    case pos =>
      rw [if_pos apart] at accepted
      cases accepted
    rw [if_neg apart] at accepted
    exact ⟨valid, Bool.eq_false_iff.mpr apart, virtualEnd, rfl, accepted⟩

/-- What the loop over the segments has checked. -/
theorem spanSegments_spec {lower upper imageVirtualBase imageVirtualEnd : UInt64}
    (accepted : spanSegments image segments lower upper = .ok (imageVirtualBase, imageVirtualEnd)) :
    imageVirtualBase ≤ lower ∧ upper ≤ imageVirtualEnd ∧
      (∀ segment ∈ segments, loadSegmentValid image segment = true ∧
        imageVirtualBase ≤ segment.virtualAddress ∧
        segment.virtualAddress.toNat + segment.memorySize.toNat ≤ imageVirtualEnd.toNat) ∧
      segments.Pairwise fun segment right => segmentsOverlap segment right = false := by
  induction segments generalizing lower upper with
  | nil =>
    have same : (lower, upper) = (imageVirtualBase, imageVirtualEnd) := Except.ok.inj accepted
    obtain ⟨rfl, rfl⟩ := Prod.mk.inj same
    exact ⟨UInt64.le_refl _, UInt64.le_refl _, nofun, .nil⟩
  | cons segment rest ih =>
    obtain ⟨valid, apart, virtualEnd, ends, later⟩ := spanSegments_cons_eq_ok accepted
    obtain ⟨below, above, checked, others⟩ := ih later
    obtain ⟨-, stop⟩ := rangeEnd_eq_some.mp ends
    rw [UInt64.le_iff_toNat_le, toNat_min] at below
    rw [UInt64.le_iff_toNat_le, toNat_max] at above
    refine ⟨UInt64.le_iff_toNat_le.mpr (by omega), UInt64.le_iff_toNat_le.mpr (by omega), ?_, ?_⟩
    · intro other member
      rcases List.mem_cons.mp member with rfl | member
      · exact ⟨valid, UInt64.le_iff_toNat_le.mpr (by omega), by omega⟩
      · exact checked other member
    · refine List.pairwise_cons.mpr ⟨fun other member => ?_, others⟩
      rw [List.any_eq_false] at apart
      exact Bool.eq_false_iff.mpr (apart other member)

/-- Segments that were checked not to overlap do not meet in the allocation. -/
theorem apart_of_overlap {left right : LoadSegment} {mappedBase : UInt64}
    (validLeft : loadSegmentValid image left = true)
    (validRight : loadSegmentValid image right = true)
    (aboveLeft : mappedBase ≤ left.virtualAddress) (aboveRight : mappedBase ≤ right.virtualAddress)
    (checked : segmentsOverlap left right = false) :
    (segmentPatch image mappedBase left).Apart (segmentPatch image mappedBase right) := by
  have someLeft := ne_zero_iff_toNat_pos.mp (fits_of_valid validLeft).2.1
  have someRight := ne_zero_iff_toNat_pos.mp (fits_of_valid validRight).2.1
  rw [UInt64.le_iff_toNat_le] at aboveLeft aboveRight
  rw [segmentsOverlap, Bool.or_eq_false_iff] at checked
  have disjoint := apart_of_rangesOverlap checked.2
  -- both patches are placed relative to one base, so their places meet as the segments do
  intro address here there
  rw [Patch.covers, length_segmentPatch validLeft, segmentPatch] at here
  rw [Patch.covers, length_segmentPatch validRight, segmentPatch] at there
  dsimp only at here there
  rw [toNat_sub_exact aboveLeft] at here
  rw [toNat_sub_exact aboveRight] at there
  omega

end Segments

end GemSim.Dispatch
