import GemSim.Dispatch.LeaseLaw

/-!
# The copies of a map

Into an allocation that is leased as a whole, nothing refuses a copy but the failure of an
allocation of host memory. Which copy of a map is the first to fail, and how, then follows
from these failures alone. All but one of them are answered with false: that of the copy of
file bytes into a transfer leaves the map.

## Main definitions

* `CopyStep`, `segmentSteps` — the copies of a segment, in their order
* `firstEnd` — the end of copies that stop at the first failure
* `Writable` — an allocation that is leased as a whole, and by nobody else

## Main results

* `functionalWrite_ends` — how a write into the allocation ends
* `copySegments_ends` — how the copies of the segments end
-/

namespace GemSim.Dispatch

open GemSim.Lib GemSim.Domain GemSim.Memory GemSim.CodeObject

section Steps

/-- How a write ends that nothing refuses but an allocation of host memory. -/
def WriteEnv.ends (env : WriteEnv) : WriteEnd :=
  if !env.copies then .refused
  else if !env.transfers then .badAlloc
  else if env.throwsAfter.isSome then .refused
  else .written

/-- A copy of a map, by the address it goes to: a piece of file bytes, the zeros for a clear, or
a piece that is cleared. -/
inductive CopyStep where
  | file (target : UInt64)
  | zeros (address : UInt64)
  | clear (target : UInt64)

/-- How a copy ends. A clear catches what leaves its writes. -/
def CopyStep.ends (env : MapEnv) : CopyStep → WriteEnd
  | .file target => (env.writes target).ends
  | .zeros address => if env.zeros address then .written else .refused
  | .clear target => if (env.writes target).ends = .written then .written else .refused

def fileSteps (address : UInt64) (bytes : ℕ) : List CopyStep :=
  (transferPieces bytes).map fun piece => .file (address + UInt64.ofNat piece.1)

def clearSteps (address : UInt64) (bytes : ℕ) : List CopyStep :=
  if bytes = 0 then []
  else
    .zeros address :: (transferPieces bytes).map fun piece =>
      .clear (address + UInt64.ofNat piece.1)

/-- The copies of a segment, in the order in which they are made. -/
def segmentSteps (gpuVa mappedBase : UInt64) (segment : LoadSegment) : List CopyStep :=
  let mappedAddress := gpuVa + (segment.virtualAddress - mappedBase)
  fileSteps mappedAddress segment.fileSize.toNat ++
    clearSteps (mappedAddress + segment.fileSize)
      (segment.memorySize.toNat - segment.fileSize.toNat)

/-- The end of what may be left by the failure of an allocation. -/
def endOf {α : Type*} : Except MapEnd α → WriteEnd
  | .ok _ => .written
  | .error .badAlloc => .badAlloc
  | .error (.failed _) => .refused

/-- The end of copies that are made one after the other, until one fails. -/
def firstEnd : List WriteEnd → WriteEnd
  | [] => .written
  | .written :: rest => firstEnd rest
  | ended :: _ => ended

theorem firstEnd_cons (ended : WriteEnd) (rest : List WriteEnd) :
    firstEnd (ended :: rest) = if ended = .written then firstEnd rest else ended := by
  cases ended <;> rfl

theorem firstEnd_append (first second : List WriteEnd) :
    firstEnd (first ++ second) =
      if firstEnd first = .written then firstEnd second else firstEnd first := by
  induction first with
  | nil => rfl
  | cons ended rest ih =>
    rw [List.cons_append, firstEnd_cons, firstEnd_cons, ih]
    split
    · rfl
    · rfl

/-- What a clear catches is refused. -/
theorem firstEnd_caught {α : Type*} (ends : α → WriteEnd) (steps : List α) :
    firstEnd (steps.map fun step => if ends step = .written then .written else .refused) =
      if firstEnd (steps.map ends) = .written then .written else .refused := by
  induction steps with
  | nil => rfl
  | cons step rest ih =>
    rw [List.map_cons, List.map_cons, firstEnd_cons, firstEnd_cons, ih]
    cases ends step <;> rfl

/-- Copies are left by the failure of an allocation if the first that fails is. -/
theorem firstEnd_eq_badAlloc {α : Type*} {ends : α → WriteEnd} {steps : List α} :
    firstEnd (steps.map ends) = .badAlloc ↔
      ∃ earlier step later, steps = earlier ++ step :: later ∧
        (∀ passed ∈ earlier, ends passed = .written) ∧ ends step = .badAlloc := by
  -- the copies before the first one that fails are the ones that have been written
  induction steps with
  | nil =>
    refine ⟨nofun, ?_⟩
    rintro ⟨earlier, step, later, split, -⟩
    cases earlier <;> cases split
  | cons step rest ih =>
    rw [List.map_cons, firstEnd_cons]
    split
    · rename_i written
      rw [ih]
      constructor
      · rintro ⟨earlier, lost, later, rfl, passed, thrown⟩
        exact ⟨step :: earlier, lost, later, rfl,
          List.forall_mem_cons.mpr ⟨written, passed⟩, thrown⟩
      · rintro ⟨earlier, lost, later, split, passed, thrown⟩
        cases earlier with
        | nil =>
          obtain ⟨rfl, -⟩ := List.cons.inj split
          rw [written] at thrown
          cases thrown
        | cons first earlier =>
          obtain ⟨-, rfl⟩ := List.cons.inj split
          exact ⟨earlier, lost, later, rfl, (List.forall_mem_cons.mp passed).2, thrown⟩
    · rename_i stopped
      constructor
      · exact fun thrown => ⟨[], step, rest, rfl, nofun, thrown⟩
      · rintro ⟨earlier, lost, later, split, passed, thrown⟩
        cases earlier with
        | nil =>
          obtain ⟨rfl, -⟩ := List.cons.inj split
          exact thrown
        | cons first earlier =>
          obtain ⟨rfl, -⟩ := List.cons.inj split
          exact absurd (passed step List.mem_cons_self) stopped

end Steps

section Whole

variable {before now : HostNativeMemoryContext} {slot : Fin MaximumAllocations}
  {record : Allocation} {held : List PageLease}

/-- A lease of all pages of an allocation. -/
structure WholeLease (pageSize : UInt64) (slot : Fin MaximumAllocations) (record : Allocation)
    (lease : PageLease) : Prop where
  about : lease.allocation = handleOf slot record
  first : lease.firstPage = virtualAddress slot
  enough : record.size.toNat ≤ lease.pageCount.toNat * pageSize.toNat
  small : lease.pageCount.toNat * pageSize.toNat ≤ 2 ^ 32

/-- Pages are counted from the first address of an allocation. -/
theorem wholeLease_of_pages {pageSize : UInt64} (pages : pageSize = 4096 ∨ pageSize = 65536)
    (bounded : record.size ≤ MaximumAllocationBytes) (nonempty : record.size ≠ 0) :
    ¬ pageOf pageSize (virtualAddress slot + record.size - 1) <
        pageOf pageSize (virtualAddress slot) ∧
      ∀ lease : PageLease, lease.allocation = handleOf slot record →
        lease.firstPage = pageOf pageSize (virtualAddress slot) →
        lease.pageCount = (pageOf pageSize (virtualAddress slot + record.size - 1) -
          pageOf pageSize (virtualAddress slot)) / pageSize + 1 →
        WholeLease pageSize slot record lease := by
  have inTable : slot.val < 1024 := slot.isLt
  have base : VirtualAddressBase.toNat = 0x0000100000000000 := by decide
  have stride : VirtualAddressStride.toNat = 0x80000000 := by decide
  have largest : MaximumAllocationBytes.toNat = 0x80000000 := by decide
  have positive := ne_zero_iff_toNat_pos.mp nonempty
  rw [UInt64.le_iff_toNat_le, largest] at bounded
  have start := toNat_virtualAddress slot
  have sum : (virtualAddress slot + record.size).toNat = _ :=
    toNat_address (by rw [stride]; omega)
  rw [base, stride] at start sum
  have last : (virtualAddress slot + record.size - 1).toNat =
      (virtualAddress slot + record.size).toNat - 1 :=
    toNat_sub_exact (by rw [sum, UInt64.toNat_one]; omega)
  have shape : PageSize pageSize := by
    rcases pages with rfl | rfl
    · exact ⟨12, rfl⟩
    · exact ⟨16, rfl⟩
  have firstPage := toNat_pageOf shape (virtualAddress slot)
  have lastPage := toNat_pageOf shape (virtualAddress slot + record.size - 1)
  rw [last, sum] at lastPage
  rw [start] at firstPage
  have size : pageSize.toNat = 4096 ∨ pageSize.toNat = 65536 := by
    rcases pages with rfl | rfl
    · exact .inl rfl
    · exact .inr rfl
  -- allocations start at a multiple of both page sizes
  have aligned : (pageOf pageSize (virtualAddress slot)).toNat = (virtualAddress slot).toNat := by
    rw [firstPage, start, pageFloor]
    rcases size with size | size <;> rw [size] <;> omega
  have ordered : (pageOf pageSize (virtualAddress slot)).toNat ≤
      (pageOf pageSize (virtualAddress slot + record.size - 1)).toNat := by
    rw [aligned, lastPage, start, pageFloor]
    rcases size with size | size <;> rw [size] <;> omega
  refine ⟨UInt64.not_lt.mpr (UInt64.le_iff_toNat_le.mpr ordered), ?_⟩
  intro lease about first count
  -- the count of pages does not wrap, since the pages lie in one stride
  have counted : lease.pageCount.toNat =
      ((pageOf pageSize (virtualAddress slot + record.size - 1)).toNat -
        (pageOf pageSize (virtualAddress slot)).toNat) / pageSize.toNat + 1 := by
    have quotient : ((pageOf pageSize (virtualAddress slot + record.size - 1) -
        pageOf pageSize (virtualAddress slot)) / pageSize).toNat =
        ((pageOf pageSize (virtualAddress slot + record.size - 1)).toNat -
          (pageOf pageSize (virtualAddress slot)).toNat) / pageSize.toNat := by
      rw [UInt64.toNat_div, toNat_sub_exact ordered]
    rw [count, toNat_add_exact, quotient, UInt64.toNat_one]
    rw [quotient, UInt64.toNat_one, lastPage, pageFloor]
    rcases size with size | size <;> rw [size] <;> omega
  refine ⟨about, by rw [first, ← UInt64.toNat_inj, aligned], ?_, ?_⟩
  · rw [counted, aligned, lastPage, start, pageFloor]
    rcases size with size | size <;> rw [size] <;> omega
  · rw [counted, aligned, lastPage, start, pageFloor]
    rcases size with size | size <;> rw [size] <;> omega

/-- An allocation of the owner of a context that is leased as a whole, and not pinned. -/
structure Writable (before : HostNativeMemoryContext) (slot : Fin MaximumAllocations)
    (record : Allocation) (held : List PageLease) : Prop where
  bounded : record.size ≤ MaximumAllocationBytes
  owned : record.owner = before.owner
  byOwner : validOwner record.owner = true
  issued : record.generation ≠ 0
  unpinned : record.dispatchRequestId = 0
  pages : before.pageSize = 4096 ∨ before.pageSize = 65536
  leased : ∃ lease ∈ held, WholeLease before.pageSize slot record lease

theorem Writable.withChunks (writable : Writable before slot record held)
    (chunks : ChunkMap UInt8) : Writable before slot { record with chunks := chunks } held :=
  { writable with
    leased := by
      obtain ⟨lease, member, whole⟩ := writable.leased
      exact ⟨lease, member, { whole with }⟩ }

/-- Every range of the allocation is covered by its lease. -/
theorem Opened.covered (opened : Opened before now slot record held)
    (writable : Writable before slot record held) {offset bytes : UInt64} (nonempty : bytes ≠ 0)
    (inside : offset.toNat + bytes.toNat ≤ record.size.toNat) :
    now.coveredByLease (handleOf slot record) (virtualAddress slot + offset) bytes = true := by
  have inTable : slot.val < 1024 := slot.isLt
  have base : VirtualAddressBase.toNat = 0x0000100000000000 := by decide
  have stride : VirtualAddressStride.toNat = 0x80000000 := by decide
  have largest : MaximumAllocationBytes.toNat = 0x80000000 := by decide
  have positive := ne_zero_iff_toNat_pos.mp nonempty
  have bounded := writable.bounded
  rw [UInt64.le_iff_toNat_le, largest] at bounded
  obtain ⟨lease, member, whole⟩ := writable.leased
  obtain ⟨about, first, enough, small⟩ := whole
  have start := toNat_virtualAddress slot
  have address : (virtualAddress slot + offset).toNat = _ :=
    toNat_address (by rw [stride]; omega)
  rw [base, stride] at start address
  have stop : (virtualAddress slot + offset + bytes).toNat = _ :=
    toNat_add_exact (by rw [address]; omega)
  -- the one lease is found in the list, and its end does not wrap
  unfold HostNativeMemoryContext.coveredByLease
  rw [if_neg, List.any_eq_true]
  · refine ⟨lease, opened.leases ▸ member, ?_⟩
    have product : (lease.pageCount * before.pageSize).toNat = _ :=
      toNat_mul_exact (show lease.pageCount.toNat * before.pageSize.toNat < 2 ^ 64 by omega)
    have leaseEnd : (lease.firstPage + lease.pageCount * before.pageSize).toNat = _ :=
      toNat_add_exact (by rw [first, start, product]; omega)
    have room : ¬ lease.pageCount > u64Max / now.pageSize := by
      rw [opened.pageSize, gt_iff_lt, UInt64.lt_iff_toNat_lt, UInt64.toNat_div, toNat_u64Max]
      rcases writable.pages with size | size <;> rw [size] at small ⊢
      · rw [show (4096 : UInt64).toNat = 4096 from rfl] at small ⊢
        omega
      · rw [show (65536 : UInt64).toNat = 65536 from rfl] at small ⊢
        omega
    unfold HostNativeMemoryContext.leaseCovers
    rw [if_neg (not_not.mpr about), if_neg room]
    dsimp only
    rw [opened.pageSize, if_neg]
    · simp only [Bool.and_eq_true, decide_eq_true_eq, ge_iff_le, UInt64.le_iff_toNat_le]
      rw [leaseEnd, product, stop, address, first, start]
      omega
    · rw [UInt64.lt_iff_toNat_lt, leaseEnd]
      omega
  · rw [not_or, gt_iff_lt, UInt64.lt_iff_toNat_lt, toNat_max_sub]
    refine ⟨nonempty, ?_⟩
    rw [address, toNat_pred nonempty]
    omega

end Whole

section Writes

variable {before now : HostNativeMemoryContext} {slot : Fin MaximumAllocations}
  {record : Allocation} {held : List PageLease}

/-- A range of an allocation that nobody has pinned may be copied. -/
theorem Opened.validateCopy (opened : Opened before now slot record held)
    (writable : Writable before slot record held) {offset bytes : UInt64} (nonempty : bytes ≠ 0)
    (small : bytes ≤ MaximumTransferBytes)
    (inside : offset.toNat + bytes.toNat ≤ record.size.toNat) :
    now.memory.validateCopy record.owner
      { allocation := handleOf slot record, offset := offset, bytes := bytes } 0 = .success () := by
  have size := record.size.toNat_lt
  have room : ¬ (bytes = 0 ∨ offset > u64Max - bytes) := by
    rw [not_or, gt_iff_lt, UInt64.lt_iff_toNat_lt, toNat_max_sub]
    exact ⟨nonempty, by omega⟩
  have fits : rangeValid record
      { allocation := handleOf slot record, offset := offset, bytes := bytes } = true :=
    HostGPUMemoryState.rangeValid_iff.mpr inside
  unfold HostGPUMemoryState.validateCopy
  rw [writable.byOwner, validHandle_handleOf writable.issued, if_neg (by decide),
    if_neg (by decide), if_neg room, opened.resolve]
  dsimp only
  rw [fits, if_neg (by decide), if_neg (fun pinned => pinned.1 writable.unpinned),
    if_neg (UInt64.not_lt.mpr small)]

/-- A copy into the allocation is made unless its chunks cannot be allocated. -/
theorem Opened.copyFromHost_ok (opened : Opened before now slot record held)
    (writable : Writable before slot record held) {offset bytes : UInt64} {source : List UInt8}
    (nonempty : bytes ≠ 0) (small : bytes ≤ MaximumTransferBytes)
    (inside : offset.toNat + bytes.toNat ≤ record.size.toNat)
    (length : source.length = bytes.toNat) (throwsAfter : Option ℕ) :
    (now.memory.copyFromHost record.owner
      { range := { allocation := handleOf slot record, offset := offset, bytes := bytes }
        bytes := source } 0 throwsAfter).1.ok = throwsAfter.isNone := by
  have valid : now.memory.validateCopy record.owner
      { allocation := handleOf slot record, offset := offset, bytes := bytes } 0 = .success () :=
    opened.validateCopy writable nonempty small inside
  unfold HostGPUMemoryState.copyFromHost
  dsimp only
  generalize now.memory.validateCopy record.owner
    { allocation := handleOf slot record, offset := offset, bytes := bytes } 0 = validated at *
  subst valid
  rw [if_neg (by decide), if_neg (not_not.mpr length), opened.resolve]
  cases throwsAfter with
  | some count => rfl
  | none => rfl

/-- Nothing refuses a write into the allocation but an allocation of host memory. -/
theorem functionalWrite_ends (opened : Opened before now slot record held)
    (writable : Writable before slot record held) {offset : UInt64} {source : List UInt8}
    (nonempty : source ≠ []) (small : source.length ≤ MaximumTransferBytes.toNat)
    (inside : offset.toNat + source.length ≤ record.size.toNat) (env : WriteEnv) :
    (now.functionalWrite (virtualAddress slot + offset) source 0 env).1 = env.ends := by
  have length : (UInt64.ofNat source.length).toNat = source.length :=
    toNat_ofNat_of_lt (by have := record.size.toNat_lt; omega)
  have count : UInt64.ofNat source.length ≠ 0 := by
    rw [ne_zero_iff_toNat_pos, length]
    exact List.length_pos_iff.mpr nonempty
  have within : offset.toNat + (UInt64.ofNat source.length).toNat ≤ record.size.toNat := by
    rw [length]
    exact inside
  have owned : record.owner = now.owner := writable.owned.trans opened.owner.symm
  have resolved : now.resolveRange (virtualAddress slot + offset) (UInt64.ofNat source.length) =
      some (infoOf slot record.generation record.size record.alignment, offset) := by
    rw [HostNativeMemoryContext.resolveRange,
      view_inside opened.here writable.bounded count within, if_pos owned, Option.map_some,
      infoOf, UInt64.add_comm, UInt64.add_sub_cancel]
  have covered := opened.covered writable count within
  have copied := opened.copyFromHost_ok writable count
    (UInt64.le_iff_toNat_le.mpr (by rw [length]; exact small)) within length.symm env.throwsAfter
  rw [owned] at copied
  unfold HostNativeMemoryContext.functionalWrite WriteEnv.ends
  -- the copies of the two overloads and the chunks of the memory, in the order of the source
  cases copies : env.copies with
  | false =>
    rw [if_pos (.inr (by decide))]
    rfl
  | true =>
  rw [if_neg (not_or.mpr ⟨nonempty, by decide⟩)]
  unfold HostNativeMemoryContext.functionalWriteVector
  dsimp only
  rw [resolved]
  dsimp only
  rw [show (infoOf slot record.generation record.size record.alignment).allocation =
    handleOf slot record from rfl, covered, if_neg (by decide)]
  cases transfers : env.transfers with
  | false => rfl
  | true =>
  rw [if_neg (by decide), HostGPUMemoryState.functionalWriteBytes, copied]
  cases env.throwsAfter with
  | some count => rfl
  | none => rfl

theorem transferPieces_size {bytes : ℕ} {piece : ℕ × ℕ} (member : piece ∈ transferPieces bytes) :
    0 < piece.2 ∧ piece.2 ≤ MaximumTransferBytes.toNat := by
  have largest : MaximumTransferBytes.toNat = 16777216 := by decide
  obtain ⟨index, there, rfl⟩ := List.mem_map.mp member
  rw [List.mem_range, largest] at there
  dsimp only
  rw [largest]
  omega

/-- The pieces of a range end as their allocations of host memory do. -/
theorem writePieces_ends (opened : Opened before now slot record held)
    (writable : Writable before slot record held) {offset : UInt64} {whole : List UInt8}
    (inside : offset.toNat + whole.length ≤ record.size.toNat) (env : UInt64 → WriteEnv)
    (source : ℕ → ℕ → List UInt8) {pieces : List (ℕ × ℕ)}
    (agree : ∀ piece ∈ pieces, (0 < piece.2 ∧ piece.2 ≤ MaximumTransferBytes.toNat) ∧
      piece.1 + piece.2 ≤ whole.length ∧
      source piece.1 piece.2 = (whole.drop piece.1).take piece.2) :
    (writePieces env (virtualAddress slot + offset) source pieces now).1 =
      firstEnd (pieces.map fun piece =>
        (env (virtualAddress slot + offset + UInt64.ofNat piece.1)).ends) := by
  -- a piece that is written leaves the allocation as it was, but for its bytes
  induction pieces generalizing now record with
  | nil => rfl
  | cons piece rest ih =>
    obtain ⟨⟨some, small⟩, fits, part⟩ := agree piece List.mem_cons_self
    have inTable : slot.val < 1024 := slot.isLt
    have base : VirtualAddressBase.toNat = 0x0000100000000000 := by decide
    have stride : VirtualAddressStride.toNat = 0x80000000 := by decide
    have largest : MaximumAllocationBytes.toNat = 0x80000000 := by decide
    have bounded := UInt64.le_iff_toNat_le.mp writable.bounded
    have copied : (UInt64.ofNat piece.1).toNat = piece.1 := toNat_ofNat_of_lt (by omega)
    have start : (offset + UInt64.ofNat piece.1).toNat = offset.toNat + piece.1 := by
      rw [toNat_add_exact (by rw [copied]; omega), copied]
    have address : (virtualAddress slot + offset).toNat = _ :=
      toNat_address (by rw [stride]; omega)
    have length : ((whole.drop piece.1).take piece.2).length = piece.2 := by
      rw [List.length_take, List.length_drop]
      omega
    have within : (offset + UInt64.ofNat piece.1).toNat +
        ((whole.drop piece.1).take piece.2).length ≤ record.size.toNat := by
      rw [start, length]
      omega
    have ends := functionalWrite_ends opened writable
      (List.length_pos_iff.mp (by rw [length]; exact some)) (by rw [length]; exact small) within
      (env (virtualAddress slot + (offset + UInt64.ofNat piece.1)))
    obtain ⟨chunks, wrote, -⟩ := functionalWrite_opened opened writable.bounded within 0
      (env (virtualAddress slot + (offset + UInt64.ofNat piece.1)))
    have room : ¬ virtualAddress slot + offset > u64Max - UInt64.ofNat piece.1 := by
      rw [gt_iff_lt, max_sub_lt_iff, address, copied, base, stride]
      omega
    unfold writePieces
    rw [if_neg room, List.map_cons, firstEnd_cons, UInt64.add_assoc, part, ← ends]
    dsimp only
    split
    · rename_i after succeeded
      rw [succeeded] at wrote ⊢
      rw [if_pos rfl]
      exact ih wrote (writable.withChunks chunks) inside fun piece member =>
        agree piece (List.mem_cons_of_mem _ member)
    · rename_i ended after stopped failed
      rw [failed, if_neg stopped]

theorem writeRange_ends (opened : Opened before now slot record held)
    (writable : Writable before slot record held) {offset : UInt64} {source : List UInt8}
    (inside : offset.toNat + source.length ≤ record.size.toNat) (env : MapEnv) :
    (writeRange env (virtualAddress slot + offset) source now).1 =
      firstEnd ((fileSteps (virtualAddress slot + offset) source.length).map
        (CopyStep.ends env)) := by
  rw [writeRange, writePieces_ends opened writable inside env.writes
    (fun copied count => (source.drop copied).take count)
    fun piece member => ⟨transferPieces_size member, transferPieces_inside member, rfl⟩,
    fileSteps, List.map_map]
  rfl

/-- A clear succeeds if its zeros can be allocated and its pieces are written. The writes stay
closed while the clear is opened, since the pieces are not to be counted there. -/
theorem zeroRange_eq_true {env : MapEnv} {address bytes : UInt64} (nonempty : bytes ≠ 0)
    (context : HostNativeMemoryContext) :
    (zeroRange env address bytes context).1 = true ↔ env.zeros address = true ∧
      (writePieces env.writes address (fun _ count => List.replicate count 0)
        (transferPieces bytes.toNat) context).1 = .written := by
  unfold zeroRange
  generalize writePieces env.writes address (fun _ count => List.replicate count 0)
    (transferPieces bytes.toNat) context = reply
  obtain ⟨ended, after⟩ := reply
  rw [if_neg nonempty]
  cases env.zeros address with
  | false => exact ⟨nofun, fun both => nomatch both.1⟩
  | true => exact beq_iff_eq.trans (and_iff_right rfl).symm

theorem zeroRange_ends (opened : Opened before now slot record held)
    (writable : Writable before slot record held) {offset bytes : UInt64}
    (inside : offset.toNat + bytes.toNat ≤ record.size.toNat) (env : MapEnv) :
    firstEnd ((clearSteps (virtualAddress slot + offset) bytes.toNat).map (CopyStep.ends env)) =
      if (zeroRange env (virtualAddress slot + offset) bytes now).1 = true then .written
      else .refused := by
  by_cases none : bytes = 0
  · rw [none, zeroRange, if_pos rfl]
    rfl
  have positive := ne_zero_iff_toNat_pos.mp none
  have length : (List.replicate bytes.toNat (0 : UInt8)).length = bytes.toNat :=
    List.length_replicate
  have ends := @writePieces_ends _ _ _ _ _ opened writable offset
    (List.replicate bytes.toNat 0) (by rw [length]; exact inside) env.writes
    (fun _ count => List.replicate count 0) (transferPieces bytes.toNat) (by
      intro piece member
      have fits := transferPieces_inside member
      rw [length, List.drop_replicate, List.take_replicate, Nat.min_eq_left (by omega)]
      exact ⟨transferPieces_size member, fits, rfl⟩)
  -- what leaves a write of the clear is caught, so that the clear is only refused
  have caught := firstEnd_caught (fun piece : ℕ × ℕ =>
    (env.writes (virtualAddress slot + offset + UInt64.ofNat piece.1)).ends)
    (transferPieces bytes.toNat)
  rw [← ends] at caught
  rw [clearSteps, if_neg (by omega), List.map_cons, List.map_map, firstEnd_cons,
    if_congr (zeroRange_eq_true none now) rfl rfl]
  generalize (writePieces env.writes (virtualAddress slot + offset)
    (fun _ count => List.replicate count 0) (transferPieces bytes.toNat) now).1 = ended at caught ⊢
  cases zeros : env.zeros (virtualAddress slot + offset) with
  | false =>
    have refused : CopyStep.ends env (.zeros (virtualAddress slot + offset)) = .refused :=
      if_neg (by rw [zeros]; decide)
    rw [refused, if_neg (by decide), if_neg (fun both => nomatch both.1)]
  | true =>
    have prepared : CopyStep.ends env (.zeros (virtualAddress slot + offset)) = .written :=
      if_pos zeros
    rw [prepared, if_pos rfl, if_congr (and_iff_right rfl) rfl rfl]
    exact caught

end Writes

section Segments

variable {before now : HostNativeMemoryContext} {slot : Fin MaximumAllocations}
  {record : Allocation} {held : List PageLease} {image : List UInt8} {segment : LoadSegment}
  {segments : List LoadSegment} {mappedBase : UInt64}

/-- The copies of a segment that lies in the allocation end as their allocations of host memory
do. -/
theorem copySegment_ends (valid : loadSegmentValid image segment = true)
    (opened : Opened before now slot record held)
    (writable : Writable before slot record held)
    (inside : (segment.virtualAddress - mappedBase).toNat + segment.memorySize.toNat ≤
      record.size.toNat) (env : MapEnv) :
    endOf (copySegment env image (virtualAddress slot) mappedBase record.size segment now).1 =
      firstEnd ((segmentSteps (virtualAddress slot) mappedBase segment).map
        (CopyStep.ends env)) := by
  have inTable : slot.val < 1024 := slot.isLt
  have base : VirtualAddressBase.toNat = 0x0000100000000000 := by decide
  have stride : VirtualAddressStride.toNat = 0x80000000 := by decide
  have largest : MaximumAllocationBytes.toNat = 0x80000000 := by decide
  have bounded := UInt64.le_iff_toNat_le.mp writable.bounded
  have start := toNat_virtualAddress slot
  obtain ⟨larger, -, -⟩ := fits_of_valid valid
  have length := length_fileBytes valid
  unfold copySegment segmentSteps
  extract_lets relative mappedAddress bytes
  have place : relative.toNat + segment.memorySize.toNat ≤ record.size.toNat := inside
  -- the checks of the segment pass, since it lies in the allocation
  have admitted : ¬ (relative > record.size ∨ segment.memorySize > record.size - relative ∨
      virtualAddress slot > u64Max - relative) := by
    have room : (record.size - relative).toNat = record.size.toNat - relative.toNat :=
      toNat_sub_exact (by omega)
    rw [not_or, not_or, gt_iff_lt, gt_iff_lt, gt_iff_lt, max_sub_lt_iff, UInt64.lt_iff_toNat_lt,
      UInt64.lt_iff_toNat_lt, room, start, base, stride]
    exact ⟨by omega, by omega, by omega⟩
  have rest : (segment.memorySize - segment.fileSize).toNat =
      segment.memorySize.toNat - segment.fileSize.toNat := toNat_sub_exact larger
  have tail : (relative + segment.fileSize).toNat = relative.toNat + segment.fileSize.toNat :=
    toNat_add_exact (by omega)
  have filed := @writeRange_ends _ _ _ _ _ opened writable relative bytes
    (by rw [length]; omega) env
  obtain ⟨chunks, wrote, -⟩ := @writeRange_opened _ _ _ _ _ opened writable.bounded relative bytes
    (by rw [length]; omega) env
  rw [length] at filed
  rw [if_neg admitted, List.map_append, firstEnd_append, ← filed]
  split
  · rename_i middle failed
    rw [failed, if_neg nofun]
    rfl
  · rename_i middle failed
    rw [failed, if_neg nofun]
    rfl
  rename_i middle copied
  rw [copied] at wrote ⊢
  -- the clear starts where the file bytes end
  have cleared := @zeroRange_ends _ _ _ _ _ wrote (writable.withChunks chunks)
    (relative + segment.fileSize) (segment.memorySize - segment.fileSize)
    (by rw [tail, rest]; dsimp only; omega) env
  rw [← UInt64.add_assoc, rest] at cleared
  rw [if_pos rfl, cleared]
  split
  rename_i done after ended
  rw [ended]
  cases done with
  | false => rfl
  | true => rfl

theorem copySegments_ends (valid : ∀ segment ∈ segments, loadSegmentValid image segment = true)
    (opened : Opened before now slot record held)
    (writable : Writable before slot record held)
    (inside : ∀ segment ∈ segments, (segment.virtualAddress - mappedBase).toNat +
      segment.memorySize.toNat ≤ record.size.toNat) (env : MapEnv) :
    endOf (copySegments env image (virtualAddress slot) mappedBase record.size segments now).1 =
      firstEnd ((segments.flatMap (segmentSteps (virtualAddress slot) mappedBase)).map
        (CopyStep.ends env)) := by
  -- a segment that is copied leaves an allocation that can still be written
  induction segments generalizing now record with
  | nil => rfl
  | cons segment rest ih =>
    have first := copySegment_ends (valid segment List.mem_cons_self) opened writable
      (inside segment List.mem_cons_self) env
    obtain ⟨chunks, wrote, -⟩ := copySegment_opened (valid segment List.mem_cons_self) opened
      writable.bounded env mappedBase
    unfold copySegments
    rw [List.flatMap_cons, List.map_append, firstEnd_append, ← first]
    split
    · rename_i ended after failed
      rw [failed]
      cases ended <;> rfl
    · rename_i mapped after copied
      rw [copied] at wrote
      have others := ih (fun segment member => valid segment (List.mem_cons_of_mem _ member)) wrote
        (writable.withChunks chunks)
        (fun segment member => inside segment (List.mem_cons_of_mem _ member))
      rw [copied, ← others]
      generalize copySegments env image (virtualAddress slot) mappedBase record.size rest after =
        reply
      obtain ⟨reply, last⟩ := reply
      cases reply with
      | error ended => cases ended <;> rfl
      | ok others => rfl

end Segments

end GemSim.Dispatch
