import Mathlib.Algebra.NeZero
import Mathlib.Algebra.Order.Ring.Nat
import Mathlib.Data.List.Range
import Mathlib.Logic.Function.Basic

/-!
# Chunked stores

A store of bytes kept in chunks of one size, where a chunk exists only once it has been
written. A transfer walks its range chunk by chunk and splits it at the chunk boundaries;
a chunk that is absent reads as zero, and a write first creates the chunks it misses. The
contents of the store are a function of the address, and the loops read and write it as if
it were contiguous.

## Main definitions

* `ChunkMap` — the chunks that exist
* `contents` — the byte at an address
* `readLoop`, `writeLoop` — the loops over the chunks of a range
* `missingChunks`, `insertChunks`, `eraseChunks` — creating chunks, and undoing it

## Main results

* `readLoop_eq` — the read loop returns the contents of its range
* `contents_write` — a write changes the contents of its range, and only those
* `eraseChunks_insertChunks` — undoing the creation of missing chunks restores the map
-/

namespace GemSim.Lib

/-- The chunks that exist, by index; a chunk is its bytes, by offset. -/
abbrev ChunkMap (Byte : Type*) := ℕ → Option (ℕ → Byte)

namespace ChunkMap

variable {Byte : Type*} (size : ℕ)

section Definitions

variable [Zero Byte]

/-- A chunk of zeros. -/
def zeroChunk : ℕ → Byte := fun _ => 0

/-- The byte at an offset of a chunk that may be absent. -/
def byteOf (chunk : Option (ℕ → Byte)) (offset : ℕ) : Byte := (chunk.map fun bytes => bytes offset).getD 0

/-- The byte at an address. -/
def contents (chunks : ChunkMap Byte) (address : ℕ) : Byte :=
  byteOf (chunks (address / size)) (address % size)

/-- How many of the remaining bytes lie in the chunk of an address. -/
def countIn (address remaining : ℕ) : ℕ := min remaining (size - address % size)

theorem countIn_pos [NeZero size] (address : ℕ) {remaining : ℕ} (more : 0 < remaining) :
    0 < countIn size address remaining :=
  lt_min more (Nat.sub_pos_of_lt (Nat.mod_lt _ (NeZero.pos size)))

theorem countIn_le (address remaining : ℕ) : countIn size address remaining ≤ remaining :=
  min_le_left _ _

/-- Copy a range out of the chunks, from the bytes already copied on. -/
def readLoop [NeZero size] (chunks : ChunkMap Byte) (offset bytes copied : ℕ) : List Byte :=
  if copied < bytes then
    let absolute := offset + copied
    let count := countIn size absolute (bytes - copied)
    (List.range count).map (fun index => byteOf (chunks (absolute / size)) (absolute % size + index))
      ++ readLoop chunks offset bytes (copied + count)
  else []
termination_by bytes - copied
decreasing_by
  have := countIn_pos size (offset + copied) (Nat.sub_pos_of_lt ‹copied < bytes›)
  omega

/-- Copy `count` bytes of the source, from `first` on, into a chunk at an offset. -/
def copyIn (source : ℕ → Byte) (first offset count : ℕ) (chunk : ℕ → Byte) : ℕ → Byte :=
  fun position =>
    if offset ≤ position ∧ position < offset + count then source (first + (position - offset))
    else chunk position

/-- Copy the source into the chunks of a range, from the bytes already copied on. Every
chunk of the range exists. -/
def writeLoop [NeZero size] (source : ℕ → Byte) (offset bytes copied : ℕ) (chunks : ChunkMap Byte) :
    ChunkMap Byte :=
  if copied < bytes then
    let address := offset + copied
    let count := countIn size address (bytes - copied)
    writeLoop source offset bytes (copied + count)
      (Function.update chunks (address / size)
        ((chunks (address / size)).map (copyIn source copied (address % size) count)))
  else chunks
termination_by bytes - copied
decreasing_by
  have := countIn_pos size (offset + copied) (Nat.sub_pos_of_lt ‹copied < bytes›)
  omega

/-- The chunks of a range that do not exist. -/
def missingChunks (chunks : ChunkMap Byte) (offset bytes : ℕ) : List ℕ :=
  (List.range' (offset / size) ((offset + bytes - 1) / size - offset / size + 1)).filter
    fun chunk => (chunks chunk).isNone

/-- Create zeroed chunks. -/
def insertChunks (chunks : ChunkMap Byte) (indices : List ℕ) : ChunkMap Byte :=
  indices.foldl (fun chunks index => Function.update chunks index (some zeroChunk)) chunks

def eraseChunks (chunks : ChunkMap Byte) (indices : List ℕ) : ChunkMap Byte :=
  indices.foldl (fun chunks index => Function.update chunks index none) chunks

end Definitions

section Loops

variable [NeZero size]

/-- The bytes counted lie in one chunk: their addresses have its index, and consecutive
offsets. -/
theorem within_chunk {address remaining index : ℕ} (below : index < countIn size address remaining) :
    (address + index) / size = address / size ∧
      (address + index) % size = address % size + index := by
  have pos : 0 < size := NeZero.pos size
  have fits : address % size + index < size := by
    have := below.trans_le (min_le_right _ _)
    have := Nat.mod_lt address pos
    omega
  have split : address + index = (address % size + index) + size * (address / size) := by
    have := Nat.mod_add_div address size
    omega
  rw [split, Nat.add_mul_div_left _ _ pos, Nat.add_mul_mod_self_left, Nat.div_eq_of_lt fits,
    Nat.mod_eq_of_lt fits, Nat.zero_add]
  exact ⟨rfl, rfl⟩

/-- The read loop returns the contents of its range. -/
theorem readLoop_eq [Zero Byte] (chunks : ChunkMap Byte) (offset bytes copied : ℕ) :
    readLoop size chunks offset bytes copied =
      (List.range' (offset + copied) (bytes - copied)).map (contents size chunks) := by
  fun_induction readLoop size chunks offset bytes copied with
  | case1 copied more absolute count ih =>
    -- the first chunk of the range, and then the rest of it
    have fits : count ≤ bytes - copied := countIn_le size _ _
    have split : bytes - copied = count + (bytes - (copied + count)) := by omega
    rw [ih, split, ← List.range'_append_1, List.map_append, ← Nat.add_assoc]
    congr 1
    rw [List.range'_eq_map_range, List.map_map]
    refine List.map_congr_left fun index member => ?_
    obtain ⟨chunk, inside⟩ := within_chunk size (List.mem_range.mp member)
    simp only [Function.comp_apply, contents, chunk, inside, absolute]
  | case2 copied done =>
    rw [Nat.sub_eq_zero_of_le (Nat.le_of_not_lt done)]
    rfl

/-- Copying into one chunk changes the contents of its range. -/
theorem contents_copyIn [Zero Byte] {chunks : ChunkMap Byte} {address remaining : ℕ} {chunk : ℕ → Byte}
    (present : chunks (address / size) = some chunk) (source : ℕ → Byte) (first other : ℕ) :
    contents size (Function.update chunks (address / size) ((chunks (address / size)).map
        (copyIn source first (address % size) (countIn size address remaining)))) other =
      if address ≤ other ∧ other < address + countIn size address remaining then
        source (first + (other - address))
      else contents size chunks other := by
  have pos : 0 < size := NeZero.pos size
  by_cases same : other / size = address / size
  · have left := Nat.mod_add_div address size
    have right := Nat.mod_add_div other size
    rw [same] at right
    simp only [contents, same, Function.update_self, present, Option.map_some, byteOf,
      Option.getD_some, copyIn]
    by_cases inside : address ≤ other ∧ other < address + countIn size address remaining
    · rw [if_pos inside, if_pos (by omega)]
      congr 1
      omega
    · rw [if_neg inside, if_neg (by omega)]
  · rw [contents, Function.update_of_ne same, ← contents, if_neg]
    rintro ⟨above, below⟩
    -- an address in the counted range would lie in the same chunk
    have inside := (within_chunk size (by omega : other - address < countIn size address remaining)).1
    rw [Nat.add_sub_cancel' above] at inside
    exact same inside

omit [NeZero size] in
theorem isSome_update_map (chunks : ChunkMap Byte) (index other : ℕ)
    (change : (ℕ → Byte) → ℕ → Byte) :
    (Function.update chunks index ((chunks index).map change) other).isSome =
      (chunks other).isSome := by
  by_cases same : other = index
  · subst same
    simp
  · rw [Function.update_of_ne same]

/-- The write loop changes the contents of its range, and only those. -/
theorem contents_writeLoop [Zero Byte] (source : ℕ → Byte) (offset bytes copied : ℕ) (chunks : ChunkMap Byte)
    (present : ∀ index, copied ≤ index → index < bytes →
      (chunks ((offset + index) / size)).isSome = true) (other : ℕ) :
    contents size (writeLoop size source offset bytes copied chunks) other =
      if offset + copied ≤ other ∧ other < offset + bytes then source (other - offset)
      else contents size chunks other := by
  fun_induction writeLoop size source offset bytes copied chunks with
  | case1 copied chunks more address count ih =>
    have fits : count ≤ bytes - copied := countIn_le size _ _
    have positive : 0 < count := countIn_pos size _ (Nat.sub_pos_of_lt more)
    obtain ⟨chunk, here⟩ := Option.isSome_iff_exists.mp (present copied le_rfl more)
    rw [ih fun index above below => by
      rw [isSome_update_map]
      exact present index (by omega) below]
    -- the rest of the range was written after the first chunk of it
    rw [contents_copyIn size here]
    by_cases later : offset + (copied + count) ≤ other ∧ other < offset + bytes
    · rw [if_pos later, if_pos (by omega)]
    · rw [if_neg later]
      by_cases now : address ≤ other ∧ other < address + count
      · rw [if_pos now, if_pos (by omega)]
        congr 1
        omega
      · rw [if_neg now, if_neg (by omega)]
  | case2 copied chunks done =>
    rw [if_neg (by omega)]

end Loops

section Creation

theorem insertChunks_apply [Zero Byte] (chunks : ChunkMap Byte) (indices : List ℕ) (other : ℕ) :
    insertChunks chunks indices other =
      if other ∈ indices then some zeroChunk else chunks other := by
  induction indices generalizing chunks with
  | nil => simp [insertChunks]
  | cons index rest ih =>
    have step : insertChunks chunks (index :: rest) =
        insertChunks (Function.update chunks index (some zeroChunk)) rest := rfl
    rw [step, ih]
    by_cases later : other ∈ rest
    · simp [later]
    · by_cases same : other = index <;> simp [later, same]

theorem eraseChunks_apply (chunks : ChunkMap Byte) (indices : List ℕ) (other : ℕ) :
    eraseChunks chunks indices other = if other ∈ indices then none else chunks other := by
  induction indices generalizing chunks with
  | nil => simp [eraseChunks]
  | cons index rest ih =>
    have step : eraseChunks chunks (index :: rest) =
        eraseChunks (Function.update chunks index none) rest := rfl
    rw [step, ih]
    by_cases later : other ∈ rest
    · simp [later]
    · by_cases same : other = index <;> simp [later, same]

theorem mem_missingChunks {chunks : ChunkMap Byte} {offset bytes index : ℕ} :
    index ∈ missingChunks size chunks offset bytes ↔
      (offset / size ≤ index ∧
        index < offset / size + ((offset + bytes - 1) / size - offset / size + 1)) ∧
        chunks index = none := by
  rw [missingChunks, List.mem_filter, List.mem_range'_1, Option.isNone_iff_eq_none]

/-- New chunks do not change the contents. -/
theorem contents_insertChunks [Zero Byte] {chunks : ChunkMap Byte} {indices : List ℕ}
    (absent : ∀ index ∈ indices, chunks index = none) (address : ℕ) :
    contents size (insertChunks chunks indices) address = contents size chunks address := by
  rw [contents, insertChunks_apply]
  by_cases created : address / size ∈ indices
  · rw [if_pos created, contents, absent _ created]
    rfl
  · rw [if_neg created, contents]

/-- Undoing the creation of missing chunks restores the map. -/
theorem eraseChunks_insertChunks [Zero Byte] {chunks : ChunkMap Byte} {indices : List ℕ}
    (absent : ∀ index ∈ indices, chunks index = none) :
    eraseChunks (insertChunks chunks indices) indices = chunks := by
  funext other
  rw [eraseChunks_apply, insertChunks_apply]
  by_cases created : other ∈ indices
  · rw [if_pos created, absent other created]
  · rw [if_neg created, if_neg created]

/-- With its missing chunks created, every chunk of a range exists. -/
theorem isSome_insert_missing [Zero Byte] (chunks : ChunkMap Byte) {offset bytes index : ℕ}
    (below : index < bytes) :
    (insertChunks chunks (missingChunks size chunks offset bytes)
      ((offset + index) / size)).isSome = true := by
  have first : offset / size ≤ (offset + index) / size := Nat.div_le_div_right (by omega)
  have last : (offset + index) / size ≤ (offset + bytes - 1) / size :=
    Nat.div_le_div_right (by omega)
  rw [insertChunks_apply]
  by_cases created : (offset + index) / size ∈ missingChunks size chunks offset bytes
  · rw [if_pos created]
    rfl
  · rw [if_neg created]
    rw [mem_missingChunks, not_and] at created
    exact Option.isSome_iff_ne_none.mpr (created ⟨first, by omega⟩)

theorem missing_absent {chunks : ChunkMap Byte} {offset bytes : ℕ} :
    ∀ index ∈ missingChunks size chunks offset bytes, chunks index = none :=
  fun _ member => ((mem_missingChunks size).mp member).2

/-- A write that creates what it misses changes the contents of its range, and only those. -/
theorem contents_write [Zero Byte] [NeZero size] (chunks : ChunkMap Byte) (source : ℕ → Byte)
    (offset bytes other : ℕ) :
    contents size (writeLoop size source offset bytes 0
        (insertChunks chunks (missingChunks size chunks offset bytes))) other =
      if offset ≤ other ∧ other < offset + bytes then source (other - offset)
      else contents size chunks other := by
  rw [contents_writeLoop size source offset bytes 0 _
    fun index _ below => isSome_insert_missing size chunks below,
    contents_insertChunks size (missing_absent size), Nat.add_zero]

end Creation

end ChunkMap

end GemSim.Lib
