import GemSim.Kmt.State
import GemSim.Kmt.MemoryOps

/-!
# Writes into the shared backing

One client exports one backing file. The daemon writes it in three ways: through an
allocation that a GPU VA resolves to, through the completion word that shadows a
queue's read index, and, from the client's side, through a doorbell word. The client's
own process memory, behind userptr allocations, is outside the model.

## Main definitions

* `HostKmtSharedBacking` — size and bytes of the file, `write` its bounded write
* `nativeWrite` — a write by GPU VA
* `queueWrite` — a write by GPU VA with the read index redirected to its completion word
* `doorbellWrite` — a client's store to a doorbell word
-/

namespace GemSim.Kmt

open GemSim.Lib HostGPUKmtState

/-- The backing file of a client. -/
structure HostKmtSharedBacking where
  byteCount : UInt64
  bytes : ℕ → UInt8

/-- How the system calls behind a write end: the bytes `pwrite` moves before it fails, if
it does, and whether a write to the client's process succeeds. -/
structure WriteEnv where
  moved : ℕ := 2 ^ 64
  process : Bool := true

namespace HostKmtSharedBacking

/-- Write a range of the file; a write that fails on the way keeps what it moved. -/
def write (backing : HostKmtSharedBacking) (env : WriteEnv) (offset : UInt64)
    (source : ℕ → UInt8) (bytes : UInt64) : Bool × HostKmtSharedBacking :=
  if bytes = 0 ∨ offset > backing.byteCount ∨ bytes > backing.byteCount - offset then
    (false, backing)
  else
    (decide (bytes.toNat ≤ env.moved), { backing with
      bytes := fun byte =>
        if offset.toNat ≤ byte ∧ byte < offset.toNat + min env.moved bytes.toNat then
          source (byte - offset.toNat)
        else backing.bytes byte })

/-- A write changes bytes of its own range only, and only if the range fits the file. -/
theorem write_frame (backing : HostKmtSharedBacking) (env : WriteEnv) (offset : UInt64)
    (source : ℕ → UInt8) (bytes : UInt64) {byte : ℕ}
    (outside : offset.toNat + bytes.toNat ≤ backing.byteCount.toNat →
      ¬ (offset.toNat ≤ byte ∧ byte < offset.toNat + bytes.toNat)) :
    (backing.write env offset source bytes).2.bytes byte = backing.bytes byte := by
  unfold write
  split
  · rfl
  · rename_i fits
    push Not at fits
    obtain ⟨-, offsetLe, bytesLe⟩ := fits
    rw [gt_iff_lt, UInt64.not_lt, UInt64.le_iff_toNat_le] at offsetLe bytesLe
    rw [toNat_sub_exact offsetLe] at bytesLe
    refine if_neg fun inside => outside (by omega) ⟨inside.1, ?_⟩
    have short := min_le_right env.moved bytes.toNat
    omega

/-- A write that fits and is not cut short leaves its source there. -/
theorem write_inside {backing : HostKmtSharedBacking} {env : WriteEnv} {offset : UInt64}
    {source : ℕ → UInt8} {bytes : UInt64} (positive : bytes ≠ 0)
    (fits : offset.toNat + bytes.toNat ≤ backing.byteCount.toNat)
    (whole : bytes.toNat ≤ env.moved) {byte : ℕ} (above : offset.toNat ≤ byte)
    (below : byte < offset.toNat + bytes.toNat) :
    (backing.write env offset source bytes).2.bytes byte = source (byte - offset.toNat) := by
  have offsetLe : offset ≤ backing.byteCount := UInt64.le_iff_toNat_le.mpr (by omega)
  have admitted :
      ¬ (bytes = 0 ∨ offset > backing.byteCount ∨ bytes > backing.byteCount - offset) := by
    rintro (zero | past | long)
    · exact positive zero
    · exact absurd offsetLe (UInt64.not_le.mpr past)
    · rw [gt_iff_lt, UInt64.lt_iff_toNat_lt, toNat_sub_exact (UInt64.le_iff_toNat_le.mp offsetLe)]
        at long
      omega
  rw [write, if_neg admitted]
  exact if_pos ⟨above, by rw [min_eq_right whole]; exact below⟩

end HostKmtSharedBacking

variable (state : HostGPUKmtState) (transportOwner : Owner) (ownerId ownerGeneration : UInt64)

/-- `HostKmtNativeMemory::write` of a client with a backing. -/
def nativeWrite (backing : HostKmtSharedBacking) (env : WriteEnv) (address : UInt64)
    (source : ℕ → UInt8) (byteCount : UInt64) : Bool × HostKmtSharedBacking :=
  match state.memoryInfo transportOwner ownerId ownerGeneration address byteCount with
  | none => (false, backing)
  | some info =>
    let relative := address - info.gpuVa
    if info.mmapOffset > u64Max - relative then (false, backing)
    else if isUserptr info.flags then (env.process, backing)
    else backing.write env (info.mmapOffset + relative) source byteCount

/-- The range meets the eight bytes of the read index. -/
def overlapsReadIndex (readIndexAddress address byteCount : UInt64) : Bool :=
  if byteCount = 0 ∨ readIndexAddress = 0 ∨ readIndexAddress > u64Max - 8 ∨
      address > u64Max - (byteCount - 1) then false
  else
    address ≤ readIndexAddress + 8 - 1 && readIndexAddress ≤ address + byteCount - 1

/-- `HostKmtQueueMemory::write` of a queue: its read index is kept in its completion word. -/
def queueWrite (queue : Queue) (backing : HostKmtSharedBacking) (env : WriteEnv)
    (address : UInt64) (source : ℕ → UInt8) (byteCount : UInt64) : Bool × HostKmtSharedBacking :=
  if queue.readPointer = 0 ∨ queue.readPointer > u64Max - 8 then (false, backing)
  else if overlapsReadIndex queue.readPointer address byteCount then
    if address = queue.readPointer ∧ byteCount = 8 then
      backing.write env queue.completionOffset source byteCount
    else (false, backing)
  else nativeWrite state transportOwner ownerId ownerGeneration backing env address source byteCount

/-- A client's store to the doorbell word of a queue. -/
def doorbellWrite (queue : Queue) (backing : HostKmtSharedBacking) (env : WriteEnv)
    (source : ℕ → UInt8) : Bool × HostKmtSharedBacking :=
  backing.write env queue.doorbellOffset source 8

end GemSim.Kmt
