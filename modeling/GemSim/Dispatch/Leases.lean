import GemSim.Dispatch.CodeObjectMapper
import GemSim.Memory.Usage

/-!
# What the operations on page leases keep

Every lease the context holds stands in the memory under its token, and tokens are never
issued twice. The operations of the context, and those of the mapper built on it, keep
this, and touch no allocation but the one they are about.

## Main definitions

* `ContextSound` — leases and memory agree
* `Moves` — an operation that touches only some allocations

## Main results

* `map_moves`, `unmap_moves`, `free_moves`, `write_moves`, … — one for each operation
* `map_eq_some`, `unmap_of_held` — what a lease taken or given back changes
* `mapCodeObject_spec`, `unmapCodeObject_spec` — the mapper
-/

namespace GemSim.Dispatch

open GemSim.Lib GemSim.Domain GemSim.Memory GemSim.CodeObject

/-- Every lease that is held stands in the memory, under a token of its own. -/
structure ContextSound (context : HostNativeMemoryContext) : Prop where
  memory : context.memory.Sound
  held : ∀ lease ∈ context.leases, ∃ use,
    context.memory.usage context.owner lease.allocation = some use ∧ lease.token ∈ use.tokens
  issued : ∀ lease ∈ context.leases,
    lease.token ≠ 0 ∧ lease.token.toNat < context.tokens.bound
  distinct : ∀ first ∈ context.leases, ∀ second ∈ context.leases,
    first.token = second.token → first = second

/-- An operation that touches only the allocations with a property. -/
structure Moves (touched : AllocationHandle → Prop) (context after : HostNativeMemoryContext) :
    Prop where
  sound : ContextSound after
  progress : context.memory.Progress after.memory
  owner : after.owner = context.owner
  pageSize : after.pageSize = context.pageSize
  tokens : context.tokens.bound ≤ after.tokens.bound
  frame : ∀ other name, ¬ touched name →
    after.memory.usage other name = context.memory.usage other name
  leases : ∀ lease, ¬ touched lease.allocation → (lease ∈ after.leases ↔ lease ∈ context.leases)

variable {context middle after : HostNativeMemoryContext} {touched more : AllocationHandle → Prop}
  {owner : OwnerKey} {handle : AllocationHandle} {lease : PageLease}

theorem Moves.refl (sound : ContextSound context) : Moves touched context context :=
  ⟨sound, sound.memory.refl, rfl, rfl, le_rfl, fun _ _ _ => rfl, fun _ _ => Iff.rfl⟩

theorem Moves.trans (first : Moves touched context middle) (second : Moves touched middle after) :
    Moves touched context after where
  sound := second.sound
  progress := first.progress.trans second.progress
  owner := second.owner.trans first.owner
  pageSize := second.pageSize.trans first.pageSize
  tokens := first.tokens.trans second.tokens
  frame other name spared := (second.frame other name spared).trans (first.frame other name spared)
  leases lease spared := (second.leases lease spared).trans (first.leases lease spared)

theorem Moves.mono (moves : Moves touched context after) (imp : ∀ name, touched name → more name) :
    Moves more context after where
  sound := moves.sound
  progress := moves.progress
  owner := moves.owner
  pageSize := moves.pageSize
  tokens := moves.tokens
  frame other name spared := moves.frame other name (mt (imp name) spared)
  leases lease spared := moves.leases lease (mt (imp _) spared)

section Memory

/-- A call on the memory that keeps the tokens of the leases that are held. -/
theorem moves_memory (sound : ContextSound context) {memory : HostGPUMemoryState}
    (progress : context.memory.Progress memory)
    (frame : ∀ other name, ¬ touched name →
      memory.usage other name = context.memory.usage other name)
    (held : ∀ lease ∈ context.leases, ∃ use,
      memory.usage context.owner lease.allocation = some use ∧ lease.token ∈ use.tokens) :
    Moves touched context { context with memory := memory } where
  sound := ⟨progress.sound, held, sound.issued, sound.distinct⟩
  progress := progress
  owner := rfl
  pageSize := rfl
  tokens := le_rfl
  frame := frame
  leases _ _ := Iff.rfl

/-- The use of one handle changes, and no token of a lease that is held goes. -/
theorem moves_assign (sound : ContextSound context) {memory : HostGPUMemoryState}
    {entry : Option Usage} (progress : context.memory.Progress memory) (named : touched handle)
    (changed : memory.usage = context.memory.usage.assign owner handle entry)
    (kept : ∀ lease ∈ context.leases, lease.allocation = handle → context.owner = owner →
      ∃ use, entry = some use ∧ lease.token ∈ use.tokens) :
    Moves touched context { context with memory := memory } := by
  refine moves_memory sound progress ?_ ?_
  · intro other name spared
    rw [changed, Uses.assign_other]
    rintro ⟨-, rfl⟩
    exact spared named
  · intro lease member
    by_cases hit : context.owner = owner ∧ lease.allocation = handle
    · obtain ⟨use, rfl, there⟩ := kept lease member hit.2 hit.1
      exact ⟨use, by rw [changed]; exact if_pos hit, there⟩
    · rw [changed, Uses.assign_other _ _ hit]
      exact sound.held lease member

theorem free_moves (sound : ContextSound context) (named : touched handle) :
    Moves touched context (freeAllocation context owner handle).2 := by
  unfold freeAllocation
  rcases context.memory.free_usage owner handle with ⟨-, same⟩ | ⟨use, found, idle, -, changed⟩
  · dsimp only
    rw [same]
    exact .refl sound
  · refine moves_assign sound (sound.memory.free owner handle) named changed ?_
    -- an allocation that is freed had no lease
    rintro lease member rfl rfl
    obtain ⟨other, there, token⟩ := sound.held lease member
    obtain rfl := Option.some.inj (found.symm.trans there)
    rw [idle.2] at token
    cases token

theorem free_of_idle {use : Usage} (byOwner : validOwner owner = true)
    (valid : validHandle handle = true) (found : context.memory.usage owner handle = some use)
    (idle : use.idle) :
    (freeAllocation context owner handle).1 = true ∧
      (freeAllocation context owner handle).2.leases = context.leases ∧
      (freeAllocation context owner handle).2.memory.usage =
        context.memory.usage.assign owner handle none := by
  obtain ⟨freed, changed⟩ := HostGPUMemoryState.free_of_usage byOwner valid found idle
  exact ⟨freed, rfl, changed⟩

theorem write_moves (sound : ContextSound context) (address : UInt64) (source : List UInt8)
    (dispatchRequestId : UInt64) (env : WriteEnv) :
    Moves touched context (context.functionalWrite address source dispatchRequestId env).2 := by
  unfold HostNativeMemoryContext.functionalWrite
  split
  · exact .refl sound
  unfold HostNativeMemoryContext.functionalWriteVector
  dsimp only
  split
  · exact .refl sound
  split
  · exact .refl sound
  split
  · exact .refl sound
  · refine moves_memory sound (sound.memory.copyFromHost _ _ _ _) ?_ ?_
    · intro other name _
      exact congrFun (congrFun (HostGPUMemoryState.usage_copyFromHost _ _ _ _ _) other) name
    · intro lease member
      have same := HostGPUMemoryState.usage_copyFromHost
      unfold HostGPUMemoryState.functionalWriteBytes
      rw [same]
      exact sound.held lease member

end Memory

section Leases

theorem map_eq_some {address byteCount : UInt64} {emplaces : Bool}
    (mapped : context.map address byteCount emplaces = (some lease, after)) :
    ∃ info offset use, context.resolveRange address byteCount = some (info, offset) ∧
      lease.allocation = info.allocation ∧ lease.token ≠ 0 ∧
      context.memory.usage context.owner info.allocation = some use ∧
      after.leases = lease :: context.leases ∧
      after.memory.usage = context.memory.usage.assign context.owner info.allocation
        (some { use with tokens := insert lease.token use.tokens }) := by
  unfold HostNativeMemoryContext.map at mapped
  split at mapped
  · cases mapped
  rename_i info offset found
  dsimp only at mapped
  split at mapped
  · cases mapped
  split at mapped
  · cases mapped
  rename_i token tokens taken
  rcases context.memory.retain_cases context.owner info.allocation token with
    refused | ⟨use, there, issued, -, retained, changed⟩
  · rw [refused] at mapped
    cases mapped
  · rw [retained] at mapped
    simp only [Bool.not_true, Bool.false_eq_true, if_false] at mapped
    split at mapped
    · cases mapped
    · obtain ⟨taken, rfl⟩ := Prod.mk.inj mapped
      obtain rfl := Option.some.inj taken
      exact ⟨info, offset, use, found, rfl, issued, there, rfl, changed⟩

theorem map_moves (sound : ContextSound context) {address byteCount : UInt64} {emplaces : Bool}
    (named : ∀ info offset, context.resolveRange address byteCount = some (info, offset) →
      touched info.allocation) :
    Moves touched context (context.map address byteCount emplaces).2 := by
  unfold HostNativeMemoryContext.map
  split
  · exact .refl sound
  rename_i info offset found
  have named := named info offset found
  dsimp only
  split
  · exact .refl sound
  split
  · exact .refl sound
  rename_i token tokens taken
  obtain ⟨-, value, next⟩ := IssueCounter.take_spec taken
  -- the token is spent, whatever happens next
  have spent : Moves touched context { context with tokens := tokens } :=
    { sound :=
        { memory := sound.memory
          held := sound.held
          issued := fun lease member =>
            have issued := sound.issued lease member
            ⟨issued.1, issued.2.trans_le (next ▸ Nat.le_succ _)⟩
          distinct := sound.distinct }
      progress := sound.memory.refl
      owner := rfl
      pageSize := rfl
      tokens := next ▸ Nat.le_succ _
      frame := fun _ _ _ => rfl
      leases := fun _ _ => Iff.rfl }
  have fresh : ∀ lease ∈ context.leases, lease.token ≠ token := by
    intro lease member same
    have below := (sound.issued lease member).2
    rw [same, value] at below
    exact absurd below (lt_irrefl _)
  rcases context.memory.retain_cases context.owner info.allocation token with
    refused | ⟨use, there, issued, -, retained, changed⟩
  · rw [refused]
    exact spent
  rw [retained]
  simp only [Bool.not_true, Bool.false_eq_true, if_false]
  have kept : ∀ lease ∈ context.leases, lease.allocation = info.allocation →
      context.owner = context.owner → ∃ entry,
        some { use with tokens := insert token use.tokens } = some entry ∧
          lease.token ∈ entry.tokens := by
    intro lease member same _
    obtain ⟨other, found, held⟩ := sound.held lease member
    rw [same] at found
    obtain rfl := Option.some.inj (there.symm.trans found)
    exact ⟨_, rfl, Finset.mem_insert_of_mem held⟩
  have leased := moves_assign spent.sound
    (sound.memory.retain context.owner info.allocation token) named changed kept
  split
  · -- the lease cannot be entered, so the page is released again
    rcases HostGPUMemoryState.unretain_cases _ context.owner info.allocation token with
      refused | ⟨other, found, erased⟩
    · rw [refused]
      exact spent.trans leased
    · refine (spent.trans leased).trans (moves_assign leased.sound
        (leased.sound.memory.unretain context.owner info.allocation token) named erased ?_)
      intro lease member same _
      obtain ⟨held, found', token'⟩ := leased.sound.held lease member
      rw [show lease.allocation = info.allocation from same] at found'
      obtain rfl := Option.some.inj (found.symm.trans found')
      exact ⟨_, rfl, Finset.mem_erase.mpr ⟨fresh lease member, token'⟩⟩
  · have moved := spent.trans leased
    exact
      { sound :=
          { memory := moved.sound.memory
            held := by
              intro lease member
              rcases List.mem_cons.mp member with rfl | old
              · refine ⟨{ use with tokens := insert token use.tokens }, ?_,
                  Finset.mem_insert_self _ _⟩
                dsimp only
                rw [changed, Uses.assign_same]
              · exact moved.sound.held lease old
            issued := by
              intro lease member
              rcases List.mem_cons.mp member with rfl | old
              · exact ⟨issued, by dsimp only; omega⟩
              · exact moved.sound.issued lease old
            distinct := by
              intro first left second right same
              rcases List.mem_cons.mp left with rfl | oldLeft
              · rcases List.mem_cons.mp right with rfl | oldRight
                · rfl
                · exact absurd same.symm (fresh second oldRight)
              · rcases List.mem_cons.mp right with rfl | oldRight
                · exact absurd same (fresh first oldLeft)
                · exact sound.distinct first oldLeft second oldRight same }
        progress := moved.progress
        owner := rfl
        pageSize := rfl
        tokens := moved.tokens
        frame := moved.frame
        leases := by
          intro lease spared
          refine ⟨fun member => ?_, List.mem_cons_of_mem _⟩
          rcases List.mem_cons.mp member with rfl | old
          · exact absurd named spared
          · exact old }

/-- A lease that is held is the one its token finds. -/
theorem find_held (sound : ContextSound context) (member : lease ∈ context.leases) :
    context.leases.find? (fun held => held.token == lease.token) = some lease := by
  cases found : context.leases.find? fun held => held.token == lease.token with
  | none => exact absurd (List.find?_eq_none.mp found lease member) (by simp)
  | some held =>
    have same : held.token = lease.token := by simpa using List.find?_some found
    rw [sound.distinct held (List.mem_of_find?_eq_some found) lease member same]

/-- A lease that is held is given back. -/
theorem unmap_of_held (sound : ContextSound context) (member : lease ∈ context.leases) :
    ∃ use, context.memory.usage context.owner lease.allocation = some use ∧
      lease.token ∈ use.tokens ∧ (context.unmap lease).1 = true ∧
      (context.unmap lease).2.owner = context.owner ∧
      (context.unmap lease).2.leases =
        context.leases.filter (fun held => held.token != lease.token) ∧
      (context.unmap lease).2.memory.usage = context.memory.usage.assign context.owner
        lease.allocation (some { use with tokens := use.tokens.erase lease.token }) := by
  obtain ⟨use, found, token⟩ := sound.held lease member
  obtain ⟨released, changed⟩ := HostGPUMemoryState.unretain_of_usage found
    (sound.issued lease member).1 token
  refine ⟨use, found, token, ?_⟩
  unfold HostNativeMemoryContext.unmap
  rw [find_held sound member]
  dsimp only
  rw [if_neg (not_not.mpr rfl), released]
  exact ⟨rfl, rfl, rfl, changed⟩

theorem unmap_moves (sound : ContextSound context) (named : touched lease.allocation) :
    Moves touched context (context.unmap lease).2 := by
  unfold HostNativeMemoryContext.unmap
  split
  · exact .refl sound
  rename_i current found
  have member := List.mem_of_find?_eq_some found
  split
  · exact .refl sound
  rename_i same
  obtain rfl := not_not.mp same
  obtain ⟨use, there, token⟩ := sound.held current member
  obtain ⟨released, changed⟩ := HostGPUMemoryState.unretain_of_usage there
    (sound.issued current member).1 token
  have progress := sound.memory.unretain context.owner current.allocation current.token
  dsimp only
  rw [released]
  simp only [Bool.not_true, Bool.false_eq_true, if_false]
  have kept : ∀ lease, lease ∈ context.leases.filter (fun held => held.token != current.token) ↔
      lease ∈ context.leases ∧ lease.token ≠ current.token := by
    intro lease
    rw [List.mem_filter, bne_iff_ne]
  refine
    { sound :=
        { memory := progress.sound
          held := ?_
          issued := fun lease member => sound.issued lease ((kept lease).mp member).1
          distinct := fun first left second right =>
            sound.distinct first ((kept first).mp left).1 second ((kept second).mp right).1 }
      progress := progress
      owner := rfl
      pageSize := rfl
      tokens := le_rfl
      frame := ?_
      leases := ?_ }
  · intro lease member
    obtain ⟨old, differs⟩ := (kept lease).mp member
    obtain ⟨other, held, mine⟩ := sound.held lease old
    dsimp only
    rw [changed]
    by_cases hit : lease.allocation = current.allocation
    · rw [hit] at held ⊢
      obtain rfl := Option.some.inj (there.symm.trans held)
      exact ⟨_, Uses.assign_same _ _ _ _, Finset.mem_erase.mpr ⟨differs, mine⟩⟩
    · rw [Uses.assign_other _ _ fun both => hit both.2]
      exact ⟨other, held, mine⟩
  · intro other name spared
    dsimp only
    rw [changed, Uses.assign_other]
    rintro ⟨-, rfl⟩
    exact spared named
  · intro lease spared
    refine (kept lease).trans (and_iff_left_of_imp fun old tokens => spared ?_)
    rw [sound.distinct lease old current member tokens]
    exact named

end Leases

section Holding

/-- A lease of an allocation that is held for its owner. -/
structure Holding (owner : OwnerKey) (context : HostNativeMemoryContext) (lease : PageLease)
    (handle : AllocationHandle) : Prop where
  owned : context.owner = owner
  byOwner : validOwner owner = true
  named : validHandle handle = true
  about : lease.allocation = handle
  held : lease ∈ context.leases

/-- Nothing but the lease uses the allocation. -/
def Sole (owner : OwnerKey) (context : HostNativeMemoryContext) (lease : PageLease)
    (handle : AllocationHandle) : Prop :=
  context.memory.usage owner handle = some { requestId := 0, tokens := {lease.token} }

instance (owner : OwnerKey) (context : HostNativeMemoryContext) (lease : PageLease)
    (handle : AllocationHandle) : Decidable (Sole owner context lease handle) :=
  inferInstanceAs (Decidable (_ = _))

theorem Holding.moves (holding : Holding owner context lease handle)
    (moves : Moves touched context after) (spared : ¬ touched handle) :
    Holding owner after lease handle where
  owned := moves.owner.trans holding.owned
  byOwner := holding.byOwner
  named := holding.named
  about := holding.about
  held := (moves.leases lease (holding.about ▸ spared)).mpr holding.held

theorem Moves.sole_iff (moves : Moves touched context after) (spared : ¬ touched handle) :
    Sole owner after lease handle ↔ Sole owner context lease handle := by
  unfold Sole
  rw [moves.frame owner handle spared]

/-- Nothing names an allocation any more, and no lease of it is held. -/
structure Released (owner : OwnerKey) (after : HostNativeMemoryContext)
    (handle : AllocationHandle) : Prop where
  gone : after.memory.usage owner handle = none
  unheld : ∀ other ∈ after.leases, other.allocation ≠ handle

/-- A lease that is the only use of its allocation is given back, and the allocation freed. -/
theorem Holding.release (sound : ContextSound context)
    (holding : Holding owner context lease handle) (sole : Sole owner context lease handle) :
    (context.unmap lease).1 = true ∧
      (freeAllocation (context.unmap lease).2 owner handle).1 = true ∧
      Released owner (freeAllocation (context.unmap lease).2 owner handle).2 handle := by
  obtain ⟨rfl, byOwner, named, rfl, held⟩ := holding
  obtain ⟨use, found, -, unmapped, kept, leases, changed⟩ := unmap_of_held sound held
  obtain rfl := Option.some.inj (sole.symm.trans found)
  dsimp only at changed
  rw [Finset.erase_singleton] at changed
  have released : (context.unmap lease).2.memory.usage context.owner lease.allocation =
      some { requestId := 0, tokens := ∅ } := by
    rw [changed]
    exact Uses.assign_same _ _ _ _
  have idle : Usage.idle { requestId := 0, tokens := ∅ } := ⟨rfl, rfl⟩
  obtain ⟨freed, same, after⟩ := free_of_idle byOwner named released idle
  refine ⟨unmapped, freed, ?_, ?_⟩
  · rw [after]
    exact Uses.assign_same _ _ _ _
  · intro other member about
    rw [same, leases, List.mem_filter, bne_iff_ne] at member
    obtain ⟨use, there, token⟩ := sound.held other member.1
    rw [about, sole] at there
    obtain rfl := Option.some.inj there
    exact member.2 (Finset.mem_singleton.mp token)

/-- An allocation with a second use is not freed once its lease is given back. -/
theorem Holding.stuck (sound : ContextSound context)
    (holding : Holding owner context lease handle) (shared : ¬ Sole owner context lease handle) :
    (context.unmap lease).1 = true ∧
      (freeAllocation (context.unmap lease).2 owner handle).1 = false ∧
      lease ∉ (context.unmap lease).2.leases := by
  obtain ⟨rfl, -, -, rfl, held⟩ := holding
  obtain ⟨use, found, token, unmapped, kept, leases, changed⟩ := unmap_of_held sound held
  refine ⟨unmapped, ?_, ?_⟩
  · rcases HostGPUMemoryState.free_usage (context.unmap lease).2.memory context.owner
      lease.allocation with ⟨refused, -⟩ | ⟨other, there, idle, -, -⟩
    · exact refused
    rw [changed, Uses.assign_same] at there
    obtain rfl := Option.some.inj there
    -- what is idle without the lease is used by the lease only
    refine absurd ?_ shared
    rw [Sole, found]
    have rest : use.tokens.erase lease.token = ∅ := idle.2
    have alone : use.tokens = {lease.token} := by
      rw [← Finset.insert_erase token, rest]
      rfl
    have unpinned : use.requestId = 0 := idle.1
    rw [← alone, ← unpinned]
  · rw [leases, List.mem_filter]
    simp

end Holding

section Mapper

/-- No handle of the memory names it yet. -/
def Unnamed (context : HostNativeMemoryContext) (name : AllocationHandle) : Prop :=
  ∀ other, context.memory.usage other name = none

/-- An operation that touches no allocation but for its bytes. -/
abbrev Steady := Moves fun _ => False

theorem Steady.usage (steady : Steady context after) :
    after.memory.usage = context.memory.usage := by
  funext other name
  exact steady.frame other name id

theorem allocate_moves (sound : ContextSound context) (owner : OwnerKey)
    (request : AllocationRequest) (allocates : Bool) :
    Moves (Unnamed context) context { context with
      memory := (context.memory.allocate owner request allocates).2 } := by
  have progress := sound.memory.allocate owner request allocates
  rcases context.memory.allocate_cases owner request allocates with
    ⟨-, same⟩ | ⟨slot, allocation, -, fresh⟩
  · refine moves_memory sound progress ?_ ?_
    · intro other name _
      rw [same]
    · rw [same]
      exact sound.held
  · refine moves_assign sound progress fresh.unnamed fresh.usage ?_
    rintro lease member hit -
    obtain ⟨use, there, -⟩ := sound.held lease member
    rw [hit, fresh.unnamed] at there
    cases there

/-- A fresh allocation is mapped by its own address. -/
theorem resolveRange_fresh {memory : HostGPUMemoryState} {slot : Fin MaximumAllocations}
    {allocation : Allocation} {byteCount offset : UInt64} {info : AllocationInfo}
    (fresh : HostGPUMemoryState.Fresh memory context.memory owner slot allocation)
    (found : context.resolveRange (virtualAddress slot) byteCount = some (info, offset)) :
    context.owner = owner ∧
      info = infoOf slot allocation.generation allocation.size allocation.alignment := by
  unfold HostNativeMemoryContext.resolveRange at found
  obtain ⟨view, there, same⟩ := Option.map_eq_some_iff.mp found
  obtain ⟨record, here, owned, rfl⟩ := HostGPUMemoryState.view_of_slot there
  obtain rfl := Option.some.inj (fresh.here.symm.trans here)
  exact ⟨owned.symm.trans fresh.owned, (Prod.mk.inj same).1.symm⟩

theorem writePieces_steady (env : UInt64 → WriteEnv) (address : UInt64)
    (source : ℕ → ℕ → List UInt8) (pieces : List (ℕ × ℕ)) (sound : ContextSound context) :
    Steady context (writePieces env address source pieces context).2 := by
  induction pieces generalizing context with
  | nil => exact .refl sound
  | cons piece rest ih =>
    unfold writePieces
    split
    · exact .refl sound
    have moved := @write_moves context (fun _ => False) sound
      (address + UInt64.ofNat piece.1) (source piece.1 piece.2) 0
      (env (address + UInt64.ofNat piece.1))
    dsimp only
    split
    · rename_i later wrote
      rw [wrote] at moved
      exact moved.trans (ih moved.sound)
    · rename_i ended later _ stopped
      rw [stopped] at moved
      exact moved

theorem writeRange_steady (env : MapEnv) (address : UInt64) (source : List UInt8)
    (sound : ContextSound context) :
    Steady context (writeRange env address source context).2 :=
  writePieces_steady _ _ _ _ sound

theorem zeroRange_steady (env : MapEnv) (address bytes : UInt64) (sound : ContextSound context) :
    Steady context (zeroRange env address bytes context).2 := by
  unfold zeroRange
  split
  · exact .refl sound
  split
  · exact .refl sound
  have moved := writePieces_steady env.writes address (fun _ count => List.replicate count 0)
    (transferPieces bytes.toNat) sound
  generalize writePieces env.writes address (fun _ count => List.replicate count 0)
    (transferPieces bytes.toNat) context = reply at moved ⊢
  obtain ⟨ended, after⟩ := reply
  exact moved

theorem copySegment_steady (env : MapEnv) (image : List UInt8)
    (gpuVa mappedBase mappedBytes : UInt64) (segment : LoadSegment)
    (sound : ContextSound context) :
    Steady context (copySegment env image gpuVa mappedBase mappedBytes segment context).2 := by
  unfold copySegment
  extract_lets relative mappedAddress bytes
  split
  · exact .refl sound
  have wrote := writeRange_steady env mappedAddress bytes sound
  split
  · rename_i middle failed
    rw [failed] at wrote
    exact wrote
  · rename_i middle failed
    rw [failed] at wrote
    exact wrote
  rename_i middle copied
  rw [copied] at wrote
  have zeroed := zeroRange_steady env (mappedAddress + segment.fileSize)
    (segment.memorySize - segment.fileSize) wrote.sound
  split
  rename_i cleared last ended
  rw [ended] at zeroed
  split
  · exact wrote.trans zeroed
  · exact wrote.trans zeroed

theorem copySegments_steady (env : MapEnv) (image : List UInt8)
    (gpuVa mappedBase mappedBytes : UInt64) (segments : List LoadSegment)
    (sound : ContextSound context) :
    Steady context (copySegments env image gpuVa mappedBase mappedBytes segments context).2 := by
  induction segments generalizing context with
  | nil => exact .refl sound
  | cons segment rest ih =>
    have copied := copySegment_steady env image gpuVa mappedBase mappedBytes segment sound
    unfold copySegments
    split
    · rename_i failure later failed
      rw [failed] at copied
      exact copied
    · rename_i mapped later done
      rw [done] at copied
      exact copied.trans (ih copied.sound)

/-- A rollback touches the allocation of the failed map only. -/
theorem rollback_moves (sound : ContextSound context) (owner : OwnerKey)
    (taken : Option PageLease) (named : touched handle)
    (about : ∀ lease, taken = some lease → lease.allocation = handle) :
    Moves touched context (rollback owner context taken handle) := by
  have freed : ∀ {released : HostNativeMemoryContext} (leaseReleased : Bool),
      Moves touched context released → Moves touched context
        (if leaseReleased && released.memory.functionalPageLeaseCount owner handle == 0 &&
            !released.memory.pinnedDispatchAllocationBusy owner handle then
          (freeAllocation released owner handle).2
        else released) := by
    intro released leaseReleased moves
    split
    · exact moves.trans (free_moves moves.sound named)
    · exact moves
  unfold rollback
  cases taken with
  | none => exact freed true (.refl sound)
  | some lease =>
    dsimp only
    by_cases valid : (!lease.valid) = true
    · rw [if_pos valid]
      exact freed true (.refl sound)
    rw [if_neg valid]
    by_cases sole : solelyLeased context owner handle = true
    · rw [if_pos sole]
      exact freed _ (unmap_moves sound (about lease rfl ▸ named))
    · rw [if_neg sole]
      exact freed false (.refl sound)

variable (layout : Layout)

/-- A map touches a fresh allocation only, and holds the one lease of it if it succeeds. -/
theorem mapCodeObject_spec (sound : ContextSound context) (owner : OwnerKey) (image : List UInt8)
    (metadata : CodeObjectMetadata) (env : MapEnv) :
    Moves (Unnamed context) context
        (mapCodeObject layout owner context image metadata env).2 ∧
      ∀ mapping, (mapCodeObject layout owner context image metadata env).1 = .ok mapping →
        Unnamed context mapping.allocation.allocation ∧
          Holding owner (mapCodeObject layout owner context image metadata env).2 mapping.lease
            mapping.allocation.allocation ∧
          Sole owner (mapCodeObject layout owner context image metadata env).2 mapping.lease
            mapping.allocation.allocation := by
  unfold mapCodeObject
  split
  · exact ⟨.refl sound, nofun⟩
  rename_i mappedBase mappedEnd _
  dsimp only
  generalize requested : ({ size := mappedEnd - mappedBase, alignment := context.pageSize } :
    AllocationRequest) = request
  have allocated := allocate_moves sound owner request env.allocates
  split
  · exact ⟨allocated, nofun⟩
  rename_i accepted
  rcases context.memory.allocate_cases owner request env.allocates with
    ⟨refused, -⟩ | ⟨slot, allocation, result, fresh⟩
  · rw [refused] at accepted
    exact absurd rfl accepted
  rw [result]
  -- the address of a fresh allocation resolves to it
  have resolves : ∀ info offset, HostNativeMemoryContext.resolveRange { context with
        memory := (context.memory.allocate owner request env.allocates).2 }
        (virtualAddress slot) (mappedEnd - mappedBase) = some (info, offset) →
      context.owner = owner ∧
        info = infoOf slot allocation.generation allocation.size allocation.alignment :=
    fun info offset found => @resolveRange_fresh { context with
      memory := (context.memory.allocate owner request env.allocates).2 } owner context.memory slot
        allocation _ offset info fresh found
  have leased := @map_moves _ (Unnamed context) allocated.sound (virtualAddress slot)
    (mappedEnd - mappedBase) env.emplaces fun info offset found => by
      rw [(resolves info offset found).2]
      exact fresh.unnamed
  have moved := allocated.trans leased
  split
  · rename_i after none
    rw [show (Result.success (infoOf slot allocation.generation allocation.size
      allocation.alignment)).value.gpuVa = virtualAddress slot from rfl] at none
    rw [none] at moved
    refine ⟨moved.trans (rollback_moves moved.sound owner Option.none fresh.unnamed ?_), nofun⟩
    intro lease taken
    cases taken
  rename_i lease after some
  rw [show (Result.success (infoOf slot allocation.generation allocation.size
    allocation.alignment)).value.gpuVa = virtualAddress slot from rfl] at some
  rw [some] at moved
  obtain ⟨info, offset, use, found, about, -, before, leases, changed⟩ := map_eq_some some
  obtain ⟨owned, rfl⟩ := resolves info offset found
  have undone : ∀ {later : HostNativeMemoryContext}, Moves (Unnamed context) context later →
      Moves (Unnamed context) context (rollback owner later (.some lease)
        (infoOf slot allocation.generation allocation.size allocation.alignment).allocation) :=
    fun moves => moves.trans (rollback_moves moves.sound owner _ fresh.unnamed
      fun _ same => Option.some.inj same ▸ about)
  split
  · exact ⟨undone moved, nofun⟩
  have copied := copySegments_steady env image (virtualAddress slot) mappedBase
    (mappedEnd - mappedBase) metadata.segments moved.sound
  split
  · rename_i later thrown
    rw [show (Result.success (infoOf slot allocation.generation allocation.size
      allocation.alignment)).value.gpuVa = virtualAddress slot from rfl] at thrown
    rw [thrown] at copied
    exact ⟨moved.trans (copied.mono fun _ => False.elim), nofun⟩
  · rename_i failure later failed
    rw [show (Result.success (infoOf slot allocation.generation allocation.size
      allocation.alignment)).value.gpuVa = virtualAddress slot from rfl] at failed
    rw [failed] at copied
    exact ⟨undone (moved.trans (copied.mono fun _ => False.elim)), nofun⟩
  rename_i segments later ended
  rw [show (Result.success (infoOf slot allocation.generation allocation.size
    allocation.alignment)).value.gpuVa = virtualAddress slot from rfl] at ended
  rw [ended] at copied
  have whole := moved.trans (copied.mono fun _ => False.elim)
  split
  · exact ⟨undone whole, nofun⟩
  refine ⟨whole, ?_⟩
  intro mapping mapped
  obtain rfl := Except.ok.inj mapped
  refine ⟨fresh.unnamed, ?_, ?_⟩
  · exact
      { owned := whole.owner.trans owned
        byOwner := fresh.validOwner
        named := fresh.validHandle
        about := about
        held := (copied.leases lease id).mpr (leases ▸ List.mem_cons_self) }
  · have empty : use = { requestId := 0, tokens := ∅ } := by
      rw [fresh.usage, owned, Uses.assign_same] at before
      exact (Option.some.inj before).symm
    rw [Sole, copied.usage, changed, ← owned, empty]
    exact Uses.assign_same _ _ _ _

/-- The check of an unmap: one token, and no pin. -/
theorem solelyLeased_iff : solelyLeased context owner handle = true ↔
    ∃ use, context.memory.usage owner handle = some use ∧ use.requestId = 0 ∧
      use.tokens.card = 1 := by
  unfold solelyLeased HostGPUMemoryState.functionalPageLeaseCount
    HostGPUMemoryState.pinnedDispatchAllocationBusy HostGPUMemoryState.usage
  cases context.memory.resolve owner handle with
  | none => simp
  | some found => simp [usageOf, and_comm]

theorem Holding.solelyLeased_iff (sound : ContextSound context)
    (holding : Holding owner context lease handle) :
    solelyLeased context owner handle = true ↔ Sole owner context lease handle := by
  rw [Dispatch.solelyLeased_iff, Sole]
  obtain ⟨use, found, token⟩ := sound.held lease holding.held
  rw [holding.about, holding.owned] at found
  constructor
  · rintro ⟨other, there, unpinned, one⟩
    obtain rfl := Option.some.inj (found.symm.trans there)
    obtain ⟨only, single⟩ := Finset.card_eq_one.mp one
    rw [single, Finset.mem_singleton] at token
    rw [found, token, ← single, ← unpinned]
  · intro sole
    exact ⟨_, sole, rfl, Finset.card_singleton _⟩

theorem unmapCodeObject_moves (sound : ContextSound context) (owner : OwnerKey)
    (mapping : Mapping) (named : touched mapping.allocation.allocation) :
    Moves touched context (unmapCodeObject owner context mapping).2 := by
  unfold unmapCodeObject
  split
  · exact .refl sound
  split
  · exact .refl sound
  rename_i checked
  have about := not_not.mp (not_or.mp checked).1
  have unmapped := @unmap_moves context touched mapping.lease sound (about ▸ named)
  split
  · rename_i after refused
    rw [refused] at unmapped
    exact unmapped
  rename_i after released
  rw [released] at unmapped
  have freed := @free_moves after touched owner mapping.allocation.allocation unmapped.sound named
  split
  · rename_i last refused
    rw [refused] at freed
    exact unmapped.trans freed
  · rename_i last done
    rw [done] at freed
    exact unmapped.trans freed

/-- An unmap of a mapping that is used otherwise changes nothing. -/
theorem unmapCodeObject_of_shared {mapping : Mapping} (sound : ContextSound context)
    (holding : Holding owner context mapping.lease mapping.allocation.allocation)
    (valid : mapping.valid = true)
    (shared : ¬ Sole owner context mapping.lease mapping.allocation.allocation) :
    unmapCodeObject owner context mapping = (.error .busy, context) := by
  rw [← holding.solelyLeased_iff sound, Bool.not_eq_true] at shared
  unfold unmapCodeObject
  rw [valid, if_neg (by decide), if_pos (.inr (by rw [shared]; rfl))]

/-- An unmap of a mapping that nobody else uses releases it. -/
theorem unmapCodeObject_of_sole {mapping : Mapping} (sound : ContextSound context)
    (holding : Holding owner context mapping.lease mapping.allocation.allocation)
    (valid : mapping.valid = true)
    (sole : Sole owner context mapping.lease mapping.allocation.allocation) :
    (unmapCodeObject owner context mapping).1 = .ok () ∧
      Released owner (unmapCodeObject owner context mapping).2
        mapping.allocation.allocation := by
  obtain ⟨unmapped, freed, released⟩ := holding.release sound sole
  have admitted : ¬ (mapping.lease.allocation ≠ mapping.allocation.allocation ∨
      (!solelyLeased context owner mapping.allocation.allocation) = true) := by
    rw [(holding.solelyLeased_iff sound).mpr sole, holding.about]
    simp
  have first : context.unmap mapping.lease = (true, (context.unmap mapping.lease).2) :=
    Prod.ext unmapped rfl
  have second : freeAllocation (context.unmap mapping.lease).2 owner
      mapping.allocation.allocation = (true, (freeAllocation (context.unmap mapping.lease).2 owner
        mapping.allocation.allocation).2) := Prod.ext freed rfl
  unfold unmapCodeObject
  rw [valid, if_neg (by decide), if_neg admitted, first]
  dsimp only
  rw [second]
  exact ⟨rfl, released⟩

end Mapper

end GemSim.Dispatch
