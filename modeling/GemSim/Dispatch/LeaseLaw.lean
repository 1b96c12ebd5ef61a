import GemSim.Dispatch.Leases
import GemSim.Dispatch.SegmentPatches

/-!
# Leases and the tokens they leave in the memory

One context leases pages of a memory that others allocate from, free from and pin. A lease
and its token move together: every lease that is held has its token in a live allocation of
the owner, and every token in the memory is that of a lease. So an allocation with a lease
is not freed, and bytes are accessed only where an allocation and a lease of it both reach.

## Main definitions

* `ContextCall`, `step` — a context among the other users of its memory
* `pageFloor`, `pageCeil`, `Accessible` — where bytes may be accessed
* `LeaseLaw` — what holds of leases and tokens in a state
* `Kept` — the invariant of a run

## Main results

* `kept_step` — every step keeps the invariant
* `Kept.release` — leases given back in any order leave no token
* `leaseLaw_of_run` — the law holds in every state of every run
-/

namespace GemSim.Dispatch

open GemSim.Lib GemSim.Domain GemSim.Memory

section Machine

/-- A call on the context, or of somebody else on its memory. -/
inductive ContextCall where
  | map (address byteCount : UInt64) (emplaces : Bool)
  | unmap (lease : PageLease)
  | functionalRead (address byteCount dispatchRequestId : UInt64) (allocates : Bool)
  | functionalWrite (address : UInt64) (source : List UInt8) (dispatchRequestId : UInt64)
      (env : WriteEnv)
  | clear
  | memory (call : Memory.Call)

/-- The calls of others: they lease nothing, and do not clear the memory. -/
def shared : Memory.Call → Bool
  | .retainFunctionalPage _ _ _ => false
  | .releaseFunctionalPage _ _ _ => false
  | .clear => false
  | _ => true

namespace HostNativeMemoryContext

def step (context : HostNativeMemoryContext) : ContextCall → HostNativeMemoryContext
  | .map address byteCount emplaces => (context.map address byteCount emplaces).2
  | .unmap lease => (context.unmap lease).2
  | .functionalRead _ _ _ _ => context
  | .functionalWrite address source dispatchRequestId env =>
    (context.functionalWrite address source dispatchRequestId env).2
  | .clear => context.clear
  | .memory call =>
    if shared call then { context with memory := context.memory.step call } else context

end HostNativeMemoryContext

end Machine

section Law

/-- The start of the page of an address. -/
def pageFloor (pageSize address : ℕ) : ℕ := address / pageSize * pageSize

/-- The first page boundary at or above an address. -/
def pageCeil (pageSize address : ℕ) : ℕ := (address + pageSize - 1) / pageSize * pageSize

/-- The whole range lies in a live allocation of the owner, and in the pages of a lease of it. -/
def Accessible (context : HostNativeMemoryContext) (address byteCount : ℕ) : Prop :=
  0 < byteCount ∧ ∃ slot allocation lease,
    context.memory.allocations slot = some allocation ∧ allocation.owner = context.owner ∧
    (virtualAddress slot).toNat ≤ address ∧
    address + byteCount ≤ (virtualAddress slot).toNat + allocation.size.toNat ∧
    lease ∈ context.leases ∧ lease.allocation = handleOf slot allocation ∧
    pageFloor context.pageSize.toNat lease.address.toNat ≤ address ∧
    address + byteCount ≤
      pageCeil context.pageSize.toNat (lease.address.toNat + lease.byteCount.toNat)

/-- Leases and tokens correspond, and what follows for the calls that depend on them. -/
structure LeaseLaw (context : HostNativeMemoryContext) : Prop where
  recorded : ∀ lease ∈ context.leases, ∃ slot allocation,
    context.memory.resolve context.owner lease.allocation = some (slot, allocation) ∧
      lease.token ∈ allocation.functionalPageTokens
  leased : ∀ slot allocation, context.memory.allocations slot = some allocation →
    ∀ token ∈ allocation.functionalPageTokens, allocation.owner = context.owner ∧
      ∃ lease ∈ context.leases, lease.token = token ∧ lease.allocation = handleOf slot allocation
  distinct : context.leases.Pairwise fun first second => first.token ≠ second.token
  counted : ∀ handle, context.allocationLeaseCount handle =
    context.memory.functionalPageLeaseCount context.owner handle
  freed : ∀ lease ∈ context.leases, ∀ owner,
    (context.memory.free owner lease.allocation).1.ok = false ∧
      (context.memory.free owner lease.allocation).2 = context.memory
  reads : ∀ address byteCount dispatchRequestId allocates bytes,
    context.functionalRead address byteCount dispatchRequestId allocates = some bytes →
      Accessible context address.toNat byteCount.toNat
  writes : ∀ address source dispatchRequestId env after,
    context.functionalWrite address source dispatchRequestId env = (.written, after) →
      Accessible context address.toNat source.length
  altered : ∀ lease, lease ∉ context.leases → context.unmap lease = (false, context)
  cleared : context.clear.leases = [] ∧ ∀ order, order.Perm context.leases →
    ∀ slot allocation,
      (HostNativeMemoryContext.releaseLeases context.owner order context.memory).allocations slot =
        some allocation → allocation.functionalPageTokens = ∅

end Law

section Pages

variable {memory : HostGPUMemoryState} {owner : OwnerKey} {context : HostNativeMemoryContext}

/-- An allocation that is found by a range of addresses holds all of the range. -/
theorem view_eq_some {gpuVa byteCount : UInt64} {info : AllocationInfo}
    (found : memory.allocationViewContaining owner gpuVa byteCount = some info) :
    byteCount ≠ 0 ∧ ∃ slot allocation, memory.allocations slot = some allocation ∧
      allocation.owner = owner ∧
      info = infoOf slot allocation.generation allocation.size allocation.alignment ∧
      (virtualAddress slot).toNat ≤ gpuVa.toNat ∧
      gpuVa.toNat + byteCount.toNat ≤ (virtualAddress slot).toNat + allocation.size.toNat := by
  have stride : VirtualAddressStride.toNat = 0x80000000 := by decide
  unfold HostGPUMemoryState.allocationViewContaining at found
  split at found
  · cases found
  rename_i above
  rw [not_or, UInt64.not_lt, UInt64.le_iff_toNat_le] at above
  dsimp only at found
  split at found
  case isFalse => cases found
  rename_i inside
  split at found
  · cases found
  rename_i allocation here
  split at found
  · cases found
  rename_i fits
  simp only [not_or, not_not, gt_iff_lt, UInt64.not_lt, UInt64.le_iff_toNat_le] at fits
  obtain ⟨owned, starts, ends⟩ := fits
  refine ⟨above.1, _, allocation, here, owned, (Option.some.inj found).symm, ?_⟩
  rw [toNat_sub_exact starts] at ends
  rw [UInt64.toNat_mod, toNat_sub_exact above.2, stride] at starts ends
  rw [toNat_virtualAddress, stride]
  dsimp only
  rw [UInt64.toNat_div, toNat_sub_exact above.2, stride]
  omega

theorem resolveRange_eq_some {address byteCount offset : UInt64} {info : AllocationInfo}
    (found : context.resolveRange address byteCount = some (info, offset)) :
    byteCount ≠ 0 ∧ ∃ slot allocation, context.memory.allocations slot = some allocation ∧
      allocation.owner = context.owner ∧
      info = infoOf slot allocation.generation allocation.size allocation.alignment ∧
      (virtualAddress slot).toNat ≤ address.toNat ∧
      address.toNat + byteCount.toNat ≤ (virtualAddress slot).toNat + allocation.size.toNat := by
  unfold HostNativeMemoryContext.resolveRange at found
  obtain ⟨view, there, same⟩ := Option.map_eq_some_iff.mp found
  obtain rfl := (Prod.mk.inj same).1
  exact view_eq_some there

/-- A page size is a power of two. -/
def PageSize (pageSize : UInt64) : Prop := ∃ k, pageSize.toNat = 2 ^ k

theorem pageSize_of_mask {pageSize : UInt64} (nonzero : pageSize ≠ 0)
    (mask : pageSize &&& (pageSize - 1) = 0) : PageSize pageSize := by
  have positive := ne_zero_iff_toNat_pos.mp nonzero
  have bits := congrArg UInt64.toNat mask
  rw [UInt64.toNat_and, toNat_pred nonzero, UInt64.toNat_zero] at bits
  exact (Nat.and_sub_one_eq_zero_iff_isPowerOfTwo (by omega)).mp bits

/-- The pages of a lease are those of its range. -/
def Spans (pageSize : UInt64) (lease : PageLease) : Prop :=
  lease.firstPage.toNat = pageFloor pageSize.toNat lease.address.toNat ∧
    lease.firstPage.toNat + lease.pageCount.toNat * pageSize.toNat ≤
      pageCeil pageSize.toNat (lease.address.toNat + lease.byteCount.toNat)

theorem toNat_pageOf {pageSize : UInt64} (shape : PageSize pageSize) (address : UInt64) :
    (pageOf pageSize address).toNat = pageFloor pageSize.toNat address.toNat := by
  obtain ⟨k, power⟩ := shape
  have positive : 0 < 2 ^ k := Nat.two_pow_pos k
  have mask : (pageSize - 1).toNat = 2 ^ k - 1 := by
    rw [toNat_sub_exact (by rw [UInt64.toNat_one]; omega), UInt64.toNat_one, power]
  rw [pageOf, toNat_and_not_mask address _ mask, pageFloor, power]
  have division := Nat.div_add_mod address.toNat (2 ^ k)
  rw [Nat.mul_comm] at division
  omega

/-- The last page of a range ends where the range is rounded up to. -/
theorem pageFloor_add {pageSize address byteCount : ℕ} (positive : 0 < pageSize)
    (nonempty : 0 < byteCount) :
    pageFloor pageSize (address + byteCount - 1) + pageSize =
      pageCeil pageSize (address + byteCount) := by
  have regroup : address + byteCount + pageSize - 1 = address + byteCount - 1 + pageSize := by
    omega
  rw [pageFloor, pageCeil, regroup, Nat.add_div_right _ positive, Nat.succ_mul]

/-- A lease that is taken spans the pages of its range. -/
theorem spans_of_pages {pageSize : UInt64} (shape : PageSize pageSize) {lease : PageLease}
    (nonempty : lease.byteCount ≠ 0)
    (fits : lease.address.toNat + lease.byteCount.toNat < 2 ^ 64)
    (first : lease.firstPage = pageOf pageSize lease.address)
    (ordered : ¬ pageOf pageSize (lease.address + lease.byteCount - 1) < lease.firstPage)
    (count : lease.pageCount = (pageOf pageSize (lease.address + lease.byteCount - 1) -
      lease.firstPage) / pageSize + 1) :
    Spans pageSize lease := by
  have positive : 0 < pageSize.toNat := by
    obtain ⟨k, power⟩ := shape
    rw [power]
    exact Nat.two_pow_pos k
  have some := ne_zero_iff_toNat_pos.mp nonempty
  have last : (lease.address + lease.byteCount - 1).toNat =
      lease.address.toNat + lease.byteCount.toNat - 1 := by
    have sum : (lease.address + lease.byteCount).toNat = _ := toNat_add_exact fits
    rw [toNat_sub_exact (by rw [sum, UInt64.toNat_one]; omega), sum, UInt64.toNat_one]
  rw [UInt64.not_lt, UInt64.le_iff_toNat_le] at ordered
  have ends := @pageFloor_add pageSize.toNat lease.address.toNat lease.byteCount.toNat positive some
  refine ⟨by rw [first, toNat_pageOf shape], ?_⟩
  rw [← ends, ← last, ← toNat_pageOf shape]
  have quotient : lease.pageCount.toNat ≤
      ((pageOf pageSize (lease.address + lease.byteCount - 1)).toNat - lease.firstPage.toNat) /
        pageSize.toNat + 1 := by
    rw [count, UInt64.toNat_add, UInt64.toNat_div, toNat_sub_exact ordered, UInt64.toNat_one]
    exact Nat.mod_le _ _
  have pages := Nat.div_mul_le_self
    ((pageOf pageSize (lease.address + lease.byteCount - 1)).toNat - lease.firstPage.toNat)
    pageSize.toNat
  have product := Nat.mul_le_mul_right pageSize.toNat quotient
  rw [Nat.succ_mul] at product
  omega

/-- An access that a lease covers stays in the pages of its range. -/
theorem accessible_of_covered {address byteCount offset : UInt64} {info : AllocationInfo}
    (sound : context.memory.Sound) (spans : ∀ lease ∈ context.leases, Spans context.pageSize lease)
    (found : context.resolveRange address byteCount = some (info, offset))
    (covered : context.coveredByLease info.allocation address byteCount = true) :
    Accessible context address.toNat byteCount.toNat := by
  obtain ⟨nonempty, slot, allocation, here, owned, rfl, starts, ends⟩ := resolveRange_eq_some found
  refine ⟨ne_zero_iff_toNat_pos.mp nonempty, slot, allocation, ?_⟩
  unfold HostNativeMemoryContext.coveredByLease at covered
  split at covered
  · cases covered
  obtain ⟨lease, member, covers⟩ := List.any_eq_true.mp covered
  unfold HostNativeMemoryContext.leaseCovers at covers
  split at covers
  · cases covers
  rename_i about
  split at covers
  · cases covers
  dsimp only at covers
  split at covers
  · cases covers
  simp only [Bool.and_eq_true, decide_eq_true_eq, ge_iff_le, UInt64.le_iff_toNat_le] at covers
  obtain ⟨first, last⟩ := spans lease member
  have base : VirtualAddressBase.toNat = 0x0000100000000000 := by decide
  have stride : VirtualAddressStride.toNat = 0x80000000 := by decide
  have place := toNat_virtualAddress slot
  rw [stride] at place
  have inTable : slot.val < 1024 := slot.isLt
  refine ⟨lease, here, owned, starts, ends, member, not_not.mp about, ?_, ?_⟩
  · rw [← first]
    exact covers.1
  · refine le_trans ?_ last
    have limit : (lease.firstPage + lease.pageCount * context.pageSize).toNat ≤
        lease.firstPage.toNat + lease.pageCount.toNat * context.pageSize.toNat := by
      rw [UInt64.toNat_add, UInt64.toNat_mul]
      exact le_trans (Nat.mod_le _ _) (Nat.add_le_add_left (Nat.mod_le _ _) _)
    -- addresses of allocations are far below the wrap
    have size := SlotTable.le_total here fun allocation => allocation.size.toNat
    have within := UInt64.le_iff_toNat_le.mp sound.within
    have total : MaximumTotalBytes.toNat = 0x100000000 := by decide
    rw [← sound.liveBytes] at size
    have sum : (address + byteCount).toNat = address.toNat + byteCount.toNat :=
      toNat_add_exact (by omega)
    omega

end Pages

section Calls

variable {memory : HostGPUMemoryState} {context : HostNativeMemoryContext} {owner : OwnerKey}
  {handle : AllocationHandle} {left : Usage}

/-- A call of somebody else adds no token. -/
theorem tokens_step {call : Memory.Call} (other : shared call = true)
    (found : (memory.step call).usage owner handle = some left) {token : UInt64}
    (member : token ∈ left.tokens) :
    ∃ use, memory.usage owner handle = some use ∧ token ∈ use.tokens := by
  have same : (memory.step call).usage = memory.usage → ∃ use,
      memory.usage owner handle = some use ∧ token ∈ use.tokens := by
    intro kept
    rw [kept] at found
    exact ⟨left, found, member⟩
  -- a call that changes one entry, and adds no token there
  have assigned : ∀ {owner' : OwnerKey} {handle' : AllocationHandle} {entry : Option Usage},
      (memory.step call).usage = memory.usage.assign owner' handle' entry →
      (∀ use, entry = some use → ∃ before, memory.usage owner' handle' = some before ∧
        use.tokens = before.tokens ∨ use.tokens = ∅) →
      ∃ use, memory.usage owner handle = some use ∧ token ∈ use.tokens := by
    intro owner' handle' entry changed kept
    rw [changed] at found
    by_cases hit : owner = owner' ∧ handle = handle'
    · obtain ⟨rfl, rfl⟩ := hit
      rw [Uses.assign_same] at found
      obtain ⟨before, ⟨there, tokens⟩ | none⟩ := kept left found
      · exact ⟨before, there, tokens ▸ member⟩
      · rw [none] at member
        cases member
    · rw [Uses.assign_other _ _ hit] at found
      exact ⟨left, found, member⟩
  cases call with
  | allocate owner' request allocates =>
    rcases memory.allocate_cases owner' request allocates with
      ⟨-, kept⟩ | ⟨slot, allocation, -, fresh⟩
    · exact same kept
    · refine assigned fresh.usage ?_
      intro use entered
      obtain rfl := Option.some.inj entered
      exact ⟨{ requestId := 0, tokens := ∅ }, .inr rfl⟩
  | free owner' handle' =>
    rcases memory.free_usage owner' handle' with ⟨-, kept⟩ | ⟨freed, -, -, -, changed⟩
    · exact same (congrArg HostGPUMemoryState.usage kept)
    · exact assigned changed nofun
  | copyFromHost owner' transfer dispatchRequestId throwsAfter =>
    exact same (HostGPUMemoryState.usage_copyFromHost memory owner' transfer dispatchRequestId
      throwsAfter)
  | functionalWriteBytes owner' transfer dispatchRequestId throwsAfter =>
    exact same (HostGPUMemoryState.usage_copyFromHost memory owner' transfer dispatchRequestId
      throwsAfter)
  | copyToHost owner' range dispatchRequestId allocates => exact same rfl
  | readBytes owner' range allocates => exact same rfl
  | pinPinnedDispatchAllocation owner' handle' requestId =>
    rcases memory.pin_cases owner' handle' requestId with
      refused | ⟨before, there, -, -, -, changed⟩
    · exact same (congrArg (fun reply => reply.2.usage) refused)
    · refine assigned changed ?_
      intro use entered
      obtain rfl := Option.some.inj entered
      exact ⟨before, .inl ⟨there, rfl⟩⟩
  | releasePinnedDispatchAllocation owner' handle' requestId =>
    rcases memory.unpin_cases owner' handle' requestId with refused | ⟨before, there, -, changed⟩
    · exact same (congrArg (fun reply => reply.2.usage) refused)
    · refine assigned changed ?_
      intro use entered
      obtain rfl := Option.some.inj entered
      exact ⟨before, .inl ⟨there, rfl⟩⟩
  | retainFunctionalPage owner' handle' token' => cases other
  | releaseFunctionalPage owner' handle' token' => cases other
  | disconnect leaving =>
    simp only [HostGPUMemoryState.step, HostGPUMemoryState.run] at found
    rcases memory.usage_disconnect leaving owner handle with kept | ⟨gone, -⟩
    · exact ⟨left, kept.symm.trans found, member⟩
    · rw [gone] at found
      cases found
  | clear => cases other

/-- What a map leaves: nothing but a spent token, or a lease and its token. -/
theorem map_cases (shape : PageSize context.pageSize) (sound : ContextSound context)
    (address byteCount : UInt64) (emplaces : Bool) :
    ((context.map address byteCount emplaces).2.leases = context.leases ∧
        (context.map address byteCount emplaces).2.memory.usage = context.memory.usage) ∨
      ∃ lease use, (context.map address byteCount emplaces).2.leases = lease :: context.leases ∧
        context.memory.usage context.owner lease.allocation = some use ∧
        (context.map address byteCount emplaces).2.memory.usage =
          context.memory.usage.assign context.owner lease.allocation
            (some { use with tokens := insert lease.token use.tokens }) ∧
        Spans context.pageSize lease ∧
        ∀ other ∈ context.leases, lease.token ≠ other.token := by
  unfold HostNativeMemoryContext.map
  cases resolved : context.resolveRange address byteCount with
  | none => exact .inl ⟨rfl, rfl⟩
  | some found =>
  obtain ⟨info, offset⟩ := found
  dsimp only
  split
  · exact .inl ⟨rfl, rfl⟩
  rename_i ordered
  split
  · exact .inl ⟨rfl, rfl⟩
  rename_i token tokens taken
  obtain ⟨issued, value, -⟩ := IssueCounter.take_spec taken
  have fresh : ∀ other ∈ context.leases, token ≠ other.token := by
    intro other member same
    have below := (sound.issued other member).2
    rw [← same, value] at below
    exact absurd below (lt_irrefl _)
  rcases context.memory.retain_cases context.owner info.allocation token with
    refused | ⟨use, there, -, absent, retained, changed⟩
  · rw [refused]
    exact .inl ⟨rfl, rfl⟩
  rw [retained]
  simp only [Bool.not_true, Bool.false_eq_true, if_false]
  split
  · -- the token is taken back, and the memory is as it was
    refine .inl ⟨rfl, ?_⟩
    have entered : (context.memory.retainFunctionalPage context.owner info.allocation token).2.usage
        context.owner info.allocation = some { use with tokens := insert token use.tokens } := by
      rw [changed, Uses.assign_same]
    obtain ⟨-, undone⟩ := HostGPUMemoryState.unretain_of_usage entered issued
      (Finset.mem_insert_self token use.tokens)
    dsimp only
    rw [undone, changed]
    funext other name
    by_cases hit : other = context.owner ∧ name = info.allocation
    · obtain ⟨rfl, rfl⟩ := hit
      rw [Uses.assign_same, there, Finset.erase_insert absent]
    · rw [Uses.assign_other _ _ hit, Uses.assign_other _ _ hit]
  · refine .inr ⟨_, use, rfl, there, changed, ?_, fresh⟩
    obtain ⟨nonempty, slot, allocation, here, -, -, -, ends⟩ := resolveRange_eq_some resolved
    have size := SlotTable.le_total here fun allocation => allocation.size.toNat
    have within := UInt64.le_iff_toNat_le.mp sound.memory.within
    have total : MaximumTotalBytes.toNat = 0x100000000 := by decide
    have base : VirtualAddressBase.toNat = 0x0000100000000000 := by decide
    have stride : VirtualAddressStride.toNat = 0x80000000 := by decide
    have place := toNat_virtualAddress slot
    rw [stride] at place
    have inTable : slot.val < 1024 := slot.isLt
    rw [← sound.memory.liveBytes] at size
    exact spans_of_pages shape nonempty (by dsimp only; omega) rfl ordered rfl

end Calls

section Invariant

variable {context : HostNativeMemoryContext} {lease : PageLease}

/-- Every token in the memory is that of one lease, and every lease has its token there. -/
structure Kept (context : HostNativeMemoryContext) : Prop where
  shape : PageSize context.pageSize
  sound : ContextSound context
  backed : ∀ owner handle use, context.memory.usage owner handle = some use →
    ∀ token ∈ use.tokens, owner = context.owner ∧
      ∃ lease ∈ context.leases, lease.token = token ∧ lease.allocation = handle
  distinct : context.leases.Pairwise fun first second => first.token ≠ second.token
  spans : ∀ lease ∈ context.leases, Spans context.pageSize lease

theorem Kept.map (kept : Kept context) (address byteCount : UInt64) (emplaces : Bool) :
    Kept (context.map address byteCount emplaces).2 := by
  have moves := @map_moves context (fun _ => True) kept.sound address byteCount emplaces
    fun _ _ _ => trivial
  have pageSize := moves.pageSize
  rcases map_cases kept.shape kept.sound address byteCount emplaces with
    ⟨leases, usage⟩ | ⟨lease, use, leases, found, usage, spans, fresh⟩
  · refine ⟨by rw [pageSize]; exact kept.shape, moves.sound, ?_, ?_, ?_⟩
    · rw [leases, usage, moves.owner]
      exact kept.backed
    · rw [leases]
      exact kept.distinct
    · rw [leases, pageSize]
      exact kept.spans
  · refine ⟨by rw [pageSize]; exact kept.shape, moves.sound, ?_, ?_, ?_⟩
    · intro owner handle left there token member
      rw [leases, moves.owner]
      rw [usage] at there
      by_cases hit : owner = context.owner ∧ handle = lease.allocation
      · obtain ⟨rfl, rfl⟩ := hit
        rw [Uses.assign_same] at there
        obtain rfl := Option.some.inj there
        refine ⟨rfl, ?_⟩
        rcases Finset.mem_insert.mp member with rfl | old
        · exact ⟨lease, List.mem_cons_self, rfl, rfl⟩
        · obtain ⟨-, other, held, same⟩ := kept.backed _ _ use found token old
          exact ⟨other, List.mem_cons_of_mem _ held, same⟩
      · rw [Uses.assign_other _ _ hit] at there
        obtain ⟨owned, other, held, same⟩ := kept.backed _ _ left there token member
        exact ⟨owned, other, List.mem_cons_of_mem _ held, same⟩
    · rw [leases]
      exact List.pairwise_cons.mpr ⟨fresh, kept.distinct⟩
    · rw [leases, pageSize]
      intro other member
      rcases List.mem_cons.mp member with rfl | old
      · exact spans
      · exact kept.spans other old

/-- A lease with any field altered is none that is held. -/
theorem unmap_of_altered (altered : lease ∉ context.leases) :
    context.unmap lease = (false, context) := by
  unfold HostNativeMemoryContext.unmap
  cases found : context.leases.find? fun held => held.token == lease.token with
  | none => rfl
  | some current =>
    dsimp only
    rw [if_pos]
    rintro rfl
    exact altered (List.mem_of_find?_eq_some found)

theorem Kept.unmap (kept : Kept context) (lease : PageLease) : Kept (context.unmap lease).2 := by
  by_cases member : lease ∈ context.leases
  case neg =>
    rw [unmap_of_altered member]
    exact kept
  have moves := @unmap_moves context (fun _ => True) lease kept.sound trivial
  obtain ⟨use, found, -, -, owner, leases, usage⟩ := unmap_of_held kept.sound member
  have pageSize := moves.pageSize
  refine ⟨by rw [pageSize]; exact kept.shape, moves.sound, ?_, ?_, ?_⟩
  · intro name handle left there token present
    rw [leases, owner]
    rw [usage] at there
    by_cases hit : name = context.owner ∧ handle = lease.allocation
    · obtain ⟨rfl, rfl⟩ := hit
      rw [Uses.assign_same] at there
      obtain rfl := Option.some.inj there
      obtain ⟨differs, old⟩ := Finset.mem_erase.mp present
      obtain ⟨-, other, held, rfl, about⟩ := kept.backed _ _ use found token old
      exact ⟨rfl, other, List.mem_filter.mpr ⟨held, by simpa using differs⟩, rfl, about⟩
    · rw [Uses.assign_other _ _ hit] at there
      obtain ⟨owned, other, held, rfl, about⟩ := kept.backed _ _ left there token present
      have differs : other.token ≠ lease.token := by
        intro same
        obtain rfl := kept.sound.distinct other held lease member same
        exact hit ⟨owned, about.symm⟩
      exact ⟨owned, other, List.mem_filter.mpr ⟨held, by simpa using differs⟩, rfl, about⟩
  · rw [leases]
    exact kept.distinct.filter _
  · rw [leases, pageSize]
    intro other held
    exact kept.spans other (List.mem_filter.mp held).1

theorem Kept.write (kept : Kept context) (address : UInt64) (source : List UInt8)
    (dispatchRequestId : UInt64) (env : WriteEnv) :
    Kept (context.functionalWrite address source dispatchRequestId env).2 := by
  have moves := @write_moves context (fun _ => False) kept.sound address source dispatchRequestId
    env
  have leases : (context.functionalWrite address source dispatchRequestId env).2.leases =
      context.leases := by
    unfold HostNativeMemoryContext.functionalWrite
    split
    · rfl
    unfold HostNativeMemoryContext.functionalWriteVector
    dsimp only
    split
    · rfl
    split
    · rfl
    split <;> rfl
  refine ⟨by rw [moves.pageSize]; exact kept.shape, moves.sound, ?_, ?_, ?_⟩
  · rw [leases, Steady.usage moves, moves.owner]
    exact kept.backed
  · rw [leases]
    exact kept.distinct
  · rw [leases, moves.pageSize]
    exact kept.spans

theorem Kept.memory (kept : Kept context) {call : Memory.Call} (other : shared call = true) :
    Kept { context with memory := context.memory.step call } := by
  have running : call ≠ .clear := by
    rintro rfl
    cases other
  refine ⟨kept.shape, ⟨(kept.sound.memory.progress call).sound, ?_, kept.sound.issued,
    kept.sound.distinct⟩, ?_, kept.distinct, kept.spans⟩
  · intro lease member
    obtain ⟨use, found, token⟩ := kept.sound.held lease member
    have used : ¬ use.idle := by
      rintro ⟨-, none⟩
      rw [none] at token
      cases token
    obtain ⟨left, there, leaves⟩ := HostGPUMemoryState.usage_step call found used running
    refine ⟨left, there, leaves.tokens lease.token token ?_⟩
    rintro rfl
    cases other
  · intro owner handle left found token member
    obtain ⟨use, there, old⟩ := tokens_step other found member
    exact kept.backed owner handle use there token old

/-- The order of the leases does not matter. -/
theorem Kept.perm (kept : Kept context) {order : List PageLease}
    (reordered : order.Perm context.leases) : Kept { context with leases := order } := by
  refine ⟨kept.shape, ⟨kept.sound.memory, ?_, ?_, ?_⟩, ?_, ?_, ?_⟩
  · exact fun lease member => kept.sound.held lease (reordered.mem_iff.mp member)
  · exact fun lease member => kept.sound.issued lease (reordered.mem_iff.mp member)
  · exact fun first left second right => kept.sound.distinct first (reordered.mem_iff.mp left)
      second (reordered.mem_iff.mp right)
  · intro owner handle use found token member
    obtain ⟨owned, lease, held, same⟩ := kept.backed owner handle use found token member
    exact ⟨owned, lease, reordered.mem_iff.mpr held, same⟩
  · exact (reordered.pairwise_iff fun differs => differs.symm).mpr kept.distinct
  · exact fun lease member => kept.spans lease (reordered.mem_iff.mp member)

/-- Leases given back one after the other leave no lease and no token. -/
theorem Kept.release (kept : Kept context) :
    Kept { context with
      memory := HostNativeMemoryContext.releaseLeases context.owner context.leases context.memory
      leases := [] } := by
  -- the induction gives back the first lease; the others are held by the context that is left
  generalize held : context.leases = leases
  induction leases generalizing context with
  | nil =>
    have same : context = { context with leases := [] } := by rw [← held]
    rw [same] at kept
    exact kept
  | cons lease rest ih =>
    have member : lease ∈ context.leases := by
      rw [held]
      exact List.mem_cons_self
    -- tokens are distinct, so giving this one back takes no other lease along
    have others : rest.filter (fun other => other.token != lease.token) = rest := by
      have distinct := kept.distinct
      rw [held, List.pairwise_cons] at distinct
      rw [List.filter_eq_self]
      intro other there
      simpa using (distinct.1 other there).symm
    obtain ⟨-, -, -, done, owner, leases, -⟩ := unmap_of_held kept.sound member
    have unmapped : (context.unmap lease).2 = { context with
        memory := (context.memory.releaseFunctionalPage context.owner lease.allocation
          lease.token).2
        leases := rest } := by
      rw [held, List.filter_cons_of_neg (by simp), others] at leases
      revert done leases
      unfold HostNativeMemoryContext.unmap
      rw [find_held kept.sound member]
      dsimp only
      rw [if_neg (not_not.mpr rfl)]
      split
      · intro done
        cases done
      · intro _ leases
        dsimp only at leases
        rw [leases]
    have later := kept.unmap lease
    rw [unmapped] at later
    exact ih later rfl

theorem Kept.clear (kept : Kept context) : Kept context.clear := kept.release

/-- Every call keeps leases and tokens together. -/
theorem kept_step (kept : Kept context) (call : ContextCall) : Kept (context.step call) := by
  cases call with
  | map address byteCount emplaces => exact kept.map address byteCount emplaces
  | unmap lease => exact kept.unmap lease
  | functionalRead address byteCount dispatchRequestId allocates => exact kept
  | functionalWrite address source dispatchRequestId env =>
    exact kept.write address source dispatchRequestId env
  | clear => exact kept.clear
  | memory call =>
    unfold HostNativeMemoryContext.step
    dsimp only
    split
    · rename_i other
      exact kept.memory other
    · exact kept

end Invariant

section Runs

variable {context : HostNativeMemoryContext}

/-- The allocation in a slot, as its handle names it. -/
theorem usage_of_slot {memory : HostGPUMemoryState} {slot : Fin MaximumAllocations}
    {allocation : Allocation} (here : memory.allocations slot = some allocation) :
    memory.usage allocation.owner (handleOf slot allocation) = some (usageOf allocation) := by
  have resolved : memory.resolve allocation.owner (handleOf slot allocation) =
      some (slot, allocation) :=
    HostGPUMemoryState.resolve_eq_some.mpr ⟨slotOfId_idOfSlot (by decide) slot, here, rfl, rfl⟩
  exact HostGPUMemoryState.usage_of_resolve resolved

theorem Kept.leased (kept : Kept context) {slot : Fin MaximumAllocations} {allocation : Allocation}
    (here : context.memory.allocations slot = some allocation) {token : UInt64}
    (member : token ∈ allocation.functionalPageTokens) :
    allocation.owner = context.owner ∧
      ∃ lease ∈ context.leases, lease.token = token ∧ lease.allocation = handleOf slot allocation :=
  kept.backed _ _ _ (usage_of_slot here) token member

/-- As many leases are held of an allocation as it has tokens. -/
theorem Kept.counted (kept : Kept context) (handle : AllocationHandle) :
    context.allocationLeaseCount handle =
      context.memory.functionalPageLeaseCount context.owner handle := by
  rw [HostNativeMemoryContext.allocationLeaseCount, HostGPUMemoryState.functionalPageLeaseCount]
  cases resolved : context.memory.resolve context.owner handle with
  | none =>
    rw [List.length_eq_zero_iff, List.filter_eq_nil_iff]
    intro lease member about
    obtain ⟨use, found, -⟩ := kept.sound.held lease member
    rw [eq_of_beq about, HostGPUMemoryState.usage, resolved] at found
    cases found
  | some pair =>
    obtain ⟨slot, allocation⟩ := pair
    have found := HostGPUMemoryState.usage_of_resolve resolved
    dsimp only
    have distinct : ((context.leases.filter fun lease => lease.allocation == handle).map
        PageLease.token).Nodup := by
      rw [List.Nodup, List.pairwise_map]
      exact kept.distinct.filter _
    have tokens : ((context.leases.filter fun lease => lease.allocation == handle).map
        PageLease.token).toFinset = allocation.functionalPageTokens := by
      ext token
      rw [List.mem_toFinset, List.mem_map]
      constructor
      · rintro ⟨lease, member, rfl⟩
        obtain ⟨held, about⟩ := List.mem_filter.mp member
        obtain ⟨use, there, present⟩ := kept.sound.held lease held
        rw [eq_of_beq about] at there
        obtain rfl := Option.some.inj (found.symm.trans there)
        exact present
      · intro member
        obtain ⟨-, lease, held, same, about⟩ := kept.backed _ _ _ found token member
        exact ⟨lease, List.mem_filter.mpr ⟨held, beq_iff_eq.mpr about⟩, same⟩
    -- distinct leases with these tokens are as many as the tokens
    rw [← tokens, List.toFinset_card_of_nodup distinct, List.length_map]

/-- Only a copy of as many bytes as its range has is made. -/
theorem length_of_written {memory : HostGPUMemoryState} {owner : OwnerKey} {transfer : Transfer}
    {dispatchRequestId : UInt64} {throwsAfter : Option ℕ}
    (wrote : (memory.functionalWriteBytes owner transfer dispatchRequestId throwsAfter).1.ok =
      true) : transfer.bytes.length = transfer.range.bytes.toNat := by
  unfold HostGPUMemoryState.functionalWriteBytes HostGPUMemoryState.copyFromHost at wrote
  dsimp only at wrote
  split at wrote
  · rename_i refused
    rw [wrote] at refused
    cases refused
  split at wrote
  · cases wrote
  · rename_i same
    exact not_not.mp same

theorem Kept.law (kept : Kept context) : LeaseLaw context where
  recorded := by
    intro lease member
    obtain ⟨use, found, token⟩ := kept.sound.held lease member
    obtain ⟨slot, allocation, resolved, rfl⟩ := HostGPUMemoryState.usage_eq_some.mp found
    exact ⟨slot, allocation, resolved, token⟩
  leased := fun slot allocation here token member => kept.leased here member
  distinct := kept.distinct
  counted := kept.counted
  freed := by
    intro lease member owner
    obtain ⟨use, found, token⟩ := kept.sound.held lease member
    -- a free that is not refused finds an idle allocation, which has no token
    rcases context.memory.free_usage owner lease.allocation with refused | ⟨other, there, idle, -⟩
    · exact refused
    · obtain rfl := HostGPUMemoryState.usage_owner found there
      obtain rfl := Option.some.inj (found.symm.trans there)
      rw [idle.2] at token
      cases token
  reads := by
    intro address byteCount dispatchRequestId allocates bytes read
    unfold HostNativeMemoryContext.functionalRead at read
    cases resolved : context.resolveRange address byteCount with
    | none =>
      rw [resolved] at read
      cases read
    | some found =>
      obtain ⟨info, offset⟩ := found
      rw [resolved] at read
      dsimp only at read
      split at read
      · cases read
      rename_i covered
      rw [Bool.not_eq_true, Bool.not_eq_false'] at covered
      exact accessible_of_covered kept.sound.memory kept.spans resolved covered
  writes := by
    intro address source dispatchRequestId env after wrote
    unfold HostNativeMemoryContext.functionalWrite at wrote
    split at wrote
    · cases wrote
    unfold HostNativeMemoryContext.functionalWriteVector at wrote
    dsimp only at wrote
    cases resolved : context.resolveRange address (UInt64.ofNat source.length) with
    | none =>
      rw [resolved] at wrote
      cases wrote
    | some found =>
      obtain ⟨info, offset⟩ := found
      rw [resolved] at wrote
      dsimp only at wrote
      split at wrote
      · cases wrote
      rename_i covered
      rw [Bool.not_eq_true, Bool.not_eq_false'] at covered
      have reached := accessible_of_covered kept.sound.memory kept.spans resolved covered
      split at wrote
      · cases wrote
      have accepted : ((context.memory.functionalWriteBytes context.owner
          { range := { allocation := info.allocation
                       offset := offset
                       bytes := UInt64.ofNat source.length }
            bytes := source } dispatchRequestId env.throwsAfter).1.ok) = true := by
        by_contra refused
        rw [if_neg refused] at wrote
        cases wrote
      -- the copy that succeeds is as long as its range, so the range covers every byte of the source
      rw [← length_of_written accepted] at reached
      exact reached
  altered := fun lease absent => unmap_of_altered absent
  cleared := by
    refine ⟨rfl, ?_⟩
    intro order reordered slot allocation here
    have empty := (kept.perm reordered).release
    rw [Finset.eq_empty_iff_forall_notMem]
    intro token member
    obtain ⟨-, lease, held, -⟩ := empty.leased here member
    cases held

/-- In every state of every run leases and tokens correspond. -/
theorem leaseLaw_of_run {owner : OwnerKey} {pageBytes : UInt64}
    (constructed : HostNativeMemoryContext.construct HostGPUMemoryState.boot owner pageBytes =
      some context) (calls : List ContextCall) :
    LeaseLaw (runFrom HostNativeMemoryContext.step context calls) := by
  apply Kept.law
  apply invariant_runFrom HostNativeMemoryContext.step Kept
    (fun _ call kept => kept_step kept call)
  unfold HostNativeMemoryContext.construct at constructed
  split at constructed
  · cases constructed
  rename_i power
  rw [not_or, not_not] at power
  obtain rfl := Option.some.inj constructed
  refine ⟨?_, ⟨HostGPUMemoryState.sound_boot, nofun, nofun, nofun⟩, ?_, .nil, nofun⟩
  · exact pageSize_of_mask power.1 power.2
  · intro other handle use found
    obtain ⟨slot, allocation, resolved, -⟩ := HostGPUMemoryState.usage_eq_some.mp found
    obtain ⟨-, here, -⟩ := HostGPUMemoryState.resolve_eq_some.mp resolved
    cases here

/-- A memory with two pages, one of which is leased; then the memory is asked to free them. -/
def onePage : List ContextCall :=
  [.memory (.allocate { scope := 1, generation := 1 } { size := 8192, alignment := 4096 } true),
    .map 0x100000000010 32 true,
    .memory (.free { scope := 1, generation := 1 } { id := 1, generation := 1 })]

/-- A lease is held, and its allocation has not been freed. -/
theorem leaseLaw_of_run_onePage :
    (runFrom HostNativeMemoryContext.step
        { memory := HostGPUMemoryState.boot
          owner := { scope := 1, generation := 1 }
          pageSize := 4096 } onePage).leases =
      [{ token := 1
         allocation := { id := 1, generation := 1 }
         firstPage := 0x100000000000
         pageCount := 1
         address := 0x100000000010
         byteCount := 32 }] ∧
    LeaseLaw (runFrom HostNativeMemoryContext.step
      { memory := HostGPUMemoryState.boot
        owner := { scope := 1, generation := 1 }
        pageSize := 4096 } onePage) :=
  ⟨by decide +kernel, @leaseLaw_of_run _ { scope := 1, generation := 1 } 4096 (if_neg (by decide)) _⟩

end Runs

end GemSim.Dispatch
