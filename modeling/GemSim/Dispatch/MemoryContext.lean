import GemSim.Memory.MemoryState

/-!
# Page leases on the functional memory

An adapter from GPU addresses to the allocations of one owner. A range is mapped by
leasing the pages of the allocation that holds it, under a token that is never issued
again; bytes are read and written only inside a lease. The memory is the borrowed one, so
it is part of the state. Whether an allocation of host memory succeeds is an argument of
the operation. Where nothing catches the failure of one, it leaves the operation.

## Main definitions

* `PageLease`, `HostNativeMemoryContext` — the leases that are held, and the memory
* `map`, `unmap` — take a lease and give it back
* `functionalRead`, `functionalWrite` — byte access inside a lease
* `construct`, `clear` — a context without leases, and giving all leases back
-/

namespace GemSim.Dispatch

open GemSim.Lib GemSim.Domain GemSim.Memory

structure PageLease where
  token : UInt64 := 0
  allocation : AllocationHandle := {}
  firstPage : UInt64 := 0
  pageCount : UInt64 := 0
  address : UInt64 := 0
  byteCount : UInt64 := 0
  deriving DecidableEq

def PageLease.valid (lease : PageLease) : Bool := lease.token != 0 && lease.pageCount != 0

structure HostNativeMemoryContext where
  memory : HostGPUMemoryState
  owner : OwnerKey
  pageSize : UInt64 := 4096
  tokens : IssueCounter := {}
  leases : List PageLease := []

/-- How the allocations of a functional write end: the copy of the bytes into a vector, the copy
of the vector into the transfer, and the chunks of the memory. -/
structure WriteEnv where
  copies : Bool := true
  transfers : Bool := true
  throwsAfter : Option ℕ := none

/-- How a write ends: it returns true or false, or the failure of an allocation leaves it. -/
inductive WriteEnd where
  | written
  | refused
  | badAlloc
  deriving DecidableEq

/-- The start of the page of an address. -/
def pageOf (pageSize address : UInt64) : UInt64 := address &&& ~~~(pageSize - 1)

namespace HostNativeMemoryContext

/-- The allocation that holds a range, and the offset of the range in it. -/
def resolveRange (context : HostNativeMemoryContext) (address byteCount : UInt64) :
    Option (AllocationInfo × UInt64) :=
  (context.memory.allocationViewContaining context.owner address byteCount).map fun allocation =>
    (allocation, address - allocation.gpuVa)

/-- The range from `address` to `stop` lies in the pages of a lease of the allocation. -/
def leaseCovers (context : HostNativeMemoryContext) (allocation : AllocationHandle)
    (address stop : UInt64) (lease : PageLease) : Bool :=
  if lease.allocation ≠ allocation then false
  else if lease.pageCount > u64Max / context.pageSize then false
  else
    let leaseEnd := lease.firstPage + lease.pageCount * context.pageSize
    if leaseEnd < lease.firstPage then false
    else address ≥ lease.firstPage && stop ≤ leaseEnd

def coveredByLease (context : HostNativeMemoryContext) (allocation : AllocationHandle)
    (address byteCount : UInt64) : Bool :=
  if byteCount = 0 ∨ address > u64Max - (byteCount - 1) then false
  else context.leases.any (context.leaseCovers allocation address (address + byteCount))

/-- Lease the pages of a range. The token is spent even if the lease is refused. -/
def map (context : HostNativeMemoryContext) (address byteCount : UInt64) (emplaces : Bool) :
    Option PageLease × HostNativeMemoryContext :=
  match context.resolveRange address byteCount with
  | none => (none, context)
  | some (allocation, _) =>
    let firstPage := pageOf context.pageSize address
    let lastPage := pageOf context.pageSize (address + byteCount - 1)
    if lastPage < firstPage then (none, context)
    else
      match context.tokens.take with
      | none => (none, context)
      | some (token, tokens) =>
        let context := { context with tokens := tokens }
        let (retained, memory) :=
          context.memory.retainFunctionalPage context.owner allocation.allocation token
        if !retained then (none, { context with memory := memory })
        else
          let lease : PageLease :=
            { token := token
              allocation := allocation.allocation
              firstPage := firstPage
              pageCount := (lastPage - firstPage) / context.pageSize + 1
              address := address
              byteCount := byteCount }
          if !emplaces then
            (none, { context with
              memory := (memory.releaseFunctionalPage context.owner allocation.allocation token).2 })
          else (some lease, { context with memory := memory, leases := lease :: context.leases })

/-- Give a lease back. -/
def unmap (context : HostNativeMemoryContext) (lease : PageLease) :
    Bool × HostNativeMemoryContext :=
  match context.leases.find? fun held => held.token == lease.token with
  | none => (false, context)
  | some current =>
    if current ≠ lease then (false, context)
    else
      let (released, memory) :=
        context.memory.releaseFunctionalPage context.owner current.allocation current.token
      if !released then (false, { context with memory := memory })
      else
        (true, { context with
          memory := memory
          leases := context.leases.filter fun held => held.token != lease.token })

def functionalRead (context : HostNativeMemoryContext) (address byteCount dispatchRequestId : UInt64)
    (allocates : Bool) : Option (List UInt8) :=
  match context.resolveRange address byteCount with
  | none => none
  | some (allocation, offset) =>
    if !context.coveredByLease allocation.allocation address byteCount then none
    else
      let result := context.memory.copyToHost context.owner
        { allocation := allocation.allocation, offset := offset, bytes := byteCount }
        dispatchRequestId allocates
      if !result.ok then none else some result.value.bytes

/-- Write the bytes of a vector. They are copied into the transfer, and nothing catches the
failure of that copy. -/
def functionalWriteVector (context : HostNativeMemoryContext) (address : UInt64)
    (source : List UInt8) (dispatchRequestId : UInt64) (env : WriteEnv) :
    WriteEnd × HostNativeMemoryContext :=
  let byteCount := UInt64.ofNat source.length
  match context.resolveRange address byteCount with
  | none => (.refused, context)
  | some (allocation, offset) =>
    if !context.coveredByLease allocation.allocation address byteCount then (.refused, context)
    else if !env.transfers then (.badAlloc, context)
    else
      let (result, memory) := context.memory.functionalWriteBytes context.owner
        { range := { allocation := allocation.allocation, offset := offset, bytes := byteCount }
          bytes := source }
        dispatchRequestId env.throwsAfter
      (if result.ok then .written else .refused, { context with memory := memory })

/-- Write bytes that are given by their address, which are copied into a vector first. -/
def functionalWrite (context : HostNativeMemoryContext) (address : UInt64) (source : List UInt8)
    (dispatchRequestId : UInt64) (env : WriteEnv) : WriteEnd × HostNativeMemoryContext :=
  if source = [] ∨ !env.copies then (.refused, context)
  else context.functionalWriteVector address source dispatchRequestId env

/-- A context over a memory. The page size has to be a power of two. -/
def construct (memory : HostGPUMemoryState) (owner : OwnerKey) (pageBytes : UInt64) :
    Option HostNativeMemoryContext :=
  if pageBytes = 0 ∨ pageBytes &&& (pageBytes - 1) ≠ 0 then none
  else some { memory := memory, owner := owner, pageSize := pageBytes }

def allocationLeaseCount (context : HostNativeMemoryContext) (allocation : AllocationHandle) : ℕ :=
  (context.leases.filter fun lease => lease.allocation == allocation).length

/-- Give leases back one after the other, in some order. -/
def releaseLeases (owner : OwnerKey) (leases : List PageLease) (memory : HostGPUMemoryState) :
    HostGPUMemoryState :=
  leases.foldl (fun memory lease =>
    (memory.releaseFunctionalPage owner lease.allocation lease.token).2) memory

def clear (context : HostNativeMemoryContext) : HostNativeMemoryContext :=
  { context with
    memory := releaseLeases context.owner context.leases context.memory
    leases := [] }

end HostNativeMemoryContext

end GemSim.Dispatch
