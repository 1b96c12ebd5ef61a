import GemSim.Dispatch.DispatchState
import GemSim.Lib.Run

/-!
# The dispatch state among the other users of its memory

A run interleaves the operations of one dispatch state with what everybody else does: the
calls of other users on the same memory, the calls on the queues, writes into the address
spaces of the queues, and other sessions drawing identities. Other users may lease, pin
and free whatever they like, but they give back only what they took themselves: the
leases of this context and the pins of its submission are not theirs to release.

## Main definitions

* `Others`, `Input` — one step of the run
* `foreign` — a memory call does not give back what this state holds
* `step`, `succeeds` — the system as a machine
-/

namespace GemSim.Dispatch

open GemSim.Lib GemSim.Domain GemSim.Memory
open GemSim.Native (HostNativeQueueCore FetchedPacket)

/-- A step of somebody else. -/
inductive Others where
  | memory (call : Memory.Call)
  | queue (queue : ℕ) (call : Native.Call)
  | addressSpace (queue : ℕ) (bytes : SparseBytes)
  | identities (value : Option DispatchIdentitySequence)

inductive Input where
  | map (request : OperationContext) (command : MapKernel) (image : List UInt8)
      (metadata : CodeObjectMetadata) (env : MapRequestEnv)
  | allocateKernarg (request : OperationContext) (command : AllocateKernarg) (env : KernargEnv)
  | publishKernarg (request : OperationContext) (command : PublishKernarg) (env : PublishEnv)
  | submit (request : OperationContext) (command : SubmitKernel) (completionSignalVa : UInt64)
      (queue : ℕ) (fetched : FetchedPacket) (dispatchIdOverride : UInt64) (env : SubmitEnv)
  | retire (request : OperationContext) (command : SubmitKernel) (queue : ℕ) (writes : Bool)
  | abandonSubmission (writes : Bool)
  | unmap (request : OperationContext) (command : UnmapKernel)
  | clear
  | others (call : Others)

namespace HostNativeDispatchStateV2

/-- The allocation of the mapped code. -/
def codeHandle (state : HostNativeDispatchStateV2) : Option AllocationHandle :=
  state.mapping.map fun mapping => mapping.value.allocation.allocation

/-- The allocation of the kernarg buffer. -/
def kernargHandle (state : HostNativeDispatchStateV2) : Option AllocationHandle :=
  state.kernarg.map fun kernarg => kernarg.allocation.allocation

/-- The submission pins an allocation. -/
def pins (state : HostNativeDispatchStateV2) (owner : OwnerKey) (handle : AllocationHandle) : Bool :=
  state.submission.isSome && owner == state.boundOwner &&
    (state.codeHandle == some handle || state.kernargHandle == some handle)

/-- The context holds a lease of an allocation under a token. -/
def leases (state : HostNativeDispatchStateV2) (owner : OwnerKey) (handle : AllocationHandle)
    (token : UInt64) : Bool :=
  owner == state.context.owner &&
    state.context.leases.any fun lease => lease.allocation == handle && lease.token == token

/-- A call on the memory that does not give back what this state holds. -/
def foreign (state : HostNativeDispatchStateV2) : Memory.Call → Bool
  | .releasePinnedDispatchAllocation owner handle _ => !state.pins owner handle
  | .releaseFunctionalPage owner handle token => !state.leases owner handle token
  | .clear => false
  | _ => true

/-- What somebody else does. -/
def elsewhere (state : HostNativeDispatchStateV2) : Others → HostNativeDispatchStateV2
  | .memory call =>
    if state.foreign call then
      { state with context := { state.context with memory := state.context.memory.step call } }
    else state
  | .queue queue call => state.withQueue queue ((state.queues queue).step call)
  | .addressSpace queue bytes =>
    state.withQueue queue { state.queues queue with context := bytes }
  | .identities value => { state with identities := value }

variable (layout : Layout)

/-- Whether a call returned true, and the state after it. -/
def run (state : HostNativeDispatchStateV2) : Input → Bool × HostNativeDispatchStateV2
  | .map request command image metadata env =>
    let reply := state.map layout request command image metadata env
    (reply.returned, reply.after)
  | .allocateKernarg request command env =>
    let reply := state.allocateKernarg request command env
    (reply.returned, reply.after)
  | .publishKernarg request command env =>
    let reply := state.publishKernarg request command env
    (reply.returned, reply.after)
  | .submit request command completionSignalVa queue fetched dispatchIdOverride env =>
    let reply := state.submit layout request command completionSignalVa queue fetched
      dispatchIdOverride env
    (reply.returned, reply.after)
  | .retire request command queue writes =>
    let reply := state.retire request command queue writes
    (reply.returned, reply.after)
  | .abandonSubmission writes => state.abandonSubmission writes
  | .unmap request command =>
    let reply := state.unmap request command
    (reply.returned, reply.after)
  | .clear => state.clear
  | .others call => (true, state.elsewhere call)

def step (state : HostNativeDispatchStateV2) (input : Input) : HostNativeDispatchStateV2 :=
  (state.run layout input).2

def succeeds (state : HostNativeDispatchStateV2) (input : Input) : Bool :=
  (state.run layout input).1

/-- A fresh state over a fresh memory and queues that are not registered. The three owners
are those the memory context, the mapper and the state were built with. -/
def boot (contextOwner mapperOwner boundOwner : OwnerKey) (pageSize : UInt64)
    (identities : Option DispatchIdentitySequence) (spaces : ℕ → SparseBytes) :
    HostNativeDispatchStateV2 where
  context := { memory := HostGPUMemoryState.boot, owner := contextOwner, pageSize := pageSize }
  queues queue := HostNativeQueueCore.boot (spaces queue)
  mapperOwner := mapperOwner
  boundOwner := boundOwner
  identities := identities

end HostNativeDispatchStateV2

end GemSim.Dispatch
