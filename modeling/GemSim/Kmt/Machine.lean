import GemSim.Kmt.Pins
import GemSim.Lib.Run

/-!
# The KMT state machine

The public operations of the KMT state as the inputs of one machine. Its runs start
from a constructed state and take the operations of any transport owners in any
order.

## Main definitions

* `Op` — one public operation with its arguments and what it meets outside
* `step` — the state after it
* `KmtReachable` — the states some run reaches
-/

namespace GemSim.Kmt

open GemSim.Lib HostGPUKmtState

/-- A public operation. -/
inductive Op
  | submit (env : Env) (transportOwner : Owner) (header : Header) (request : KmtRequest)
  | disconnect (transportOwner : Owner)
  | clear
  | pinDispatch (dispatch : DispatchRef) (badAlloc : Bool)
  | pinDispatchResources (dispatch : DispatchRef) (resources : List AllocationRef)
      (faults : PinFaults)
  | releaseDispatch (dispatch : DispatchRef)
  | writeMemory (transportOwner : Owner) (ownerId ownerGeneration gpuVa : UInt64)
      (source : ℕ → UInt8) (byteCount : UInt64)
  | sampleClock (curTick : UInt64)

/-- The state after an operation. -/
def step (state : HostGPUKmtState) : Op → HostGPUKmtState
  | .submit env transportOwner header request =>
    (submit state env transportOwner header request).state
  | .disconnect transportOwner => disconnect state transportOwner
  | .clear => clear state
  | .pinDispatch dispatch badAlloc => (pinDispatch state dispatch badAlloc).2
  | .pinDispatchResources dispatch resources faults =>
    (pinDispatchResources state dispatch resources faults).2
  | .releaseDispatch dispatch => (releaseDispatch state dispatch).2
  | .writeMemory transportOwner ownerId ownerGeneration gpuVa source byteCount =>
    (writeMemory state transportOwner ownerId ownerGeneration gpuVa source byteCount).2
  | .sampleClock curTick => (state.sampleClockNanoseconds curTick).2

/-- A state of some run of the machine from a constructed state. -/
def KmtReachable (state : HostGPUKmtState) : Prop :=
  ∃ epoch ticksPerNanosecond start,
    construct epoch ticksPerNanosecond = some start ∧ Reachable step start state

end GemSim.Kmt
