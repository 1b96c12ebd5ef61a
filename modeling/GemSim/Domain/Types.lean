import Mathlib.Init

/-!
# Domain types of the bridge

The statuses, owner keys, handles and ranges that the stores behind the bridge share.
A value built without arguments is the zero value of its type.

## Main definitions

* `Status`, `FailureReason`, `Result` — how an operation ended
* `OwnerKey` — whom a resource belongs to
* `ObjectHandle`, `MappingHandle`, `AllocationHandle` — an id with its generation
* `AllocationInfo`, `MemoryRange`, `Transfer` — what memory operations speak of
-/

namespace GemSim.Domain

inductive Status where
  | ok
  | invalidArgument
  | unsupportedFormat
  | unsupportedFeature
  | instanceMismatch
  | targetMismatch
  | ownerMismatch
  | busy
  | resourceExhausted
  | staleState
  | internal
  deriving DecidableEq, Repr

inductive FailureReason where
  | none
  | invalidOwner
  | invalidRequest
  | busy
  | unsupportedPreload
  | mapping
  | allocation
  | pageMap
  | publication
  | queue
  | commandProcessor
  | state
  | overflow
  deriving DecidableEq, Repr

structure Result (α : Type) where
  status : Status
  reason : FailureReason
  value : α
  deriving DecidableEq

namespace Result

variable {α : Type}

def ok (result : Result α) : Bool := result.status == .ok

/-- A result that carries a value. -/
def success (value : α) : Result α := { status := .ok, reason := .none, value := value }

/-- A result that carries nothing but its status. -/
def failure [Inhabited α] (status : Status) (reason : FailureReason) : Result α :=
  { status := status, reason := reason, value := default }

@[simp] theorem ok_success (value : α) : (success value).ok = true := rfl

end Result

structure OwnerKey where
  scope : UInt64 := 0
  generation : UInt64 := 0
  deriving DecidableEq, Repr

structure ObjectHandle where
  id : UInt64 := 0
  generation : UInt64 := 0
  deriving DecidableEq, Repr

structure MappingHandle where
  id : UInt64 := 0
  generation : UInt64 := 0
  deriving DecidableEq, Repr

structure AllocationHandle where
  id : UInt64 := 0
  generation : UInt64 := 0
  deriving DecidableEq, Repr

structure AllocationRequest where
  size : UInt64 := 0
  alignment : UInt64 := 0
  deriving DecidableEq

structure AllocationInfo where
  allocation : AllocationHandle := {}
  gpuVa : UInt64 := 0
  size : UInt64 := 0
  alignment : UInt64 := 0
  deriving DecidableEq

instance : Inhabited AllocationInfo := ⟨{}⟩

structure MemoryRange where
  allocation : AllocationHandle := {}
  offset : UInt64 := 0
  bytes : UInt64 := 0
  deriving DecidableEq

structure Transfer where
  range : MemoryRange := {}
  bytes : List UInt8 := []
  deriving DecidableEq

instance : Inhabited Transfer := ⟨{}⟩

def MaximumTransferBytes : UInt64 := (16 : UInt64) <<< 20

end GemSim.Domain
