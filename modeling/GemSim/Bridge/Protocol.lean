import GemSim.Kmt.Protocol

/-!
# Bridge records

The record header and the requests and responses of the queue and signal controls of the
bridge. Field names, defaults and numeric codes are those of the wire contract.

## Main definitions

* `Header`, `Owner` — of whom a record is
* `QueueRequest`, `QueueResponse` — the queue control
* `SignalRequest`, `SignalResponse` — the signal control
-/

namespace GemSim.Bridge

open GemSim.Kmt (Status)

abbrev Uuid := Vector UInt8 16

structure Header where
  messageType : UInt16 := 1
  requestId : UInt64 := 0
  daemonUuid : Uuid := Vector.replicate _ 0
  connectionId : UInt64 := 0
  jobEpoch : UInt64 := 0
  deriving DecidableEq

/-- The client behind a descriptor. -/
structure Owner where
  fd : ℤ := -1
  clientGeneration : UInt64 := 0
  deriving DecidableEq

inductive QueueOpcode where
  | create
  | destroy
  | doorbell
  deriving DecidableEq

structure QueueRequest where
  major : UInt16 := 1
  minor : UInt16 := 0
  opcode : QueueOpcode := .create
  flags : UInt16 := 0
  queueId : UInt64 := 0
  generation : UInt64 := 0
  sequence : UInt64 := 0
  arg0 : UInt64 := 0
  arg1 : UInt64 := 0
  deriving DecidableEq

structure QueueResponse where
  major : UInt16 := 1
  minor : UInt16 := 0
  status : Status := .internal
  opcode : QueueOpcode := .create
  queueId : UInt64 := 0
  generation : UInt64 := 0
  sequence : UInt64 := 0
  value : UInt64 := 0
  errorCode : UInt64 := 0
  simTick : UInt64 := 0
  deriving DecidableEq

inductive SignalOpcode where
  | create
  | destroy
  | load
  | store
  | wait
  deriving DecidableEq

inductive SignalCondition where
  | equal
  | notEqual
  | lessThan
  | greaterThanOrEqual
  deriving DecidableEq

structure SignalRequest where
  major : UInt16 := 1
  minor : UInt16 := 0
  opcode : SignalOpcode := .create
  flags : UInt16 := 0
  signalId : UInt64 := 0
  generation : UInt64 := 0
  sequence : UInt64 := 0
  value : Int64 := 0
  condition : SignalCondition := .equal
  deriving DecidableEq

structure SignalResponse where
  major : UInt16 := 1
  minor : UInt16 := 0
  status : Status := .internal
  opcode : SignalOpcode := .create
  signalId : UInt64 := 0
  generation : UInt64 := 0
  sequence : UInt64 := 0
  value : Int64 := 0
  ready : UInt64 := 0
  simTick : UInt64 := 0
  deriving DecidableEq

end GemSim.Bridge
