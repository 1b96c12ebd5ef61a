import GemSim.Lib.Run
import GemSim.Lib.SlotTable
import GemSim.Lib.SparseBytes
import GemSim.Lib.Regions
import GemSim.Lib.Words
import GemSim.Kmt.Protocol
import GemSim.Kmt.State
import GemSim.Kmt.Call
import GemSim.Kmt.SessionOps
import GemSim.Kmt.MemoryOps
import GemSim.Kmt.QueueOps
import GemSim.Kmt.Submit
import GemSim.Kmt.Effect
import GemSim.Kmt.Pins
import GemSim.Kmt.Machine
import GemSim.Kmt.Scenario
import GemSim.Kmt.Preserve
import GemSim.Kmt.Shape
import GemSim.Kmt.MemoryBounds
import GemSim.Kmt.Ranges
import GemSim.Kmt.Accounting
import GemSim.Kmt.Sessions
import GemSim.Kmt.Handles
import GemSim.Kmt.Atomicity
import GemSim.Kmt.PinLaw
import GemSim.Kmt.NativeMemory
import GemSim.Kmt.Control
import GemSim.Lib.Ring
import GemSim.Native.QueueCore
import GemSim.Native.QueueEffect
import GemSim.Native.QueueRing
import GemSim.Native.QueueLaw
import GemSim.Native.Lifecycle
import GemSim.Native.LifecycleLaw
import GemSim.Lib.Handles
import GemSim.Lib.Chunks
import GemSim.Domain.Types
import GemSim.Memory.MemoryState
import GemSim.Memory.FlatMemory
import GemSim.Memory.Progress
import GemSim.Memory.Refinement
import GemSim.Memory.MemoryLaw
import GemSim.Domain.CodeObject
import GemSim.CodeObject.Sha256
import GemSim.CodeObject.Metadata
import GemSim.CodeObject.UploadState
import GemSim.CodeObject.UploadEffect
import GemSim.CodeObject.UploadLaw
import GemSim.Dispatch.MemoryContext
import GemSim.Dispatch.CodeObjectMapper
import GemSim.Domain.Dispatch
import GemSim.Dispatch.DispatchState
import GemSim.Dispatch.System
import GemSim.Memory.Usage
import GemSim.Dispatch.Leases
import GemSim.Dispatch.Effect
import GemSim.Dispatch.Invariant
import GemSim.Dispatch.CleanupLaw
import GemSim.Collective.Segments
import GemSim.Collective.Engine
import GemSim.Collective.EngineLaw
import GemSim.Lib.Intervals
import GemSim.Dispatch.Published
import GemSim.Bridge.Protocol
import GemSim.Bridge.SignalState
import GemSim.Bridge.SignalEffect
import GemSim.Bridge.SignalLaw
import GemSim.Bridge.QueueState
import GemSim.Bridge.QueueEffect
import GemSim.Bridge.QueueLaw
import GemSim.Lib.Crc
import GemSim.Lib.Records
import GemSim.Bridge.Frame
import GemSim.Bridge.Hello
import GemSim.Bridge.Checksum
import GemSim.Bridge.FrameLaw
import GemSim.Lib.Patches
import GemSim.Dispatch.SegmentPatches
import GemSim.Dispatch.Materialize
import GemSim.Dispatch.LeaseLaw
import GemSim.Lib.Fields
import GemSim.Vega.DsTranspose
import GemSim.Vega.Buffers
import GemSim.Vega.FlatLds
import GemSim.Lib.Lanes
import GemSim.Lib.Loop
import GemSim.Vega.Operands
import GemSim.Vega.VopSemantics
import GemSim.Vega.Vop
import GemSim.Vega.SdwaLaw
import GemSim.Vega.DppLaw
import GemSim.Lib.Streams
import GemSim.Bridge.Tape
import GemSim.Bridge.TapeLaw
import GemSim.Bridge.FrameFields
import GemSim.Bridge.KmtRecord
import GemSim.Bridge.KmtCodecLaw
import GemSim.Lib.PosixPath
import GemSim.Registry.RankLaunch
import GemSim.Lib.Checks
import GemSim.Registry.Isolation
import GemSim.Lib.Tiling
import GemSim.Native.Maintenance
import GemSim.CodeObject.Notes
import GemSim.Lib.BitStrings
import GemSim.Lib.Sha2
import GemSim.CodeObject.DigestLaw
import GemSim.Lib.Worklist
import GemSim.Sysroot.Packages
import GemSim.Sysroot.ResolveLaw
import GemSim.Lib.FileTree
import GemSim.Lib.Triples
import GemSim.Sysroot.Merge
import GemSim.Sysroot.Containment
import GemSim.Native.AqlControl
import GemSim.Native.ControlLaw
import GemSim.Native.CommandProcessor
import GemSim.Native.SubmitLaw
import GemSim.Lib.Parsers
import GemSim.CodeObject.MessagePack
import GemSim.CodeObject.MessageGrammar
import GemSim.CodeObject.MetadataLaw
import GemSim.Bridge.HelloFields
import GemSim.Bridge.HelloLaw
import GemSim.Dispatch.SubmissionLaw
import GemSim.Native.QueueObserver
import GemSim.Native.AqlProtocol
import GemSim.Native.QueueFollow
import GemSim.Native.AqlProtocolLaw
import GemSim.Lib.Outcomes
import GemSim.Checkpoint.CommitMessage
import GemSim.Checkpoint.Journal
import GemSim.Checkpoint.Commands
import GemSim.Lib.Entries
import GemSim.Checkpoint.Quiet
import GemSim.Checkpoint.JournalLaw
import GemSim.Lib.Json
import GemSim.Lib.JsonLaw
import GemSim.Lib.JsonPrefix
import GemSim.Registry.LaunchFile
import GemSim.Registry.LaunchFileLaw
import GemSim.Registry.LiveRegistry
import GemSim.Registry.Snapshots
import GemSim.Registry.SnapshotLaw
import GemSim.Registry.QuietRead
