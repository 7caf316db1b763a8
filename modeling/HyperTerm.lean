import HyperTerm.Core.PatchStream
import HyperTerm.Core.TerminalHistory
import HyperTerm.Core.TornAppend
import HyperTerm.Daemon.Replay
import HyperTerm.Daemon.Broadcast
import HyperTerm.Daemon.Operations
import HyperTerm.Daemon.Decision
import HyperTerm.Daemon.DryRun
import HyperTerm.Core.Kinds
import HyperTerm.Daemon.Consistency
import HyperTerm.Daemon.Reconcile
import HyperTerm.Daemon.Receipt
import HyperTerm.Daemon.Coalescing
import HyperTerm.Daemon.Attachments
import HyperTerm.Daemon.WebTerminal
import HyperTerm.Daemon.TerminalTransports
import HyperTerm.Daemon.LocalMcpClients
import HyperTerm.Daemon.BrokeredOnce
import HyperTerm.Daemon.BrokeredArtifact
import HyperTerm.Drivers.McpHistory
import HyperTerm.Daemon.McpAnswers
import HyperTerm.Drivers.CodecSound
import HyperTerm.Drivers.AcpAnswers
import HyperTerm.Drivers.ProcessSettled
import HyperTerm.Drivers.RequestRaw
import HyperTerm.Lib.JsonText
import HyperTerm.Lib.Utf16
import HyperTerm.Workbench.DebugCapsule
import HyperTerm.Workbench.DebugCapsuleDigest
import HyperTerm.Workbench.Reencode
import HyperTerm.Workbench.ReplayDigest
import HyperTerm.Workbench.Stringify
import HyperTerm.Workbench.BlockPatches
import HyperTerm.Desktop.Tabs
import HyperTerm.Desktop.Workspace
import HyperTerm.Desktop.Prompts
import HyperTerm.Core.OperationHistory
import HyperTerm.Core.LeaseLedger
import HyperTerm.Protocol.TerminalWeb
import HyperTerm.Protocol.WireStream
import HyperTerm.Daemon.RuntimeTraceHistory
import HyperTerm.Desktop.AgentBlocks
import HyperTerm.Desktop.Projection
import HyperTerm.Desktop.ProjectionSafe
import HyperTerm.Lib.Paths
import HyperTerm.Daemon.WorkspaceTargets
import HyperTerm.Daemon.EditorStoreHistory
import HyperTerm.Daemon.InputLeases
import HyperTerm.Lib.SortedSets
import HyperTerm.Lib.NormalPaths
import HyperTerm.Daemon.WorkspaceSelection
import HyperTerm.Daemon.WorkspaceDiff
import HyperTerm.Core.SandboxProfile
import HyperTerm.Protocol.ExecutionContext
import HyperTerm.Core.ExecutionContext
import HyperTerm.Core.ExecutionContextGuards
import HyperTerm.Core.ExecutionContextForms
import HyperTerm.Daemon.GatewaySessions
import HyperTerm.Daemon.OutputObservation
import HyperTerm.Daemon.McpReceipts
import HyperTerm.Core.PatchInPlace
import HyperTerm.Daemon.EditorStoreFailures
import HyperTerm.Daemon.RuntimeTraceReplay
import HyperTerm.Daemon.RuntimeTraceRedaction
import HyperTerm.Daemon.ArtifactStore
import HyperTerm.Lib.Windows
import HyperTerm.Daemon.ProxyRequest
import HyperTerm.Lib.IpAddresses
import HyperTerm.Daemon.ProxyPolicy
import HyperTerm.Lib.LastMatch
import HyperTerm.Sandbox.Seatbelt
import HyperTerm.Sandbox.SeatbeltLaunch
import HyperTerm.Drivers.LocalMcpLaunch
import HyperTerm.Lib.CharBoundary
import HyperTerm.Daemon.Tier2Preview
import HyperTerm.Lib.Fields
import HyperTerm.Sandbox.SourceBlobs
import HyperTerm.Lib.LossyText
import HyperTerm.Lib.Hex
import HyperTerm.Sandbox.ChangeReport
import HyperTerm.Protocol.CanonicalJson
import HyperTerm.Protocol.PrettyJson
import HyperTerm.Sandbox.LimaRunner
import HyperTerm.Sandbox.LimaReceipt
import HyperTerm.Drivers.Turns
import HyperTerm.Daemon.TerminalRequests
import HyperTerm.Drivers.Capabilities
import HyperTerm.Drivers.Consent
import HyperTerm.Daemon.BrokeredProposal
import HyperTerm.Daemon.ControlClient
import HyperTerm.Daemon.AgentTurn
import HyperTerm.Protocol.TerminalClient
import HyperTerm.Core.TerminalReplay
import HyperTerm.Lib.Runs
import HyperTerm.Drivers.PendingOutput
import HyperTerm.Workbench.CompileScheduler
import HyperTerm.Daemon.SessionBindings
import HyperTerm.Lib.CrashSafety
import HyperTerm.Daemon.WorkspaceJournal
