import HyperTerm.Protocol.Sandbox

/-!
# Operations and Blocks

* operations: `OperationState`, `OperationAction`, `PermissionDecision`, the approval detail a
  human reviews;
* Blocks: `BlockEnvelope` with its payload, `BlockDocument`, and the `BlockPatch` that takes one
  revision of a document to the next.
-/

namespace HyperTerm.Protocol

def blockSchemaVersion : Nat := 3

/-! ## Operations -/

inductive MessageRole where
  | user
  | agent
  | system
  | thought
  deriving DecidableEq, Countable

inductive OperationKind where
  | shell
  | fileEdit
  | agentTool
  | mcpServerLaunch
  | mcpTool
  | computerUse
  | artifactBuild
  | other (name : String)
  deriving DecidableEq, Countable

structure TerminalSize where
  cols : Nat
  rows : Nat
  pixelWidth : Nat
  pixelHeight : Nat
  deriving DecidableEq, Countable

structure TerminalCommand where
  program : String
  args : List String
  cwd : Option PathBuf
  env : StringMap
  deriving DecidableEq, Countable

def TerminalCommand.displayText (c : TerminalCommand) : String := " ".intercalate (c.program :: c.args)

inductive OperationAction where
  | shell (command : TerminalCommand)
  | mcpServerLaunch (launch : LocalMcpServerLaunch)
  | mcpToolCall (call : LocalMcpToolCall)
  | brokeredMcpToolCall (call : BrokeredMcpToolCall)
  | opaqueAction (kind payloadDigest : String)
  deriving DecidableEq, Countable

inductive OperationState where
  | proposed
  | policyCheck
  | waitingHuman
  | authorized
  | dispatching
  | succeeded
  | failed
  | violated
  | cancelled
  | unknownExecution
  deriving DecidableEq, Countable

def OperationState.isTerminal : OperationState → Bool
  | .succeeded | .failed | .violated | .cancelled => true
  | _ => false

inductive OperationOutcome where
  | succeeded
  | failed
  | unknownExecution
  deriving DecidableEq, Countable

def OperationOutcome.hasSucceeded (o : OperationOutcome) : Bool := o == .succeeded

inductive PermissionDecision where
  | allowOnce
  | allowAlways
  | rejectOnce
  | rejectAlways
  | cancelled
  deriving DecidableEq, Countable

structure OperationCompletion where
  executor : String
  succeeded : Bool
  outcome : Option OperationOutcome
  summary : String
  resultDigest : Option String
  deriving DecidableEq, Countable

/-! ## Approval detail -/

inductive ApprovalActionDetail where
  | shell (program : String) (argv : List String) (cwd : Option PathBuf) (environmentKeys : List String)
  | mcpServerLaunch (serverId : String) (executable : PathBuf) (executableSha256 : String)
      (argumentCount : Nat) (argumentsDigest : String) (workingDirectory : PathBuf)
      (sandboxProfileDigest : String)
  | mcpTool (serverId toolName runtimeIdentityDigest catalogDigest toolContractDigest
      argumentsDigest : String)
  | brokeredMcpTool (serverId toolName canonicalArgumentsPreview : String) (argumentsBytes : Nat)
      (argumentsTruncated : Bool) (argumentsDigest proposalDigest : String)
  | opaqueAction (kind payloadDigest : String)
  deriving DecidableEq, Countable

structure ApprovalDetail where
  schemaVersion : Nat
  operationId : OperationId
  operationRevision : Nat
  actionDigest : String
  action : ApprovalActionDetail
  risk : RiskClass
  effectiveCapabilities : List String
  opaqueEffect : Bool
  deriving DecidableEq, Countable

structure BoundApprovalDetail where
  detail : ApprovalDetail
  detailDigest : String
  deriving DecidableEq, Countable

/-! ## Artifacts, Agent tools and plans -/

structure GenUiCompilerIdentity where
  name : String
  version : String
  deriving DecidableEq, Countable

structure AcceptedGenUiArtifact where
  artifactId : ArtifactId
  sourceRevision : Nat
  entrypoint : String
  contentDigest : String
  compiler : GenUiCompilerIdentity
  deriving DecidableEq, Countable

inductive AgentToolKind where
  | read
  | edit
  | delete
  | move
  | search
  | execute
  | think
  | fetch
  | switchMode
  | other
  deriving DecidableEq, Countable

inductive AgentToolStatus where
  | pending
  | inProgress
  | completed
  | failed
  deriving DecidableEq, Countable

inductive AgentMediaKind where
  | image
  | audio
  deriving DecidableEq, Countable

inductive AgentToolContent where
  | text (text : String)
  | diff (path patch : String) (addedLines removedLines : Nat)
  | terminal (terminalId : String)
  | media (kind : AgentMediaKind) (mimeType : String) (uri : Option String) (encodedBytes : Nat)
  | resource (name uri : String) (mimeType text : Option String) (byteCount : Option Nat)
  deriving DecidableEq, Countable

structure AgentToolLocation where
  path : String
  line : Option Nat
  deriving DecidableEq, Countable

structure AgentToolCall where
  toolCallId : String
  title : String
  kind : AgentToolKind
  status : AgentToolStatus
  content : List AgentToolContent
  locations : List AgentToolLocation
  rawInput : Option String
  rawOutput : Option String
  deriving DecidableEq, Countable

inductive AgentPlanPriority where
  | high
  | medium
  | low
  deriving DecidableEq, Countable

inductive AgentPlanStatus where
  | pending
  | inProgress
  | completed
  deriving DecidableEq, Countable

structure AgentPlanEntry where
  content : String
  priority : AgentPlanPriority
  status : AgentPlanStatus
  deriving DecidableEq, Countable

/-! ## Blocks -/

inductive BlockKind where
  | task
  | message
  | operation
  | approval
  | receipt
  | artifact
  | terminal
  | review
  | diagnostic
  | agentToolCall
  | agentPlan
  deriving DecidableEq

inductive RenderSlot where
  | sessionHeader
  | timeline
  | attention
  | inspector
  deriving DecidableEq

inductive TrustClass where
  | trustedChrome
  | untrustedContent
  | trustedWorkbench
  | isolatedArtifact
  deriving DecidableEq

inductive BlockLifecycle where
  | draft
  | queued
  | running
  | waiting
  | succeeded
  | failed
  | cancelled
  | unknownExecution
  deriving DecidableEq

inductive AttentionState where
  | none
  | waitingInput
  | waitingApproval
  | failed
  | reviewReady
  deriving DecidableEq

structure BlockAction where
  actionId : String
  expectedBlockRevision : Nat
  risk : RiskClass
  requiredCapabilities : List String
  deriving DecidableEq

inductive BlockPayload where
  | task (title : String)
  | message (role : MessageRole) (text : String) (externalMessageId : Option String)
  | operation (operationId : OperationId) (kind : OperationKind) (summary : String) (risk : RiskClass)
      (requiredCapabilities : List String) (state : OperationState)
  | approval (operationId : OperationId) (operationRevision : Nat) (approval : Option BoundApprovalDetail)
      (prompt : String) (options : List PermissionDecision) (decision : Option PermissionDecision)
  | operationReceipt (operationId : OperationId) (operationRevision : Nat) (executor : String)
      (succeeded : Bool) (outcome : Option OperationOutcome) (summary : String)
      (resultDigest : Option String)
  | artifact (artifact : AcceptedGenUiArtifact)
  | terminal (terminalId : TerminalId) (command : String) (size : TerminalSize)
      (resizeGeneration streamSequence byteCount : Nat) (exitCode : Option Nat)
  | review (summary : String)
  | diagnostic (code message : String)
  | agentToolCall (turnId : String) (call : AgentToolCall)
  | agentPlan (turnId : String) (entries : List AgentPlanEntry)
  deriving DecidableEq

structure BlockEnvelope where
  schemaVersion : Nat
  blockId : BlockId
  blockRevision : Nat
  documentRevision : Nat
  parentBlockId : Option BlockId
  orderKey : Nat
  taskId : TaskId
  kind : BlockKind
  renderSlot : RenderSlot
  trustClass : TrustClass
  lifecycle : BlockLifecycle
  attention : AttentionState
  payload : BlockPayload
  actions : List BlockAction
  deriving DecidableEq

/-- `BlockEnvelope::new`. -/
def BlockEnvelope.new (blockId : BlockId) (taskId : TaskId) (kind : BlockKind) (orderKey : Nat)
    (payload : BlockPayload) : BlockEnvelope where
  schemaVersion := blockSchemaVersion
  blockId := blockId
  blockRevision := 1
  documentRevision := 0
  parentBlockId := none
  orderKey := orderKey
  taskId := taskId
  kind := kind
  renderSlot := .timeline
  trustClass := .untrustedContent
  lifecycle := .draft
  attention := .none
  payload := payload
  actions := []

structure BlockDocument where
  schemaVersion : Nat
  taskId : TaskId
  revision : Nat
  semanticDigest : String
  blocks : List BlockEnvelope
  deriving DecidableEq

inductive BlockOperation where
  | upsert (block : BlockEnvelope)
  | appendContent (blockId : BlockId) (expectedPreviousRevision blockRevision : Nat) (text : String)
  | remove (blockId : BlockId)
  deriving DecidableEq

structure BlockPatch where
  streamSequence : Nat
  baseRevision : Nat
  targetRevision : Nat
  operations : List BlockOperation
  deriving DecidableEq

end HyperTerm.Protocol
