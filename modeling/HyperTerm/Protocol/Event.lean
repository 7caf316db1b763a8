import HyperTerm.Protocol.Block

/-!
# Domain events

`DomainEvent` is what the journal records, `EventEnvelope` one journalled record with its sequence
number, and `NewEvent` what a caller hands to the authority to be recorded.
-/

namespace HyperTerm.Protocol

def eventSchemaVersion : Nat := 1

inductive DomainEvent where
  | taskCreated (title : String)
  | messageAppended (blockId : BlockId) (role : MessageRole) (externalMessageId : Option String)
      (text : String)
  | operationProposed (revision : Nat) (kind : OperationKind) (action : OperationAction)
      (summary : String) (risk : RiskClass) (requiredCapabilities : List String)
  | operationStateChanged (revision : Nat) (fromState toState : OperationState) (actor : Actor)
      (reason : Option String)
  | permissionRequested (operationRevision : Nat) (approval : Option BoundApprovalDetail)
      (prompt : String) (options : List PermissionDecision)
  | permissionDecided (operationRevision : Nat) (decision : PermissionDecision) (actor : Actor)
  | operationReceipt (operationRevision : Nat) (executor : String) (succeeded : Bool)
      (outcome : Option OperationOutcome) (summary : String) (resultDigest : Option String)
  | artifactAccepted (artifact : AcceptedGenUiArtifact)
  | sandboxProfileCompiled (operationRevision : Nat) (compiled : CompiledSandboxProfile)
  | operationExecutionContextCompiled (operationRevision : Nat) (receipt : ContextReceipt)
  | sandboxLeaseIssued (operationRevision : Nat) (leaseId : SandboxLeaseId) (expiresAtMs : Nat)
      (profileDigest actionDigest : String)
  | sandboxReceiptRecorded (operationRevision : Nat) (receipt : SandboxReceipt)
  | sandboxViolationObserved (operationRevision : Nat) (violation : SandboxViolation)
  | terminalOpened (terminalId : TerminalId) (command : TerminalCommand) (size : TerminalSize)
  | terminalOutputObserved (terminalId : TerminalId) (streamSequence byteCount : Nat)
  | terminalResized (terminalId : TerminalId) (generation : Nat) (size : TerminalSize)
  | terminalExited (terminalId : TerminalId) (exitCode : Option Nat)
  | reviewReady (summary : String)
  | diagnostic (code message : String)
  | agentToolCallUpdated (turnId : String) (call : AgentToolCall)
  | agentPlanUpdated (turnId : String) (entries : List AgentPlanEntry)
  | agentExecutionContextRecorded (context : AgentExecutionContextReceiptSet)
  | localMcpServerRuntimeRecorded (receipt : LocalMcpServerRuntimeReceipt)
  | localMcpToolCallRecorded (receipt : LocalMcpToolCallReceipt)
  deriving DecidableEq, Countable

def DomainEvent.isTaskCreated : DomainEvent → Bool
  | .taskCreated _ => true
  | _ => false

structure EventEnvelope where
  schemaVersion : Nat
  sequence : Nat
  eventId : EventId
  recordedAtMs : Nat
  taskId : TaskId
  runId : Option RunId
  operationId : Option OperationId
  causationId : Option EventId
  correlationId : Option EventId
  payload : DomainEvent
  deriving DecidableEq, Countable

/-- `EventEnvelope::validate`. -/
def EventEnvelope.validate (e : EventEnvelope) : Except String Unit :=
  if e.schemaVersion ≠ eventSchemaVersion then .error "unsupported event schema version"
  else if e.sequence = 0 then .error "event sequence must start at one"
  else .ok ()

theorem EventEnvelope.validate_eq_ok {e : EventEnvelope} :
    e.validate = .ok () ↔ e.schemaVersion = eventSchemaVersion ∧ 0 < e.sequence := by
  unfold EventEnvelope.validate
  split_ifs with hs hq <;> simp_all [Nat.pos_iff_ne_zero]

structure NewEvent where
  taskId : TaskId
  runId : Option RunId
  operationId : Option OperationId
  causationId : Option EventId
  correlationId : Option EventId
  payload : DomainEvent
  deriving DecidableEq, Countable

/-! ## Events of evaluated runs -/

def sampleTask : TaskId := ⟨1⟩

def sampleEvent (sequence : Nat) (operationId : Option OperationId) (payload : DomainEvent) : EventEnvelope where
  schemaVersion := eventSchemaVersion
  sequence := sequence
  eventId := ⟨BitVec.ofNat 128 sequence⟩
  recordedAtMs := sequence
  taskId := sampleTask
  runId := none
  operationId := operationId
  causationId := none
  correlationId := none
  payload := payload

end HyperTerm.Protocol
