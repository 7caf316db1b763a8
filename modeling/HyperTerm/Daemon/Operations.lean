import HyperTerm.Core.Lifecycle
import HyperTerm.Daemon.Authority
import HyperTerm.Lib.Prog

/-!
# The methods that move an operation

Each method of the daemon is a program over the authority: it takes the lock to read the state, or to
record one event, and holds it no longer than that.

The outcome of code that is not about the journal (the sandbox compiler, the lease ledger, the checks of an
action's payload, the digest of an approval) is an argument of the method.
-/

namespace HyperTerm.Daemon
open HyperTerm.Protocol HyperTerm.Core HyperTerm.Lib

inductive AuthorityOp where
  | read
  | record (env : RecordEnv) (event : NewEvent)

abbrev AuthorityAns : AuthorityOp → Type
  | .read => OperationReducer × Projectors
  | .record _ _ => Except DaemonError (EventEnvelope × BlockPatch)

def execAuthority (C : LineCodec EventEnvelope) (D : Digests) :
    (op : AuthorityOp) → AuthorityState → AuthorityState × AuthorityAns op
  | .read, a => (a, a.operations, a.projectors)
  | .record env event, a => a.record C D env event

abbrev Method := Prog AuthorityOp AuthorityAns DaemonError

namespace Method

def lift {α : Type} (r : Except DaemonError α) : Method α := .ret r

def ensure (condition : Prop) [Decidable condition] (e : DaemonError) : Method Unit :=
  lift (if condition then .ok () else .error e)

def read : Method (OperationReducer × Projectors) := Prog.perform (AuthorityOp.read)

def record (env : RecordEnv) (event : NewEvent) : Method Unit := do
  let result ← (Prog.perform (AuthorityOp.record env event) :
    Method (Except DaemonError (EventEnvelope × BlockPatch)))
  lift (result.map fun _ => ())

def operation (operationId : OperationId) : Method OperationRecord := do
  let (operations, _) ← read
  lift (okOr (operations.get operationId) (.operationNotFound operationId))

def requireTask (taskId : TaskId) : Method Unit := do
  let (_, projectors) ← read
  ensure ((projectors.get? taskId).isSome = true) (.taskNotFound taskId)

/-- An event of an operation. -/
def operationEvent (taskId : TaskId) (operationId : OperationId) (payload : DomainEvent) : NewEvent where
  taskId := taskId
  runId := none
  operationId := some operationId
  causationId := none
  correlationId := none
  payload := payload

end Method

/-! ## Checks -/

def validateOperationScope (record : OperationRecord) (taskId : TaskId) (expectedRevision : Nat) :
    Except DaemonError Unit :=
  if record.taskId ≠ taskId then .error (.operationTaskMismatch record.taskId taskId)
  else if record.revision ≠ expectedRevision then
    .error (.staleOperationRevision record.revision expectedRevision)
  else .ok ()

/-- The white space that `str::trim` removes. -/
def isWhiteSpace (c : Char) : Bool :=
  let n := c.toNat
  (9 ≤ n && n ≤ 13) || n == 0x20 || n == 0x85 || n == 0xA0 || n == 0x1680 || (0x2000 ≤ n && n ≤ 0x200A) ||
    n == 0x2028 || n == 0x2029 || n == 0x202F || n == 0x205F || n == 0x3000

def trim (s : String) : String :=
  String.ofList (((s.toList.dropWhile isWhiteSpace).reverse.dropWhile isWhiteSpace).reverse)

def boundedNonempty (value : String) (maximum : Nat) (label : String) : Except DaemonError String :=
  let value := trim value
  if value = "" ∨ maximum < value.utf8ByteSize then .error (.invalidBoundedText label maximum) else .ok value

def isSha256 (value : String) : Bool :=
  value.utf8ByteSize == 64 && value.toList.all fun c => ('0' ≤ c && c ≤ '9') || ('a' ≤ c && c ≤ 'f')

/-- The parts of a proposal's checks that look at the payload of its action. -/
structure ProposalChecks where
  validateOperationEnvironment : TerminalCommand → Except DaemonError Unit
  validateMcpServerLaunch : LocalMcpServerLaunch → Except DaemonError Unit
  validateLocalMcpToolCall : LocalMcpToolCall → Except DaemonError Unit
  validateBrokeredMcpToolCall : BrokeredMcpToolCall → Except DaemonError Unit
  boundApprovalDetail : OperationRecord → Except DaemonError BoundApprovalDetail

def validateActionKind (checks : ProposalChecks) : OperationKind → OperationAction → Except DaemonError Unit
  | .shell, .shell command => checks.validateOperationEnvironment command
  | .mcpServerLaunch, .mcpServerLaunch launch => checks.validateMcpServerLaunch launch
  | .mcpTool, .mcpToolCall call => checks.validateLocalMcpToolCall call
  | .mcpTool, .brokeredMcpToolCall call => checks.validateBrokeredMcpToolCall call
  | .mcpTool, .opaqueAction _ _ | .fileEdit, .opaqueAction _ _ | .agentTool, .opaqueAction _ _
  | .computerUse, .opaqueAction _ _ | .artifactBuild, .opaqueAction _ _ | .other _, .opaqueAction _ _ => .ok ()
  | _, _ => .error .actionKindMismatch

def OperationAction.isShell : OperationAction → Bool
  | .shell _ => true
  | _ => false

def OperationAction.isBrokeredMcpToolCall : OperationAction → Bool
  | .brokeredMcpToolCall _ => true
  | _ => false

def isolatedTaskCapability : String := "sandbox.isolated_task"

/-! ## Methods -/

section Methods

open Method

def transition (env : RecordEnv) (taskId : TaskId) (operationId : OperationId) (expectedRevision : Nat)
    (toState : OperationState) (actor : Actor) (reason : Option String) : Method OperationRecord := do
  let current ← operation operationId
  lift (validateOperationScope current taskId expectedRevision)
  record env (operationEvent taskId operationId
    (.operationStateChanged (expectedRevision + 1) current.state toState actor reason))
  operation operationId

def proposeOperation (checks : ProposalChecks) (env : Nat → RecordEnv) (operationId : OperationId)
    (taskId : TaskId) (kind : OperationKind) (action : OperationAction) (summary : String) (risk : RiskClass)
    (requiredCapabilities : List String) : Method OperationRecord := do
  requireTask taskId
  lift (validateActionKind checks kind action)
  record (env 0) (operationEvent taskId operationId
    (.operationProposed 1 kind action summary risk requiredCapabilities))
  let _ ← transition (env 1) taskId operationId 1 .policyCheck .policy
    (some "operation entered the permission policy pipeline")
  let waiting ← transition (env 2) taskId operationId 2 .waitingHuman .policy
    (some "M1 requires explicit human approval for every effect")
  let approval ← lift (checks.boundApprovalDetail waiting)
  record (env 3) (operationEvent taskId operationId
    (.permissionRequested waiting.revision (some approval) "Allow this exact operation once?"
      [.allowOnce, .rejectOnce, .cancelled]))
  return waiting

def PermissionDecision.debug : PermissionDecision → String
  | .allowOnce => "AllowOnce"
  | .allowAlways => "AllowAlways"
  | .rejectOnce => "RejectOnce"
  | .rejectAlways => "RejectAlways"
  | .cancelled => "Cancelled"

/-- What the sandbox compiler prepared for an authorized command. -/
structure PreparedSandbox where
  contextReceipt : ContextReceipt
  compiled : CompiledSandboxProfile
  leaseId : SandboxLeaseId
  expiresAtMs : Nat
  profileDigest : String
  actionDigest : String

/-- `activated` is what the lease ledger answers at the end. -/
def activateAuthorizedSandbox (env : Nat → RecordEnv) (taskId : TaskId) (operationId : OperationId)
    (operationRevision : Nat) (prepared : PreparedSandbox) (activated : Except DaemonError Unit) : Method Unit := do
  record (env 0) (operationEvent taskId operationId
    (.operationExecutionContextCompiled operationRevision prepared.contextReceipt))
  record (env 1) (operationEvent taskId operationId
    (.sandboxProfileCompiled operationRevision prepared.compiled))
  record (env 2) (operationEvent taskId operationId
    (.sandboxLeaseIssued operationRevision prepared.leaseId prepared.expiresAtMs prepared.profileDigest
      prepared.actionDigest))
  lift activated

def decidePermission (env : Nat → RecordEnv) (taskId : TaskId) (operationId : OperationId) (expectedRevision : Nat)
    (decision : PermissionDecision) (prepare : OperationRecord → Except DaemonError PreparedSandbox)
    (activated : Except DaemonError Unit) : Method OperationRecord := do
  let current ← operation operationId
  lift (validateOperationScope current taskId expectedRevision)
  ensure (current.state = .waitingHuman) (.operationNotWaiting current.state)
  let prepared ← lift (
    if PermissionDecision.allows decision ∧ OperationAction.isShell current.action then (prepare current).map some
    else .ok none)
  record (env 0) (operationEvent taskId operationId (.permissionDecided expectedRevision decision .user))
  let updated ← transition (env 1) taskId operationId expectedRevision
    (if PermissionDecision.allows decision then .authorized else .cancelled) .user
    (some ("permission decision: " ++ PermissionDecision.debug decision))
  match prepared with
  | some prepared =>
      activateAuthorizedSandbox (fun i => env (i + 2)) taskId operationId updated.revision prepared activated
  | none => pure ()
  operation operationId

def beginOperation (env : RecordEnv) (taskId : TaskId) (operationId : OperationId) (expectedRevision : Nat) :
    Method OperationRecord := do
  let current ← operation operationId
  lift (validateOperationScope current taskId expectedRevision)
  ensure (¬OperationAction.isShell current.action) .genericDispatchRequiresOpaqueAction
  ensure (current.state = .authorized) (.operationNotAuthorized current.state)
  transition env taskId operationId expectedRevision .dispatching .system
    (some "brokered executor accepted the authorized operation")

def SandboxBackendKind.debug : SandboxBackendKind → String
  | .macOsSeatbelt => "MacOsSeatbelt"
  | .limaVm => "LimaVm"
  | .linuxBubblewrap => "LinuxBubblewrap"
  | .windowsRestrictedToken => "WindowsRestrictedToken"
  | .testOnlyUnenforced => "TestOnlyUnenforced"

def SandboxOutcome.debug : SandboxOutcome → String
  | .succeeded => "Succeeded"
  | .failed => "Failed"
  | .violated => "Violated"
  | .denied => "Denied"
  | .unknown => "Unknown"

def SandboxOutcome.operationOutcome : SandboxOutcome → OperationOutcome
  | .succeeded => .succeeded
  | .unknown => .unknownExecution
  | .failed | .violated | .denied => .failed

def recordSandboxReceipt (env : Nat → RecordEnv) (taskId : TaskId) (operationId : OperationId)
    (operationRevision : Nat) (compiled : CompiledSandboxProfile) (startedAtMs finishedAtMs : Nat)
    (outcome : SandboxOutcome) (exitCode : Option Nat) : Method Unit := do
  record (env 0) (operationEvent taskId operationId (.sandboxReceiptRecorded operationRevision
    { backend := compiled.backend, enforced := compiled.enforced, profileDigest := compiled.profileDigest,
      actionDigest := compiled.actionDigest, startedAtMs, finishedAtMs, outcome, exitCode, violations := [] }))
  record (env 1) (operationEvent taskId operationId (.operationReceipt operationRevision
    ("sandbox::" ++ SandboxBackendKind.debug compiled.backend) (outcome = .succeeded)
    (some (SandboxOutcome.operationOutcome outcome))
    ("Agent command finished in an enforced " ++ SandboxBackendKind.debug compiled.backend ++
      " sandbox with outcome " ++ SandboxOutcome.debug outcome) none))

/-- A consumed one-use sandbox lease, and when it was consumed. -/
structure AuthorizedSandbox where
  compiled : CompiledSandboxProfile
  startedAtMs : Nat

/-- The end of an operation that did not come to run: a receipt and the transition to Failed, errors ignored. -/
def abandonDispatch (env : Nat → RecordEnv) (taskId : TaskId) (operationId : OperationId) (revision : Nat)
    (authorized : AuthorizedSandbox) (finishedAtMs : Nat) (outcome : SandboxOutcome) (reason : String) :
    Method Unit := do
  let _ ← (recordSandboxReceipt env taskId operationId revision authorized.compiled authorized.startedAtMs
    finishedAtMs outcome none).attempt
  let _ ← (transition (env 2) taskId operationId revision .failed .system (some reason)).attempt

/-- How starting the terminal session of a dispatched command goes. -/
inductive TerminalSpawn where
  | failed (message : String)
  | opened (terminalId : TerminalId) (command : TerminalCommand) (size : TerminalSize)
      (monitor : Except DaemonError Unit)

/-- `consumed` is the one-use sandbox lease, `finishedAtMs` the clock at the end. -/
def dispatchTerminal (env : Nat → RecordEnv) (taskId : TaskId) (operationId : OperationId) (expectedRevision : Nat)
    (consumed : Except DaemonError AuthorizedSandbox) (spawn : TerminalSpawn) (finishedAtMs : Nat) :
    Method TerminalId := do
  let current ← operation operationId
  lift (validateOperationScope current taskId expectedRevision)
  ensure (current.state = .authorized) (.operationNotAuthorized current.state)
  ensure (OperationAction.isShell current.action) .unsupportedTerminalAction
  ensure (isolatedTaskCapability ∉ current.requiredCapabilities) .isolatedTaskRequiresVmDispatch
  let authorized ← lift consumed
  let _ ← transition (env 0) taskId operationId expectedRevision .dispatching .system
    (some "sandbox lease consumed before PTY spawn")
  match spawn with
  | .failed message => do
      abandonDispatch (fun i => env (i + 1)) taskId operationId (expectedRevision + 1) authorized finishedAtMs
        .denied ("PTY spawn failed: " ++ message)
      Prog.fail (.terminal message)
  | .opened terminalId command size monitor => do
      let opened ← (record (env 1) (operationEvent taskId operationId
        (.terminalOpened terminalId command size))).attempt
      match opened, monitor with
      | .error e, _ => do
          abandonDispatch (fun i => env (i + 2)) taskId operationId (expectedRevision + 1) authorized finishedAtMs
            .unknown "terminal-open event could not be journaled"
          Prog.fail e
      | .ok _, .error e => do
          let _ ← (record (env 2) (operationEvent taskId operationId (.terminalExited terminalId none))).attempt
          abandonDispatch (fun i => env (i + 3)) taskId operationId (expectedRevision + 1) authorized finishedAtMs
            .unknown "terminal monitor thread could not start"
          Prog.fail e
      | .ok _, .ok _ => pure terminalId

/-- How a task in the virtual machine ends, once its operation is dispatched. -/
inductive IsolatedRun where
  | interrupted (error : DaemonError)
  | notMaterialized (message : String)
  | failedClosed (message : String) (finishedAtMs : Nat)
  | succeeded (startedAtMs finishedAtMs : Nat) (exitCode : Option Nat) (inventory : String)
  | cancelled (startedAtMs finishedAtMs : Nat) (exitCode : Option Nat) (inventory : String)
  | violated (startedAtMs finishedAtMs : Nat) (exitCode : Option Nat) (inventory : String)
  | failed (startedAtMs finishedAtMs : Nat) (exitCode : Option Nat) (inventory : String)

/-- The receipt and the transition of a task that has run. -/
def finishIsolatedTask (env : Nat → RecordEnv) (taskId : TaskId) (operationId : OperationId) (revision : Nat)
    (authorized : AuthorizedSandbox) (startedAtMs finishedAtMs : Nat) (exitCode : Option Nat) (inventory : String)
    (outcome : SandboxOutcome) (state : OperationState) : Method Unit := do
  recordSandboxReceipt env taskId operationId revision authorized.compiled startedAtMs finishedAtMs outcome exitCode
  let _ ← transition (env 2) taskId operationId revision state .system
    (some ("Tier 2 result retained for review: " ++ inventory))

/-- `admitted` stands for the checks of the runner's policy and of an earlier result. -/
def dispatchIsolatedTask (env : Nat → RecordEnv) (taskId : TaskId) (operationId : OperationId)
    (expectedRevision : Nat) (admitted : Except DaemonError Unit) (consumed : Except DaemonError AuthorizedSandbox)
    (run : IsolatedRun) : Method Unit := do
  let current ← operation operationId
  lift (validateOperationScope current taskId expectedRevision)
  ensure (current.state = .authorized) (.operationNotAuthorized current.state)
  ensure (isolatedTaskCapability ∈ current.requiredCapabilities) .isolatedTaskCapabilityRequired
  lift admitted
  ensure (OperationAction.isShell current.action) .unsupportedTerminalAction
  let authorized ← lift consumed
  let _ ← transition (env 0) taskId operationId expectedRevision .dispatching .system
    (some "one-use Tier 2 lease consumed before VM materialization")
  let finish := finishIsolatedTask (fun i => env (i + 1)) taskId operationId (expectedRevision + 1) authorized
  match run with
  | .interrupted e => Prog.fail e
  | .notMaterialized message => do
      let _ ← (transition (env 1) taskId operationId (expectedRevision + 1) .failed .system
        (some ("Tier 2 worktree materialization failed: " ++ message))).attempt
      Prog.fail (.isolated message)
  | .failedClosed message finishedAtMs => do
      abandonDispatch (fun i => env (i + 1)) taskId operationId (expectedRevision + 1) authorized finishedAtMs
        .unknown ("Tier 2 execution failed closed: " ++ message)
      Prog.fail (.isolated message)
  | .succeeded started finished exitCode inventory => finish started finished exitCode inventory .succeeded .succeeded
  | .cancelled started finished exitCode inventory => finish started finished exitCode inventory .denied .cancelled
  | .violated started finished exitCode inventory => finish started finished exitCode inventory .violated .violated
  | .failed started finished exitCode inventory => finish started finished exitCode inventory .failed .failed

/-- `transition_current`: the end of a dispatched operation, at whatever revision it is. -/
def transitionCurrent (env : RecordEnv) (taskId : TaskId) (operationId : OperationId) (target : OperationState)
    (reason : String) : Method Unit := do
  let current ← operation operationId
  if current.state ≠ .dispatching then pure ()
  else do
    let _ ← transition env taskId operationId current.revision target .system (some reason)

def cancelBrokeredMcpOperation (env : Nat → RecordEnv) (taskId : TaskId) (operationId : OperationId)
    (reason : String) : Method Bool := do
  let current ← operation operationId
  if current.taskId ≠ taskId ∨ ¬OperationAction.isBrokeredMcpToolCall current.action ∨
      ¬(current.state = .waitingHuman ∨ current.state = .authorized) then pure false
  else do
    if current.state = .waitingHuman then
      record (env 0) (operationEvent taskId operationId
        (.permissionDecided current.revision .cancelled .system))
    else pure ()
    let _ ← transition (env 1) taskId operationId current.revision .cancelled .system (some reason)
    return true

/-- The outcome that a completion reports, and the check that its two fields agree. -/
def completionOutcome (completion : OperationCompletion) : Except DaemonError OperationOutcome :=
  let outcome := receiptOutcome completion.succeeded completion.outcome
  if completion.outcome.isSome ∧ completion.succeeded ≠ outcome.hasSucceeded then
    .error .inconsistentOperationOutcome
  else .ok outcome

def targetState : OperationOutcome → OperationState
  | .succeeded => .succeeded
  | .failed => .failed
  | .unknownExecution => .unknownExecution

def completeOperation (env : Nat → RecordEnv) (taskId : TaskId) (operationId : OperationId) (expectedRevision : Nat)
    (completion : OperationCompletion) : Method OperationRecord := do
  let current ← operation operationId
  lift (validateOperationScope current taskId expectedRevision)
  ensure (¬OperationAction.isShell current.action) .genericDispatchRequiresOpaqueAction
  let outcome ← lift (completionOutcome completion)
  let resolvesUnknown := current.state = .unknownExecution ∧ targetState outcome ≠ .unknownExecution
  ensure (current.state = .dispatching ∨ resolvesUnknown) (.operationNotDispatching current.state)
  let executor ← lift (boundedNonempty completion.executor 256 "executor")
  let summary ← lift (boundedNonempty completion.summary (16 * 1024) "operation receipt summary")
  ensure (completion.resultDigest.all isSha256) .invalidResultDigest
  record (env 0) (operationEvent taskId operationId
    (.operationReceipt expectedRevision executor outcome.hasSucceeded (some outcome) summary
      completion.resultDigest))
  transition (env 1) taskId operationId expectedRevision (targetState outcome) .system (some summary)

/-! ## Reconciliation at start-up -/

def reconcileEach (env : Nat → RecordEnv) (target : OperationState) (reason : String) :
    List OperationRecord → Method Unit
  | [] => pure ()
  | current :: records => do
      let _ ← transition (env 0) current.taskId current.operationId current.revision target .system (some reason)
      reconcileEach (fun i => env (i + 1)) target reason records

/-- `order` is the order in which the hash map gives the records. -/
def reconcileInterruptedDispatches (env : Nat → RecordEnv) (order : List OperationRecord → List OperationRecord) :
    Method Unit := do
  let (operations, _) ← read
  let interrupted := (order operations.records.values).filter fun r => r.state = .dispatching
  reconcileEach env .unknownExecution "daemon restarted without a reattachable PTY receipt" interrupted

def reconcileUnrecoverableSandboxAuthorizations (env : Nat → RecordEnv)
    (order : List OperationRecord → List OperationRecord) : Method Unit := do
  let (operations, _) ← read
  let authorizations := (order operations.records.values).filter fun r =>
    r.state = .authorized ∧ OperationAction.isShell r.action
  reconcileEach env .failed "daemon restart invalidated the in-memory one-use sandbox lease" authorizations

/-! ## Requests -/

/-- The events that only the methods of an operation record. -/
def DomainEvent.drivesOperation : DomainEvent → Bool
  | .operationProposed .. | .operationStateChanged .. | .permissionRequested .. | .permissionDecided .. => true
  | _ => false

def Method.discard {α : Type} (m : Method α) : Method Unit := do
  let _ ← m

/-- What a thread of the daemon does with the authority; `event` is every other method that records one event. -/
inductive Request : Method Unit → Prop
  | event (env : RecordEnv) (event : NewEvent) (h : DomainEvent.drivesOperation event.payload = false) :
      Request (record env event)
  | propose (checks : ProposalChecks) (env : Nat → RecordEnv) (operationId : OperationId) (taskId : TaskId)
      (kind : OperationKind) (action : OperationAction) (summary : String) (risk : RiskClass)
      (capabilities : List String) :
      Request (proposeOperation checks env operationId taskId kind action summary risk capabilities).discard
  | decide (env : Nat → RecordEnv) (taskId : TaskId) (operationId : OperationId) (expectedRevision : Nat)
      (decision : PermissionDecision) (prepare : OperationRecord → Except DaemonError PreparedSandbox)
      (activated : Except DaemonError Unit) :
      Request (decidePermission env taskId operationId expectedRevision decision prepare activated).discard
  | begin (env : RecordEnv) (taskId : TaskId) (operationId : OperationId) (expectedRevision : Nat) :
      Request (beginOperation env taskId operationId expectedRevision).discard
  | dispatchTerminal (env : Nat → RecordEnv) (taskId : TaskId) (operationId : OperationId) (expectedRevision : Nat)
      (consumed : Except DaemonError AuthorizedSandbox) (spawn : TerminalSpawn) (finishedAtMs : Nat) :
      Request (dispatchTerminal env taskId operationId expectedRevision consumed spawn finishedAtMs).discard
  | dispatchIsolatedTask (env : Nat → RecordEnv) (taskId : TaskId) (operationId : OperationId)
      (expectedRevision : Nat) (admitted : Except DaemonError Unit)
      (consumed : Except DaemonError AuthorizedSandbox) (run : IsolatedRun) :
      Request (dispatchIsolatedTask env taskId operationId expectedRevision admitted consumed run)
  | transitionCurrent (env : RecordEnv) (taskId : TaskId) (operationId : OperationId) (target : OperationState)
      (reason : String) (h : target ≠ .authorized) :
      Request (transitionCurrent env taskId operationId target reason)
  | cancelBrokeredMcp (env : Nat → RecordEnv) (taskId : TaskId) (operationId : OperationId) (reason : String) :
      Request (cancelBrokeredMcpOperation env taskId operationId reason).discard
  | complete (env : Nat → RecordEnv) (taskId : TaskId) (operationId : OperationId) (expectedRevision : Nat)
      (completion : OperationCompletion) :
      Request (completeOperation env taskId operationId expectedRevision completion).discard
  | reconcileDispatches (env : Nat → RecordEnv) (order : List OperationRecord → List OperationRecord)
      (h : ∀ l, (order l).Perm l) : Request (reconcileInterruptedDispatches env order)
  | reconcileAuthorizations (env : Nat → RecordEnv) (order : List OperationRecord → List OperationRecord)
      (h : ∀ l, (order l).Perm l) : Request (reconcileUnrecoverableSandboxAuthorizations env order)

end Methods

abbrev DaemonPool := Pool AuthorityOp AuthorityAns DaemonError AuthorityState

/-- A step of some thread, or a restart that finds on the journal file what has been recorded. -/
inductive DaemonStep (C : LineCodec EventEnvelope) (D : Digests)
    (readArtifact : AcceptedGenUiArtifact → Except String Unit) : DaemonPool → DaemonPool → Prop
  | work {pool pool' : DaemonPool} (h : Pool.Step (execAuthority C D) Request pool pool') :
      DaemonStep C D readArtifact pool pool'
  | reopen {pool : DaemonPool} (a : AuthorityState)
      (hopen : openAuthority C D readArtifact pool.state.journal.file = .ok a)
      (hevents : a.journal.events = pool.state.journal.events) : DaemonStep C D readArtifact pool ⟨a, []⟩

def DaemonPool.start : DaemonPool := ⟨emptyAuthority, []⟩

end HyperTerm.Daemon
