import HyperTerm.Daemon.SharedRun
import HyperTerm.Daemon.McpGateway

/-!
# Brokered MCP tools

The daemon runs the tools of an Agent's MCP server in a runtime of the task. What an operation's tool returned is cached,
so that a retry finds it.

* `BrokeredShared` : the runtimes, the locks of their executors, the cache, and what has happened;
* `executeBrokeredMcpTool` : the tool of a dispatched operation is executed, or its execution found;
* `runAuthorizedBrokeredMcpTool` : an operation from its dispatch to its receipt;
* `registerBrokeredMcpRuntime`, `unregisterBrokeredMcpRuntime` : runtimes come and go.
-/

namespace HyperTerm.Daemon
open HyperTerm.Protocol HyperTerm.Core HyperTerm.Lib

deriving instance DecidableEq for Token

instance : DecidableEq Value := fun v w => decidable_of_iff (v.tokens = w.tokens) Value.tokens_injective.eq_iff

deriving instance DecidableEq for BrokeredMcpToolExecution

namespace Brokered

/-! ## Bindings -/

inductive BrokeredError where
  | daemon (error : DaemonError)
  | runtime (message : String)
  | runtimeAlreadyRegistered (taskId : TaskId)
  | runtimeMissing (taskId : TaskId)
  | invalidDigest
  | argumentsTooLarge (bytes : Nat)
  | bindingMismatch
  | replayMismatch

/-- `canonical_mcp_json_bytes` and SHA-256. -/
structure CallDigests where
  canonicalJson : Value → Except String (List UInt8)
  sha256 : List UInt8 → String

structure BrokeredMcpBinding where
  toolName : String
  proposalDigest : String
  argumentsDigest : String
  deriving DecidableEq

namespace BrokeredMcpBinding

@[irreducible] def new (E : CallDigests) (toolName proposalDigest : String) (arguments : Value) :
    Except BrokeredError BrokeredMcpBinding := do
  let toolName ← (boundedNonempty toolName 256 "brokered MCP tool name").mapError .daemon
  if ¬isSha256 proposalDigest then .error .invalidDigest
  else do
    let bytes ← (E.canonicalJson arguments).mapError .runtime
    if 1024 * 1024 < bytes.length then .error (.argumentsTooLarge bytes.length)
    else do
      let proposed ← (E.canonicalJson (.object [("arguments", arguments), ("name", .string toolName)])).mapError .runtime
      if E.sha256 proposed ≠ proposalDigest then .error .bindingMismatch
      else .ok ⟨toolName, proposalDigest, E.sha256 bytes⟩

def validateAction (binding : BrokeredMcpBinding) (action : OperationAction) : Except BrokeredError Unit :=
  match action with
  | .brokeredMcpToolCall call =>
      if call.toolName = binding.toolName ∧ call.proposalDigest = binding.proposalDigest ∧
          call.argumentsDigest = binding.argumentsDigest then .ok ()
      else .error .bindingMismatch
  | _ => .error .bindingMismatch

end BrokeredMcpBinding

/-! ## The state -/

structure CachedBrokeredMcpExecution where
  operationId : OperationId
  taskId : TaskId
  operationRevision : Nat
  toolName : String
  proposalDigest : String
  argumentsDigest : String
  execution : BrokeredMcpToolExecution
  genuiArtifactProcessed : Bool

def genuiCompile : String := "hyper_term.genui.compile"

/-- The state beside the authority, and below it what has happened. -/
structure BrokeredShared where
  /-- The executor of a task's runtime. -/
  runtimes : TaskId → Option Nat
  /-- The executors whose lock is taken. -/
  locked : List Nat
  nextExecutor : Nat
  executions : Keyed CachedBrokeredMcpExecution.operationId
  /-- `artifact_acceptance` is taken. -/
  acceptance : Bool
  /-- The tools that an executor was called for. -/
  executed : List OperationId
  /-- A call has found nothing cached under its executor's lock, and has not cached its execution yet. -/
  executing : List OperationId
  /-- The executions that `unregister_brokered_mcp_runtime` removed from the cache. -/
  dropped : List OperationId
  /-- A call has found an artifact unprocessed that it is to accept, and has not updated the cache yet. -/
  processing : List OperationId
  /-- What calls of `run_authorized_brokered_mcp_tool` returned. -/
  returned : List (OperationId × BrokeredMcpToolExecution)

def BrokeredShared.start : BrokeredShared where
  runtimes _ := none
  locked := []
  nextExecutor := 0
  executions := .empty
  acceptance := false
  executed := []
  executing := []
  dropped := []
  processing := []
  returned := []

inductive BrokeredOp where
  | register (taskId : TaskId)
  | getRuntime (taskId : TaskId)
  | removeRuntime (taskId : TaskId)
  | lockExecutor (executor : Nat)
  | unlockExecutor (executor : Nat)
  | getCached (operationId : OperationId)
  /-- The cache is read under an executor's lock. -/
  | claim (operationId : OperationId)
  | execute (operationId : OperationId)
  | insert (cached : CachedBrokeredMcpExecution)
  /-- The entries of a task are removed. -/
  | retain (taskId : TaskId)
  /-- The cache is read for `genui_artifact_processed`, by a call that goes on with `execution` and accepts its artifact
  if it compiles one and that is still unprocessed. -/
  | getProcessed (operationId : OperationId) (execution : BrokeredMcpToolExecution) (compiles : Bool)
  | update (operationId : OperationId) (execution : BrokeredMcpToolExecution)
  | lockAcceptance
  | unlockAcceptance
  | returned (operationId : OperationId) (execution : BrokeredMcpToolExecution)

abbrev BrokeredAns : BrokeredOp → Type
  | .register _ => Bool
  | .getRuntime _ | .removeRuntime _ => Option Nat
  | .getCached _ | .claim _ | .getProcessed _ _ _ => Option CachedBrokeredMcpExecution
  | .update _ _ => Bool
  | _ => Unit

namespace BrokeredShared

def unprocessed (s : BrokeredShared) (operationId : OperationId) : Bool :=
  (s.executions.get? operationId).all fun cached => !cached.genuiArtifactProcessed

def ofTask (s : BrokeredShared) (taskId : TaskId) : List OperationId :=
  (s.executions.values.filter fun cached => cached.taskId = taskId).map CachedBrokeredMcpExecution.operationId

end BrokeredShared

def execBrokered : (op : BrokeredOp) → BrokeredShared → BrokeredShared × BrokeredAns op
  | .register taskId, s =>
      match s.runtimes taskId with
      | some _ => (s, false)
      | none =>
          ({ s with
            runtimes := Function.update s.runtimes taskId (some s.nextExecutor)
            nextExecutor := s.nextExecutor + 1 }, true)
  | .getRuntime taskId, s => (s, s.runtimes taskId)
  | .removeRuntime taskId, s => ({ s with runtimes := Function.update s.runtimes taskId none }, s.runtimes taskId)
  | .lockExecutor executor, s => ({ s with locked := executor :: s.locked }, ())
  | .unlockExecutor executor, s => ({ s with locked := s.locked.erase executor }, ())
  | .getCached operationId, s => (s, s.executions.get? operationId)
  | .claim operationId, s =>
      (if (s.executions.get? operationId).isNone then { s with executing := operationId :: s.executing } else s,
        s.executions.get? operationId)
  | .execute operationId, s => ({ s with executed := operationId :: s.executed }, ())
  | .insert cached, s =>
      ({ s with
        executions := s.executions.put cached
        executing := s.executing.erase cached.operationId }, ())
  | .retain taskId, s =>
      ({ s with
        executions := s.executions.retain fun cached => cached.taskId ≠ taskId
        dropped := s.ofTask taskId ++ s.dropped }, ())
  | .getProcessed operationId _ compiles, s =>
      (if compiles && s.unprocessed operationId then { s with processing := operationId :: s.processing } else s,
        s.executions.get? operationId)
  | .update operationId execution, s =>
      match s.executions.get? operationId with
      | none => ({ s with processing := s.processing.erase operationId }, false)
      | some cached =>
          ({ s with
            executions := s.executions.put { cached with execution, genuiArtifactProcessed := true }
            processing := s.processing.erase operationId }, true)
  | .lockAcceptance, s => ({ s with acceptance := true }, ())
  | .unlockAcceptance, s => ({ s with acceptance := false }, ())
  | .returned operationId execution, s => ({ s with returned := (operationId, execution) :: s.returned }, ())

/-- A lock is waited for. -/
def BrokeredOp.ready : BrokeredOp → BrokeredShared → Bool
  | .lockExecutor executor, s => executor ∉ s.locked
  | .lockAcceptance, s => !s.acceptance
  | _, _ => true

/-! ## Methods -/

abbrev BrokeredProg := Prog (SharedOp BrokeredOp) (SharedAns BrokeredAns) BrokeredError

namespace BrokeredProg

def lift {α : Type} (r : Except BrokeredError α) : BrokeredProg α := .ret r

def ensure (condition : Prop) [Decidable condition] (e : BrokeredError) : BrokeredProg Unit :=
  lift (if condition then .ok () else .error e)

def own (op : BrokeredOp) : BrokeredProg (BrokeredAns op) := Prog.perform (SharedOp.own op)

/-- A method of the daemon, its error passed on. -/
def daemon {α : Type} (m : Method α) : BrokeredProg α := do
  let result ← daemonCall m
  lift (result.mapError .daemon)

end BrokeredProg

open BrokeredProg

def BrokeredProg.discard {α : Type} (p : BrokeredProg α) : BrokeredProg Unit := do
  let _ ← p

/-- A cached execution must be that of the same call. -/
def matching (taskId : TaskId) (operationRevision : Nat) (binding : BrokeredMcpBinding) :
    Option CachedBrokeredMcpExecution → Except BrokeredError (Option CachedBrokeredMcpExecution)
  | none => .ok none
  | some cached =>
      if cached.taskId = taskId ∧ cached.operationRevision = operationRevision ∧ cached.toolName = binding.toolName ∧
          cached.proposalDigest = binding.proposalDigest ∧ cached.argumentsDigest = binding.argumentsDigest then
        .ok (some cached)
      else .error .replayMismatch

def cachedBrokeredMcpExecution (taskId : TaskId) (operationId : OperationId) (operationRevision : Nat)
    (binding : BrokeredMcpBinding) : BrokeredProg (Option CachedBrokeredMcpExecution) := do
  let cached ← own (.getCached operationId)
  lift (matching taskId operationRevision binding cached)

/-- What is done under the executor's lock. `executed` is what the tool returns. -/
def executeLocked (taskId : TaskId) (operationId : OperationId) (expectedRevision : Nat) (binding : BrokeredMcpBinding)
    (executed : BrokeredMcpToolExecution) : BrokeredProg BrokeredMcpToolExecution := do
  let cached ← own (.claim operationId)
  let cached ← lift (matching taskId expectedRevision binding cached)
  match cached with
  | some cached => pure cached.execution
  | none => do
      own (.execute operationId)
      own (.insert
        { operationId, taskId, operationRevision := expectedRevision, toolName := binding.toolName
          proposalDigest := binding.proposalDigest, argumentsDigest := binding.argumentsDigest, execution := executed
          genuiArtifactProcessed := false })
      pure executed

/-- `execute_brokered_mcp_tool` of a bound call. -/
def executeBound (binding : BrokeredMcpBinding) (taskId : TaskId) (operationId : OperationId) (expectedRevision : Nat)
    (executed : BrokeredMcpToolExecution) : BrokeredProg BrokeredMcpToolExecution := do
  let record ← daemon (Method.operation operationId)
  lift ((validateOperationScope record taskId expectedRevision).mapError .daemon)
  ensure (record.state = .dispatching) (.daemon (.operationNotDispatching record.state))
  lift (binding.validateAction record.action)
  let cached ← cachedBrokeredMcpExecution taskId operationId expectedRevision binding
  match cached with
  | some cached => pure cached.execution
  | none => do
      let runtime ← own (.getRuntime taskId)
      match runtime with
      | none => Prog.fail (.runtimeMissing taskId)
      | some executor => do
          own (.lockExecutor executor)
          let result ← (executeLocked taskId operationId expectedRevision binding executed).attempt
          own (.unlockExecutor executor)
          lift result

def executeBrokeredMcpTool (E : CallDigests) (taskId : TaskId) (operationId : OperationId) (expectedRevision : Nat)
    (toolName proposalDigest : String) (arguments : Value) (executed : BrokeredMcpToolExecution) :
    BrokeredProg BrokeredMcpToolExecution := do
  let binding ← lift (BrokeredMcpBinding.new E toolName proposalDigest arguments)
  executeBound binding taskId operationId expectedRevision executed

/-- `created` is how setting up the executor goes. -/
def registerBrokeredMcpRuntime (taskId : TaskId) (created : Except String Unit) : BrokeredProg Unit := do
  daemon (Method.requireTask taskId)
  lift (created.mapError .runtime)
  let inserted ← own (.register taskId)
  ensure (inserted = true) (.runtimeAlreadyRegistered taskId)

def unregisterBrokeredMcpRuntime (taskId : TaskId) : BrokeredProg Unit := do
  let runtime ← own (.removeRuntime taskId)
  match runtime with
  | some executor => do
      own (.lockExecutor executor)
      own (.unlockExecutor executor)
  | none => pure ()
  own (.retain taskId)

/-! ## From the dispatch to the receipt -/

/-- What a run of an authorized tool gets from outside: what the tool returns, the schema version of the artifact that
serde reads in its content, how storing the artifact goes, and how errors are shown. -/
structure RunEnv where
  digests : CallDigests
  record : Nat → RecordEnv
  executed : BrokeredMcpToolExecution
  candidate : Value → Option (Fin (2 ^ 16))
  persist : Except DaemonError AcceptedGenUiArtifact
  display : DaemonError → String

def OperationAction.compilesGenui : OperationAction → Bool
  | .brokeredMcpToolCall call => call.toolName = genuiCompile
  | .opaqueAction kind _ => kind = genuiCompile
  | _ => false

/-- What is done under the lock of `artifact_acceptance`. -/
def acceptLocked (env : RunEnv) (taskId : TaskId) (operationId : OperationId) (expectedRevision : Nat) :
    Method AcceptedGenUiArtifact := do
  let record ← Method.operation operationId
  Method.lift (validateOperationScope record taskId expectedRevision)
  Method.ensure (record.state = .dispatching) (.operationNotDispatching record.state)
  Method.ensure (record.kind = .mcpTool ∧ OperationAction.compilesGenui record.action = true)
    .artifactAcceptanceRequiresGenUiCompile
  let accepted ← Method.lift env.persist
  Method.record (env.record 1) (Method.operationEvent taskId operationId (.artifactAccepted accepted))
  return accepted

def acceptGenuiArtifact (env : RunEnv) (taskId : TaskId) (operationId : OperationId) (expectedRevision : Nat) :
    BrokeredProg (Except DaemonError AcceptedGenUiArtifact) := do
  own .lockAcceptance
  let accepted ← daemonCall (acceptLocked env taskId operationId expectedRevision)
  own .unlockAcceptance
  return accepted

def failedExecution (message : String) : BrokeredMcpToolExecution := ⟨message, none, true, .failed⟩

def acceptedContent (schemaVersion : Fin (2 ^ 16)) (accepted : AcceptedGenUiArtifact) : Value :=
  .object [("accepted_by", .string "rust_host"), ("artifact_id", .string accepted.artifactId.uuid.text),
    ("compiler", .object [("name", .string accepted.compiler.name), ("version", .string accepted.compiler.version)]),
    ("content_digest", .string accepted.contentDigest), ("entrypoint", .string accepted.entrypoint),
    ("schema_version", .ofU64 ⟨schemaVersion % 2 ^ 64, Nat.mod_lt _ (by decide)⟩),
    ("source_revision", .ofU64 ⟨accepted.sourceRevision % 2 ^ 64, Nat.mod_lt _ (by decide)⟩)]

def acceptedExecution (execution : BrokeredMcpToolExecution) (schemaVersion : Fin (2 ^ 16))
    (accepted : AcceptedGenUiArtifact) : BrokeredMcpToolExecution :=
  { execution with
    structuredContent := some (acceptedContent schemaVersion accepted)
    text := "Accepted GenUI revision " ++ toString accepted.sourceRevision ++ " as artifact " ++
      accepted.artifactId.uuid.text ++ " (" ++ accepted.contentDigest ++ ")." }

def acceptBrokeredGenuiResult (env : RunEnv) (taskId : TaskId) (operationId : OperationId) (dispatchingRevision : Nat)
    (execution : BrokeredMcpToolExecution) : BrokeredProg BrokeredMcpToolExecution :=
  match execution.structuredContent.bind env.candidate with
  | none => pure (failedExecution "GenUI compiler returned an invalid artifact candidate")
  | some schemaVersion => do
      let accepted ← acceptGenuiArtifact env taskId operationId dispatchingRevision
      match accepted with
      | .error e => pure (failedExecution ("Rust authority rejected the GenUI artifact: " ++ env.display e))
      | .ok accepted => pure (acceptedExecution execution schemaVersion accepted)

def OperationOutcome.text : OperationOutcome → String
  | .succeeded => "succeeded"
  | .failed => "failed"
  | .unknownExecution => "unknown_execution"

def executionValue (execution : BrokeredMcpToolExecution) : Value :=
  .object ([("is_error", .bool execution.isError), ("outcome", .string (OperationOutcome.text execution.outcome))] ++
    (execution.structuredContent.map fun content => ("structured_content", content)).toList ++
    [("text", .string execution.text)])

def digestExecution (E : CallDigests) (execution : BrokeredMcpToolExecution) : Except BrokeredError String := do
  let bytes ← (E.canonicalJson (executionValue execution)).mapError .runtime
  return E.sha256 bytes

def outcomeSummary (toolName : String) : OperationOutcome → String
  | .succeeded => toolName ++ " completed"
  | .failed => toolName ++ " failed"
  | .unknownExecution => toolName ++ " outcome is unknown"

def executionCompletion (toolName : String) (execution : BrokeredMcpToolExecution) (digest : String) :
    OperationCompletion where
  executor := "hyper-term-daemon"
  succeeded := execution.outcome.hasSucceeded
  outcome := some execution.outcome
  summary := outcomeSummary toolName execution.outcome
  resultDigest := some digest

/-- `checked_add` on `u64`. -/
def checkedAdd (n k : Nat) : Option Nat := if n + k < 2 ^ 64 then some (n + k) else none

/-- The revision at which the operation is dispatched, or what an earlier call has left of it. -/
def dispatchOrRetry (env : RunEnv) (binding : BrokeredMcpBinding) (taskId : TaskId) (operationId : OperationId)
    (expectedRevision : Nat) : BrokeredProg (Nat ⊕ BrokeredMcpToolExecution) := do
  let record ← daemon (Method.operation operationId)
  ensure (record.taskId = taskId) (.daemon (.operationTaskMismatch record.taskId taskId))
  lift (binding.validateAction record.action)
  if record.state = .authorized then do
    lift ((validateOperationScope record taskId expectedRevision).mapError .daemon)
    let dispatched ← daemon (beginOperation (env.record 0) taskId operationId expectedRevision)
    return .inl dispatched.revision
  else if record.state = .dispatching ∧ checkedAdd expectedRevision 1 = some record.revision then
    return .inl record.revision
  else if (record.state = .succeeded ∨ record.state = .failed ∨ record.state = .unknownExecution) ∧
      checkedAdd expectedRevision 2 = some record.revision then do
    let cached ← cachedBrokeredMcpExecution taskId operationId (expectedRevision + 1) binding
    match cached with
    | some cached => return .inr cached.execution
    | none => Prog.fail .replayMismatch
  else if record.revision ≠ expectedRevision then
    Prog.fail (.daemon (.staleOperationRevision record.revision expectedRevision))
  else Prog.fail (.daemon (.operationNotAuthorized record.state))

/-- The artifact of an execution is accepted unless that is done already. -/
def processExecution (env : RunEnv) (binding : BrokeredMcpBinding) (taskId : TaskId) (operationId : OperationId)
    (dispatchingRevision : Nat) (execution : BrokeredMcpToolExecution) : BrokeredProg BrokeredMcpToolExecution := do
  let compiles := binding.toolName = genuiCompile ∧ execution.outcome = .succeeded
  let cached ← own (.getProcessed operationId execution compiles)
  let cached ← lift (matching taskId dispatchingRevision binding cached)
  if compiles ∧ (cached.any fun cached => cached.genuiArtifactProcessed) = false then do
    let processed ← acceptBrokeredGenuiResult env taskId operationId dispatchingRevision execution
    let updated ← own (.update operationId processed)
    ensure (updated = true) .replayMismatch
    return processed
  else return execution

/-- The receipt of an execution. -/
def finishExecution (env : RunEnv) (binding : BrokeredMcpBinding) (taskId : TaskId) (operationId : OperationId)
    (dispatchingRevision : Nat) (execution : BrokeredMcpToolExecution) : BrokeredProg Unit := do
  let digest ← lift (digestExecution env.digests execution)
  let _ ← daemon (completeOperation (fun i => env.record (i + 2)) taskId operationId dispatchingRevision
    (executionCompletion binding.toolName execution digest))

def runAuthorizedBrokeredMcpTool (env : RunEnv) (taskId : TaskId) (operationId : OperationId) (expectedRevision : Nat)
    (toolName proposalDigest : String) (arguments : Value) : BrokeredProg BrokeredMcpToolExecution := do
  let binding ← lift (BrokeredMcpBinding.new env.digests toolName proposalDigest arguments)
  let dispatched ← dispatchOrRetry env binding taskId operationId expectedRevision
  match dispatched with
  | .inr execution => do
      own (.returned operationId execution)
      return execution
  | .inl dispatchingRevision => do
      let execution ← executeBrokeredMcpTool env.digests taskId operationId dispatchingRevision binding.toolName
        binding.proposalDigest arguments env.executed
      let execution ← processExecution env binding taskId operationId dispatchingRevision execution
      finishExecution env binding taskId operationId dispatchingRevision execution
      own (.returned operationId execution)
      return execution

/-! ## Threads -/

/-- What threads do: the calls, and any other request to the daemon. -/
inductive BrokeredCall : BrokeredProg Unit → Prop
  | execute (E : CallDigests) (taskId : TaskId) (operationId : OperationId) (expectedRevision : Nat)
      (toolName proposalDigest : String) (arguments : Value) (executed : BrokeredMcpToolExecution) :
      BrokeredCall (executeBrokeredMcpTool E taskId operationId expectedRevision toolName proposalDigest arguments
        executed).discard
  | run (env : RunEnv) (taskId : TaskId) (operationId : OperationId) (expectedRevision : Nat)
      (toolName proposalDigest : String) (arguments : Value) :
      BrokeredCall (runAuthorizedBrokeredMcpTool env taskId operationId expectedRevision toolName proposalDigest
        arguments).discard
  | register (taskId : TaskId) (created : Except String Unit) : BrokeredCall (registerBrokeredMcpRuntime taskId created)
  | unregister (taskId : TaskId) : BrokeredCall (unregisterBrokeredMcpRuntime taskId)
  | request (m : Method Unit) : BrokeredCall (daemon m)

abbrev BrokeredPool := SharedPool BrokeredOp BrokeredAns BrokeredError BrokeredShared

/-- The lock that an operation takes is free, and it meets the condition. -/
def brokeredAllowed (condition : BrokeredOp → BrokeredShared → Prop) : SharedOp BrokeredOp → Shared BrokeredShared → Prop
  | .authority _, _ => True
  | .own op, s => op.ready s.own = true ∧ condition op s.own

/-- A step of the daemon whose threads are started by `calls`. -/
abbrev BrokeredStep (C : LineCodec EventEnvelope) (D : Digests) (calls : BrokeredProg Unit → Prop)
    (condition : BrokeredOp → BrokeredShared → Prop) : BrokeredPool → BrokeredPool → Prop :=
  Threads.Step (execShared C D execBrokered) (fun s p s' => calls p ∧ s' = s) (fun _ _ => False)
    (brokeredAllowed condition)

/-! ## A sample call -/

/-- Whether the lock that an operation takes is free and, if asked for, the operation meets the condition. -/
def brokeredCheck (condition : BrokeredOp → BrokeredShared → Bool) : SharedOp BrokeredOp → Shared BrokeredShared → Bool
  | .authority _, _ => true
  | .own op, s => op.ready s.own && condition op s.own

theorem allowed_of_brokeredCheck {condition : BrokeredOp → BrokeredShared → Prop}
    {check : BrokeredOp → BrokeredShared → Bool} (hcheck : ∀ op s, check op s = true → condition op s)
    (op : SharedOp BrokeredOp) (s : Shared BrokeredShared) (a : AuthorityState) (h : brokeredCheck check op s = true) :
    brokeredAllowed condition op ⟨a, s.own⟩ := by
  cases op with
  | authority op => trivial
  | own op =>
      obtain ⟨hready, hcondition⟩ := Bool.and_eq_true_iff.mp h
      exact ⟨hready, hcheck op s.own hcondition⟩

def sampleSha256 : String := String.ofList (List.replicate 64 'a')

def sampleCallDigests : CallDigests := ⟨fun _ => .ok [], fun _ => sampleSha256⟩

def sampleMcpCall : OperationAction :=
  .brokeredMcpToolCall ⟨1, "server", genuiCompile, "null", 4, false, sampleSha256, sampleSha256⟩

def sampleExecution : BrokeredMcpToolExecution := ⟨"done", some .null, false, .succeeded⟩

/-- The call is proposed and allowed, and a runtime of its task is registered. -/
def sampleAuthorized : List (BrokeredProg Unit) :=
  [daemon (proposeOperation sampleChecks sampleEnv sampleOperation sampleTask .mcpTool sampleMcpCall "compile"
      .externalEffect []).discard,
    daemon (sampleDecide .allowOnce).discard, registerBrokeredMcpRuntime sampleTask (.ok ())]

end Brokered

end HyperTerm.Daemon
