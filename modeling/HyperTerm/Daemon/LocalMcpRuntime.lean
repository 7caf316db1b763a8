import HyperTerm.Daemon.Charges

/-!
# The manager of local MCP servers

`LocalMcpRuntimeManager` launches a reviewed MCP server for a task once its operation is allowed, and calls tools of
the servers that run. Its methods are programs over the authority and the manager's own state: what is done under one
lock of the manager is one operation, and `proposeLaunch` and `proposeToolCall` hold that lock while they propose.

* `McpWorld` : the manager's maps, the client processes, who holds which of them, and what happened;
* `resolveLaunch`, `resolveToolCall`, `closeTask`, `closeAll` : the methods, with every error return;
* `McpStep` : the steps of any number of requests.

A client is known by the operation that launched it. What a child process answers is an argument of the method.
-/

namespace HyperTerm.Daemon
open HyperTerm.Protocol HyperTerm.Core HyperTerm.Lib

structure RuntimeKey where
  taskId : TaskId
  serverId : String
  deriving DecidableEq

structure PendingLaunch where
  operationId : OperationId
  taskId : TaskId
  serverId : String
  prepared : LocalMcpServerLaunch
  deriving DecidableEq

def PendingLaunch.key (pending : PendingLaunch) : RuntimeKey := ⟨pending.taskId, pending.serverId⟩

structure PendingCall where
  operationId : OperationId
  taskId : TaskId
  key : RuntimeKey
  prepared : LocalMcpToolCall
  deriving DecidableEq

/-- The client that an operation has launched. -/
structure LocalMcpClient where
  operationId : OperationId
  key : RuntimeKey
  deriving DecidableEq

structure ManagerState where
  registered : Keyed LocalMcpServerLaunch.serverId
  pendingLaunches : Keyed PendingLaunch.operationId
  pendingCalls : Keyed PendingCall.operationId
  clients : Keyed LocalMcpClient.key

inductive LocalMcpRuntimeError where
  | unknownServer
  | duplicateServer (serverId : String)
  | serverAlreadyActive
  | serverNotActive
  | serverBusy
  | pendingLaunchMissing
  | pendingCallMissing
  | unsupportedDecision
  | plan (message : String)
  | client (message : String)
  | tool (message : String)
  | daemon (error : DaemonError)
  deriving DecidableEq

/-- The texts of the errors; `display` is that of the daemon's own. -/
def LocalMcpRuntimeError.text (display : DaemonError → String) : LocalMcpRuntimeError → String
  | unknownServer => "local MCP server id is not registered"
  | duplicateServer serverId => "local MCP server id is registered more than once: " ++ serverId
  | serverAlreadyActive => "local MCP server is already active or waiting for approval"
  | serverNotActive => "local MCP server is not active for this task"
  | serverBusy => "local MCP server is busy"
  | pendingLaunchMissing => "local MCP launch proposal is no longer pending"
  | pendingCallMissing => "local MCP tool proposal is no longer pending"
  | unsupportedDecision => "local MCP supports only allow-once, reject-once, or cancel decisions"
  | plan message => "local MCP launch plan is invalid: " ++ message
  | client message => "local MCP client failed: " ++ message
  | tool message => "local MCP tool call failed: " ++ message
  | daemon error => "local MCP authority update failed: " ++ display error

/-- `LocalMcpRuntimeManager::new`, from what the drivers prepared of the configuration. -/
def ManagerState.new (prepared : List LocalMcpServerLaunch) : Except LocalMcpRuntimeError ManagerState := do
  let registered ← prepared.foldlM (fun registered launch =>
    if (registered.get? launch.serverId).isSome then .error (.duplicateServer launch.serverId)
    else .ok (registered.put launch)) Keyed.empty
  return ⟨registered, .empty, .empty, .empty⟩

/-! ## The state -/

/-- A launch that is being resolved. -/
structure LaunchRequest where
  pending : PendingLaunch
  decision : PermissionDecision
  deriving DecidableEq

/-- Which tasks a close is for: one, or all of them. -/
inductive CloseTarget where
  | task (taskId : TaskId)
  | all
  deriving DecidableEq

def CloseTarget.covers : CloseTarget → TaskId → Bool
  | task t, taskId => t = taskId
  | all, _ => true

structure McpWorld where
  manager : ManagerState
  /-- Whether a proposal holds the manager's lock. -/
  locked : Bool
  /-- The client processes that run. -/
  live : Keyed LocalMcpClient.operationId
  /-- How many hold the client that an operation launched. -/
  holders : OperationId → Nat
  /-- The clients whose own lock is taken. -/
  busy : List OperationId
  /-- The launches that requests are resolving, and the tool calls. -/
  launching : List LaunchRequest
  calling : List OperationId
  /-- The closes that have taken their clients and not returned yet. -/
  closing : List CloseTarget
  /-- The launches that were live, or being resolved as allowed, when a close of their task returned. -/
  closed : List OperationId

def McpWorld.start (manager : ManagerState) : McpWorld := ⟨manager, false, .empty, fun _ => 0, [], [], [], [], []⟩

inductive McpOp where
  | lockLaunch (taskId : TaskId) (serverId : String)
  | insertLaunch (pending : PendingLaunch)
  | lockCall (key : RuntimeKey)
  | insertCall (pending : PendingCall)
  | unlock
  | takeLaunch (taskId : TaskId) (operationId : OperationId) (decision : PermissionDecision)
  | removeLaunch (operationId : OperationId)
  | endLaunch (request : LaunchRequest)
  | takeCall (taskId : TaskId) (operationId : OperationId)
  | removeCall (operationId : OperationId)
  | endCall (operationId : OperationId)
  | spawnClient (client : LocalMcpClient)
  | dropClient (operationId : OperationId)
  | insertClient (client : LocalMcpClient)
  | removeClient (key : RuntimeKey)
  | getClient (key : RuntimeKey)
  | lockClient (operationId : OperationId)
  | unlockClient (operationId : OperationId)
  | releaseClient (operationId : OperationId)
  | closeClient (operationId : OperationId) (ended : Bool)
  | takeTask (target : CloseTarget)
  | closeReturned (target : CloseTarget)

abbrev McpAns : McpOp → Type
  | .lockLaunch _ _ => Except LocalMcpRuntimeError LocalMcpServerLaunch
  | .lockCall _ => Except LocalMcpRuntimeError LocalMcpClient
  | .takeLaunch _ _ _ => Except LocalMcpRuntimeError PendingLaunch
  | .takeCall _ _ => Except LocalMcpRuntimeError PendingCall
  | .insertClient _ => Except LocalMcpRuntimeError Unit
  | .removeClient _ => Option LocalMcpClient
  | .getClient _ => Except LocalMcpRuntimeError LocalMcpClient
  | .takeTask _ => List OperationId × List LocalMcpClient
  | _ => Unit

namespace ManagerState

/-- The pending launches and calls, and the clients, of the tasks of a close. -/
def pendingOf (m : ManagerState) (target : CloseTarget) : List OperationId :=
  ((m.pendingLaunches.values.filter fun p => target.covers p.taskId).map PendingLaunch.operationId) ++
    (m.pendingCalls.values.filter fun p => target.covers p.taskId).map PendingCall.operationId

def clientsOf (m : ManagerState) (target : CloseTarget) : List LocalMcpClient :=
  m.clients.values.filter fun c => target.covers c.key.taskId

def closeTarget (m : ManagerState) (target : CloseTarget) : ManagerState where
  registered := m.registered
  pendingLaunches := m.pendingLaunches.retain fun p => !target.covers p.taskId
  pendingCalls := m.pendingCalls.retain fun p => !target.covers p.taskId
  clients := m.clients.retain fun c => !target.covers c.key.taskId

end ManagerState

namespace McpWorld

/-- The process of a client ends. -/
def kill (s : McpWorld) (operationId : OperationId) : McpWorld := { s with live := s.live.erase operationId }

def hold (s : McpWorld) (operationId : OperationId) (count : Nat) : McpWorld :=
  { s with holders := Function.update s.holders operationId count }

/-- One holder less. The process of a client that nobody holds is killed. -/
def release (s : McpWorld) (operationId : OperationId) : McpWorld :=
  let released := s.hold operationId (s.holders operationId - 1)
  if s.holders operationId ≤ 1 then released.kill operationId else released

def setLaunches (s : McpWorld) (launches : Keyed PendingLaunch.operationId) : McpWorld :=
  { s with manager := { s.manager with pendingLaunches := launches } }

def setCalls (s : McpWorld) (calls : Keyed PendingCall.operationId) : McpWorld :=
  { s with manager := { s.manager with pendingCalls := calls } }

def setClients (s : McpWorld) (clients : Keyed LocalMcpClient.key) : McpWorld :=
  { s with manager := { s.manager with clients } }

/-- The launches of the tasks that are live, and those that are being resolved as allowed. -/
def launchesOf (s : McpWorld) (target : CloseTarget) : List OperationId :=
  ((s.live.values.filter fun c => target.covers c.key.taskId).map LocalMcpClient.operationId) ++
    (s.launching.filter fun r => r.decision = .allowOnce ∧ target.covers r.pending.taskId).map
      fun r => r.pending.operationId

end McpWorld

def execMcp : (op : McpOp) → McpWorld → McpWorld × McpAns op
  | .lockLaunch taskId serverId, s =>
      if (s.manager.clients.get? ⟨taskId, serverId⟩).isSome ∨
          s.manager.pendingLaunches.values.any (fun p => p.taskId = taskId ∧ p.serverId = serverId) then
        (s, .error .serverAlreadyActive)
      else match s.manager.registered.get? serverId with
        | none => (s, .error .unknownServer)
        | some prepared => ({ s with locked := true }, .ok prepared)
  | .insertLaunch pending, s =>
      ({ s.setLaunches (s.manager.pendingLaunches.put pending) with locked := false }, ())
  | .lockCall key, s =>
      match s.manager.clients.get? key with
      | none => (s, .error .serverNotActive)
      | some client =>
          if client.operationId ∈ s.busy then (s, .error .serverBusy) else ({ s with locked := true }, .ok client)
  | .insertCall pending, s => ({ s.setCalls (s.manager.pendingCalls.put pending) with locked := false }, ())
  | .unlock, s => ({ s with locked := false }, ())
  | .takeLaunch taskId operationId decision, s =>
      match (s.manager.pendingLaunches.get? operationId).filter fun p => p.taskId = taskId with
      | none => (s, .error .pendingLaunchMissing)
      | some pending => ({ s with launching := ⟨pending, decision⟩ :: s.launching }, .ok pending)
  | .removeLaunch operationId, s => (s.setLaunches (s.manager.pendingLaunches.erase operationId), ())
  | .endLaunch request, s => ({ s with launching := s.launching.erase request }, ())
  | .takeCall taskId operationId, s =>
      match (s.manager.pendingCalls.get? operationId).filter fun p => p.taskId = taskId with
      | none => (s, .error .pendingCallMissing)
      | some pending => ({ s with calling := pending.operationId :: s.calling }, .ok pending)
  | .removeCall operationId, s => (s.setCalls (s.manager.pendingCalls.erase operationId), ())
  | .endCall operationId, s => ({ s with calling := s.calling.erase operationId }, ())
  | .spawnClient client, s => (({ s with live := s.live.put client } : McpWorld).hold client.operationId 1, ())
  | .dropClient operationId, s => ((s.hold operationId 0).kill operationId, ())
  | .insertClient client, s =>
      if (s.manager.clients.get? client.key).isSome then (s, .error .serverAlreadyActive)
      else (s.setClients (s.manager.clients.put client), .ok ())
  | .removeClient key, s => (s.setClients (s.manager.clients.erase key), s.manager.clients.get? key)
  | .getClient key, s =>
      match s.manager.clients.get? key with
      | none => (s, .error .serverNotActive)
      | some client => (s.hold client.operationId (s.holders client.operationId + 1), .ok client)
  | .lockClient operationId, s => ({ s with busy := operationId :: s.busy }, ())
  | .unlockClient operationId, s => ({ s with busy := s.busy.erase operationId }, ())
  | .releaseClient operationId, s => (s.release operationId, ())
  | .closeClient operationId ended, s =>
      ((if ended then s.kill operationId else s).release operationId, ())
  | .takeTask target, s =>
      ({ s with manager := s.manager.closeTarget target, closing := target :: s.closing },
        s.manager.pendingOf target, s.manager.clientsOf target)
  | .closeReturned target, s =>
      ({ s with closing := s.closing.erase target, closed := s.closed ++ s.launchesOf target }, ())

/-- An operation waits for the locks it takes. -/
def McpOp.ready : McpOp → McpWorld → Bool
  | .lockClient operationId, s | .closeClient operationId _, s => operationId ∉ s.busy
  | .insertLaunch _, _ | .insertCall _, _ | .unlock, _ | .spawnClient _, _ | .dropClient _, _ | .endLaunch _, _
  | .endCall _, _ | .unlockClient _, _ | .releaseClient _, _ | .closeReturned _, _ => true
  | _, s => !s.locked

/-! ## The methods -/

abbrev McpProg := Prog (SharedOp McpOp) (SharedAns McpAns) LocalMcpRuntimeError

namespace McpProg

def lift {α : Type} (r : Except LocalMcpRuntimeError α) : McpProg α := .ret r

def own (op : McpOp) : McpProg (McpAns op) := Prog.perform (SharedOp.own op)

/-- A method of the daemon, its error passed on. -/
def daemon {α : Type} (m : Method α) : McpProg α := do
  let result ← daemonCall m
  lift (result.mapError .daemon)

end McpProg

open McpProg

def validateDecision (decision : PermissionDecision) : Except LocalMcpRuntimeError Unit :=
  match decision with
  | .allowOnce | .rejectOnce | .cancelled => .ok ()
  | _ => .error .unsupportedDecision

def boundedSummary (message : String) : String := String.ofList (message.toList.take 512)

def proposeLaunch (checks : ProposalChecks) (env : Nat → RecordEnv) (operationId : OperationId) (taskId : TaskId)
    (serverId : String) : McpProg OperationRecord := do
  let locked ← own (.lockLaunch taskId serverId)
  let prepared ← lift locked
  let proposed ← daemonCall (proposeOperation checks env operationId taskId .mcpServerLaunch (.mcpServerLaunch prepared)
    ("Start reviewed local MCP server " ++ serverId) .externalEffect ["mcp.server.launch"])
  match proposed with
  | .error e => do
      own .unlock
      Prog.fail (.daemon e)
  | .ok operation => do
      own (.insertLaunch ⟨operation.operationId, taskId, serverId, prepared⟩)
      return operation

/-- `record_local_mcp_server_runtime`; `checked` stands for the checks of the receipt and of the events there are. -/
def recordLocalMcpServerRuntime (env : RecordEnv) (taskId : TaskId) (operationId : OperationId)
    (expectedRevision : Nat) (checked : OperationRecord → Except DaemonError EventId)
    (receipt : LocalMcpServerRuntimeReceipt) : Method Unit := do
  let operation ← Method.operation operationId
  Method.lift (validateOperationScope operation taskId expectedRevision)
  Method.ensure (operation.state = .dispatching) (.operationNotDispatching operation.state)
  let proposal ← Method.lift (checked operation)
  Method.record env
    { taskId, runId := none, operationId := some operationId, causationId := some proposal
      correlationId := some proposal, payload := .localMcpServerRuntimeRecorded receipt }

/-- How the launch of a client goes. -/
inductive ClientLaunch where
  | notSpawned (message : String)
  | notInitialized (message : String)
  | launched (receipt : LocalMcpServerRuntimeReceipt)

/-- What a request to resolve a launch gets from outside. -/
structure LaunchEnv where
  record : Nat → RecordEnv
  display : DaemonError → String
  authorize : OperationRecord → Except String Unit
  launch : ClientLaunch
  checked : OperationRecord → Except DaemonError EventId
  closeEnded : Bool

def launchCompletion (receipt : LocalMcpServerRuntimeReceipt) : OperationCompletion where
  executor := "hyper-term-local-mcp"
  succeeded := true
  outcome := some .succeeded
  summary := "local MCP server " ++ receipt.launch.serverId ++ " negotiated " ++ toString receipt.tools.length ++
    " tool(s)"
  resultDigest := some receipt.runtimeIdentityDigest

def failedCompletion (outcome : OperationOutcome) (summary : String) : OperationCompletion where
  executor := "hyper-term-local-mcp"
  succeeded := false
  outcome := some outcome
  summary := boundedSummary summary
  resultDigest := none

/-- The part of a launch from the dispatch to its completion. -/
def startClient (env : LaunchEnv) (pending : PendingLaunch) (dispatching : OperationRecord) :
    McpProg LocalMcpServerRuntimeReceipt := do
  lift ((env.authorize dispatching).mapError .plan)
  let client : LocalMcpClient := ⟨pending.operationId, pending.key⟩
  match env.launch with
  | .notSpawned message => Prog.fail (.client message)
  | .notInitialized message => do
      own (.spawnClient client)
      own (.dropClient client.operationId)
      Prog.fail (.client message)
  | .launched receipt => do
      own (.spawnClient client)
      let recorded ← daemonCall (recordLocalMcpServerRuntime (env.record 4) pending.taskId pending.operationId
        dispatching.revision env.checked receipt)
      match recorded with
      | .error e => do
          own (.dropClient client.operationId)
          Prog.fail (.daemon e)
      | .ok () => do
          let inserted ← own (.insertClient client)
          match inserted with
          | .error e => do
              own (.dropClient client.operationId)
              Prog.fail e
          | .ok () => do
              let completed ← daemonCall (completeOperation (fun i => env.record (i + 5)) pending.taskId
                pending.operationId dispatching.revision (launchCompletion receipt))
              match completed with
              | .ok _ => return receipt
              | .error e => do
                  let removed ← own (.removeClient client.key)
                  match removed with
                  | some client => own (.closeClient client.operationId env.closeEnded)
                  | none => pure ()
                  Prog.fail (.daemon e)

/-- The rest of `resolve_launch`, once the pending launch has been taken. -/
def resolvePendingLaunch (env : LaunchEnv) (pending : PendingLaunch) (expectedRevision : Nat)
    (decision : PermissionDecision) : McpProg (Option LocalMcpServerRuntimeReceipt) := do
  let operationId := pending.operationId
  let decided ← daemon (decidePermission env.record pending.taskId operationId expectedRevision decision
    (fun _ => .error .unsupportedTerminalAction) (.ok ()))
  if decision ≠ .allowOnce then do
    own (.removeLaunch operationId)
    return none
  else do
    let began ← daemonCall (beginOperation (env.record 3) pending.taskId operationId decided.revision)
    match began with
    | .error e => do
        own (.removeLaunch operationId)
        Prog.fail (.daemon e)
    | .ok dispatching => do
        let result ← (startClient env pending dispatching).attempt
        own (.removeLaunch operationId)
        match result with
        | .ok receipt => return some receipt
        | .error e => do
            let _ ← daemonCall (completeOperation (fun i => env.record (i + 7)) pending.taskId operationId
              dispatching.revision (failedCompletion .failed (e.text env.display)))
            Prog.fail e

def resolveLaunch (env : LaunchEnv) (taskId : TaskId) (operationId : OperationId) (expectedRevision : Nat)
    (decision : PermissionDecision) : McpProg (Option LocalMcpServerRuntimeReceipt) := do
  lift (validateDecision decision)
  let taken ← own (.takeLaunch taskId operationId decision)
  let pending ← lift taken
  let result ← (resolvePendingLaunch env pending expectedRevision decision).attempt
  own (.endLaunch ⟨pending, decision⟩)
  lift result

/-- `prepare` is `prepare_local_mcp_tool_call` on the receipt of the client. -/
def proposeToolCall (checks : ProposalChecks) (env : Nat → RecordEnv) (operationId : OperationId) (taskId : TaskId)
    (serverId : String) (prepare : LocalMcpClient → Except String LocalMcpToolCall) : McpProg OperationRecord := do
  let locked ← own (.lockCall ⟨taskId, serverId⟩)
  let client ← lift locked
  match prepare client with
  | .error message => do
      own .unlock
      Prog.fail (.tool message)
  | .ok prepared => do
      let proposed ← daemonCall (proposeOperation checks env operationId taskId .mcpTool (.mcpToolCall prepared)
        ("Invoke reviewed local MCP tool " ++ prepared.toolName ++ " on " ++ serverId) .externalEffect
        ["mcp.tool.call"])
      match proposed with
      | .error e => do
          own .unlock
          Prog.fail (.daemon e)
      | .ok operation => do
          own (.insertCall ⟨operation.operationId, taskId, ⟨taskId, serverId⟩, prepared⟩)
          return operation

/-- `record_local_mcp_tool_call`, with its checks as in `recordLocalMcpServerRuntime`; they find the proposal and the
runtime of the server. -/
def recordLocalMcpToolCall (env : RecordEnv) (taskId : TaskId) (operationId : OperationId) (expectedRevision : Nat)
    (checked : OperationRecord → Except DaemonError (EventId × EventId)) (receipt : LocalMcpToolCallReceipt) :
    Method Unit := do
  let operation ← Method.operation operationId
  Method.lift (validateOperationScope operation taskId expectedRevision)
  Method.ensure (operation.state = .dispatching) (.operationNotDispatching operation.state)
  let (proposal, runtime) ← Method.lift (checked operation)
  Method.record env
    { taskId, runId := none, operationId := some operationId, causationId := some proposal
      correlationId := some runtime, payload := .localMcpToolCallRecorded receipt }

/-- What a request to resolve a tool call gets from outside. -/
structure CallEnv where
  record : Nat → RecordEnv
  display : DaemonError → String
  authorize : OperationRecord → Except String Unit
  call : Except String LocalMcpToolCallReceipt
  checked : OperationRecord → Except DaemonError (EventId × EventId)

def callCompletion (receipt : LocalMcpToolCallReceipt) : OperationCompletion where
  executor := "hyper-term-local-mcp"
  succeeded := receipt.succeeded
  outcome := some (if receipt.succeeded then .succeeded else .failed)
  summary := "local MCP tool " ++ receipt.call.toolName ++ " " ++
    (if receipt.succeeded then "completed" else "returned an error")
  resultDigest := some receipt.resultDigest

/-- What is done with the client of a call, which is released at the end. -/
def callClient (env : CallEnv) (pending : PendingCall) (dispatching : OperationRecord) (client : LocalMcpClient) :
    McpProg LocalMcpToolCallReceipt := do
  lift ((env.authorize dispatching).mapError .tool)
  own (.lockClient client.operationId)
  own (.unlockClient client.operationId)
  let receipt ← lift (env.call.mapError .tool)
  daemon (recordLocalMcpToolCall (env.record 4) pending.taskId pending.operationId dispatching.revision env.checked
    receipt)
  let _ ← daemon (completeOperation (fun i => env.record (i + 5)) pending.taskId pending.operationId
    dispatching.revision (callCompletion receipt))
  return receipt

def callTool (env : CallEnv) (pending : PendingCall) (dispatching : OperationRecord) :
    McpProg LocalMcpToolCallReceipt := do
  let got ← own (.getClient pending.key)
  let client ← lift got
  let result ← (callClient env pending dispatching client).attempt
  own (.releaseClient client.operationId)
  lift result

/-- The rest of `resolve_tool_call`, once the pending call has been taken. -/
def resolvePendingCall (env : CallEnv) (pending : PendingCall) (expectedRevision : Nat)
    (decision : PermissionDecision) : McpProg (Option LocalMcpToolCallReceipt) := do
  let operationId := pending.operationId
  let decided ← daemon (decidePermission env.record pending.taskId operationId expectedRevision decision
    (fun _ => .error .unsupportedTerminalAction) (.ok ()))
  if decision ≠ .allowOnce then do
    own (.removeCall operationId)
    return none
  else do
    let began ← daemonCall (beginOperation (env.record 3) pending.taskId operationId decided.revision)
    match began with
    | .error e => do
        own (.removeCall operationId)
        Prog.fail (.daemon e)
    | .ok dispatching => do
        let result ← (callTool env pending dispatching).attempt
        own (.removeCall operationId)
        match result with
        | .ok receipt => return some receipt
        | .error e => do
            let _ ← daemonCall (completeOperation (fun i => env.record (i + 7)) pending.taskId operationId
              dispatching.revision (failedCompletion .unknownExecution (e.text env.display)))
            Prog.fail e

def resolveToolCall (env : CallEnv) (taskId : TaskId) (operationId : OperationId) (expectedRevision : Nat)
    (decision : PermissionDecision) : McpProg (Option LocalMcpToolCallReceipt) := do
  lift (validateDecision decision)
  let taken ← own (.takeCall taskId operationId)
  let pending ← lift taken
  let result ← (resolvePendingCall env pending expectedRevision decision).attempt
  own (.endCall pending.operationId)
  lift result

/-- Errors are ignored: an operation that is gone or decided needs no cancellation. -/
def cancelPending (env : Nat → RecordEnv) : List OperationId → McpProg Unit
  | [] => pure ()
  | operationId :: operationIds => do
      let read ← daemonCall (Method.operation operationId)
      match read with
      | .error _ => pure ()
      | .ok operation =>
          if operation.state = .waitingHuman then do
            let _ ← daemonCall (decidePermission env operation.taskId operationId operation.revision .cancelled
              (fun _ => .error .unsupportedTerminalAction) (.ok ()))
            pure ()
          else pure ()
      cancelPending (fun i => env (i + 2)) operationIds

/-- `ended` says for each client whether its process ends within the two seconds it is given. -/
def closeClients (ended : LocalMcpClient → Bool) : List LocalMcpClient → McpProg Unit
  | [] => pure ()
  | client :: clients => do
      own (.closeClient client.operationId (ended client))
      closeClients ended clients

def close (env : Nat → RecordEnv) (ended : LocalMcpClient → Bool) (target : CloseTarget) : McpProg Unit := do
  let (pending, clients) ← own (.takeTask target)
  cancelPending env pending
  closeClients ended clients
  own (.closeReturned target)

def closeTask (env : Nat → RecordEnv) (ended : LocalMcpClient → Bool) (taskId : TaskId) : McpProg Unit :=
  close env ended (.task taskId)

def closeAll (env : Nat → RecordEnv) (ended : LocalMcpClient → Bool) : McpProg Unit := close env ended .all

/-! ## Runs -/

def McpProg.discard {α : Type} (p : McpProg α) : McpProg Unit := do
  let _ ← p

/-- A request to the manager. -/
inductive McpRequest : McpProg Unit → Prop
  | proposeLaunch (checks : ProposalChecks) (env : Nat → RecordEnv) (operationId : OperationId) (taskId : TaskId)
      (serverId : String) : McpRequest (proposeLaunch checks env operationId taskId serverId).discard
  | resolveLaunch (env : LaunchEnv) (taskId : TaskId) (operationId : OperationId) (expectedRevision : Nat)
      (decision : PermissionDecision) :
      McpRequest (resolveLaunch env taskId operationId expectedRevision decision).discard
  | proposeToolCall (checks : ProposalChecks) (env : Nat → RecordEnv) (operationId : OperationId) (taskId : TaskId)
      (serverId : String) (prepare : LocalMcpClient → Except String LocalMcpToolCall) :
      McpRequest (proposeToolCall checks env operationId taskId serverId prepare).discard
  | resolveToolCall (env : CallEnv) (taskId : TaskId) (operationId : OperationId) (expectedRevision : Nat)
      (decision : PermissionDecision) :
      McpRequest (resolveToolCall env taskId operationId expectedRevision decision).discard
  | closeTask (env : Nat → RecordEnv) (ended : LocalMcpClient → Bool) (taskId : TaskId) :
      McpRequest (closeTask env ended taskId)
  | closeAll (env : Nat → RecordEnv) (ended : LocalMcpClient → Bool) : McpRequest (closeAll env ended)

def OperationAction.isLocalMcp : OperationAction → Bool
  | .mcpServerLaunch _ | .mcpToolCall _ => true
  | _ => false

/-- What happens besides: the daemon serves others, whose operations are not those of the manager, and a server exits. -/
inductive McpOutside : Shared McpWorld → Shared McpWorld → Prop
  | daemon (s : Shared McpWorld) (a : AuthorityState)
      (h : ∀ id r, s.authority.operations.get id = some r → OperationAction.isLocalMcp r.action = true →
        a.operations.get id = some r) : McpOutside s { s with authority := a }
  | exits (s : Shared McpWorld) (operationId : OperationId) : McpOutside s { s with own := s.own.kill operationId }

abbrev McpPool := Pool (SharedOp McpOp) (SharedAns McpAns) LocalMcpRuntimeError (Shared McpWorld)

/-- An operation on the manager waits for its locks, and meets the condition. -/
def mcpAllowed (condition : McpOp → McpWorld → Prop) : SharedOp McpOp → Shared McpWorld → Prop
  | .authority _, _ => True
  | .own op, s => op.ready s.own = true ∧ condition op s.own

/-- A step of any number of requests, whose operations meet the condition. -/
def McpStep (C : LineCodec EventEnvelope) (D : Digests) (condition : McpOp → McpWorld → Prop) :
    McpPool → McpPool → Prop :=
  Threads.Step (execShared C D execMcp) (fun s p s' => McpRequest p ∧ s' = s) McpOutside (mcpAllowed condition)

end HyperTerm.Daemon
