import HyperTerm.Drivers.McpServer
import HyperTerm.Protocol.Event

/-!
# The MCP gateway

`McpGateway` stands between the MCP server of an Agent session and the authority. A call that the server accepts is
proposed to the authority as an operation; the events of this operation decide when it is run, and how it is answered.

* `receiveMcp` : a message of the Agent;
* `receiveAuthority` : what the authority sends on its own;
* `run` : the loop over both, which ends with the first error.

The authority is a function from requests to replies, and every input of the loop comes with the authority that it
meets. A step gives the gateway it leaves behind, what happened in it, and its result.
-/

namespace HyperTerm.Daemon
open HyperTerm.Protocol HyperTerm.Lib HyperTerm.Drivers

/-! ## The authority -/

structure BrokeredMcpToolExecution where
  text : String
  structuredContent : Option Value
  isError : Bool
  outcome : OperationOutcome

inductive ControlRequest where
  | createTask (title : String)
  | proposeBrokeredMcpTool (taskId : TaskId) (toolName : String) (arguments : Value)
  | runAuthorizedBrokeredMcpTool (taskId : TaskId) (operationId : OperationId) (expectedRevision : Nat)
      (toolName proposalDigest : String) (arguments : Value)

/-- The responses that the gateway tells apart. -/
inductive ControlResponse where
  | taskCreated (taskId : TaskId)
  | operationUpdated (operationId : OperationId) (revision : Nat) (state : OperationState)
  | brokeredMcpToolExecuted (execution : BrokeredMcpToolExecution)
  | event (event : EventEnvelope)
  | error (code message : String)
  | other (debug : String)

/-- The answers of the authority, or the texts of the errors of its client. -/
abbrev Authority := ControlRequest → Except String ControlResponse

inductive McpGatewayError where
  | control (message : String)
  | driver (size maximum : Nat)
  | mcp (error : McpServerError)
  | authorityRejected (code message : String)
  | unexpectedAuthorityResponse (response : ControlResponse)
  | unexpectedOperationRevision (expected actual : Nat)
  | authorizedOperationWasRejected
  | cancelledOperationWasAuthorized
  | taskMissing

/-- `authority_request`. An error is given with its text. -/
def authorityRequest (authority : Authority) (request : ControlRequest) :
    Except (McpGatewayError × String) ControlResponse :=
  match authority request with
  | .error message => .error (.control message, message)
  | .ok (.error code message) =>
      .error (.authorityRejected code message, "hyperd rejected the MCP operation (" ++ code ++ "): " ++ message)
  | .ok response => .ok response

/-! ## The gateway -/

/-- A pending call is filed under its operation. -/
structure PendingAuthorityCall where
  operationId : OperationId
  requestId : ExternalRequestId
  proposalDigest : String
  waitingRevision : Nat
  decision : Option PermissionDecision

structure McpGateway where
  server : McpAgentServer
  taskId : Option TaskId
  pending : Keyed PendingAuthorityCall.operationId

/-- What happens at the gateway: the server accepts a call, and a response is written, which answers a call or is
about something else. -/
inductive GatewayEvent where
  | accepted (requestId : ExternalRequestId)
  | written (response : Value) (answers : Option ExternalRequestId)

structure Handled where
  gateway : McpGateway
  events : List GatewayEvent
  result : Except McpGatewayError Unit

namespace McpGateway

def new (driverId : Uuid) (taskId : Option TaskId) (denoLspEnabled denoGenUiEnabled : Bool) : McpGateway where
  server := .withTools driverId ([.diffReview] ++ (if denoLspEnabled then [.denoLspQuery] else []) ++
    if denoGenUiEnabled then [.genUiCompile] else [])
  taskId
  pending := .empty

def pass (gateway : McpGateway) : Handled := ⟨gateway, [], .ok ()⟩

def fail (gateway : McpGateway) (error : McpGatewayError) : Handled := ⟨gateway, [], .error error⟩

def writeResponse (gateway : McpGateway) (answers : Option ExternalRequestId) (response : Value) : Handled :=
  if maxMcpFrameBytes < response.size then gateway.fail (.driver response.size maxMcpFrameBytes)
  else ⟨gateway, [.written response answers], .ok ()⟩

/-- `fail_tool`, and its response is written. -/
def failCall (gateway : McpGateway) (requestId : ExternalRequestId) (message : String) : Handled :=
  let failed := gateway.server.failTool requestId message
  match failed.2 with
  | .error e => { gateway with server := failed.1 }.fail (.mcp e)
  | .ok response => { gateway with server := failed.1 }.writeResponse (some requestId) response

/-- `complete_tool`, after which the operation is not pending any more and the response is written. -/
def completeCall (gateway : McpGateway) (operationId : OperationId) (requestId : ExternalRequestId)
    (result : McpToolResult) : Handled :=
  let completed := gateway.server.completeTool requestId result
  match completed.2 with
  | .error e => { gateway with server := completed.1 }.fail (.mcp e)
  | .ok response =>
      { gateway with server := completed.1, pending := gateway.pending.erase operationId }.writeResponse
        (some requestId) response

/-- `fail_authorized_call`. -/
def failAuthorizedCall (gateway : McpGateway) (operationId : OperationId) (requestId : ExternalRequestId)
    (message : String) : Handled :=
  gateway.completeCall operationId requestId ⟨message, none, true⟩

def task (gateway : McpGateway) (authority : Authority) : McpGateway × Except McpGatewayError TaskId :=
  match gateway.taskId with
  | some taskId => (gateway, .ok taskId)
  | none =>
      match authorityRequest authority (.createTask "Agent MCP tools") with
      | .error e => (gateway, .error e.1)
      | .ok (.taskCreated taskId) => ({ gateway with taskId := some taskId }, .ok taskId)
      | .ok (.error code message) => (gateway, .error (.authorityRejected code message))
      | .ok response => (gateway, .error (.unexpectedAuthorityResponse response))

variable (sha256 : Value → String) (debug : ControlResponse → String)

/-- What the authority says to the proposal of a call: it waits for a decision, or it has failed. -/
def proposalOutcome (response : Except (McpGatewayError × String) ControlResponse) :
    Except String (OperationId × Nat) :=
  match response with
  | .error e => .error ("permission broker failed: " ++ e.2)
  | .ok (.operationUpdated operationId revision .waitingHuman) => .ok (operationId, revision)
  | .ok (.error code message) =>
      .error ("permission broker rejected the proposal (" ++ code ++ "): " ++ message)
  | .ok response => .error ("permission broker returned an unexpected response: " ++ debug response)

def proposeTool (gateway : McpGateway) (authority : Authority) (call : McpToolCall) : Handled :=
  let (gateway, taskId) := gateway.task authority
  match taskId with
  | .error e => gateway.fail e
  | .ok taskId =>
      match proposalOutcome debug
        (authorityRequest authority (.proposeBrokeredMcpTool taskId call.name call.arguments)) with
      | .error message => gateway.failCall call.requestId message
      | .ok (operationId, revision) =>
          { gateway with
            pending := gateway.pending.put ⟨operationId, call.requestId, call.proposal.payloadSha256, revision,
              none⟩ }.pass

def receiveMcp (gateway : McpGateway) (authority : Authority) (message : Value) : Handled :=
  let received := gateway.server.receive sha256 message
  let gateway := { gateway with server := received.1 }
  match received.2 with
  | .error e => gateway.fail (.mcp e)
  | .ok none => gateway.pass
  | .ok (some (.response response)) => gateway.writeResponse none response
  | .ok (some (.toolProposed call)) =>
      let handled := gateway.proposeTool debug authority call
      { handled with events := .accepted call.requestId :: handled.events }

/-! ## Events of the authority -/

/-- `waiting_revision + 1`, which wraps. -/
def nextRevision (revision : Nat) : Nat := (revision + 1) % 2 ^ 64

def executeAuthorized (gateway : McpGateway) (authority : Authority) (pending : PendingAuthorityCall)
    (authorizedRevision : Nat) : Handled :=
  if nextRevision pending.waitingRevision ≠ authorizedRevision then
    gateway.fail (.unexpectedOperationRevision (nextRevision pending.waitingRevision) authorizedRevision)
  else
    let authorization := gateway.server.authorizeTool pending.requestId
      ⟨pending.operationId, authorizedRevision, pending.proposalDigest, pending.decision.getD .allowOnce⟩
    let gateway := { gateway with server := authorization.1 }
    match authorization.2 with
    | .error e => gateway.fail (.mcp e)
    | .ok (.rejected _) => gateway.fail .authorizedOperationWasRejected
    | .ok (.authorized call) =>
        match gateway.taskId with
        | none => gateway.fail .taskMissing
        | some taskId =>
            match authorityRequest authority (.runAuthorizedBrokeredMcpTool taskId pending.operationId
              authorizedRevision call.name call.proposal.payloadSha256 call.arguments) with
            | .error e => gateway.fail e.1
            | .ok (.brokeredMcpToolExecuted execution) =>
                gateway.completeCall pending.operationId pending.requestId
                  ⟨execution.text, execution.structuredContent, execution.isError⟩
            | .ok (.error code message) =>
                gateway.failAuthorizedCall pending.operationId pending.requestId
                  ("Rust authority could not run the tool (" ++ code ++ "): " ++ message)
            | .ok response =>
                gateway.failAuthorizedCall pending.operationId pending.requestId
                  ("Rust authority returned an unexpected response: " ++ debug response)

def rejectCancelled (gateway : McpGateway) (pending : PendingAuthorityCall) : Handled :=
  let authorization := gateway.server.authorizeTool pending.requestId
    ⟨pending.operationId, pending.waitingRevision, pending.proposalDigest, pending.decision.getD .cancelled⟩
  let gateway := { gateway with server := authorization.1, pending := gateway.pending.erase pending.operationId }
  match authorization.2 with
  | .error e => gateway.fail (.mcp e)
  | .ok (.authorized _) => gateway.fail .cancelledOperationWasAuthorized
  | .ok (.rejected response) => gateway.writeResponse (some pending.requestId) response

def receiveAuthority (gateway : McpGateway) (authority : Authority) (response : ControlResponse) : Handled :=
  match response with
  | .event event =>
      match event.operationId.bind gateway.pending.get? with
      | none => gateway.pass
      | some pending =>
          match event.payload with
          | .permissionDecided _ decision _ =>
              { gateway with pending := gateway.pending.put { pending with decision := some decision } }.pass
          | .operationStateChanged revision _ .authorized _ _ =>
              gateway.executeAuthorized debug authority pending revision
          | .operationStateChanged _ _ .cancelled _ _ => gateway.rejectCancelled pending
          | _ => gateway.pass
  | _ => gateway.pass

end McpGateway

/-! ## The loop -/

inductive GatewayInput where
  | message (message : Value) (authority : Authority)
  | authority (response : ControlResponse) (authority : Authority)

namespace McpGateway

variable (sha256 : Value → String) (debug : ControlResponse → String)

def handle (gateway : McpGateway) : GatewayInput → Handled
  | .message message authority => gateway.receiveMcp sha256 debug authority message
  | .authority response authority => gateway.receiveAuthority debug authority response

def run (gateway : McpGateway) : List GatewayInput → Handled
  | [] => gateway.pass
  | input :: inputs =>
      let handled := gateway.handle sha256 debug input
      match handled.result with
      | .error _ => handled
      | .ok _ =>
          let rest := handled.gateway.run inputs
          { rest with events := handled.events ++ rest.events }

end McpGateway

end HyperTerm.Daemon
