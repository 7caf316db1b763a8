import HyperTerm.Drivers.Agent
import HyperTerm.Lib.Keyed

/-!
# The MCP server of an Agent session

`McpAgentServer` never runs a tool: every `tools/call` that it accepts becomes the proposal of an effect, which waits in
`pending` until the broker has decided and somebody else has run it.

* `receive` : a message of the Agent;
* `authorizeTool`, `completeTool`, `failTool` : what the gateway reports on a pending call.

Every method gives the server it leaves behind, whatever it returns. SHA-256 is an argument.
-/

namespace HyperTerm.Drivers
open HyperTerm.Protocol HyperTerm.Lib

def mcpProtocolVersion : String := "2025-11-25"
def maxMcpFrameBytes : Nat := 2 * 1024 * 1024
def maxMcpArgumentBytes : Nat := 1024 * 1024
def maxMcpResultBytes : Nat := 1024 * 1024
def maxPendingToolCalls : Nat := 128

inductive McpLifecycle where
  | new
  | initializing
  | ready
  deriving DecidableEq

inductive McpToolClass where
  | genUiCompile
  | denoLspQuery
  | diffReview
  deriving DecidableEq

structure McpToolCall where
  requestId : ExternalRequestId
  toolClass : McpToolClass
  name : String
  arguments : Value
  proposal : AgentEffectProposal

inductive McpServerAction where
  | response (response : Value)
  | toolProposed (call : McpToolCall)

structure McpToolResult where
  text : String
  structuredContent : Option Value
  isError : Bool

inductive McpAuthorizationOutcome where
  | authorized (call : McpToolCall)
  | rejected (response : Value)

structure PendingToolCall where
  call : McpToolCall
  authorized : Bool

inductive McpServerError where
  | frameTooLarge (label : String) (size maximum : Nat)
  | pendingOverflow
  | duplicateRequestId
  | unknownToolCall
  | alreadyAuthorized
  | toolCallNotAuthorized
  | invalidAuthorization (message : String)
  | resultTooLarge
  | invalidResult (message : String)
  deriving DecidableEq

abbrev PendingToolCalls := Keyed fun p : PendingToolCall => p.call.requestId

structure McpAgentServer where
  driverId : Uuid
  lifecycle : McpLifecycle
  enabledTools : List McpToolClass
  pending : PendingToolCalls

/-- `with_tools`. -/
def McpAgentServer.withTools (driverId : Uuid) (tools : List McpToolClass) : McpAgentServer where
  driverId
  lifecycle := .new
  enabledTools := tools.foldl (fun enabled tool => if tool ∈ enabled then enabled else enabled ++ [tool]) []
  pending := .empty

/-! ## Messages of the protocol -/

def rpcId : Option Value → Option ExternalRequestId
  | some (.string s) => if s.utf8ByteSize ≤ 512 then some (.string s) else none
  | some (.number n) =>
      if h : n.isI64 = true then some (.signed ⟨n, h⟩)
      else if h : n.isU64 = true then some (.unsigned ⟨n, h⟩)
      else none
  | _ => none

def rpcIdValue : ExternalRequestId → Value
  | .string s => .string s
  | .signed n => .number n.1
  | .unsigned n => .number n.1

def rpcResult (id : ExternalRequestId) (result : Value) : Value :=
  .object [("id", rpcIdValue id), ("jsonrpc", .string "2.0"), ("result", result)]

/-- `code` is the number `-(code + 1)`. -/
def rpcError (id : ExternalRequestId) (code : Fin (2 ^ 63)) (message : String) : Value :=
  .object [("error", .object [("code", .number (.negative code)), ("message", .string message)]),
    ("id", rpcIdValue id), ("jsonrpc", .string "2.0")]

def invalidRequest : Fin (2 ^ 63) := 32599
def methodNotFound : Fin (2 ^ 63) := 32600
def invalidParams : Fin (2 ^ 63) := 32601
def serverNotInitialized : Fin (2 ^ 63) := 32001

def notReady (id : ExternalRequestId) : McpServerAction :=
  .response (rpcError id serverNotInitialized "MCP session has not completed initialization")

def ensureSize (value : Value) (maximum : Nat) (label : String) : Except McpServerError Unit :=
  if maximum < value.size then .error (.frameTooLarge label value.size maximum) else .ok ()

def validateToolResult (result : McpToolResult) : Except McpServerError Unit :=
  if maxMcpResultBytes < result.text.utf8ByteSize then .error .resultTooLarge
  else
    match result.structuredContent with
    | none => .ok ()
    | some value =>
        if value.isObject = false then .error (.invalidResult "structured content must be a JSON object")
        else ensureSize value maxMcpResultBytes "structured tool result"

def toolResultValue (id : ExternalRequestId) (result : McpToolResult) : Value :=
  rpcResult id (.object
    ([("content", .array [.object [("text", .string result.text), ("type", .string "text")]]),
      ("isError", .bool result.isError)] ++
      (result.structuredContent.map fun value => ("structuredContent", value)).toList))

def toolResult (id : ExternalRequestId) (result : McpToolResult) : Except McpServerError Value := do
  validateToolResult result
  return toolResultValue id result

/-! ## The tools -/

structure ToolProfile where
  toolClass : McpToolClass
  summary : String
  requiredCapabilities : List String

def toolProfile (name : String) : Option ToolProfile :=
  if name = "hyper_term.genui.compile" then
    some ⟨.genUiCompile, "Compile a bounded GenUI artifact with the supervised Deno runtime",
      ["artifact_build", "deno_runtime"]⟩
  else if name = "hyper_term.lsp.query" then
    some ⟨.denoLspQuery, "Query the supervised Deno LSP against a workspace snapshot",
      ["workspace_snapshot_read", "deno_lsp"]⟩
  else if name = "hyper_term.diff.review" then
    some ⟨.diffReview, "Build a read-only diff review artifact from bounded input", ["diff_review"]⟩
  else none

def lspMethods : List String :=
  ["textDocument/hover", "textDocument/completion", "textDocument/definition", "textDocument/references",
    "textDocument/documentSymbol", "textDocument/formatting"]

/-- A property of a schema: a string of at most so many characters. -/
def boundedStringSchema (maximum : Fin (2 ^ 64)) (description : Option String) : Value :=
  .object ((description.map fun text => ("description", Value.string text)).toList ++
    [("maxLength", .ofU64 maximum), ("type", .string "string")])

def objectSchema (properties : List (String × Value)) (required : List String) : Value :=
  .object [("additionalProperties", .bool false), ("properties", .object properties),
    ("required", .array (required.map .string)), ("type", .string "object")]

def toolDefinition (name title description : String) (inputSchema : Value) : Value :=
  .object [("description", .string description),
    ("execution", .object [("taskSupport", .string "forbidden")]), ("inputSchema", inputSchema),
    ("name", .string name), ("title", .string title)]

def genUiCompileDefinition : Value :=
  toolDefinition "hyper_term.genui.compile" "Compile GenUI"
    ("Propose compilation of bounded React/TypeScript source in Hyper Term's supervised Deno runtime. " ++
      "This tool cannot run shell commands or write workspace files.")
    (objectSchema
      [("entry", boundedStringSchema 256 (some "Optional virtual TS/JS module path; defaults to /App.tsx")),
        ("source", boundedStringSchema 262144 none)] ["source"])

def denoLspQueryDefinition : Value :=
  let natural : Value := .object [("minimum", .ofU64 0), ("type", .string "integer")]
  toolDefinition "hyper_term.lsp.query" "Query Deno LSP"
    "Propose a bounded, allowlisted Deno LSP query against an authority-created workspace snapshot."
    (objectSchema
      [("documentPath", boundedStringSchema 4096
          (some "UTF-8 path relative to the authority-created workspace snapshot")),
        ("includeDeclaration", .object [("type", .string "boolean")]),
        ("method", .object [("enum", .array (lspMethods.map .string)), ("type", .string "string")]),
        ("position", objectSchema [("character", natural), ("line", natural)] ["line", "character"])]
      ["method", "documentPath"])

def diffReviewDefinition : Value :=
  toolDefinition "hyper_term.diff.review" "Build Diff Review"
    ("Propose a read-only diff artifact from two bounded text revisions. " ++
      "This tool does not read or modify files.")
    (objectSchema
      [("after", boundedStringSchema 524288 none), ("before", boundedStringSchema 524288 none),
        ("language", boundedStringSchema 64 none)] ["before", "after"])

def toolDefinitions (enabled : List McpToolClass) : List Value :=
  ([(McpToolClass.genUiCompile, genUiCompileDefinition), (.denoLspQuery, denoLspQueryDefinition),
      (.diffReview, diffReviewDefinition)].filter fun d => d.1 ∈ enabled).map Prod.snd

/-! ## Arguments -/

def requiredBoundedString (members : List (String × Value)) (key : String) (maximum : Nat) :
    Except String String :=
  match (members.lookup key).bind Value.asStr with
  | none => .error (key ++ " must be a string")
  | some s =>
      if maximum < s.utf8ByteSize then .error (key ++ " exceeds the " ++ toString maximum ++ "-byte bound")
      else .ok s

def optionalBoundedString (members : List (String × Value)) (key : String) (maximum : Nat) :
    Except String Unit :=
  match members.lookup key with
  | none => .ok ()
  | some value =>
      match value.asStr with
      | none => .error (key ++ " must be a string")
      | some s =>
          if maximum < s.utf8ByteSize then .error (key ++ " exceeds the " ++ toString maximum ++ "-byte bound")
          else .ok ()

def rejectExtra (members : List (String × Value)) (allowed : List String) : Except String Unit :=
  match members.find? fun m => m.1 ∉ allowed with
  | some (key, _) => .error ("unknown tool argument: " ++ key)
  | none => .ok ()

def entryIsModulePath (entry : String) : Bool :=
  let chars := entry.toList
  let normalized := if chars.head? = some '/' then chars.tail else chars
  '\\' ∉ chars ∧ ¬"..".toList <:+: chars ∧ normalized ≠ [] ∧
    [".tsx", ".ts", ".jsx", ".js"].any fun extension => extension.toList <:+ normalized

def checkEntry (members : List (String × Value)) : Except String Unit :=
  match (members.lookup "entry").bind Value.asStr with
  | none => .ok ()
  | some entry =>
      if entryIsModulePath entry then .ok () else .error "entry must be a bounded virtual TS/JS module path"

def checkPosition (members : List (String × Value)) : Except String Unit :=
  match members.lookup "position" with
  | none => .ok ()
  | some (.object position) => do
      for key in ["line", "character"] do
        if ((position.lookup key).any Value.isU64) = false then
          throw ("LSP position " ++ key ++ " must be a non-negative integer")
      rejectExtra position ["line", "character"]
  | some _ => .error "LSP position must be an object"

def validateMembers (toolClass : McpToolClass) (members : List (String × Value)) : Except String Unit := do
  match toolClass with
  | .genUiCompile =>
      let _ ← requiredBoundedString members "source" 262144
      optionalBoundedString members "entry" 256
      checkEntry members
      rejectExtra members ["source", "entry"]
  | .denoLspQuery =>
      let method ← requiredBoundedString members "method" 64
      if method ∉ lspMethods then throw "LSP method is not in the read-only query allowlist"
      let _ ← requiredBoundedString members "documentPath" 4096
      if method ∈ lspMethods.take 4 ∧ (members.lookup "position").isNone then
        throw (method ++ " requires a position")
      checkPosition members
      if (members.lookup "includeDeclaration").any fun value => !value.isBoolean then
        throw "includeDeclaration must be a boolean"
      rejectExtra members ["method", "documentPath", "position", "includeDeclaration"]
  | .diffReview =>
      let _ ← requiredBoundedString members "before" 524288
      let _ ← requiredBoundedString members "after" 524288
      optionalBoundedString members "language" 64
      rejectExtra members ["before", "after", "language"]

def validateArguments (toolClass : McpToolClass) (arguments : Value) : Except String Unit :=
  if maxMcpArgumentBytes < arguments.size then
    .error ("tool arguments exceed the " ++ toString maxMcpArgumentBytes ++ "-byte bound")
  else
    match arguments with
    | .object members => validateMembers toolClass members
    | _ => .error "tool arguments must be an object"

/-! ## The server -/

namespace McpAgentServer

abbrev Received := McpAgentServer × Except McpServerError (Option McpServerAction)

def answer (server : McpAgentServer) (response : Value) : Received := (server, .ok (some (.response response)))

def onInitialize (server : McpAgentServer) (id : Option ExternalRequestId) (params : Option Value) : Received :=
  match id with
  | none => (server, .ok none)
  | some id =>
      if server.lifecycle ≠ .new then server.answer (rpcError id invalidRequest "MCP session is already initialized")
      else if ((params.bind (Value.get "protocolVersion")).bind Value.asStr).isNone then
        server.answer (rpcError id invalidParams "initialize requires protocolVersion")
      else
        { server with lifecycle := .initializing }.answer (rpcResult id (.object
          [("capabilities", .object [("tools", .object [("listChanged", .bool false)])]),
            ("instructions", .string ("All tool calls are proposals. Hyper Term executes them only after " ++
              "Rust-owned policy and permission checks.")),
            ("protocolVersion", .string mcpProtocolVersion),
            ("serverInfo", .object
              [("description", .string "Brokered GenUI, Deno LSP, and diff proposals for Agent mode"),
                ("name", .string "hyper-term"), ("title", .string "Hyper Term Agent Tools"),
                ("version", .string "0.1.0")])]))

def markInitialized (server : McpAgentServer) (id : Option ExternalRequestId) : Received :=
  match id with
  | some id => server.answer (rpcError id invalidRequest "notifications/initialized must be a notification")
  | none =>
      if server.lifecycle ≠ .initializing then (server, .ok none)
      else ({ server with lifecycle := .ready }, .ok none)

def listTools (server : McpAgentServer) (id : Option ExternalRequestId) (params : Option Value) : Received :=
  match id with
  | none => (server, .ok none)
  | some id =>
      if server.lifecycle ≠ .ready then (server, .ok (some (notReady id)))
      else if (params.bind (Value.get "cursor")).any fun cursor => !cursor.isNull then
        server.answer (rpcError id invalidParams "this bounded catalog has no additional pages")
      else server.answer (rpcResult id (.object [("tools", .array (toolDefinitions server.enabledTools))]))

/-- The call that is proposed, not yet authorized. -/
def newCall (sha256 : Value → String) (server : McpAgentServer) (id : ExternalRequestId) (profile : ToolProfile)
    (name : String) (arguments : Value) : McpToolCall where
  requestId := id
  toolClass := profile.toolClass
  name
  arguments
  proposal :=
    { driverId := server.driverId
      protocol := .mcp20251125
      requestId := id
      method := "tools/call:" ++ name
      kind := .tool
      summary := profile.summary
      requiredCapabilities := profile.requiredCapabilities
      payloadSha256 := sha256 (.object [("arguments", arguments), ("name", .string name)])
      threadId := none
      turnId := none
      itemId := none }

/-- The end of `call_tool`: the arguments are checked and the call is proposed. -/
def proposeCall (sha256 : Value → String) (server : McpAgentServer) (id : ExternalRequestId) (profile : ToolProfile)
    (name : String) (arguments : Value) : Received :=
  match validateArguments profile.toolClass arguments with
  | .error error => (server, (toolResult id ⟨error, none, true⟩).map (some <| .response ·))
  | .ok _ =>
      if server.pending.values.length = maxPendingToolCalls then (server, .error .pendingOverflow)
      else if (server.pending.get? id).isSome then (server, .error .duplicateRequestId)
      else
        let call := newCall sha256 server id profile name arguments
        ({ server with pending := server.pending.put ⟨call, false⟩ }, .ok (some (.toolProposed call)))

def callTool (sha256 : Value → String) (server : McpAgentServer) (id : Option ExternalRequestId)
    (params : Option Value) : Received :=
  match id with
  | none => (server, .ok none)
  | some id =>
      if server.lifecycle ≠ .ready then (server, .ok (some (notReady id)))
      else
        match params with
        | none => server.answer (rpcError id invalidParams "tools/call requires params")
        | some params =>
            match (params.get "name").bind Value.asStr with
            | none => server.answer (rpcError id invalidParams "tools/call requires a tool name")
            | some name =>
                match toolProfile name with
                | none => server.answer (rpcError id invalidParams "unknown Hyper Term tool")
                | some profile =>
                    let arguments := (params.get "arguments").getD (.object [])
                    if profile.toolClass ∉ server.enabledTools then
                      server.answer (rpcError id invalidParams "tool is not enabled for this Agent session")
                    else if arguments.isObject = false then
                      server.answer (rpcError id invalidParams "tool arguments must be an object")
                    else proposeCall sha256 server id profile name arguments

def emptyInventory (server : McpAgentServer) (id : Option ExternalRequestId) (field : String) : Received :=
  match id with
  | none => (server, .ok none)
  | some id =>
      if server.lifecycle ≠ .ready then (server, .ok (some (notReady id)))
      else server.answer (rpcResult id (.object [(field, .array [])]))

def receive (sha256 : Value → String) (server : McpAgentServer) (message : Value) : Received :=
  match ensureSize message maxMcpFrameBytes "MCP frame" with
  | .error e => (server, .error e)
  | .ok _ =>
      let id := rpcId (message.get "id")
      if (message.get "jsonrpc").bind Value.asStr ≠ some "2.0" then
        (server, .ok (id.map fun id => .response (rpcError id invalidRequest "JSON-RPC version must be 2.0")))
      else
        match (message.get "method").bind Value.asStr with
        | none => (server, .ok (id.map fun id => .response (rpcError id invalidRequest "request method is missing")))
        | some method =>
            let params := message.get "params"
            if method = "initialize" then server.onInitialize id params
            else if method = "notifications/initialized" then server.markInitialized id
            else if method = "ping" then (server, .ok (id.map fun id => .response (rpcResult id (.object []))))
            else if method = "tools/list" then server.listTools id params
            else if method = "tools/call" then server.callTool sha256 id params
            else if method = "resources/list" then server.emptyInventory id "resources"
            else if method = "resources/templates/list" then server.emptyInventory id "resourceTemplates"
            else (server, .ok (id.map fun id => .response (rpcError id methodNotFound "method not found")))

/-! ## Reports on a pending call -/

def authorizeTool (server : McpAgentServer) (requestId : ExternalRequestId)
    (authorization : AgentEffectAuthorization) :
    McpAgentServer × Except McpServerError McpAuthorizationOutcome :=
  if authorization.operationRevision = 0 then
    (server, .error (.invalidAuthorization "operation revision must be positive"))
  else
    match server.pending.get? requestId with
    | none => (server, .error .unknownToolCall)
    | some pending =>
        if authorization.proposalSha256 ≠ pending.call.proposal.payloadSha256 then
          (server, .error (.invalidAuthorization "proposal digest does not match the pending tool call"))
        else
          match authorization.decision with
          | .allowOnce =>
              if pending.authorized then (server, .error .alreadyAuthorized)
              else
                ({ server with pending := server.pending.put { pending with authorized := true } },
                  .ok (.authorized pending.call))
          | .rejectOnce | .cancelled =>
              let reason := if authorization.decision = .cancelled then "tool call was cancelled"
                else "tool call was rejected by the permission broker"
              ({ server with pending := server.pending.erase requestId },
                (toolResult pending.call.requestId ⟨reason, none, true⟩).map .rejected)
          | .allowAlways | .rejectAlways =>
              (server, .error (.invalidAuthorization
                "persistent policy decisions are not wire-level authorizations"))

def completeTool (server : McpAgentServer) (requestId : ExternalRequestId) (result : McpToolResult) :
    McpAgentServer × Except McpServerError Value :=
  match server.pending.get? requestId with
  | none => (server, .error .unknownToolCall)
  | some pending =>
      if pending.authorized = false then (server, .error .toolCallNotAuthorized)
      else
        match validateToolResult result with
        | .error e => (server, .error e)
        | .ok _ =>
            ({ server with pending := server.pending.erase requestId }, toolResult pending.call.requestId result)

/-- The call is removed before its answer is checked. -/
def failTool (server : McpAgentServer) (requestId : ExternalRequestId) (message : String) :
    McpAgentServer × Except McpServerError Value :=
  match server.pending.get? requestId with
  | none => (server, .error .unknownToolCall)
  | some pending =>
      ({ server with pending := server.pending.erase requestId },
        toolResult pending.call.requestId ⟨message, none, true⟩)

end McpAgentServer

end HyperTerm.Drivers
