import HyperTerm.Drivers.AcpRequests
import HyperTerm.Drivers.McpFrames
import HyperTerm.Drivers.RequestRaw
import HyperTerm.Lib.CharBoundary
import HyperTerm.Lib.Paths
import HyperTerm.Lib.Result
import HyperTerm.Sandbox.LimaRunner

/-!
# The terminals of an ACP provider

A provider asks its client for terminals. Each is an isolated task that has ended before the answer, and its output is kept
until the provider releases it. An answer that the client refuses ends the session.

* `normalizeHostOperation` : the requests that are accepted;
* `retainTerminalOutput` : what is kept of an output;
* `resolveTerminalHostRequest`, `executeAgentTerminalCreate` : the answers;
* `hostResponseValue`, `resolveHostRequest` : what the client checks of an answer, and how it is sent;
* `Answerable` : when the answer gets through;
* `serves_iff` : a request is answered exactly then, and what is kept is the end of the output.
-/

namespace HyperTerm.Daemon.TerminalRequests
open HyperTerm.Lib HyperTerm.Lib.Paths HyperTerm.Protocol HyperTerm.Drivers HyperTerm.Sandbox.Lima

def maxTerminalArguments : Nat := 256
def maxTerminalArgumentBytes : Nat := 64 * 1024
def maxTerminalEnvironment : Nat := 64
def maxTerminalEnvironmentBytes : Nat := 64 * 1024
def defaultTerminalOutputBytes : Nat := 512 * 1024
def maxTerminalOutputBytes : Nat := 2 * 1024 * 1024

inductive HostError where
  | invalidMessage (message : String)
  | json
  | unknownHostRequest
  | hostResponseMismatch
  | driver (error : ProcessError)
  deriving DecidableEq

/-! ## Requests -/

/-- `v1::CreateTerminalRequest`. -/
structure CreateTerminalRequest where
  sessionId : String
  command : String
  args : List String
  env : List (String × String)
  cwd : Option (List Char)
  outputByteLimit : Option (Fin (2 ^ 64))

/-- How the schema of the protocol reads parameters. All but those of `terminal/create` name a session and a terminal. -/
structure HostSchema where
  createTerminal : Value → Option CreateTerminalRequest
  terminal : Value → Option (String × String)

def bounded (value : String) (maximum : Nat) : Except HostError String :=
  if maximum < value.utf8ByteSize then .error (.invalidMessage ("text exceeds " ++ toString maximum ++ " bytes"))
  else .ok value

def validateHostSession (actual expected : String) : Except HostError Unit :=
  if actual ≠ expected then .error (.invalidMessage "ACP host request belongs to another session") else .ok ()

def isNameStart (c : Char) : Bool := c = '_' || c.isAlpha

def validEnvironmentName (name : String) : Bool :=
  (name.toList.head?.any isNameStart) && name.toList.tail.all fun c => isNameStart c || c.isDigit

def normalizeTerminalId (terminalId : String) : Except HostError String := do
  let terminalId ← bounded terminalId 4096
  if terminalId = "" then .error (.invalidMessage "ACP terminal id is empty") else .ok terminalId

/-- The environment, behind the names that were met. -/
def normalizeEnvironment : List String → List (String × String) → Except HostError (List (String × String))
  | _, [] => .ok []
  | names, (name, value) :: env => do
      let name ← bounded name 128
      if validEnvironmentName name = false ∨ name ∈ names then
        .error (.invalidMessage "ACP terminal environment contains an invalid or duplicate name")
      else
        let value ← bounded value (16 * 1024)
        let rest ← normalizeEnvironment (name :: names) env
        return (name, value) :: rest

/-- `terminal/create`. The sums of bytes do not overflow, since the entries are few and short. -/
def normalizeTerminalCreate (canonicalize : List Char → Option (List Char)) (request : CreateTerminalRequest)
    (pendingSessionId : String) (workspace : List Char) : Except HostError AgentHostOperation := do
  validateHostSession request.sessionId pendingSessionId
  if maxTerminalArguments < request.args.length then
    .error (.invalidMessage "ACP terminal argument count exceeded its bound")
  else
    let command ← bounded request.command (16 * 1024)
    if command = "" then .error (.invalidMessage "ACP terminal command is empty")
    else
      let args ← request.args.mapM fun argument => bounded argument (16 * 1024)
      if maxTerminalArgumentBytes < (args.map String.utf8ByteSize).sum then
        .error (.invalidMessage "ACP terminal arguments exceeded their byte bound")
      else if maxTerminalEnvironment < request.env.length then
        .error (.invalidMessage "ACP terminal environment exceeded its entry bound")
      else
        let env ← normalizeEnvironment [] request.env
        if maxTerminalEnvironmentBytes < (env.map fun entry => entry.1.utf8ByteSize + entry.2.utf8ByteSize).sum then
          .error (.invalidMessage "ACP terminal environment exceeded its byte bound")
        else
          let cwd := request.cwd.getD workspace
          if isAbsolute cwd = false then .error (.invalidMessage "ACP terminal cwd must be absolute")
          else
            let cwd ← okOr (canonicalize cwd) (.invalidMessage "ACP terminal cwd is unavailable")
            if ¬components workspace <+: components cwd then
              .error (.invalidMessage "ACP terminal cwd escaped the session workspace")
            else
              let outputByteLimit := (request.outputByteLimit.map Fin.val).getD defaultTerminalOutputBytes
              if outputByteLimit = 0 ∨ maxTerminalOutputBytes < outputByteLimit then
                .error (.invalidMessage "ACP terminal output limit is outside the supported bound")
              else .ok (.terminalCreate command args env (String.ofList cwd) outputByteLimit)

/-- A request about a terminal. -/
def normalizeTerminalRequest (schema : HostSchema) (params : Value) (pendingSessionId : String)
    (operation : String → AgentHostOperation) : Except HostError AgentHostOperation := do
  let (sessionId, terminalId) ← okOr (schema.terminal params) .json
  validateHostSession sessionId pendingSessionId
  let terminalId ← normalizeTerminalId terminalId
  return operation terminalId

def normalizeHostOperation (schema : HostSchema) (canonicalize : List Char → Option (List Char)) (method : String)
    (params : Value) (pendingSessionId : String) (workspace : List Char) : Except HostError AgentHostOperation :=
  if method = "terminal/create" then do
    let request ← okOr (schema.createTerminal params) .json
    normalizeTerminalCreate canonicalize request pendingSessionId workspace
  else if method = "terminal/output" then normalizeTerminalRequest schema params pendingSessionId .terminalOutput
  else if method = "terminal/release" then normalizeTerminalRequest schema params pendingSessionId .terminalRelease
  else if method = "terminal/wait_for_exit" then
    normalizeTerminalRequest schema params pendingSessionId .terminalWaitForExit
  else if method = "terminal/kill" then normalizeTerminalRequest schema params pendingSessionId .terminalKill
  else .error (.invalidMessage "unsupported ACP host request")

/-! ## What is kept of an output -/

/-- The end of the output that fits, from the first boundary of a character on. -/
def retainTerminalOutput (stdout stderr : List Char) (outputByteLimit : Nat) : List Char × Bool :=
  let output := stdout ++ stderr
  if (utf8 output).length ≤ outputByteLimit then (output, false)
  else
    let start := boundaryAbove output outputByteLimit ((utf8 output).length - outputByteLimit)
    (((splitAtByte output start).map Prod.snd).getD [], true)

/-- The kept text is the longest end of the output within the limit, and it is said whether that is not all of it. -/
structure Retains (stdout stderr : List Char) (outputByteLimit : Nat) (kept : List Char) (truncated : Bool) : Prop where
  suffix : kept <:+ stdout ++ stderr
  fits : (utf8 kept).length ≤ outputByteLimit
  longest : ∀ other, other <:+ stdout ++ stderr → (utf8 other).length ≤ outputByteLimit → (utf8 other).length ≤ (utf8 kept).length
  truncated : truncated = true ↔ kept ≠ stdout ++ stderr

/-- The end of a text from the first boundary of a character on that leaves no more than the limit. -/
theorem splitAtByte_boundaryAbove {output : List Char} {limit : Nat} (h : limit < (utf8 output).length) :
    ∃ before kept, output = before ++ kept ∧
      splitAtByte output (boundaryAbove output limit ((utf8 output).length - limit)) = some (before, kept) ∧
      (utf8 kept).length ≤ limit ∧
        ∀ other, other <:+ output → (utf8 other).length ≤ limit → (utf8 other).length ≤ (utf8 kept).length := by
  obtain ⟨hcut, hstart, hnone⟩ := boundaryAbove_spec (by omega : (utf8 output).length - limit + limit = (utf8 output).length)
  obtain ⟨before, kept, houtput, hbefore⟩ := isCharBoundary_iff.1 hcut
  have hlength : (utf8 output).length = (utf8 before).length + (utf8 kept).length := by
    rw [houtput, utf8_append, List.length_append]
  refine ⟨before, kept, houtput, splitAtByte_eq_some.2 ⟨houtput, hbefore⟩, by omega, fun other hother hfits => ?_⟩
  obtain ⟨front, hfront⟩ := hother
  have hother : (utf8 output).length = (utf8 front).length + (utf8 other).length := by
    rw [← hfront, utf8_append, List.length_append]
  by_contra hlonger
  -- A longer end would start at a boundary that the search has passed.
  have hpassed := hnone (utf8 front).length (by omega) (by omega)
  rw [isCharBoundary_iff.2 ⟨front, other, hfront.symm, rfl⟩] at hpassed
  cases hpassed

theorem retainTerminalOutput_retains (stdout stderr : List Char) (outputByteLimit : Nat) :
    Retains stdout stderr outputByteLimit (retainTerminalOutput stdout stderr outputByteLimit).1
      (retainTerminalOutput stdout stderr outputByteLimit).2 := by
  unfold retainTerminalOutput
  dsimp only
  by_cases hfits : (utf8 (stdout ++ stderr)).length ≤ outputByteLimit
  · rw [if_pos hfits]
    refine ⟨List.suffix_refl _, hfits, fun other hother _ => ?_, iff_of_false Bool.false_ne_true fun hne => hne rfl⟩
    obtain ⟨front, hfront⟩ := hother
    rw [← hfront, utf8_append, List.length_append]
    omega
  · rw [if_neg hfits]
    obtain ⟨before, kept, houtput, hsplit, hkept, hlongest⟩ := splitAtByte_boundaryAbove (Nat.lt_of_not_le hfits)
    rw [hsplit]
    refine ⟨⟨before, houtput.symm⟩, hkept, hlongest, iff_of_true rfl fun heq => hfits ?_⟩
    rw [← heq]
    exact hkept

/-! ## Answers -/

inductive AgentHostResponse where
  | terminalCreated (terminalId : String)
  | terminalOutput (output : String) (truncated : Bool) (exitCode : Option (Fin (2 ^ 32))) (signal : Option String)
  | terminalReleased
  | terminalExited (exitCode : Option (Fin (2 ^ 32))) (signal : Option String)
  | terminalKilled
  | error (code : Int) (message : String)

def intValue : Int → Value
  | .ofNat n => .number (.unsigned (Fin.ofNat (2 ^ 64) n))
  | .negSucc n => .number (.negative (Fin.ofNat (2 ^ 63) n))

def exitCodeValue : Option (Fin (2 ^ 32)) → Value
  | none => .null
  | some code => .number (.unsigned (code.castLE (by decide)))

def signalValue : Option String → Value
  | none => .null
  | some signal => .string signal

def boundedSignal : Option String → Except HostError (Option String)
  | none => .ok none
  | some signal => (bounded signal 128).map some

def hostResponseValue (operation : AgentHostOperation) : AgentHostResponse → Except HostError HostResponseValue
  | .error code message => do
      let message ← bounded message 512
      return .error code message
  | .terminalCreated terminalId =>
      match operation with
      | .terminalCreate _ _ _ _ _ => do
          let terminalId ← normalizeTerminalId terminalId
          return .result (.object [("terminalId", .string terminalId)])
      | _ => .error .hostResponseMismatch
  | .terminalOutput output truncated exitCode signal =>
      match operation with
      | .terminalOutput _ => do
          let output ← bounded output maxTerminalOutputBytes
          let signal ← boundedSignal signal
          return .result (.object [("exitStatus", .object [("exitCode", exitCodeValue exitCode),
            ("signal", signalValue signal)]), ("output", .string output), ("truncated", .bool truncated)])
      | _ => .error .hostResponseMismatch
  | .terminalReleased =>
      match operation with
      | .terminalRelease _ => .ok (.result (.object []))
      | _ => .error .hostResponseMismatch
  | .terminalExited exitCode signal =>
      match operation with
      | .terminalWaitForExit _ => do
          let signal ← boundedSignal signal
          return .result (.object [("exitCode", exitCodeValue exitCode), ("signal", signalValue signal)])
      | _ => .error .hostResponseMismatch
  | .terminalKilled =>
      match operation with
      | .terminalKill _ => .ok (.result (.object []))
      | _ => .error .hostResponseMismatch

def hostMessage (requestId : ExternalRequestId) : HostResponseValue → Value
  | .result result => rpcResult requestId result
  | .error code message => .object [("error", .object [("code", intValue code), ("message", .string message)]),
      ("id", rpcIdValue requestId), ("jsonrpc", .string "2.0")]

/-- The client: its process, and what is pending under the identifier of the request. -/
structure AgentClient where
  process : ProcessInput
  pending : Option AgentHostOperation

/-- The message that is sent. -/
def resolveHostRequest (client : AgentClient) (requestId : ExternalRequestId) (response : AgentHostResponse) :
    Except HostError Value := do
  let operation ← okOr client.pending .unknownHostRequest
  let wire ← hostResponseValue operation response
  match sendJson acpFrameBytes client.process (hostMessage requestId wire) with
  | .ok () => .ok (hostMessage requestId wire)
  | .error e => .error (.driver e)

/-! ## The session -/

structure AgentTerminalRecord where
  output : String
  truncated : Bool
  exitCode : Option (Fin (2 ^ 32))
  signal : Option String

abbrev Terminals := List (String × AgentTerminalRecord)

/-- The terminals are missing when their lock is poisoned. -/
structure AgentSession where
  terminals : Option Terminals
  failed : Option String
  closed : Bool

/-- The session after a request, whether its turn goes on, and the answer that was sent. -/
structure Outcome where
  session : AgentSession
  continues : Bool
  sent : Option Value

/-- An answer that cannot be returned closes the session. -/
def returned (client : AgentClient) (requestId : ExternalRequestId) (failure : String) (session : AgentSession)
    (response : AgentHostResponse) : Outcome :=
  match resolveHostRequest client requestId response with
  | .ok message => ⟨session, true, some message⟩
  | .error _ => ⟨{ session with failed := some failure, closed := true }, false, none⟩

def unknownTerminalResponse (terminalId : String) : AgentHostResponse :=
  .error (-32001) ("Unknown ACP terminal: " ++ terminalId)

def terminalIdOf : AgentHostOperation → Option String
  | .terminalCreate _ _ _ _ _ => none
  | .terminalOutput terminalId | .terminalRelease terminalId | .terminalWaitForExit terminalId
  | .terminalKill terminalId => some terminalId

/-- The answer about a terminal that is there. -/
def knownTerminalResponse (record : AgentTerminalRecord) : AgentHostOperation → AgentHostResponse
  | .terminalOutput _ => .terminalOutput record.output record.truncated record.exitCode record.signal
  | .terminalRelease _ => .terminalReleased
  | .terminalWaitForExit _ => .terminalExited record.exitCode record.signal
  | _ => .terminalKilled

/-- Only a release removes the terminal. -/
def released (terminalId : String) (terminals : Terminals) : AgentHostOperation → Terminals
  | .terminalRelease _ => terminals.filter fun entry => entry.1 ≠ terminalId
  | _ => terminals

def resolveTerminalHostRequest (client : AgentClient) (session : AgentSession) (requestId : ExternalRequestId)
    (operation : AgentHostOperation) : Outcome :=
  match terminalIdOf operation with
  | none => ⟨session, false, none⟩
  | some terminalId =>
      let returned := returned client requestId "ACP terminal response could not be returned"
      match session.terminals with
      | none => returned session (.error (-32000) "ACP terminal state is unavailable")
      | some terminals =>
          match terminals.lookup terminalId with
          | none => returned session (unknownTerminalResponse terminalId)
          | some record =>
              returned { session with terminals := some (released terminalId terminals operation) }
                (knownTerminalResponse record operation)

def boundedError (message : List Char) : List Char :=
  ((splitAtByte message (boundaryBelow message (min (utf8 message).length 512))).map Prod.fst).getD message

/-- `u32::try_from`. -/
def exitCodeOf (code : Int) : Option (Fin (2 ^ 32)) :=
  if h : 0 ≤ code ∧ code < 2 ^ 32 then some ⟨code.toNat, by omega⟩ else none

def signalOf : IsolatedTaskTermination → Option String
  | .exited => none
  | .signaled => some "signaled"
  | .timedOut => some "timeout"
  | .cancelled => some "cancelled"

def createdTerminalId (operationId : OperationId) : String := "hyper-term-" ++ operationId.uuid.text

def terminalRecord (receipt : IsolatedTaskReceipt) (outputByteLimit : Nat) : AgentTerminalRecord where
  output := String.ofList (retainTerminalOutput receipt.stdout receipt.stderr outputByteLimit).1
  truncated := (retainTerminalOutput receipt.stdout receipt.stderr outputByteLimit).2
  exitCode := receipt.exitCode.bind exitCodeOf
  signal := signalOf receipt.termination

/-- `execute_agent_terminal_create`, with what comes of the task: its receipt, or the text of an error. -/
def executeAgentTerminalCreate (client : AgentClient) (session : AgentSession) (requestId : ExternalRequestId)
    (outputByteLimit : Nat) (operationId : OperationId) (task : Except (List Char) IsolatedTaskReceipt) : Outcome :=
  let returned := returned client requestId "ACP terminal result could not be returned"
  match task with
  | .error error =>
      returned session
        (.error (-32000) (String.ofList (boundedError ("Tier 2 terminal execution failed: ".toList ++ error))))
  | .ok receipt =>
      match session.terminals with
      | none => returned session (.error (-32000) "ACP terminal result could not be retained")
      | some terminals =>
          let terminalId := createdTerminalId operationId
          let terminals := (terminalId, terminalRecord receipt outputByteLimit) ::
            terminals.filter fun entry => entry.1 ≠ terminalId
          returned { session with terminals := some terminals } (.terminalCreated terminalId)

/-- A request of the provider, once its task has ended if it is one for a terminal. -/
def serve (client : AgentClient) (session : AgentSession) (requestId : ExternalRequestId) (operation : AgentHostOperation)
    (operationId : OperationId) (task : Except (List Char) IsolatedTaskReceipt) : Outcome :=
  match operation with
  | .terminalCreate _ _ _ _ outputByteLimit =>
      executeAgentTerminalCreate client session requestId outputByteLimit operationId task
  | operation => resolveTerminalHostRequest client session requestId operation

/-! ## What is asked -/

/-- The operation comes from a request that is accepted. -/
def Accepted (operation : AgentHostOperation) : Prop :=
  ∃ schema canonicalize method params pendingSessionId workspace,
    normalizeHostOperation schema canonicalize method params pendingSessionId workspace = .ok operation

/-- The sessions that a history of requests leads to. The lock of the terminals may be poisoned. -/
inductive AgentSession.Reached : AgentSession → Prop
  | start : Reached ⟨some [], none, false⟩
  | served {session : AgentSession} {operation : AgentHostOperation} (client : AgentClient) (requestId : ExternalRequestId)
      (operationId : OperationId) (task : Except (List Char) IsolatedTaskReceipt) (h : Reached session)
      (hoperation : Accepted operation) : Reached (serve client session requestId operation operationId task).session
  | poisoned {session : AgentSession} (h : Reached session) : Reached { session with terminals := none }

/-- The process takes messages, and the request is pending. -/
structure AgentClient.Awaits (client : AgentClient) (operation : AgentHostOperation) : Prop where
  live : ¬(client.process.state.isTerminal = true ∨ client.process.state = .closing)
  input : client.process.input = true
  writes : client.process.writes = true
  pending : client.pending = some operation

/-- The request is answered, the session stays open, and what is kept of the task is the end of its output. -/
structure Serves (client : AgentClient) (session : AgentSession) (requestId : ExternalRequestId)
    (operation : AgentHostOperation) (operationId : OperationId) (task : Except (List Char) IsolatedTaskReceipt) : Prop where
  sent : ∃ answer, (serve client session requestId operation operationId task).sent = some answer
  continues : (serve client session requestId operation operationId task).continues = true
  stays : (serve client session requestId operation operationId task).session.closed = false
  keeps : ∀ command args env cwd outputByteLimit receipt terminals,
    operation = .terminalCreate command args env cwd outputByteLimit → task = .ok receipt →
      (serve client session requestId operation operationId task).session.terminals = some terminals →
        ∃ record, terminals.lookup (createdTerminalId operationId) = some record ∧
          Retains receipt.stdout receipt.stderr outputByteLimit record.output.toList record.truncated

/-- The bytes of the message that returns an output. -/
def outputMessageSize (requestId : ExternalRequestId) (record : AgentTerminalRecord) : Nat :=
  94 + (rpcIdValue requestId).size + jsonStringSize record.output + (Value.bool record.truncated).size +
    (exitCodeValue record.exitCode).size + (signalValue record.signal).size

/-- The name of a terminal that is not there fits into an error, and an output into a message. -/
structure Answerable (session : AgentSession) (requestId : ExternalRequestId) (operation : AgentHostOperation) : Prop where
  unknown : ∀ terminals terminalId, session.terminals = some terminals → terminalIdOf operation = some terminalId →
    terminals.lookup terminalId = none → terminalId.utf8ByteSize ≤ 490
  output : ∀ terminals terminalId record, session.terminals = some terminals → operation = .terminalOutput terminalId →
    terminals.lookup terminalId = some record → outputMessageSize requestId record ≤ 2 * 1024 * 1024

/-! ## Checks of an answer -/

theorem bounded_eq_ok {value value' : String} {maximum : Nat} :
    bounded value maximum = .ok value' ↔ value.utf8ByteSize ≤ maximum ∧ value = value' := by
  unfold bounded
  rw [ite_error_eq_ok, Nat.not_lt]
  exact and_congr_right fun _ => ⟨Except.ok.inj, fun h => congrArg _ h⟩

theorem bounded_of_le {value : String} {maximum : Nat} (h : value.utf8ByteSize ≤ maximum) : bounded value maximum = .ok value :=
  bounded_eq_ok.2 ⟨h, rfl⟩

theorem boundedSignal_of_le {signal : Option String} (h : ∀ text ∈ signal, text.utf8ByteSize ≤ 128) :
    boundedSignal signal = .ok signal := by
  cases signal with
  | none => rfl
  | some text =>
      rw [boundedSignal, bounded_of_le (h text rfl)]
      rfl

/-- An answer is sent if the client takes it and the message fits into a frame. -/
theorem resolveHostRequest_isOk {client : AgentClient} {operation : AgentHostOperation} (h : client.Awaits operation)
    (requestId : ExternalRequestId) (response : AgentHostResponse) :
    (∃ message, resolveHostRequest client requestId response = .ok message) ↔
      ∃ wire, hostResponseValue operation response = .ok wire ∧ (hostMessage requestId wire).size ≤ acpFrameBytes := by
  have hsend (wire : HostResponseValue) : sendJson acpFrameBytes client.process (hostMessage requestId wire) = .ok () ↔
      (hostMessage requestId wire).size ≤ acpFrameBytes := by
    unfold sendJson
    rw [if_neg h.live, if_neg (not_not_intro h.input)]
    by_cases hsize : acpFrameBytes < (hostMessage requestId wire).size
    · rw [if_pos hsize]
      exact iff_of_false (by intro heq; cases heq) (Nat.not_le.2 hsize)
    · rw [if_neg hsize, if_neg (not_not_intro h.writes)]
      exact iff_of_true rfl (Nat.not_lt.1 hsize)
  unfold resolveHostRequest
  rw [h.pending]
  dsimp only [okOr, bind, Except.bind]
  cases hwire : hostResponseValue operation response with
  | error e => exact iff_of_false (by rintro ⟨message, heq⟩; cases heq) (by rintro ⟨wire, heq, -⟩; cases heq)
  | ok wire =>
      dsimp only
      constructor
      · rintro ⟨message, heq⟩
        refine ⟨wire, rfl, (hsend wire).1 ?_⟩
        cases hsent : sendJson acpFrameBytes client.process (hostMessage requestId wire) with
        | ok => rfl
        | error e =>
            rw [hsent] at heq
            cases heq
      · rintro ⟨wire', heq, hsize⟩
        obtain rfl := Except.ok.inj heq
        rw [(hsend wire).2 hsize]
        exact ⟨_, rfl⟩

/-- The identifier of a request is small. -/
def SmallId (requestId : ExternalRequestId) : Prop := (rpcIdValue requestId).size ≤ maxIdSize

theorem size_hostMessage_result (requestId : ExternalRequestId) (result : Value) :
    (hostMessage requestId (.result result)).size = (rpcIdValue requestId).size + result.size + 33 :=
  rpcResult_size requestId result

theorem size_hostMessage_error {code : Int} (hcode : (intValue code).size = 6) (requestId : ExternalRequestId)
    (message : String) :
    (hostMessage requestId (.error code message)).size = (rpcIdValue requestId).size + jsonStringSize message + 58 := by
  have h₁ : jsonStringSize "id" = 4 := by decide
  have h₂ : jsonStringSize "jsonrpc" = 9 := by decide
  have h₃ : jsonStringSize "2.0" = 5 := by decide
  have h₄ : jsonStringSize "error" = 7 := by decide
  have h₅ : jsonStringSize "code" = 6 := by decide
  have h₆ : jsonStringSize "message" = 9 := by decide
  simp only [hostMessage, Value.size, membersSize, List.length, h₁, h₂, h₃, h₄, h₅, h₆, hcode]
  omega

section
variable {client : AgentClient} {operation : AgentHostOperation} {requestId : ExternalRequestId}

theorem exitCodeValue_size (exitCode : Option (Fin (2 ^ 32))) : (exitCodeValue exitCode).size ≤ 10 := by
  cases exitCode with
  | none => decide
  | some code => exact decimalSize_le (by decide) (by have := code.isLt; show code.val < 10 ^ 10; omega)

theorem signalValue_size {signal : Option String} (h : ∀ text ∈ signal, text.utf8ByteSize ≤ 128) :
    (signalValue signal).size ≤ 770 := by
  cases signal with
  | none => decide
  | some text =>
      have hsize := jsonStringSize_le text
      have htext := h text rfl
      show jsonStringSize text ≤ 770
      omega

/-- A result of the client that is small gets through. -/
theorem result_sent (hclient : client.Awaits operation) (hid : SmallId requestId) {response : AgentHostResponse} {result : Value}
    (hresponse : hostResponseValue operation response = .ok (.result result)) (hsize : result.size ≤ 100000) :
    ∃ message, resolveHostRequest client requestId response = .ok message := by
  refine (resolveHostRequest_isOk hclient requestId response).2 ⟨_, hresponse, ?_⟩
  rw [size_hostMessage_result]
  unfold SmallId maxIdSize at hid
  unfold acpFrameBytes
  omega

/-- An error gets through if its text is short enough. -/
theorem error_sent_iff (hclient : client.Awaits operation) (hid : SmallId requestId) {code : Int}
    (hcode : (intValue code).size = 6) (text : String) :
    (∃ message, resolveHostRequest client requestId (.error code text) = .ok message) ↔ text.utf8ByteSize ≤ 512 := by
  rw [resolveHostRequest_isOk hclient]
  constructor
  · rintro ⟨wire, hwire, -⟩
    rw [hostResponseValue, bind_eq_ok] at hwire
    obtain ⟨text', htext, -⟩ := hwire
    exact (bounded_eq_ok.1 htext).1
  · intro hshort
    refine ⟨.error code text, ?_, ?_⟩
    · rw [hostResponseValue, bounded_of_le hshort]
      rfl
    · rw [size_hostMessage_error hcode]
      have hsize := jsonStringSize_le text
      unfold SmallId maxIdSize at hid
      unfold acpFrameBytes
      omega

theorem output_sent_iff {terminalId : String} (hclient : client.Awaits (.terminalOutput terminalId))
    {record : AgentTerminalRecord} (houtput : record.output.utf8ByteSize ≤ maxTerminalOutputBytes)
    (hsignal : ∀ text ∈ record.signal, text.utf8ByteSize ≤ 128) :
    (∃ message, resolveHostRequest client requestId
      (.terminalOutput record.output record.truncated record.exitCode record.signal) = .ok message) ↔
      outputMessageSize requestId record ≤ acpFrameBytes := by
  have hresponse : hostResponseValue (.terminalOutput terminalId)
      (.terminalOutput record.output record.truncated record.exitCode record.signal) =
        .ok (.result (.object [("exitStatus", .object [("exitCode", exitCodeValue record.exitCode),
          ("signal", signalValue record.signal)]), ("output", .string record.output), ("truncated", .bool record.truncated)])) := by
    rw [hostResponseValue, bounded_of_le houtput, boundedSignal_of_le hsignal]
    rfl
  have h₁ : jsonStringSize "exitStatus" = 12 := by decide
  have h₂ : jsonStringSize "exitCode" = 10 := by decide
  have h₃ : jsonStringSize "signal" = 8 := by decide
  have h₄ : jsonStringSize "output" = 8 := by decide
  have h₅ : jsonStringSize "truncated" = 11 := by decide
  rw [resolveHostRequest_isOk hclient, hresponse]
  have hsize := size_hostMessage_result requestId (.object [("exitStatus", .object [("exitCode", exitCodeValue record.exitCode),
    ("signal", signalValue record.signal)]), ("output", .string record.output), ("truncated", .bool record.truncated)])
  have hmessage : (hostMessage requestId (.result (.object [("exitStatus", .object [("exitCode", exitCodeValue record.exitCode),
      ("signal", signalValue record.signal)]), ("output", .string record.output), ("truncated", .bool record.truncated)]))).size =
        outputMessageSize requestId record := by
    rw [hsize, outputMessageSize]
    simp only [Value.size, membersSize, List.length, h₁, h₂, h₃, h₄, h₅]
    omega
  constructor
  · rintro ⟨wire, hwire, hfits⟩
    obtain rfl := Except.ok.inj hwire
    rwa [hmessage] at hfits
  · intro hfits
    exact ⟨_, rfl, by rwa [hmessage]⟩

theorem length_utf8_le (chars : List Char) : (utf8 chars).length ≤ 4 * chars.length := by
  induction chars with
  | nil => exact Nat.le_refl 0
  | cons c chars ih =>
      have hfour := c.utf8Size_le_four
      rw [length_utf8_cons, List.length_cons]
      omega

theorem utf8ByteSize_createdTerminalId (operationId : OperationId) : (createdTerminalId operationId).utf8ByteSize ≤ 155 := by
  have hlength : (Uuid.hexDigits operationId.uuid).length = 32 := by
    rw [Uuid.hexDigits, List.length_map, List.length_range]
  have htext : operationId.uuid.text.utf8ByteSize ≤ 144 := by
    rw [Uuid.text, HyperTerm.Lib.utf8ByteSize_ofList]
    refine (length_utf8_le _).trans ?_
    simp only [List.length_append, List.length_cons, List.length_take, List.length_drop, hlength]
    decide
  have hname : "hyper-term-".utf8ByteSize = 11 := by decide
  rw [createdTerminalId, String.utf8ByteSize_append, hname]
  omega

theorem created_sent {command : String} {args : List String} {env : List (String × String)} {cwd : String} {limit : Nat}
    (hclient : client.Awaits (.terminalCreate command args env cwd limit)) (hid : SmallId requestId)
    (operationId : OperationId) :
    ∃ message, resolveHostRequest client requestId (.terminalCreated (createdTerminalId operationId)) = .ok message := by
  have hsize := utf8ByteSize_createdTerminalId operationId
  have hnonempty : createdTerminalId operationId ≠ "" := by
    intro hempty
    have hlength : ("hyper-term-" ++ operationId.uuid.text).length = "".length := congrArg String.length hempty
    rw [String.length_append] at hlength
    have hname : "hyper-term-".length = 11 := by decide
    have hzero : "".length = 0 := by decide
    omega
  have hresponse : hostResponseValue (.terminalCreate command args env cwd limit)
      (.terminalCreated (createdTerminalId operationId)) =
        .ok (.result (.object [("terminalId", .string (createdTerminalId operationId))])) := by
    have hid : normalizeTerminalId (createdTerminalId operationId) = .ok (createdTerminalId operationId) := by
      rw [normalizeTerminalId, bounded_of_le (by omega)]
      dsimp only [bind, Except.bind]
      rw [if_neg hnonempty]
    rw [hostResponseValue, hid]
    rfl
  refine result_sent hclient hid hresponse ?_
  have hjson := jsonStringSize_le (createdTerminalId operationId)
  have hkey : jsonStringSize "terminalId" = 12 := by decide
  simp only [Value.size, membersSize, List.length, hkey]
  omega

end

/-! ## Histories -/

theorem terminalId_of_normalizeTerminalRequest {schema : HostSchema} {params : Value} {pendingSessionId : String}
    {make : String → AgentHostOperation} {operation : AgentHostOperation}
    (h : normalizeTerminalRequest schema params pendingSessionId make = .ok operation) : ∃ terminalId, operation = make terminalId := by
  unfold normalizeTerminalRequest at h
  rw [bind_eq_ok] at h
  obtain ⟨request, -, h⟩ := h
  rw [bind_eq_ok] at h
  obtain ⟨-, -, h⟩ := h
  rw [bind_eq_ok] at h
  obtain ⟨terminalId, -, h⟩ := h
  exact ⟨terminalId, (pure_eq_ok.1 h).symm⟩

theorem limit_of_normalizeTerminalCreate {canonicalize : List Char → Option (List Char)} {request : CreateTerminalRequest}
    {pendingSessionId : String} {workspace : List Char} {operation : AgentHostOperation}
    (h : normalizeTerminalCreate canonicalize request pendingSessionId workspace = .ok operation) :
    ∃ command args env cwd limit, operation = .terminalCreate command args env cwd limit ∧ limit ≤ maxTerminalOutputBytes := by
  unfold normalizeTerminalCreate at h
  rw [bind_eq_ok] at h
  obtain ⟨-, -, h⟩ := h
  rw [ite_error_eq_ok, bind_eq_ok] at h
  obtain ⟨-, command, -, h⟩ := h
  rw [ite_error_eq_ok, bind_eq_ok] at h
  obtain ⟨-, args, -, h⟩ := h
  rw [ite_error_eq_ok, ite_error_eq_ok, bind_eq_ok] at h
  obtain ⟨-, -, env, -, h⟩ := h
  rw [ite_error_eq_ok] at h
  obtain ⟨-, h⟩ := h
  dsimp only at h
  rw [ite_error_eq_ok, bind_eq_ok] at h
  obtain ⟨-, cwd, -, h⟩ := h
  rw [ite_error_eq_ok] at h
  obtain ⟨-, h⟩ := h
  rw [ite_error_eq_ok, not_or, Nat.not_lt] at h
  exact ⟨command, args, env, String.ofList cwd, _, (Except.ok.inj h.2).symm, h.1.2⟩

theorem limit_of_accepted {command : String} {args : List String} {env : List (String × String)} {cwd : String} {limit : Nat}
    (h : Accepted (.terminalCreate command args env cwd limit)) : limit ≤ maxTerminalOutputBytes := by
  obtain ⟨schema, canonicalize, method, params, pendingSessionId, workspace, h⟩ := h
  unfold normalizeHostOperation at h
  split_ifs at h
  · rw [bind_eq_ok] at h
    obtain ⟨request, -, h⟩ := h
    obtain ⟨_, _, _, _, _, heq, hlimit⟩ := limit_of_normalizeTerminalCreate h
    cases heq
    exact hlimit
  all_goals
    obtain ⟨terminalId, heq⟩ := terminalId_of_normalizeTerminalRequest h
    cases heq

/-- What is kept for a terminal passes the checks of the client. -/
def AgentSession.Kept (session : AgentSession) : Prop :=
  ∀ terminals, session.terminals = some terminals → ∀ entry ∈ terminals,
    entry.2.output.utf8ByteSize ≤ maxTerminalOutputBytes ∧ ∀ text ∈ entry.2.signal, text.utf8ByteSize ≤ 128

theorem signalOf_size (termination : IsolatedTaskTermination) : ∀ text ∈ signalOf termination, text.utf8ByteSize ≤ 128 := by
  cases termination with
  | exited => exact fun text h => by cases h
  | signaled | timedOut | cancelled =>
      intro text h
      obtain rfl := Option.some.inj h
      decide

theorem terminals_returned (client : AgentClient) (requestId : ExternalRequestId) (failure : String) (session : AgentSession)
    (response : AgentHostResponse) :
    (returned client requestId failure session response).session.terminals = session.terminals := by
  unfold returned
  cases resolveHostRequest client requestId response with
  | ok message => rfl
  | error e => rfl

theorem kept_resolve {client : AgentClient} {session : AgentSession} {requestId : ExternalRequestId}
    {operation : AgentHostOperation} (h : session.Kept) :
    (resolveTerminalHostRequest client session requestId operation).session.Kept := by
  intro terminals hterminals entry hentry
  unfold resolveTerminalHostRequest at hterminals
  cases hid : terminalIdOf operation with
  | none =>
      rw [hid] at hterminals
      exact h terminals hterminals entry hentry
  | some terminalId =>
      rw [hid] at hterminals
      dsimp only at hterminals
      cases hsession : session.terminals with
      | none =>
          rw [hsession] at hterminals
          dsimp only at hterminals
          rw [terminals_returned, hsession] at hterminals
          cases hterminals
      | some before =>
          rw [hsession] at hterminals
          dsimp only at hterminals
          cases hlookup : before.lookup terminalId with
          | none =>
              rw [hlookup] at hterminals
              dsimp only at hterminals
              rw [terminals_returned] at hterminals
              exact h terminals hterminals entry hentry
          | some record =>
              rw [hlookup] at hterminals
              dsimp only at hterminals
              rw [terminals_returned] at hterminals
              obtain rfl := Option.some.inj hterminals
              refine h before hsession entry ?_
              unfold released at hentry
              split at hentry
              · exact (List.mem_filter.1 hentry).1
              · exact hentry

theorem kept_execute {client : AgentClient} {session : AgentSession} {requestId : ExternalRequestId} {outputByteLimit : Nat}
    {operationId : OperationId} {task : Except (List Char) IsolatedTaskReceipt} (h : session.Kept)
    (hlimit : outputByteLimit ≤ maxTerminalOutputBytes) :
    (executeAgentTerminalCreate client session requestId outputByteLimit operationId task).session.Kept := by
  intro terminals hterminals entry hentry
  unfold executeAgentTerminalCreate at hterminals
  cases task with
  | error error =>
      dsimp only at hterminals
      rw [terminals_returned] at hterminals
      exact h terminals hterminals entry hentry
  | ok receipt =>
      dsimp only at hterminals
      cases hsession : session.terminals with
      | none =>
          rw [hsession] at hterminals
          dsimp only at hterminals
          rw [terminals_returned, hsession] at hterminals
          cases hterminals
      | some before =>
          rw [hsession] at hterminals
          dsimp only at hterminals
          rw [terminals_returned] at hterminals
          obtain rfl := Option.some.inj hterminals
          rcases List.mem_cons.1 hentry with rfl | hentry
          · refine ⟨?_, signalOf_size receipt.termination⟩
            show (String.ofList _).utf8ByteSize ≤ _
            rw [HyperTerm.Lib.utf8ByteSize_ofList]
            exact (retainTerminalOutput_retains _ _ outputByteLimit).fits.trans hlimit
          · exact h before hsession entry (List.mem_filter.1 hentry).1

theorem kept_of_reached {session : AgentSession} (h : session.Reached) : session.Kept := by
  induction h with
  | start =>
      intro terminals hterminals entry hentry
      cases hterminals
      cases hentry
  | @served session operation client requestId operationId task _ hoperation ih =>
      cases operation with
      | terminalCreate command args env cwd limit => exact kept_execute ih (limit_of_accepted hoperation)
      | terminalOutput | terminalRelease | terminalWaitForExit | terminalKill => exact kept_resolve ih
  | poisoned _ _ =>
      intro terminals hterminals
      cases hterminals

/-! ## Who is answered -/

section
variable {client : AgentClient} {session : AgentSession} {requestId : ExternalRequestId} {operation : AgentHostOperation}

theorem mem_of_lookup {terminals : Terminals} {terminalId : String} {record : AgentTerminalRecord}
    (h : terminals.lookup terminalId = some record) : (terminalId, record) ∈ terminals := by
  rw [List.lookup_eq_some_iff] at h
  obtain ⟨before, after, rfl, -⟩ := h
  exact List.mem_append_right _ List.mem_cons_self

/-- A request is answered, and the session stays open. -/
def Goes (outcome : Outcome) : Prop :=
  (∃ answer, outcome.sent = some answer) ∧ outcome.continues = true ∧ outcome.session.closed = false

theorem goes_returned (hopen : session.closed = false) (failure : String) (response : AgentHostResponse) :
    Goes (returned client requestId failure session response) ↔
      ∃ message, resolveHostRequest client requestId response = .ok message := by
  unfold returned
  cases resolveHostRequest client requestId response with
  | ok message => exact iff_of_true ⟨⟨message, rfl⟩, rfl, hopen⟩ ⟨message, rfl⟩
  | error e => exact iff_of_false (fun h => Bool.noConfusion h.2.1) (by rintro ⟨message, heq⟩; cases heq)

theorem known_sent_iff (hclient : client.Awaits operation) (hid : SmallId requestId) {terminalId : String}
    (hterminal : terminalIdOf operation = some terminalId) {record : AgentTerminalRecord}
    (houtput : record.output.utf8ByteSize ≤ maxTerminalOutputBytes) (hsignal : ∀ text ∈ record.signal, text.utf8ByteSize ≤ 128) :
    (∃ message, resolveHostRequest client requestId (knownTerminalResponse record operation) = .ok message) ↔
      (operation = .terminalOutput terminalId → outputMessageSize requestId record ≤ acpFrameBytes) := by
  cases operation with
  | terminalCreate command args env cwd limit => cases hterminal
  | terminalOutput id =>
      obtain rfl := Option.some.inj hterminal
      exact (output_sent_iff hclient houtput hsignal).trans ⟨fun h _ => h, fun h => h rfl⟩
  | terminalRelease id => exact iff_of_true (result_sent hclient hid rfl (by decide)) (by intro h; cases h)
  | terminalKill id => exact iff_of_true (result_sent hclient hid rfl (by decide)) (by intro h; cases h)
  | terminalWaitForExit id =>
      have hresponse : hostResponseValue (.terminalWaitForExit id) (.terminalExited record.exitCode record.signal) =
          .ok (.result (.object [("exitCode", exitCodeValue record.exitCode), ("signal", signalValue record.signal)])) := by
        rw [hostResponseValue, boundedSignal_of_le hsignal]
        rfl
      refine iff_of_true (result_sent hclient hid hresponse ?_) (by intro h; cases h)
      have h₁ : jsonStringSize "exitCode" = 10 := by decide
      have h₂ : jsonStringSize "signal" = 8 := by decide
      have hcode := exitCodeValue_size record.exitCode
      have htext := signalValue_size hsignal
      simp only [Value.size, membersSize, List.length, h₁, h₂]
      omega

theorem goes_resolve (hclient : client.Awaits operation) (hid : SmallId requestId) (hopen : session.closed = false)
    (hkept : session.Kept) {terminalId : String} (hterminal : terminalIdOf operation = some terminalId) :
    Goes (resolveTerminalHostRequest client session requestId operation) ↔ Answerable session requestId operation := by
  unfold resolveTerminalHostRequest
  rw [hterminal]
  dsimp only
  have hsame (id : String) (h : terminalIdOf operation = some id) : id = terminalId := Option.some.inj (h.symm.trans hterminal)
  have hname : "Unknown ACP terminal: ".utf8ByteSize = 22 := by decide
  cases hsession : session.terminals with
  | none =>
      refine iff_of_true ((goes_returned hopen _ _).2 ((error_sent_iff hclient hid (by decide) _).2 (by decide))) ⟨?_, ?_⟩
      · intro terminals _ hterminals
        rw [hsession] at hterminals
        cases hterminals
      · intro terminals _ _ hterminals
        rw [hsession] at hterminals
        cases hterminals
  | some terminals =>
      have htable (terminals' : Terminals) (h : session.terminals = some terminals') : terminals' = terminals :=
        Option.some.inj (h.symm.trans hsession)
      dsimp only
      cases hlookup : terminals.lookup terminalId with
      | none =>
          dsimp only
          rw [goes_returned hopen, unknownTerminalResponse, error_sent_iff hclient hid (by decide),
            String.utf8ByteSize_append, hname]
          constructor
          · intro hshort
            refine ⟨fun terminals' id hterminals hid' _ => ?_, fun terminals' id record hterminals hoperation hrecord => ?_⟩
            · rw [hsame id hid']
              omega
            · rw [htable terminals' hterminals, hsame id (by rw [hoperation]; rfl), hlookup] at hrecord
              cases hrecord
          · intro h
            have := h.unknown terminals terminalId hsession hterminal hlookup
            omega
      | some record =>
          dsimp only
          obtain ⟨houtput, hsignal⟩ := hkept terminals hsession (terminalId, record) (mem_of_lookup hlookup)
          refine (goes_returned ?_ _ _).trans ?_
          · exact hopen
          rw [known_sent_iff hclient hid hterminal houtput hsignal]
          constructor
          · intro hsize
            refine ⟨fun terminals' id hterminals hid' hnone => ?_, fun terminals' id record' hterminals hoperation hrecord => ?_⟩
            · rw [htable terminals' hterminals, hsame id hid', hlookup] at hnone
              cases hnone
            · have heq : id = terminalId := hsame id (by rw [hoperation]; rfl)
              rw [htable terminals' hterminals, heq, hlookup] at hrecord
              obtain rfl := Option.some.inj hrecord
              exact hsize (heq ▸ hoperation)
          · exact fun h hoperation => h.output terminals terminalId record hsession hoperation hlookup

theorem boundedError_size (message : List Char) : (String.ofList (boundedError message)).utf8ByteSize ≤ 512 := by
  obtain ⟨hcut, hle, -⟩ := boundaryBelow_spec message (min (utf8 message).length 512)
  obtain ⟨front, rest, hmessage, hfront⟩ := isCharBoundary_iff.1 hcut
  unfold boundedError
  rw [splitAtByte_eq_some.2 ⟨hmessage, hfront⟩, HyperTerm.Lib.utf8ByteSize_ofList]
  show (utf8 front).length ≤ 512
  omega

theorem goes_execute {command : String} {args : List String} {env : List (String × String)} {cwd : String} {limit : Nat}
    (hclient : client.Awaits (.terminalCreate command args env cwd limit)) (hid : SmallId requestId)
    (hopen : session.closed = false) (operationId : OperationId) (task : Except (List Char) IsolatedTaskReceipt) :
    Goes (executeAgentTerminalCreate client session requestId limit operationId task) := by
  unfold executeAgentTerminalCreate
  cases task with
  | error error => exact (goes_returned hopen _ _).2 ((error_sent_iff hclient hid (by decide) _).2 (boundedError_size _))
  | ok receipt =>
      dsimp only
      cases session.terminals with
      | none => exact (goes_returned hopen _ _).2 ((error_sent_iff hclient hid (by decide) _).2 (by decide))
      | some terminals =>
          refine (goes_returned ?_ _ _).2 (created_sent hclient hid operationId)
          exact hopen

/-- What is kept of a task is the longest end of its output. -/
theorem keeps_execute {limit : Nat} {operationId : OperationId} {receipt : IsolatedTaskReceipt} {terminals : Terminals}
    (h : (executeAgentTerminalCreate client session requestId limit operationId (.ok receipt)).session.terminals =
      some terminals) :
    ∃ record, terminals.lookup (createdTerminalId operationId) = some record ∧
      Retains receipt.stdout receipt.stderr limit record.output.toList record.truncated := by
  unfold executeAgentTerminalCreate at h
  dsimp only at h
  cases hsession : session.terminals with
  | none =>
      rw [hsession] at h
      dsimp only at h
      rw [terminals_returned, hsession] at h
      cases h
  | some before =>
      rw [hsession] at h
      dsimp only at h
      rw [terminals_returned] at h
      obtain rfl := Option.some.inj h
      refine ⟨terminalRecord receipt limit, List.lookup_cons_self, ?_⟩
      show Retains _ _ _ (String.ofList _).toList _
      rw [String.toList_ofList]
      exact retainTerminalOutput_retains receipt.stdout receipt.stderr limit

end

/-- **Main result.** An accepted request that is pending with a live client is answered, and leaves the session open, exactly
if its answer can get through; what is kept of a task is the longest end of its output within the limit. -/
theorem serves_iff {session : AgentSession} (hsession : session.Reached) (hopen : session.closed = false)
    {operation : AgentHostOperation} (hoperation : Accepted operation) {client : AgentClient}
    (hclient : client.Awaits operation) {id : Option Value} {requestId : ExternalRequestId} (hid : rpcId id = some requestId)
    (operationId : OperationId) (task : Except (List Char) IsolatedTaskReceipt) :
    Serves client session requestId operation operationId task ↔ Answerable session requestId operation := by
  have hsmall : SmallId requestId := rpcId_size hid
  have hkept := kept_of_reached hsession
  have hother {terminalId : String} (hterminal : terminalIdOf operation = some terminalId)
      (hserve : serve client session requestId operation operationId task =
        resolveTerminalHostRequest client session requestId operation) :
      Serves client session requestId operation operationId task ↔ Answerable session requestId operation := by
    rw [← goes_resolve hclient hsmall hopen hkept hterminal, ← hserve]
    refine ⟨fun h => ⟨h.sent, h.continues, h.stays⟩, fun h => ⟨h.1, h.2.1, h.2.2, ?_⟩⟩
    rintro command args env cwd limit receipt terminals rfl
    cases hterminal
  cases operation with
  | terminalOutput terminalId => exact hother rfl rfl
  | terminalRelease terminalId => exact hother rfl rfl
  | terminalWaitForExit terminalId => exact hother rfl rfl
  | terminalKill terminalId => exact hother rfl rfl
  | terminalCreate command args env cwd limit =>
      obtain ⟨hsent, hcontinues, hstays⟩ := goes_execute hclient hsmall hopen operationId task
      refine iff_of_true ⟨hsent, hcontinues, hstays, ?_⟩ ⟨(by intro _ _ _ h; cases h), (by intro _ _ _ _ h; cases h)⟩
      rintro command' args' env' cwd' limit' receipt terminals heq rfl hterminals
      cases heq
      exact keeps_execute hterminals

/-! ## Terminals that are not there -/

theorem accepted_kill {terminalId : String} (hname : terminalId ≠ "") (hsize : terminalId.utf8ByteSize ≤ 4096) :
    Accepted (.terminalKill terminalId) := by
  refine ⟨⟨fun _ => none, fun _ => some ("session-1", terminalId)⟩, some, "terminal/kill", .null, "session-1", [], ?_⟩
  have hid : normalizeTerminalId terminalId = .ok terminalId := by
    rw [normalizeTerminalId, bounded_of_le hsize]
    dsimp only [bind, Except.bind]
    rw [if_neg hname]
  unfold normalizeHostOperation
  rw [if_neg (by decide), if_neg (by decide), if_neg (by decide), if_neg (by decide), if_pos rfl]
  unfold normalizeTerminalRequest
  dsimp only [okOr, bind, Except.bind]
  rw [validateHostSession, if_neg (not_not_intro rfl), hid]
  rfl

def sampleClient (operation : AgentHostOperation) : AgentClient := ⟨⟨.busy, true, true⟩, some operation⟩

theorem sampleClient_awaits (operation : AgentHostOperation) : (sampleClient operation).Awaits operation :=
  ⟨(by rintro (h | h) <;> cases h), rfl, rfl, rfl⟩

/-- A terminal with a short name is said not to be there. -/
theorem serves_unknown_terminal :
    Serves (sampleClient (.terminalKill "terminal-7")) ⟨some [], none, false⟩ (.string "42") (.terminalKill "terminal-7")
      ⟨0⟩ (.error []) :=
  (@serves_iff _ .start rfl _ (accepted_kill (by decide) (by decide)) _ (sampleClient_awaits _) (some (.string "42")) _
      rfl ⟨0⟩ (.error [])).2
    ⟨fun terminals id _ hid _ => by obtain rfl := Option.some.inj hid; decide, (by intro _ _ _ _ h; cases h)⟩

/-- A name of 491 bytes does not fit into the error, and the session is closed. -/
theorem long_terminal_id_closes_session :
    ¬∀ (session : AgentSession), session.Reached → session.closed = false → ∀ operation, Accepted operation →
      ∀ client : AgentClient, client.Awaits operation → ∀ id requestId, rpcId id = some requestId →
        ∀ (operationId : OperationId) (task : Except (List Char) IsolatedTaskReceipt),
          Serves client session requestId operation operationId task := by
  intro hclaim
  obtain ⟨name, hname, hsize⟩ : ∃ name : String, name ≠ "" ∧ name.utf8ByteSize = 491 := by
    have hsize : (String.ofList (List.replicate 491 'x')).utf8ByteSize = 491 := by
      rw [utf8ByteSize_replicate]
      rfl
    refine ⟨_, fun hempty => ?_, hsize⟩
    rw [hempty] at hsize
    cases hsize
  have hserves := hclaim _ .start rfl _ (accepted_kill hname (by omega)) _ (sampleClient_awaits _) (some (.string "42")) _ rfl
    ⟨0⟩ (.error [])
  have hgoes : Goes (resolveTerminalHostRequest (sampleClient (.terminalKill name)) ⟨some [], none, false⟩ (.string "42")
      (.terminalKill name)) := ⟨hserves.sent, hserves.continues, hserves.stays⟩
  have hid : rpcId (some (.string "42")) = some (.string "42") := rfl
  have hanswerable := (goes_resolve (sampleClient_awaits (.terminalKill name)) (rpcId_size hid) rfl
    (kept_of_reached .start) rfl).1 hgoes
  have hshort := hanswerable.unknown [] name rfl rfl rfl
  omega

end HyperTerm.Daemon.TerminalRequests
