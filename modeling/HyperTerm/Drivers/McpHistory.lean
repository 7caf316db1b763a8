import HyperTerm.Drivers.McpServer

/-!
# Histories of an MCP server

Any sequence of calls of the server's methods, with identifiers that are used again and decisions that come late or
twice. An accepted call is handed out at most once and gets at most one result, and no tool is proposed before the
handshake. What is lost is a call that fails with an oversized text, and what is contradicted a call that is rejected
after it has been handed out: these two are the only ways (`historySound_iff`).
-/

namespace HyperTerm.Drivers
open HyperTerm.Protocol HyperTerm.Lib

/-! ## Calls of the server's methods -/

inductive McpRequest where
  | receive (message : Value)
  | authorizeTool (requestId : ExternalRequestId) (authorization : AgentEffectAuthorization)
  | completeTool (requestId : ExternalRequestId) (result : McpToolResult)
  | failTool (requestId : ExternalRequestId) (message : String)

inductive McpReply where
  | received (result : Except McpServerError (Option McpServerAction))
  | authorization (result : Except McpServerError McpAuthorizationOutcome)
  | answer (result : Except McpServerError Value)

def McpReply.isError : McpReply → Bool
  | received r => !r.isOk
  | authorization r => !r.isOk
  | answer r => !r.isOk

variable (sha256 : Value → String)

namespace McpAgentServer

def serve (server : McpAgentServer) : McpRequest → McpAgentServer × McpReply
  | .receive message => ((server.receive sha256 message).1, .received (server.receive sha256 message).2)
  | .authorizeTool id authorization =>
      ((server.authorizeTool id authorization).1, .authorization (server.authorizeTool id authorization).2)
  | .completeTool id result => ((server.completeTool id result).1, .answer (server.completeTool id result).2)
  | .failTool id message => ((server.failTool id message).1, .answer (server.failTool id message).2)

def serveAll (server : McpAgentServer) (requests : List McpRequest) : McpAgentServer :=
  requests.foldl (fun server request => (server.serve sha256 request).1) server

end McpAgentServer

/-! ## What happens to calls -/

inductive CallEvent where
  | accepted
  | handedOut
  | rejected
  | completed
  | failed
  deriving DecidableEq

structure McpEvent where
  requestId : ExternalRequestId
  event : CallEvent
  deriving DecidableEq

def eventOf : McpRequest → McpReply → Option McpEvent
  | .receive _, .received (.ok (some (.toolProposed call))) => some ⟨call.requestId, .accepted⟩
  | .authorizeTool id _, .authorization (.ok (.authorized _)) => some ⟨id, .handedOut⟩
  | .authorizeTool id _, .authorization (.ok (.rejected _)) => some ⟨id, .rejected⟩
  | .completeTool id _, .answer (.ok _) => some ⟨id, .completed⟩
  | .failTool id _, .answer (.ok _) => some ⟨id, .failed⟩
  | _, _ => none

def trace (server : McpAgentServer) : List McpRequest → List McpEvent
  | [] => []
  | request :: requests =>
      (eventOf request (server.serve sha256 request).2).toList ++ trace (server.serve sha256 request).1 requests

/-- What last happened to a call of this identifier. -/
def lastOf (id : ExternalRequestId) (events : List McpEvent) : Option CallEvent :=
  (events.filter fun e => e.requestId = id).getLast?.map McpEvent.event

/-- What may happen to a call after what has last happened under its identifier: an accepted call is handed out, or
rejected, or fails, and a call that is handed out is completed or fails. -/
def CallEvent.mayFollow : CallEvent → Option CallEvent → Bool
  | accepted, none | accepted, some rejected | accepted, some completed | accepted, some failed => true
  | handedOut, some accepted | rejected, some accepted | failed, some accepted => true
  | completed, some handedOut | failed, some handedOut => true
  | _, _ => false

/-- The message asks for the initialization of the session, as the server requires it. -/
def isInitialize (message : Value) : Prop :=
  (message.get "jsonrpc").bind Value.asStr = some "2.0" ∧ (message.get "method").bind Value.asStr = some "initialize" ∧
    (rpcId (message.get "id")).isSome ∧
    (((message.get "params").bind (Value.get "protocolVersion")).bind Value.asStr).isSome

def isInitialized (message : Value) : Prop :=
  (message.get "jsonrpc").bind Value.asStr = some "2.0" ∧
    (message.get "method").bind Value.asStr = some "notifications/initialized" ∧ rpcId (message.get "id") = none

/-- What the server promises about a sequence of calls. -/
structure HistorySound (server : McpAgentServer) (requests : List McpRequest) : Prop where
  order : ∀ before after e, trace sha256 server requests = before ++ e :: after →
    e.event.mayFollow (lastOf e.requestId before) = true
  unchanged : ∀ before after request, requests = before ++ request :: after →
    ((server.serveAll sha256 before).serve sha256 request).2.isError = true →
    ∀ id, ((server.serveAll sha256 before).serve sha256 request).1.pending.get? id =
      (server.serveAll sha256 before).pending.get? id
  handshake : ∀ before after message call, requests = before ++ .receive message :: after →
    ((server.serveAll sha256 before).serve sha256 (.receive message)).2 = .received (.ok (some (.toolProposed call))) →
    ∃ first m₁ between m₂ last, before = first ++ .receive m₁ :: between ++ .receive m₂ :: last ∧
      isInitialize m₁ ∧ isInitialized m₂

/-- A call that is handed out is not rejected, and a pending call does not fail with a text above the bound. -/
def Harmless (server : McpAgentServer) : McpRequest → Prop
  | .authorizeTool id authorization => ∀ p, server.pending.get? id = some p → p.authorized = true →
      authorization.operationRevision ≠ 0 → authorization.proposalSha256 = p.call.proposal.payloadSha256 →
      authorization.decision ≠ .rejectOnce ∧ authorization.decision ≠ .cancelled
  | .failTool id message => ∀ p, server.pending.get? id = some p → message.utf8ByteSize ≤ maxMcpResultBytes
  | _ => True

/-! ## What one call does -/

/-- A call of a method: what it does to the pending calls, and what has happened to one of them. -/
inductive Outcome (server : McpAgentServer) : McpRequest → McpAgentServer → McpReply → Prop
  | quiet {request : McpRequest} {server' : McpAgentServer} {reply : McpReply}
      (hpending : server'.pending = server.pending) (hevent : eventOf request reply = none) :
      Outcome server request server' reply
  | accepted (message : Value) (call : McpToolCall) (hready : server.lifecycle = .ready)
      (hfree : server.pending.get? call.requestId = none) :
      Outcome server (.receive message) { server with pending := server.pending.put ⟨call, false⟩ }
        (.received (.ok (some (.toolProposed call))))
  | handedOut (p : PendingToolCall) (authorization : AgentEffectAuthorization)
      (hget : server.pending.get? p.call.requestId = some p) (h : p.authorized = false) :
      Outcome server (.authorizeTool p.call.requestId authorization)
        { server with pending := server.pending.put { p with authorized := true } }
        (.authorization (.ok (.authorized p.call)))
  | rejected (p : PendingToolCall) (authorization : AgentEffectAuthorization) (response : Value)
      (hget : server.pending.get? p.call.requestId = some p) (hrevision : authorization.operationRevision ≠ 0)
      (hdigest : authorization.proposalSha256 = p.call.proposal.payloadSha256)
      (hdecision : authorization.decision = .rejectOnce ∨ authorization.decision = .cancelled) :
      Outcome server (.authorizeTool p.call.requestId authorization)
        { server with pending := server.pending.erase p.call.requestId } (.authorization (.ok (.rejected response)))
  | completed (p : PendingToolCall) (result : McpToolResult) (response : Value)
      (hget : server.pending.get? p.call.requestId = some p) (h : p.authorized = true) :
      Outcome server (.completeTool p.call.requestId result)
        { server with pending := server.pending.erase p.call.requestId } (.answer (.ok response))
  | failed (p : PendingToolCall) (message : String) (response : Value)
      (hget : server.pending.get? p.call.requestId = some p) (h : message.utf8ByteSize ≤ maxMcpResultBytes) :
      Outcome server (.failTool p.call.requestId message)
        { server with pending := server.pending.erase p.call.requestId } (.answer (.ok response))
  | lost (p : PendingToolCall) (message : String) (e : McpServerError)
      (hget : server.pending.get? p.call.requestId = some p) (h : maxMcpResultBytes < message.utf8ByteSize) :
      Outcome server (.failTool p.call.requestId message)
        { server with pending := server.pending.erase p.call.requestId } (.answer (.error e))

variable {sha256} {server : McpAgentServer} {id : ExternalRequestId}

theorem toolResult_text {id : ExternalRequestId} {text : String} {isError : Bool} :
    toolResult id ⟨text, none, isError⟩ =
      if maxMcpResultBytes < text.utf8ByteSize then .error .resultTooLarge
      else .ok (toolResultValue id ⟨text, none, isError⟩) := by
  unfold toolResult validateToolResult
  split_ifs <;> rfl

namespace McpAgentServer

/-- A message that no tool is proposed for. -/
def Quiet (server : McpAgentServer) (r : Received) : Prop :=
  r.1.pending = server.pending ∧ ∀ call, r.2 ≠ .ok (some (.toolProposed call))

theorem quiet_answer (response : Value) : server.Quiet (server.answer response) := ⟨rfl, fun _ h => nomatch h⟩

theorem quiet_none : server.Quiet (server, .ok none) := ⟨rfl, fun _ h => nomatch h⟩

theorem quiet_error (e : McpServerError) : server.Quiet (server, .error e) := ⟨rfl, fun _ h => nomatch h⟩

theorem quiet_map (id : Option ExternalRequestId) (response : ExternalRequestId → Value) :
    server.Quiet (server, .ok (id.map fun id => .response (response id))) := by
  refine ⟨rfl, fun call h => ?_⟩
  cases id <;> cases h

theorem quiet_onInitialize (id : Option ExternalRequestId) (params : Option Value) :
    server.Quiet (server.onInitialize id params) := by
  unfold onInitialize
  split
  · exact quiet_none
  · split_ifs
    · exact quiet_answer _
    · exact quiet_answer _
    · exact ⟨rfl, fun _ h => nomatch h⟩

theorem quiet_markInitialized (id : Option ExternalRequestId) : server.Quiet (server.markInitialized id) := by
  unfold markInitialized
  split
  · exact quiet_answer _
  · split_ifs
    · exact quiet_none
    · exact ⟨rfl, fun _ h => nomatch h⟩

theorem quiet_listTools (id : Option ExternalRequestId) (params : Option Value) :
    server.Quiet (server.listTools id params) := by
  unfold listTools
  split
  · exact quiet_none
  · split_ifs
    · exact ⟨rfl, fun _ h => nomatch h⟩
    · exact quiet_answer _
    · exact quiet_answer _

theorem quiet_emptyInventory (id : Option ExternalRequestId) (field : String) :
    server.Quiet (server.emptyInventory id field) := by
  unfold emptyInventory
  split
  · exact quiet_none
  · split_ifs
    · exact ⟨rfl, fun _ h => nomatch h⟩
    · exact quiet_answer _

/-- A call is refused, or it is accepted under an identifier that is free. -/
def Proposes (server : McpAgentServer) (r : Received) : Prop :=
  ∃ call, server.lifecycle = .ready ∧ server.pending.get? call.requestId = none ∧
    r = ({ server with pending := server.pending.put ⟨call, false⟩ }, .ok (some (.toolProposed call)))

theorem proposeCall_cases {profile : ToolProfile} {name : String} {arguments : Value} {id : ExternalRequestId}
    (hready : server.lifecycle = .ready) :
    server.Quiet (proposeCall sha256 server id profile name arguments) ∨
      server.Proposes (proposeCall sha256 server id profile name arguments) := by
  unfold proposeCall
  split
  · rw [toolResult_text]
    split_ifs
    · exact Or.inl (quiet_error _)
    · exact Or.inl (quiet_answer _)
  · split_ifs with hfull hused
    · exact Or.inl (quiet_error _)
    · exact Or.inl (quiet_error _)
    · exact Or.inr ⟨_, hready, Option.not_isSome_iff_eq_none.mp hused, rfl⟩

theorem callTool_cases (id : Option ExternalRequestId) (params : Option Value) :
    server.Quiet (server.callTool sha256 id params) ∨ server.Proposes (server.callTool sha256 id params) := by
  unfold callTool
  split
  · exact Or.inl quiet_none
  · by_cases hready : server.lifecycle = .ready
    · rw [if_neg (not_not.mpr hready)]
      split
      · exact Or.inl (quiet_answer _)
      · split
        · exact Or.inl (quiet_answer _)
        · split
          · exact Or.inl (quiet_answer _)
          · dsimp only
            split
            · exact Or.inl (quiet_answer _)
            · split
              · exact Or.inl (quiet_answer _)
              · exact proposeCall_cases hready
    · rw [if_pos hready]
      exact Or.inl (quiet_answer _)

theorem receive_cases (sha256 : Value → String) (message : Value) :
    server.Quiet (server.receive sha256 message) ∨ server.Proposes (server.receive sha256 message) := by
  unfold receive
  split
  · exact Or.inl (quiet_error _)
  · dsimp only
    split
    · exact Or.inl (quiet_map _ _)
    · split
      · exact Or.inl (quiet_map _ _)
      · split_ifs
        · exact Or.inl (quiet_onInitialize _ _)
        · exact Or.inl (quiet_markInitialized _)
        · exact Or.inl (quiet_map _ _)
        · exact Or.inl (quiet_listTools _ _)
        · exact callTool_cases _ _
        · exact Or.inl (quiet_emptyInventory _ _)
        · exact Or.inl (quiet_emptyInventory _ _)
        · exact Or.inl (quiet_map _ _)

end McpAgentServer

theorem requestId_of_get? {pending : PendingToolCalls} {p : PendingToolCall} (h : pending.get? id = some p) :
    p.call.requestId = id :=
  pending.filed id p h

/-- A decision against a pending call answers it, whether or not it has been handed out. -/
theorem authorizeTool_rejects {p : PendingToolCall} {authorization : AgentEffectAuthorization}
    (hget : server.pending.get? id = some p) (hrevision : authorization.operationRevision ≠ 0)
    (hdigest : authorization.proposalSha256 = p.call.proposal.payloadSha256)
    (hdecision : authorization.decision = .rejectOnce ∨ authorization.decision = .cancelled) :
    ∃ text, text ∈ ["tool call was cancelled", "tool call was rejected by the permission broker"] ∧
      server.authorizeTool id authorization =
        ({ server with pending := server.pending.erase id },
          .ok (.rejected (toolResultValue p.call.requestId ⟨text, none, true⟩))) := by
  unfold McpAgentServer.authorizeTool
  rw [if_neg hrevision, hget]
  dsimp only
  rw [if_neg (not_not.mpr hdigest)]
  rcases hdecision with h | h
  · rw [h]
    simp only [toolResult_text]
    exact ⟨_, List.mem_cons_of_mem _ List.mem_cons_self, rfl⟩
  · rw [h]
    simp only [toolResult_text]
    exact ⟨_, List.mem_cons_self, rfl⟩

/-- The call whose failure is described by too long a text is gone, and it has no answer. -/
theorem failTool_loses {p : PendingToolCall} {message : String} (hget : server.pending.get? id = some p)
    (hlong : maxMcpResultBytes < message.utf8ByteSize) :
    server.failTool id message =
      ({ server with pending := server.pending.erase id }, .error .resultTooLarge) := by
  unfold McpAgentServer.failTool
  rw [hget]
  simp only [toolResult_text, if_pos hlong]

theorem serve_outcome (sha256 : Value → String) (server : McpAgentServer) (request : McpRequest) :
    Outcome server request (server.serve sha256 request).1 (server.serve sha256 request).2 := by
  cases request with
  | receive message =>
      rcases server.receive_cases sha256 message with ⟨hpending, hquiet⟩ | ⟨call, hready, hfree, heq⟩
      · refine .quiet hpending ?_
        show eventOf (.receive message) (.received (server.receive sha256 message).2) = none
        generalize (server.receive sha256 message).2 = reply at hquiet
        rcases reply with e | (_ | response | call)
        · rfl
        · rfl
        · rfl
        · exact absurd rfl (hquiet call)
      · simp only [McpAgentServer.serve, heq]
        exact .accepted message call hready hfree
  | authorizeTool id authorization =>
      simp only [McpAgentServer.serve]
      unfold McpAgentServer.authorizeTool
      by_cases hrevision : authorization.operationRevision = 0
      · rw [if_pos hrevision]
        exact .quiet rfl rfl
      · rw [if_neg hrevision]
        cases hget : server.pending.get? id with
        | none => exact .quiet rfl rfl
        | some p =>
            obtain rfl := requestId_of_get? hget
            dsimp only
            split
            case isTrue => exact .quiet rfl rfl
            case isFalse hdigest =>
              cases hdecision : authorization.decision with
              | allowOnce =>
                  dsimp only
                  split_ifs with hauthorized
                  · exact .quiet rfl rfl
                  · exact .handedOut p authorization hget (Bool.not_eq_true _ ▸ hauthorized)
              | rejectOnce =>
                  simp only [toolResult_text]
                  exact .rejected p authorization _ hget hrevision (not_not.mp hdigest) (Or.inl hdecision)
              | cancelled =>
                  simp only [toolResult_text]
                  exact .rejected p authorization _ hget hrevision (not_not.mp hdigest) (Or.inr hdecision)
              | allowAlways => exact .quiet rfl rfl
              | rejectAlways => exact .quiet rfl rfl
  | completeTool id result =>
      simp only [McpAgentServer.serve]
      unfold McpAgentServer.completeTool
      cases hget : server.pending.get? id with
      | none => exact .quiet rfl rfl
      | some p =>
          obtain rfl := requestId_of_get? hget
          dsimp only
          split_ifs with hauthorized
          · exact .quiet rfl rfl
          · cases hvalid : validateToolResult result with
            | error e => exact .quiet rfl rfl
            | ok _ =>
                have hresult : toolResult p.call.requestId result = .ok (toolResultValue p.call.requestId result) := by
                  rw [toolResult, hvalid]
                  rfl
                rw [hresult]
                exact .completed p result _ hget (Bool.not_eq_false _ ▸ hauthorized)
  | failTool id message =>
      simp only [McpAgentServer.serve]
      unfold McpAgentServer.failTool
      cases hget : server.pending.get? id with
      | none => exact .quiet rfl rfl
      | some p =>
          obtain rfl := requestId_of_get? hget
          simp only [toolResult_text]
          split_ifs with hlong
          · exact .lost p message _ hget hlong
          · exact .failed p message _ hget (not_lt.mp hlong)

/-! ## The pending calls are those that await an answer -/

theorem lastOf_concat (id : ExternalRequestId) (events : List McpEvent) (e : McpEvent) :
    lastOf id (events ++ [e]) = if e.requestId = id then some e.event else lastOf id events := by
  unfold lastOf
  rw [List.filter_append]
  split_ifs with h
  · rw [List.filter_cons_of_pos (by simpa using h), List.filter_nil, List.getLast?_concat]
    rfl
  · rw [List.filter_cons_of_neg (by simpa using h), List.filter_nil, List.append_nil]

/-- What has last happened to a call, if it is pending or not. -/
def Awaits : Option PendingToolCall → Option CallEvent → Prop
  | none, last => last ≠ some .accepted ∧ last ≠ some .handedOut
  | some p, last => last = some (if p.authorized then .handedOut else .accepted)

def Tracks (server : McpAgentServer) (events : List McpEvent) : Prop :=
  ∀ id, Awaits (server.pending.get? id) (lastOf id events)

theorem get?_erase_of_ne {pending : PendingToolCalls} {id id' : ExternalRequestId} (h : id' ≠ id) :
    (pending.erase id).get? id' = pending.get? id' := by
  cases hget : pending.get? id' with
  | some p => exact Keyed.get?_erase_eq_some.mpr ⟨hget, h⟩
  | none => exact Keyed.get?_retain_eq_none hget

namespace Tracks

variable {events : List McpEvent}

theorem put (h : Tracks server events) (p : PendingToolCall) :
    Tracks { server with pending := server.pending.put p }
      (events ++ [⟨p.call.requestId, if p.authorized then .handedOut else .accepted⟩]) := by
  intro id
  rw [lastOf_concat, Keyed.get?_put]
  by_cases hid : id = p.call.requestId
  · rw [if_pos hid, if_pos hid.symm]
    rfl
  · rw [if_neg hid, if_neg (Ne.symm hid)]
    exact h id

/-- The call has got its answer. -/
theorem erase (h : Tracks server events) (id : ExternalRequestId) {event : CallEvent}
    (haccepted : event ≠ .accepted) (hhandedOut : event ≠ .handedOut) :
    Tracks { server with pending := server.pending.erase id } (events ++ [⟨id, event⟩]) := by
  intro id'
  rw [lastOf_concat]
  by_cases hid : id = id'
  · subst hid
    rw [if_pos rfl, Keyed.get?_erase_self]
    exact ⟨fun h => haccepted (Option.some.inj h), fun h => hhandedOut (Option.some.inj h)⟩
  · rw [if_neg hid, get?_erase_of_ne (Ne.symm hid)]
    exact h id'

theorem lastOf_pending (h : Tracks server events) {p : PendingToolCall}
    (hget : server.pending.get? id = some p) :
    lastOf id events = some (if p.authorized then .handedOut else .accepted) := by
  have hawaits := h id
  rw [hget] at hawaits
  exact hawaits

theorem mayFollow_accepted (h : Tracks server events) (hget : server.pending.get? id = none) :
    CallEvent.accepted.mayFollow (lastOf id events) = true := by
  have hawaits := h id
  rw [hget] at hawaits
  generalize lastOf id events = last at hawaits
  rcases last with _ | (_ | _ | _ | _ | _)
  · rfl
  · exact absurd rfl hawaits.1
  · exact absurd rfl hawaits.2
  · rfl
  · rfl
  · rfl

end Tracks

/-- One call of a method keeps the calls in step, and what happens in it may follow what has happened before. -/
structure StepSound (server : McpAgentServer) (events : List McpEvent) (request : McpRequest)
    (server' : McpAgentServer) (reply : McpReply) : Prop where
  follows : ∀ e ∈ eventOf request reply, e.event.mayFollow (lastOf e.requestId events) = true
  unchanged : reply.isError = true → ∀ id, server'.pending.get? id = server.pending.get? id

theorem Tracks.step {events : List McpEvent} {request : McpRequest} {server' : McpAgentServer} {reply : McpReply}
    (h : Tracks server events) (hout : Outcome server request server' reply) (hharmless : Harmless server request) :
    Tracks server' (events ++ (eventOf request reply).toList) ∧
      StepSound server events request server' reply := by
  cases hout with
  | quiet hpending hevent =>
      refine ⟨?_, fun e he => ?_, fun _ id => by rw [hpending]⟩
      · rw [hevent]
        intro id
        rw [hpending, Option.toList_none, List.append_nil]
        exact h id
      · rw [hevent] at he
        cases he
  | accepted message call _ hfree =>
      refine ⟨h.put ⟨call, false⟩, fun e he => ?_, fun herr => nomatch herr⟩
      obtain rfl := Option.some.inj he
      exact h.mayFollow_accepted hfree
  | handedOut p authorization hget hfresh =>
      refine ⟨h.put { p with authorized := true }, fun e he => ?_, fun herr => nomatch herr⟩
      obtain rfl := Option.some.inj he
      show CallEvent.handedOut.mayFollow (lastOf p.call.requestId events) = true
      rw [h.lastOf_pending hget, hfresh]
      rfl
  | rejected p authorization response hget hrevision hdigest hdecision =>
      refine ⟨h.erase p.call.requestId (by decide) (by decide), fun e he => ?_, fun herr => nomatch herr⟩
      obtain rfl := Option.some.inj he
      show CallEvent.rejected.mayFollow (lastOf p.call.requestId events) = true
      rw [h.lastOf_pending hget]
      cases hauthorized : p.authorized with
      | false => rfl
      | true =>
          have hno := hharmless p hget hauthorized hrevision hdigest
          rcases hdecision with hreject | hcancelled
          · exact absurd hreject hno.1
          · exact absurd hcancelled hno.2
  | completed p result response hget hauthorized =>
      refine ⟨h.erase p.call.requestId (by decide) (by decide), fun e he => ?_, fun herr => nomatch herr⟩
      obtain rfl := Option.some.inj he
      show CallEvent.completed.mayFollow (lastOf p.call.requestId events) = true
      rw [h.lastOf_pending hget, hauthorized]
      rfl
  | failed p message response hget hshort =>
      refine ⟨h.erase p.call.requestId (by decide) (by decide), fun e he => ?_, fun herr => nomatch herr⟩
      obtain rfl := Option.some.inj he
      show CallEvent.failed.mayFollow (lastOf p.call.requestId events) = true
      rw [h.lastOf_pending hget]
      cases p.authorized <;> rfl
  | lost p message e hget hlong =>
      exact absurd (hharmless p hget) (not_le.mpr hlong)

/-- A call of a method after which the calls are in step is harmless. -/
theorem Tracks.harmless {events : List McpEvent} {request : McpRequest} (h : Tracks server events)
    (hstep : StepSound server events request (server.serve sha256 request).1 (server.serve sha256 request).2) :
    Harmless server request := by
  cases request with
  | receive message => trivial
  | completeTool id result => trivial
  | authorizeTool id authorization =>
      intro p hget hauthorized hrevision hdigest
      rw [← not_or]
      intro hdecision
      obtain ⟨text, -, heq⟩ := authorizeTool_rejects hget hrevision hdigest hdecision
      have hfollows := hstep.follows ⟨id, .rejected⟩ (by
        show _ ∈ eventOf _ (.authorization (server.authorizeTool id authorization).2)
        rw [heq]
        rfl)
      rw [show lastOf id events = _ from h.lastOf_pending hget, hauthorized] at hfollows
      cases hfollows
  | failTool id message =>
      intro p hget
      by_contra hlong
      have heq := failTool_loses hget (not_le.mp hlong)
      have hunchanged := hstep.unchanged (by
        show (McpReply.answer (server.failTool id message).2).isError = true
        rw [heq]
        rfl) id
      rw [show (server.serve sha256 (.failTool id message)).1 = (server.failTool id message).1 from rfl, heq, hget,
        Keyed.get?_erase_self] at hunchanged
      cases hunchanged

/-! ## The handshake -/

/-- The two messages of the handshake stand among these calls. -/
def ShookHands (requests : List McpRequest) : Prop :=
  ∃ first m₁ between m₂ last, requests = first ++ .receive m₁ :: between ++ .receive m₂ :: last ∧
    isInitialize m₁ ∧ isInitialized m₂

theorem ShookHands.append {requests : List McpRequest} (h : ShookHands requests) (more : List McpRequest) :
    ShookHands (requests ++ more) := by
  obtain ⟨first, m₁, between, m₂, last, rfl, h₁, h₂⟩ := h
  exact ⟨first, m₁, between, m₂, last ++ more, by simp, h₁, h₂⟩

/-- How far the handshake has come. -/
def Greeted (requests : List McpRequest) : McpLifecycle → Prop
  | .new => True
  | .initializing => ∃ first m last, requests = first ++ .receive m :: last ∧ isInitialize m
  | .ready => ShookHands requests

theorem Greeted.append {requests : List McpRequest} {lifecycle : McpLifecycle} (h : Greeted requests lifecycle)
    (more : List McpRequest) : Greeted (requests ++ more) lifecycle := by
  cases lifecycle with
  | new => trivial
  | initializing =>
      obtain ⟨first, m, last, rfl, hm⟩ := h
      exact ⟨first, m, last ++ more, by simp, hm⟩
  | ready => exact ShookHands.append h more

namespace McpAgentServer

theorem onInitialize_lifecycle (id : Option ExternalRequestId) (params : Option Value) :
    (server.onInitialize id params).1.lifecycle = server.lifecycle ∨
      ((server.onInitialize id params).1.lifecycle = .initializing ∧ id.isSome ∧
        ((params.bind (Value.get "protocolVersion")).bind Value.asStr).isSome) := by
  unfold onInitialize
  split
  · exact Or.inl rfl
  · split_ifs with _ hversion
    · exact Or.inl rfl
    · exact Or.inl rfl
    · exact Or.inr ⟨rfl, rfl, Option.isSome_iff_ne_none.mpr fun h => hversion (by rw [h]; rfl)⟩

theorem markInitialized_lifecycle (id : Option ExternalRequestId) :
    (server.markInitialized id).1.lifecycle = server.lifecycle ∨
      ((server.markInitialized id).1.lifecycle = .ready ∧ server.lifecycle = .initializing ∧ id = none) := by
  unfold markInitialized
  split
  · exact Or.inl rfl
  · split_ifs with h
    · exact Or.inl rfl
    · exact Or.inr ⟨rfl, not_not.mp h, rfl⟩

theorem listTools_server (id : Option ExternalRequestId) (params : Option Value) :
    (server.listTools id params).1 = server := by
  unfold listTools
  split
  · rfl
  · split_ifs <;> rfl

theorem emptyInventory_server (id : Option ExternalRequestId) (field : String) :
    (server.emptyInventory id field).1 = server := by
  unfold emptyInventory
  split
  · rfl
  · split_ifs <;> rfl

theorem proposeCall_lifecycle (id : ExternalRequestId) (profile : ToolProfile) (name : String)
    (arguments : Value) :
    (proposeCall sha256 server id profile name arguments).1.lifecycle = server.lifecycle := by
  unfold proposeCall
  split
  · rfl
  · split_ifs <;> rfl

theorem callTool_lifecycle (id : Option ExternalRequestId) (params : Option Value) :
    (server.callTool sha256 id params).1.lifecycle = server.lifecycle := by
  unfold callTool
  repeat' split
  all_goals try rfl
  dsimp only
  split
  · rfl
  · exact proposeCall_lifecycle _ _ _ _

theorem receive_lifecycle (sha256 : Value → String) (message : Value) :
    (server.receive sha256 message).1.lifecycle = server.lifecycle ∨
      (isInitialize message ∧ (server.receive sha256 message).1.lifecycle = .initializing) ∨
      (isInitialized message ∧ server.lifecycle = .initializing ∧
        (server.receive sha256 message).1.lifecycle = .ready) := by
  unfold receive
  split
  · exact Or.inl rfl
  · split
    case isTrue => exact Or.inl rfl
    case isFalse hversion =>
      split
      case h_1 => exact Or.inl rfl
      case h_2 method hmethod =>
        split_ifs with h₁ h₂
        · rcases server.onInitialize_lifecycle (rpcId (message.get "id")) (message.get "params") with h | ⟨h, hid, hv⟩
          · exact Or.inl h
          · exact Or.inr (Or.inl ⟨⟨not_not.mp hversion, h₁ ▸ hmethod, hid, hv⟩, h⟩)
        · rcases server.markInitialized_lifecycle (rpcId (message.get "id")) with h | ⟨h, hbefore, hid⟩
          · exact Or.inl h
          · exact Or.inr (Or.inr ⟨⟨not_not.mp hversion, h₂ ▸ hmethod, hid⟩, hbefore, h⟩)
        · exact Or.inl rfl
        · exact Or.inl (by rw [listTools_server])
        · exact Or.inl (callTool_lifecycle _ _)
        · exact Or.inl (by rw [emptyInventory_server])
        · exact Or.inl (by rw [emptyInventory_server])
        · exact Or.inl rfl

theorem serveAll_concat (requests : List McpRequest) (request : McpRequest) :
    server.serveAll sha256 (requests ++ [request]) = ((server.serveAll sha256 requests).serve sha256 request).1 := by
  unfold serveAll
  rw [List.foldl_append]
  rfl

end McpAgentServer

theorem authorizeTool_lifecycle (authorization : AgentEffectAuthorization) :
    (server.authorizeTool id authorization).1.lifecycle = server.lifecycle := by
  unfold McpAgentServer.authorizeTool
  repeat' split
  all_goals rfl

theorem completeTool_lifecycle (result : McpToolResult) :
    (server.completeTool id result).1.lifecycle = server.lifecycle := by
  unfold McpAgentServer.completeTool
  repeat' split
  all_goals rfl

theorem failTool_lifecycle (message : String) : (server.failTool id message).1.lifecycle = server.lifecycle := by
  unfold McpAgentServer.failTool
  split <;> rfl

theorem Greeted.step {requests : List McpRequest} (h : Greeted requests server.lifecycle) (request : McpRequest) :
    Greeted (requests ++ [request]) (server.serve sha256 request).1.lifecycle := by
  cases request with
  | receive message =>
      show Greeted _ (server.receive sha256 message).1.lifecycle
      rcases server.receive_lifecycle sha256 message with heq | ⟨hm, heq⟩ | ⟨hm, hbefore, heq⟩
      · rw [heq]
        exact h.append _
      · rw [heq]
        exact ⟨requests, message, [], rfl, hm⟩
      · rw [heq]
        rw [hbefore] at h
        obtain ⟨first, m, between, rfl, hfirst⟩ := h
        exact ⟨first, m, between, message, [], by simp, hfirst, hm⟩
  | authorizeTool id authorization =>
      show Greeted _ (server.authorizeTool id authorization).1.lifecycle
      rw [authorizeTool_lifecycle]
      exact h.append _
  | completeTool id result =>
      show Greeted _ (server.completeTool id result).1.lifecycle
      rw [completeTool_lifecycle]
      exact h.append _
  | failTool id message =>
      show Greeted _ (server.failTool id message).1.lifecycle
      rw [failTool_lifecycle]
      exact h.append _

theorem greeted (sha256 : Value → String) (requests : List McpRequest) (h : Greeted [] server.lifecycle) :
    Greeted requests (server.serveAll sha256 requests).lifecycle := by
  induction requests using List.reverseRecOn with
  | nil => exact h
  | append_singleton requests request ih =>
      rw [McpAgentServer.serveAll_concat]
      exact ih.step request

/-! ## Whole histories -/

/-- What happens in the calls before does not depend on the calls after. -/
theorem trace_append (server : McpAgentServer) (requests more : List McpRequest) :
    trace sha256 server (requests ++ more) =
      trace sha256 server requests ++ trace sha256 (server.serveAll sha256 requests) more := by
  induction requests generalizing server with
  | nil => rfl
  | cons r requests ih =>
      rw [List.cons_append, trace, trace, ih, List.append_assoc]
      rfl

theorem trace_concat (server : McpAgentServer) (requests : List McpRequest) (request : McpRequest) :
    trace sha256 server (requests ++ [request]) = trace sha256 server requests ++
      (eventOf request ((server.serveAll sha256 requests).serve sha256 request).2).toList := by
  rw [trace_append, trace, trace, List.append_nil]

theorem tracks (requests : List McpRequest) (h : Tracks server [])
    (hharmless : ∀ before r after, requests = before ++ r :: after → Harmless (server.serveAll sha256 before) r) :
    Tracks (server.serveAll sha256 requests) (trace sha256 server requests) := by
  induction requests using List.reverseRecOn with
  | nil => exact h
  | append_singleton requests request ih =>
      rw [McpAgentServer.serveAll_concat, trace_concat]
      have hbefore := ih fun before r after heq =>
        hharmless before r (after ++ [request]) (by rw [heq, List.append_assoc, List.cons_append])
      exact (hbefore.step (serve_outcome sha256 _ request) (hharmless requests request [] rfl)).1

/-- The order of the events is a property of each event and of those before it. -/
theorem mayFollow_of_trace {requests : List McpRequest}
    (h : ∀ before r after, requests = before ++ r :: after →
      ∀ e ∈ eventOf r ((server.serveAll sha256 before).serve sha256 r).2,
        e.event.mayFollow (lastOf e.requestId (trace sha256 server before)) = true)
    {before after : List McpEvent} {e : McpEvent} (htrace : trace sha256 server requests = before ++ e :: after) :
    e.event.mayFollow (lastOf e.requestId before) = true := by
  induction requests using List.reverseRecOn generalizing after with
  | nil => simp [trace] at htrace
  | append_singleton requests request ih =>
      rw [trace_concat] at htrace
      have hearlier : ∀ before r after, requests = before ++ r :: after →
          ∀ e ∈ eventOf r ((server.serveAll sha256 before).serve sha256 r).2,
            e.event.mayFollow (lastOf e.requestId (trace sha256 server before)) = true :=
        fun before r after heq => h before r (after ++ [request]) (by rw [heq, List.append_assoc, List.cons_append])
      cases hevent : eventOf request ((server.serveAll sha256 requests).serve sha256 request).2 with
      | none =>
          rw [hevent, Option.toList_none, List.append_nil] at htrace
          exact ih hearlier htrace
      | some last =>
          rw [hevent, Option.toList_some] at htrace
          rcases List.eq_nil_or_concat after with rfl | ⟨rest, e', rfl⟩
          · obtain ⟨rfl, hlast⟩ := List.append_inj' htrace rfl
            obtain rfl := List.head_eq_of_cons_eq hlast
            exact h requests request [] rfl last hevent
          · rw [List.concat_eq_append, ← List.cons_append, ← List.append_assoc] at htrace
            exact ih hearlier (List.append_inj' htrace rfl).1

/-- The history before a call is sound when the whole history is. -/
theorem HistorySound.of_append {requests more : List McpRequest}
    (h : HistorySound sha256 server (requests ++ more)) : HistorySound sha256 server requests where
  order before after e htrace := by
    refine h.order before (after ++ trace sha256 (server.serveAll sha256 requests) more) e ?_
    rw [trace_append, htrace, List.append_assoc, List.cons_append]
  unchanged before after request heq :=
    h.unchanged before (after ++ more) request (by rw [heq, List.append_assoc, List.cons_append])
  handshake before after message call heq :=
    h.handshake before (after ++ more) message call (by rw [heq, List.append_assoc, List.cons_append])

/-- In a sound history every call of a method was harmless. -/
theorem HistorySound.harmless {requests : List McpRequest} (h : HistorySound sha256 server requests)
    (hinit : Tracks server []) :
    ∀ before r after, requests = before ++ r :: after → Harmless (server.serveAll sha256 before) r := by
  induction requests using List.reverseRecOn with
  | nil => intro before r after heq; simp at heq
  | append_singleton requests request ih =>
      have hearlier := ih h.of_append
      have hlast : Harmless (server.serveAll sha256 requests) request := by
        refine (tracks requests hinit hearlier).harmless ⟨fun e he => ?_, h.unchanged requests [] request rfl⟩
        refine h.order (trace sha256 server requests) [] e ?_
        rw [trace_concat, he, Option.toList_some]
      intro before r after heq
      rcases List.eq_nil_or_concat after with rfl | ⟨rest, r', rfl⟩
      · obtain ⟨rfl, hr⟩ := List.append_inj' heq rfl
        obtain rfl := List.head_eq_of_cons_eq hr
        exact hlast
      · rw [List.concat_eq_append, ← List.cons_append, ← List.append_assoc] at heq
        exact hearlier before r rest (List.append_inj' heq rfl).1

/-- A tool is proposed in a session that is ready. -/
theorem ready_of_proposed {message : Value} {call : McpToolCall}
    (h : (server.serve sha256 (.receive message)).2 = .received (.ok (some (.toolProposed call)))) :
    server.lifecycle = .ready := by
  rcases server.receive_cases sha256 message with ⟨-, hquiet⟩ | ⟨-, hready, -⟩
  · exact absurd (McpReply.received.inj h) (hquiet call)
  · exact hready

theorem tracks_withTools (driverId : Uuid) (tools : List McpToolClass) :
    Tracks (McpAgentServer.withTools driverId tools) [] := fun _ => ⟨nofun, nofun⟩

/-- **Main result.** Whatever is called, and in which order, the promise of the server is kept if and only if no call
that has been handed out is rejected, and no pending call fails with a text above the bound. -/
theorem historySound_iff (sha256 : Value → String) (driverId : Uuid) (tools : List McpToolClass)
    (requests : List McpRequest) :
    HistorySound sha256 (.withTools driverId tools) requests ↔
      ∀ before r after, requests = before ++ r :: after →
        Harmless ((McpAgentServer.withTools driverId tools).serveAll sha256 before) r := by
  have hinit := tracks_withTools driverId tools
  refine ⟨fun h => h.harmless hinit, fun hharmless => ?_⟩
  have hstep : ∀ before r after, requests = before ++ r :: after →
      StepSound ((McpAgentServer.withTools driverId tools).serveAll sha256 before)
        (trace sha256 (.withTools driverId tools) before) r _ _ := fun before r after heq =>
    ((tracks before hinit fun before' r' after' heq' => hharmless before' r' (after' ++ r :: after)
      (by rw [heq, heq', List.append_assoc, List.cons_append])).step (serve_outcome sha256 _ r)
        (hharmless before r after heq)).2
  refine ⟨fun before after e htrace => ?_, fun before after r heq => (hstep before r after heq).unchanged,
    fun before after message call heq hproposed => ?_⟩
  · exact mayFollow_of_trace (fun before r after heq => (hstep before r after heq).follows) htrace
  · have hnew : Greeted [] (McpAgentServer.withTools driverId tools).lifecycle := trivial
    have hgreeted := greeted sha256 before hnew
    have hready := ready_of_proposed hproposed
    rw [hready] at hgreeted
    exact hgreeted

/-! ## A call that is rejected while it runs -/

def rpcMessage (id : Option Nat) (method : String) (params : Value) : Value :=
  .object ((id.map fun n => ("id", Value.ofU64 ⟨n % 2 ^ 64, Nat.mod_lt n (by decide)⟩)).toList ++
    [("jsonrpc", .string "2.0"), ("method", .string method), ("params", params)])

def reviewDigest : String := "db79c198699a4cbb382e5621de2e82694ec43b873fbbc09bf2e6baa92af8759f"

def reviewId : ExternalRequestId := .signed ⟨.unsigned ⟨2, by decide⟩, by decide⟩

/-- The broker decides on the review. -/
def decideReview (decision : PermissionDecision) : McpRequest :=
  .authorizeTool reviewId ⟨⟨7⟩, 3, reviewDigest, decision⟩

/-- The review is allowed, and then it is rejected. -/
def rejectedLate : List McpRequest :=
  [.receive (rpcMessage (some 1) "initialize" (.object [("protocolVersion", .string mcpProtocolVersion)])),
    .receive (rpcMessage none "notifications/initialized" (.object [])),
    .receive (rpcMessage (some 2) "tools/call" (.object
      [("arguments", .object [("after", .string "b"), ("before", .string "a")]),
        ("name", .string "hyper_term.diff.review")])),
    decideReview .allowOnce, decideReview .rejectOnce]

theorem trace_rejectedLate : trace (fun _ => reviewDigest) (.withTools 5 [.diffReview]) rejectedLate =
    [⟨reviewId, .accepted⟩, ⟨reviewId, .handedOut⟩, ⟨reviewId, .rejected⟩] := by
  decide

theorem not_historySound_rejectedLate :
    ¬HistorySound (fun _ => reviewDigest) (.withTools 5 [.diffReview]) rejectedLate := by
  intro h
  have horder := h.order [⟨reviewId, .accepted⟩, ⟨reviewId, .handedOut⟩] [] ⟨reviewId, .rejected⟩ trace_rejectedLate
  have hno : CallEvent.mayFollow .rejected (lastOf reviewId [⟨reviewId, .accepted⟩, ⟨reviewId, .handedOut⟩]) = false :=
    by decide
  rw [hno] at horder
  cases horder

end HyperTerm.Drivers
