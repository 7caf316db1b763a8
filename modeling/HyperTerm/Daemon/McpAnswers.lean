import HyperTerm.Daemon.McpGateway
import HyperTerm.Drivers.McpFrames

/-!
# The answers of the MCP gateway

The server and the gateway keep what is pending each on its own. As long as every input is `Steady`, the two stay in
step (`Linked`), the loop goes on, and every call that the server accepts is answered exactly once, when its operation
is cancelled, is rejected or has been run.
-/

namespace HyperTerm.Daemon
open HyperTerm.Protocol HyperTerm.Lib HyperTerm.Drivers

/-! ## Calls and answers -/

/-- What an event adds to the calls under an identifier that await their answer. -/
def GatewayEvent.adds (id : ExternalRequestId) : GatewayEvent → Int
  | accepted id' => if id' = id then 1 else 0
  | written _ (some id') => if id' = id then -1 else 0
  | written _ none => 0

/-- The calls under an identifier, less the answers to them. -/
def unanswered (id : ExternalRequestId) (events : List GatewayEvent) : Int := (events.map (GatewayEvent.adds id)).sum

inductive Closing where
  | authorized (revision : Nat)
  | cancelled
  deriving DecidableEq

/-- The end of the wait for an operation. -/
def closing : DomainEvent → Option Closing
  | .operationStateChanged revision _ .authorized _ _ => some (.authorized revision)
  | .operationStateChanged _ _ .cancelled _ _ => some .cancelled
  | _ => none

variable (sha256 : Value → String) (debug : ControlResponse → String)

/-- What the gateway promises about its inputs. -/
structure GatewaySound (gateway : McpGateway) (inputs : List GatewayInput) : Prop where
  running : (gateway.run sha256 debug inputs).result = .ok ()
  once : ∀ id, unanswered id (gateway.run sha256 debug inputs).events =
    if ((gateway.run sha256 debug inputs).gateway.server.pending.get? id).isSome then 1 else 0
  awaited : ∀ id, ((gateway.run sha256 debug inputs).gateway.server.pending.get? id).isSome →
    ∃! p, (gateway.run sha256 debug inputs).gateway.pending.get? p.operationId = some p ∧ p.requestId = id
  answered : ∀ before after event authority p, inputs = before ++ .authority (.event event) authority :: after →
    (gateway.run sha256 debug before).gateway.pending.get? p.operationId = some p →
    event.operationId = some p.operationId → (closing event.payload).isSome →
    ∃ response, ((gateway.run sha256 debug before).gateway.handle sha256 debug
      (.authority (.event event) authority)).events = [.written response (some p.requestId)]

/-! ## Inputs that keep the gateway going -/

/-- The result is a valid answer to the call, and fits a frame. -/
def Answerable (id : ExternalRequestId) (result : McpToolResult) : Prop :=
  validateToolResult result = .ok () ∧ Fits (toolResultValue id result)

/-- There is a task, or the authority creates one, and it files the call under an operation that is not pending, or
refuses it in a text that can be answered. -/
def Proposable (gateway : McpGateway) (authority : Authority) (id : ExternalRequestId) (name : String)
    (arguments : Value) : Prop :=
  ∃ taskId, (gateway.taskId = some taskId ∨
      gateway.taskId = none ∧ authority (.createTask "Agent MCP tools") = .ok (.taskCreated taskId)) ∧
    match McpGateway.proposalOutcome debug (authorityRequest authority (.proposeBrokeredMcpTool taskId name arguments)) with
    | .ok (operationId, _) => gateway.pending.get? operationId = none
    | .error text => Answerable id ⟨text, none, true⟩

/-- The result of a call that the authority was asked to run, unless it refuses or is out of reach. -/
def runResult : Except String ControlResponse → Option McpToolResult
  | .error _ | .ok (.error _ _) => none
  | .ok (.brokeredMcpToolExecuted execution) =>
      some ⟨execution.text, execution.structuredContent, execution.isError⟩
  | .ok response => some ⟨"Rust authority returned an unexpected response: " ++ debug response, none, true⟩

def Runnable (gateway : McpGateway) (authority : Authority) (p : PendingAuthorityCall) (revision : Nat) : Prop :=
  revision = McpGateway.nextRevision p.waitingRevision ∧ revision ≠ 0 ∧ p.decision.getD .allowOnce = .allowOnce ∧
    ∀ taskId c, gateway.taskId = some taskId → gateway.server.pending.get? p.requestId = some c →
      ∃ result, runResult debug (authority (.runAuthorizedBrokeredMcpTool taskId p.operationId revision c.call.name
        c.call.proposal.payloadSha256 c.call.arguments)) = some result ∧ Answerable p.requestId result

def Cancellable (p : PendingAuthorityCall) : Prop :=
  p.waitingRevision ≠ 0 ∧ (p.decision.getD .cancelled = .cancelled ∨ p.decision = some .rejectOnce)

def Steady (gateway : McpGateway) : GatewayInput → Prop
  | .message message authority =>
      message.size ≤ maxMcpFrameBytes ∧
        ∀ id profile name arguments, gateway.server.CallsTool message id profile name arguments →
          match validateArguments profile.toolClass arguments with
          | .error text => Answerable id ⟨text, none, true⟩
          | .ok _ =>
              gateway.server.pending.values.length ≠ maxPendingToolCalls ∧
                gateway.server.pending.get? id = none ∧ Proposable debug gateway authority id name arguments
  | .authority response authority =>
      ∀ event p, response = .event event → event.operationId = some p.operationId →
        gateway.pending.get? p.operationId = some p →
        (∀ revision, closing event.payload = some (.authorized revision) →
          Runnable debug gateway authority p revision) ∧
        (closing event.payload = some .cancelled → Cancellable p)

/-! ## What is pending in the server is pending in the gateway -/

/-- Every pending operation has its call, which is not handed out yet, and every pending call has its operation. -/
structure Linked (gateway : McpGateway) : Prop where
  task : ∀ p, gateway.pending.get? p.operationId = some p → gateway.taskId.isSome
  call : ∀ p, gateway.pending.get? p.operationId = some p → ∃ c,
    gateway.server.pending.get? p.requestId = some c ∧ c.authorized = false ∧
      p.proposalDigest = c.call.proposal.payloadSha256
  operation : ∀ id, (gateway.server.pending.get? id).isSome →
    ∃ p, gateway.pending.get? p.operationId = some p ∧ p.requestId = id
  unique : ∀ p p', gateway.pending.get? p.operationId = some p → gateway.pending.get? p'.operationId = some p' →
    p.requestId = p'.requestId → p = p'
  short : ∀ p, gateway.pending.get? p.operationId = some p → (rpcIdValue p.requestId).size ≤ maxIdSize

/-- What one input does to the two collections of what is pending. -/
inductive GatewayProgress (gateway : McpGateway) (handled : Handled) : Prop
  | quiet (hserver : ∀ id, handled.gateway.server.pending.get? id = gateway.server.pending.get? id)
      (hpending : handled.gateway.pending = gateway.pending)
      (htask : gateway.taskId.isSome → handled.gateway.taskId.isSome)
      (hevents : ∀ id, unanswered id handled.events = 0)
  | decided (p : PendingAuthorityCall) (decision : PermissionDecision)
      (hget : gateway.pending.get? p.operationId = some p)
      (heq : handled.gateway = { gateway with pending := gateway.pending.put { p with decision := some decision } })
      (hevents : handled.events = [])
  | filed (p : PendingAuthorityCall) (c : PendingToolCall) (hfree : gateway.pending.get? p.operationId = none)
      (hnew : gateway.server.pending.get? p.requestId = none) (hcall : c.call.requestId = p.requestId)
      (hfresh : c.authorized = false) (hdigest : p.proposalDigest = c.call.proposal.payloadSha256)
      (hshort : (rpcIdValue p.requestId).size ≤ maxIdSize)
      (hserver : handled.gateway.server.pending = gateway.server.pending.put c)
      (hpending : handled.gateway.pending = gateway.pending.put p) (htask : handled.gateway.taskId.isSome)
      (hevents : handled.events = [.accepted p.requestId])
  | answered (p : PendingAuthorityCall) (response : Value) (hget : gateway.pending.get? p.operationId = some p)
      (hserver : ∀ id, handled.gateway.server.pending.get? id =
        (gateway.server.pending.erase p.requestId).get? id)
      (hpending : handled.gateway.pending = gateway.pending.erase p.operationId)
      (htask : handled.gateway.taskId = gateway.taskId)
      (hevents : handled.events = [.written response (some p.requestId)])

variable {sha256 debug} {gateway : McpGateway} {handled : Handled}

namespace Linked

theorem of_decided (h : Linked gateway) {p : PendingAuthorityCall} (decision : PermissionDecision)
    (hget : gateway.pending.get? p.operationId = some p) :
    Linked { gateway with pending := gateway.pending.put { p with decision := some decision } } := by
  -- every pending operation was pending before, but for the decision
  have hold : ∀ q, (gateway.pending.put { p with decision := some decision }).get? q.operationId = some q →
      ∃ q', gateway.pending.get? q'.operationId = some q' ∧ q'.operationId = q.operationId ∧
        q'.requestId = q.requestId ∧ q'.proposalDigest = q.proposalDigest ∧
        (q.operationId = p.operationId → q = { p with decision := some decision }) ∧
        (q.operationId ≠ p.operationId → q' = q) := by
    intro q hq
    rw [Keyed.get?_put] at hq
    split_ifs at hq with hkey
    · obtain rfl := Option.some.inj hq
      exact ⟨p, hget, rfl, rfl, rfl, fun _ => rfl, fun hne => absurd rfl hne⟩
    · exact ⟨q, hq, rfl, rfl, rfl, fun heq => absurd heq hkey, fun _ => rfl⟩
  refine ⟨fun q hq => ?_, fun q hq => ?_, fun id hid => ?_, fun q₁ q₂ h₁ h₂ heq => ?_, fun q hq => ?_⟩
  · obtain ⟨q', hq', -⟩ := hold q hq
    exact h.task q' hq'
  · obtain ⟨q', hq', -, hrequest, hdigest, -⟩ := hold q hq
    rw [← hrequest, ← hdigest]
    exact h.call q' hq'
  · obtain ⟨q, hq, hrequest⟩ := h.operation id hid
    by_cases hkey : q.operationId = p.operationId
    · obtain rfl : q = p := Option.some.inj (hq.symm.trans (hkey ▸ hget))
      exact ⟨{ q with decision := some decision }, Keyed.get?_put_self _ _, hrequest⟩
    · exact ⟨q, (Keyed.get?_put_of_ne _ { p with decision := some decision } hkey).trans hq, hrequest⟩
  · obtain ⟨q₁', hq₁, hop₁, hr₁, -, heq₁, hne₁⟩ := hold q₁ h₁
    obtain ⟨q₂', hq₂, hop₂, hr₂, -, heq₂, hne₂⟩ := hold q₂ h₂
    have hsame : q₁' = q₂' := h.unique q₁' q₂' hq₁ hq₂ (by rw [hr₁, hr₂, heq])
    have hop : q₁.operationId = q₂.operationId := by rw [← hop₁, ← hop₂, hsame]
    by_cases hkey : q₁.operationId = p.operationId
    · rw [heq₁ hkey, heq₂ (hop ▸ hkey)]
    · rw [← hne₁ hkey, ← hne₂ (hop ▸ hkey), hsame]
  · obtain ⟨q', hq', -, hrequest, -⟩ := hold q hq
    rw [← hrequest]
    exact h.short q' hq'

theorem of_filed (h : Linked gateway) {p : PendingAuthorityCall} {c : PendingToolCall}
    (hfree : gateway.pending.get? p.operationId = none) (hnew : gateway.server.pending.get? p.requestId = none)
    (hcall : c.call.requestId = p.requestId) (hfresh : c.authorized = false)
    (hdigest : p.proposalDigest = c.call.proposal.payloadSha256)
    (hshort : (rpcIdValue p.requestId).size ≤ maxIdSize) {gateway' : McpGateway}
    (hserver : gateway'.server.pending = gateway.server.pending.put c)
    (hpending : gateway'.pending = gateway.pending.put p) (htask : gateway'.taskId.isSome) : Linked gateway' := by
  have hold : ∀ q, gateway'.pending.get? q.operationId = some q →
      q = p ∨ q.operationId ≠ p.operationId ∧ gateway.pending.get? q.operationId = some q := by
    intro q hq
    rw [hpending, Keyed.get?_put] at hq
    split_ifs at hq with hkey
    · exact Or.inl (Option.some.inj hq).symm
    · exact Or.inr ⟨hkey, hq⟩
  -- the call of another operation is another call
  have hother : ∀ q, gateway.pending.get? q.operationId = some q → q.requestId ≠ p.requestId := by
    intro q hq heq
    obtain ⟨c', hc', -⟩ := h.call q hq
    rw [heq, hnew] at hc'
    cases hc'
  refine ⟨fun _ _ => htask, fun q hq => ?_, fun id hid => ?_, fun q₁ q₂ h₁ h₂ heq => ?_, fun q hq => ?_⟩
  · rcases hold q hq with rfl | ⟨-, hq⟩
    · refine ⟨c, ?_, hfresh, hdigest⟩
      rw [hserver, ← hcall, Keyed.get?_put_self]
    · obtain ⟨c', hc', hauthorized, hd⟩ := h.call q hq
      refine ⟨c', ?_, hauthorized, hd⟩
      rw [hserver, Keyed.get?_put_of_ne _ _ (hcall ▸ hother q hq), hc']
  · rw [hserver, Keyed.get?_put] at hid
    by_cases hkey : id = c.call.requestId
    · exact ⟨p, by rw [hpending, Keyed.get?_put_self], hcall ▸ hkey.symm⟩
    · rw [if_neg hkey] at hid
      obtain ⟨q, hq, hrequest⟩ := h.operation id hid
      refine ⟨q, ?_, hrequest⟩
      have hne : q.operationId ≠ p.operationId := by
        intro hop
        rw [hop, hfree] at hq
        cases hq
      rw [hpending, Keyed.get?_put_of_ne _ _ hne, hq]
  · rcases hold q₁ h₁ with rfl | ⟨-, h₁⟩ <;> rcases hold q₂ h₂ with rfl | ⟨-, h₂⟩
    · rfl
    · exact absurd heq.symm (hother q₂ h₂)
    · exact absurd heq (hother q₁ h₁)
    · exact h.unique q₁ q₂ h₁ h₂ heq
  · rcases hold q hq with rfl | ⟨-, hq⟩
    · exact hshort
    · exact h.short q hq

theorem of_answered (h : Linked gateway) {p : PendingAuthorityCall}
    (hget : gateway.pending.get? p.operationId = some p) {gateway' : McpGateway}
    (hserver : ∀ id, gateway'.server.pending.get? id = (gateway.server.pending.erase p.requestId).get? id)
    (hpending : gateway'.pending = gateway.pending.erase p.operationId)
    (htask : gateway'.taskId = gateway.taskId) : Linked gateway' := by
  have hold : ∀ q, gateway'.pending.get? q.operationId = some q →
      gateway.pending.get? q.operationId = some q ∧ q.requestId ≠ p.requestId := by
    intro q hq
    rw [hpending] at hq
    obtain ⟨hq, hne⟩ := Keyed.get?_erase_eq_some.mp hq
    exact ⟨hq, fun heq => hne (by rw [h.unique q p hq hget heq])⟩
  refine ⟨fun q hq => ?_, fun q hq => ?_, fun id hid => ?_, fun q₁ q₂ h₁ h₂ => ?_, fun q hq => ?_⟩
  · rw [htask]
    exact h.task q (hold q hq).1
  · obtain ⟨hq, hne⟩ := hold q hq
    obtain ⟨c, hc, hfresh⟩ := h.call q hq
    exact ⟨c, (hserver _).trans (Keyed.get?_erase_eq_some.mpr ⟨hc, hne⟩), hfresh⟩
  · rw [hserver] at hid
    obtain ⟨c, hc⟩ := Option.isSome_iff_exists.mp hid
    obtain ⟨hc, hne⟩ := Keyed.get?_erase_eq_some.mp hc
    obtain ⟨q, hq, hrequest⟩ := h.operation id (by rw [hc]; rfl)
    refine ⟨q, ?_, hrequest⟩
    rw [hpending]
    refine Keyed.get?_erase_eq_some.mpr ⟨hq, fun hop => hne ?_⟩
    obtain rfl : q = p := Option.some.inj (hq.symm.trans (hop ▸ hget))
    exact hrequest.symm
  · exact h.unique q₁ q₂ (hold q₁ h₁).1 (hold q₂ h₂).1
  · exact h.short q (hold q hq).1

/-- What is pending stays linked. -/
theorem step (h : Linked gateway) (hprogress : GatewayProgress gateway handled) : Linked handled.gateway := by
  cases hprogress with
  | quiet hserver hpending htask hevents =>
      refine ⟨fun p hp => ?_, fun p hp => ?_, fun id hid => ?_, fun p p' hp hp' => ?_, fun p hp => ?_⟩
      · exact htask (h.task p (hpending ▸ hp))
      · rw [hserver]
        exact h.call p (hpending ▸ hp)
      · rw [hserver] at hid
        rw [hpending]
        exact h.operation id hid
      · exact h.unique p p' (hpending ▸ hp) (hpending ▸ hp')
      · exact h.short p (hpending ▸ hp)
  | decided p decision hget heq hevents =>
      rw [heq]
      exact h.of_decided decision hget
  | filed p c hfree hnew hcall hfresh hdigest hshort hserver hpending htask hevents =>
      exact h.of_filed hfree hnew hcall hfresh hdigest hshort hserver hpending htask
  | answered p response hget hserver hpending htask hevents =>
      exact h.of_answered hget hserver hpending htask

end Linked

/-! ## Every call is answered once -/

/-- The calls less the answers are the calls that are pending. -/
def Balanced (gateway : McpGateway) (events : List GatewayEvent) : Prop :=
  ∀ id, unanswered id events = if (gateway.server.pending.get? id).isSome then 1 else 0

theorem unanswered_append (id : ExternalRequestId) (events events' : List GatewayEvent) :
    unanswered id (events ++ events') = unanswered id events + unanswered id events' := by
  unfold unanswered
  rw [List.map_append, List.sum_append]

theorem unanswered_accepted (id id' : ExternalRequestId) :
    unanswered id [.accepted id'] = if id' = id then 1 else 0 := by
  simp [unanswered, GatewayEvent.adds]

theorem unanswered_written (id id' : ExternalRequestId) (response : Value) :
    unanswered id [.written response (some id')] = if id' = id then -1 else 0 := by
  simp [unanswered, GatewayEvent.adds]

theorem Balanced.step {events : List GatewayEvent} (h : Balanced gateway events) (hlinked : Linked gateway)
    (hprogress : GatewayProgress gateway handled) : Balanced handled.gateway (events ++ handled.events) := by
  intro id
  rw [unanswered_append, h id]
  cases hprogress with
  | quiet hserver hpending htask hevents => rw [hserver, hevents, add_zero]
  | decided p decision hget heq hevents =>
      rw [heq, hevents]
      exact add_zero _
  | filed p c hfree hnew hcall hfresh hdigest hshort hserver hpending htask hevents =>
      rw [hevents, unanswered_accepted, hserver, Keyed.get?_put, hcall]
      by_cases hid : p.requestId = id
      · rw [if_pos hid, if_pos hid.symm, ← hid, hnew]
        rfl
      · rw [if_neg hid, if_neg (Ne.symm hid), add_zero]
  | answered p response hget hserver hpending htask hevents =>
      rw [hevents, unanswered_written, hserver]
      by_cases hid : p.requestId = id
      · obtain ⟨c, hc, -⟩ := hlinked.call p hget
        rw [if_pos hid, ← hid, hc, Keyed.get?_erase_self]
        rfl
      · rw [if_neg hid, get?_erase_of_ne (Ne.symm hid), add_zero]

/-! ## What one input does -/

theorem toolResult_of_valid {id : ExternalRequestId} {result : McpToolResult}
    (h : validateToolResult result = .ok ()) : toolResult id result = .ok (toolResultValue id result) := by
  rw [toolResult, h]
  rfl

namespace McpGateway

theorem writeResponse_of_fits {response : Value} (h : Fits response) (answers : Option ExternalRequestId) :
    gateway.writeResponse answers response = ⟨gateway, [.written response answers], .ok ()⟩ := by
  unfold writeResponse
  exact if_neg (not_lt.mpr h)

theorem failCall_eq {id : ExternalRequestId} {c : PendingToolCall} {message : String}
    (hget : gateway.server.pending.get? id = some c) (h : Answerable id ⟨message, none, true⟩) :
    gateway.failCall id message =
      ⟨{ gateway with server := { gateway.server with pending := gateway.server.pending.erase id } },
        [.written (toolResultValue id ⟨message, none, true⟩) (some id)], .ok ()⟩ := by
  unfold failCall McpAgentServer.failTool
  rw [hget]
  dsimp only
  rw [requestId_of_get? hget, toolResult_of_valid h.1]
  exact writeResponse_of_fits h.2 _

theorem completeCall_eq {operationId : OperationId} {id : ExternalRequestId} {c : PendingToolCall}
    {result : McpToolResult} (hget : gateway.server.pending.get? id = some c) (hauthorized : c.authorized = true)
    (h : Answerable id result) :
    gateway.completeCall operationId id result =
      ⟨{ gateway with
          server := { gateway.server with pending := gateway.server.pending.erase id }
          pending := gateway.pending.erase operationId },
        [.written (toolResultValue id result) (some id)], .ok ()⟩ := by
  unfold completeCall McpAgentServer.completeTool
  rw [hget]
  dsimp only
  rw [hauthorized, requestId_of_get? hget, toolResult_of_valid h.1, h.1]
  exact writeResponse_of_fits h.2 _

/-- The gateway has a task after it has asked for one. -/
theorem task_eq {authority : Authority} {taskId : TaskId}
    (h : gateway.taskId = some taskId ∨
      gateway.taskId = none ∧ authority (.createTask "Agent MCP tools") = .ok (.taskCreated taskId)) :
    gateway.task authority = ({ gateway with taskId := some taskId }, .ok taskId) := by
  unfold task
  rcases h with h | ⟨hnone, hcreated⟩
  · rw [h]
    dsimp only
    rw [← h]
  · rw [hnone]
    dsimp only
    rw [authorityRequest, hcreated]

/-- A call that has just been accepted is filed, or answered with the reason why it was not. -/
theorem proposeTool_progress {authority : Authority} {call : McpToolCall} {server : McpAgentServer}
    (hnew : gateway.server.pending.get? call.requestId = none)
    (hserver : server.pending = gateway.server.pending.put ⟨call, false⟩)
    (hshort : (rpcIdValue call.requestId).size ≤ maxIdSize)
    (h : Proposable debug gateway authority call.requestId call.name call.arguments) :
    (({ gateway with server } : McpGateway).proposeTool debug authority call).result = .ok () ∧
      GatewayProgress gateway { ({ gateway with server } : McpGateway).proposeTool debug authority call with
        events := .accepted call.requestId ::
          (({ gateway with server } : McpGateway).proposeTool debug authority call).events } := by
  obtain ⟨taskId, htask, houtcome⟩ := h
  unfold proposeTool
  have hasked : ({ gateway with server } : McpGateway).task authority =
      ({ gateway with server, taskId := some taskId }, .ok taskId) := task_eq htask
  rw [hasked]
  dsimp only
  cases hproposal : proposalOutcome debug
      (authorityRequest authority (.proposeBrokeredMcpTool taskId call.name call.arguments)) with
  | ok filed =>
      obtain ⟨operationId, revision⟩ := filed
      rw [hproposal] at houtcome
      refine ⟨rfl, .filed ⟨operationId, call.requestId, call.proposal.payloadSha256, revision, none⟩ ⟨call, false⟩
        houtcome hnew rfl rfl rfl hshort hserver rfl rfl rfl⟩
  | error text =>
      rw [hproposal] at houtcome
      have hget : server.pending.get? call.requestId = some ⟨call, false⟩ := by
        rw [hserver]
        exact Keyed.get?_put_self _ (⟨call, false⟩ : PendingToolCall)
      dsimp only
      rw [failCall_eq hget houtcome]
      refine ⟨rfl, .quiet (fun id => ?_) rfl (fun _ => rfl) (fun id => ?_)⟩
      · show (server.pending.erase call.requestId).get? id = _
        by_cases hid : id = call.requestId
        · rw [hid, Keyed.get?_erase_self, hnew]
        · rw [get?_erase_of_ne hid, hserver]
          exact Keyed.get?_put_of_ne _ (⟨call, false⟩ : PendingToolCall) hid
      · show unanswered id ([.accepted call.requestId] ++ [.written _ (some call.requestId)]) = 0
        rw [unanswered_append, unanswered_accepted, unanswered_written]
        split_ifs <;> rfl

theorem receiveMcp_progress {authority : Authority} {message : Value}
    (h : Steady debug gateway (.message message authority)) :
    (gateway.receiveMcp sha256 debug authority message).result = .ok () ∧
      GatewayProgress gateway (gateway.receiveMcp sha256 debug authority message) := by
  obtain ⟨hsize, hcall⟩ := h
  unfold receiveMcp
  rcases gateway.server.receive_cases_of_size sha256 hsize with
    ⟨id, profile, name, arguments, hcalls, hreceive⟩ | ⟨hpending, hreply⟩
  · have hsteady := hcall id profile name arguments hcalls
    rw [hreceive]
    unfold McpAgentServer.proposeCall
    cases hvalid : validateArguments profile.toolClass arguments with
    | error text =>
        rw [hvalid] at hsteady
        dsimp only
        rw [toolResult_of_valid hsteady.1]
        dsimp only [Except.map]
        rw [writeResponse_of_fits hsteady.2]
        exact ⟨rfl, .quiet (fun _ => rfl) rfl (fun h => h) (fun _ => rfl)⟩
    | ok _ =>
        rw [hvalid] at hsteady
        obtain ⟨hroom, hnew, hproposable⟩ := hsteady
        dsimp only
        rw [if_neg hroom, hnew]
        exact proposeTool_progress hnew rfl (rpcId_size hcalls.requestId) hproposable
  · rcases hreply with hreply | ⟨response, hreply, hfits⟩
    · dsimp only
      rw [hreply]
      exact ⟨rfl, .quiet (fun id => by rw [← hpending]; rfl) rfl (fun h => h) (fun _ => rfl)⟩
    · dsimp only
      rw [hreply]
      dsimp only
      rw [writeResponse_of_fits hfits]
      exact ⟨rfl, .quiet (fun id => by rw [← hpending]) rfl (fun h => h) (fun _ => rfl)⟩

theorem authorizeTool_allows {server : McpAgentServer} {id : ExternalRequestId} {c : PendingToolCall}
    {authorization : AgentEffectAuthorization} (hget : server.pending.get? id = some c)
    (hrevision : authorization.operationRevision ≠ 0)
    (hdigest : authorization.proposalSha256 = c.call.proposal.payloadSha256)
    (hdecision : authorization.decision = .allowOnce) (hfresh : c.authorized = false) :
    server.authorizeTool id authorization =
      ({ server with pending := server.pending.put { c with authorized := true } }, .ok (.authorized c.call)) := by
  unfold McpAgentServer.authorizeTool
  rw [if_neg hrevision, hget]
  dsimp only
  rw [if_neg (not_not.mpr hdigest), hdecision]
  dsimp only
  rw [if_neg (by rw [hfresh]; decide)]

/-- The call of an authorized operation is run, and answered with its result. -/
theorem executeAuthorized_progress {authority : Authority} {p : PendingAuthorityCall} {revision : Nat}
    (hlinked : Linked gateway) (hget : gateway.pending.get? p.operationId = some p)
    (h : Runnable debug gateway authority p revision) :
    ∃ response, (gateway.executeAuthorized debug authority p revision).result = .ok () ∧
      (gateway.executeAuthorized debug authority p revision).events = [.written response (some p.requestId)] ∧
      GatewayProgress gateway (gateway.executeAuthorized debug authority p revision) := by
  obtain ⟨rfl, hrevision, hdecision, hrun⟩ := h
  obtain ⟨c, hc, hfresh, hdigest⟩ := hlinked.call p hget
  obtain ⟨taskId, htask⟩ := Option.isSome_iff_exists.mp (hlinked.task p hget)
  obtain ⟨result, hresult, hanswer⟩ := hrun taskId c htask hc
  have hid := requestId_of_get? hc
  have hput : (gateway.server.pending.put { c with authorized := true }).get? p.requestId =
      some { c with authorized := true } := by
    rw [← hid]
    exact Keyed.get?_put_self _ ({ c with authorized := true } : PendingToolCall)
  have herase : ∀ id, ((gateway.server.pending.put { c with authorized := true }).erase p.requestId).get? id =
      (gateway.server.pending.erase p.requestId).get? id := by
    intro id
    by_cases hkey : id = p.requestId
    · rw [hkey, Keyed.get?_erase_self, Keyed.get?_erase_self]
    · rw [get?_erase_of_ne hkey, get?_erase_of_ne hkey]
      exact Keyed.get?_put_of_ne _ ({ c with authorized := true } : PendingToolCall) (hid ▸ hkey)
  unfold executeAuthorized
  rw [if_neg (not_not.mpr rfl)]
  dsimp only
  rw [authorizeTool_allows hc hrevision hdigest hdecision hfresh]
  dsimp only
  rw [htask]
  dsimp only
  -- whatever the authority says, the call is completed with the result
  have hcompleted : ∀ g : McpGateway,
      g.server.pending = gateway.server.pending.put { c with authorized := true } →
      g.pending = gateway.pending → g.taskId = gateway.taskId →
      ∃ response, (g.completeCall p.operationId p.requestId result).result = .ok () ∧
        (g.completeCall p.operationId p.requestId result).events = [.written response (some p.requestId)] ∧
        GatewayProgress gateway (g.completeCall p.operationId p.requestId result) := by
    intro g hserver hpending htaskId
    rw [completeCall_eq (hserver ▸ hput) rfl hanswer]
    refine ⟨_, rfl, rfl, .answered p _ hget (fun id => ?_) (by rw [hpending]) htaskId rfl⟩
    rw [← herase, hserver]
  unfold authorityRequest
  rcases hreply : authority _ with e | response
  · rw [hreply] at hresult
    cases hresult
  · rw [hreply] at hresult
    cases response with
    | error code message => cases hresult
    | brokeredMcpToolExecuted execution =>
        obtain rfl := Option.some.inj hresult
        exact hcompleted _ rfl rfl htask.symm
    | taskCreated _ =>
        obtain rfl := Option.some.inj hresult
        exact hcompleted _ rfl rfl htask.symm
    | operationUpdated _ _ _ =>
        obtain rfl := Option.some.inj hresult
        exact hcompleted _ rfl rfl htask.symm
    | event _ =>
        obtain rfl := Option.some.inj hresult
        exact hcompleted _ rfl rfl htask.symm
    | other _ =>
        obtain rfl := Option.some.inj hresult
        exact hcompleted _ rfl rfl htask.symm

/-- The call of an operation that is cancelled, or rejected once, is answered with the rejection. -/
theorem rejectCancelled_progress {p : PendingAuthorityCall} (hlinked : Linked gateway)
    (hget : gateway.pending.get? p.operationId = some p) (h : Cancellable p) :
    ∃ response, (gateway.rejectCancelled p).result = .ok () ∧
      (gateway.rejectCancelled p).events = [.written response (some p.requestId)] ∧
      GatewayProgress gateway (gateway.rejectCancelled p) := by
  obtain ⟨hrevision, hdecision⟩ := h
  obtain ⟨c, hc, hfresh, hdigest⟩ := hlinked.call p hget
  have hshort := hlinked.short p hget
  have hagainst : (AgentEffectAuthorization.mk p.operationId p.waitingRevision p.proposalDigest
      (p.decision.getD .cancelled)).decision = .rejectOnce ∨ p.decision.getD .cancelled = .cancelled := by
    rcases hdecision with hcancelled | hreject
    · exact Or.inr hcancelled
    · exact Or.inl (by rw [hreject]; rfl)
  obtain ⟨text, htext, hrejects⟩ := authorizeTool_rejects hc hrevision hdigest hagainst
  have hfits : Fits (toolResultValue c.call.requestId ⟨text, none, true⟩) := by
    have hsize : jsonStringSize text ≤ 100 := by
      rcases List.mem_cons.mp htext with rfl | htext
      · decide
      · rw [List.mem_singleton.mp htext]
        decide
    unfold Fits maxMcpFrameBytes
    rw [toolResultValue_size, requestId_of_get? hc]
    unfold maxIdSize at hshort
    omega
  unfold rejectCancelled
  rw [hrejects]
  dsimp only
  rw [writeResponse_of_fits hfits]
  exact ⟨_, rfl, rfl, .answered p _ hget (fun _ => rfl) rfl rfl rfl⟩

/-- The end of the wait for an operation: its call is answered. -/
theorem closing_progress {authority : Authority} {event : EventEnvelope} {p : PendingAuthorityCall}
    (hlinked : Linked gateway) (h : Steady debug gateway (.authority (.event event) authority))
    (hget : gateway.pending.get? p.operationId = some p) (hoperation : event.operationId = some p.operationId)
    (hclosing : (closing event.payload).isSome) :
    ∃ response, (gateway.receiveAuthority debug authority (.event event)).result = .ok () ∧
      (gateway.receiveAuthority debug authority (.event event)).events = [.written response (some p.requestId)] ∧
      GatewayProgress gateway (gateway.receiveAuthority debug authority (.event event)) := by
  obtain ⟨hrun, hcancel⟩ := h event p rfl hoperation hget
  unfold receiveAuthority
  simp only [hoperation, Option.bind_some, hget]
  obtain ⟨close, hclose⟩ := Option.isSome_iff_exists.mp hclosing
  cases hpayload : event.payload with
  | operationStateChanged revision fromState toState actor reason =>
      rw [hpayload] at hclose hrun hcancel
      cases toState with
      | authorized => exact executeAuthorized_progress hlinked hget (hrun revision rfl)
      | cancelled => exact rejectCancelled_progress hlinked hget (hcancel rfl)
      | _ => cases hclose
  | _ =>
      rw [hpayload] at hclose
      cases hclose

theorem pass_progress : gateway.pass.result = .ok () ∧ GatewayProgress gateway gateway.pass :=
  ⟨rfl, .quiet (fun _ => rfl) rfl (fun h => h) (fun _ => rfl)⟩

theorem receiveAuthority_progress {authority : Authority} {response : ControlResponse} (hlinked : Linked gateway)
    (h : Steady debug gateway (.authority response authority)) :
    (gateway.receiveAuthority debug authority response).result = .ok () ∧
      GatewayProgress gateway (gateway.receiveAuthority debug authority response) := by
  cases response with
  | event event =>
      cases hpending : event.operationId.bind gateway.pending.get? with
      | none =>
          unfold receiveAuthority
          simp only [hpending]
          exact pass_progress
      | some p =>
          obtain ⟨operationId, hoperation, hget⟩ := Option.bind_eq_some_iff.mp hpending
          obtain rfl : p.operationId = operationId := gateway.pending.filed operationId p hget
          by_cases hclosing : (closing event.payload).isSome
          · obtain ⟨_, hok, _, hprogress⟩ := closing_progress hlinked h hget hoperation hclosing
            exact ⟨hok, hprogress⟩
          · unfold receiveAuthority
            simp only [hpending]
            cases hpayload : event.payload with
            | permissionDecided revision decision actor => exact ⟨rfl, .decided p decision hget rfl rfl⟩
            | operationStateChanged revision fromState toState actor reason =>
                rw [hpayload] at hclosing
                cases toState with
                | authorized => exact absurd rfl hclosing
                | cancelled => exact absurd rfl hclosing
                | _ => exact pass_progress
            | _ => exact pass_progress
  | _ => exact pass_progress

theorem handle_progress (sha256 : Value → String) {input : GatewayInput} (hlinked : Linked gateway) (h : Steady debug gateway input) :
    (gateway.handle sha256 debug input).result = .ok () ∧ GatewayProgress gateway (gateway.handle sha256 debug input) := by
  cases input with
  | message message authority => exact receiveMcp_progress h
  | authority response authority => exact receiveAuthority_progress hlinked h

/-! ## Whole runs -/

theorem run_cons_of_ok {input : GatewayInput} {inputs : List GatewayInput}
    (h : (gateway.handle sha256 debug input).result = .ok ()) :
    gateway.run sha256 debug (input :: inputs) =
      { (gateway.handle sha256 debug input).gateway.run sha256 debug inputs with
        events := (gateway.handle sha256 debug input).events ++
          ((gateway.handle sha256 debug input).gateway.run sha256 debug inputs).events } := by
  rw [run]
  dsimp only
  rw [h]

/-- Every input of a run is steady in the state that it meets. -/
def SteadyRun (sha256 : Value → String) (debug : ControlResponse → String) (gateway : McpGateway)
    (inputs : List GatewayInput) : Prop :=
  ∀ before input after, inputs = before ++ input :: after →
    Steady debug (gateway.run sha256 debug before).gateway input

theorem SteadyRun.append {inputs more : List GatewayInput} (h : SteadyRun sha256 debug gateway (inputs ++ more)) :
    SteadyRun sha256 debug gateway inputs := fun before input after heq =>
  h before input (after ++ more) (by rw [heq, List.append_assoc, List.cons_append])

/-- A run of steady inputs goes on, in step and in balance. -/
theorem run_sound (inputs : List GatewayInput) {events : List GatewayEvent} (hlinked : Linked gateway)
    (hbalanced : Balanced gateway events) (h : SteadyRun sha256 debug gateway inputs) :
    (gateway.run sha256 debug inputs).result = .ok () ∧ Linked (gateway.run sha256 debug inputs).gateway ∧
      Balanced (gateway.run sha256 debug inputs).gateway
        (events ++ (gateway.run sha256 debug inputs).events) := by
  induction inputs generalizing gateway events with
  | nil =>
      refine ⟨rfl, hlinked, ?_⟩
      show Balanced gateway (events ++ [])
      rw [List.append_nil]
      exact hbalanced
  | cons input inputs ih =>
      obtain ⟨hok, hprogress⟩ := handle_progress sha256 hlinked (h [] input inputs rfl)
      have hrest : SteadyRun sha256 debug (gateway.handle sha256 debug input).gateway inputs := by
        intro before i after heq
        have hsteady := h (input :: before) i after (by rw [heq]; rfl)
        rw [run_cons_of_ok hok] at hsteady
        exact hsteady
      obtain ⟨hresult, hlinked', hbalanced'⟩ :=
        ih (hlinked.step hprogress) (hbalanced.step hlinked hprogress) hrest
      rw [run_cons_of_ok hok, ← List.append_assoc]
      exact ⟨hresult, hlinked', hbalanced'⟩

theorem linked_new (driverId : Uuid) (taskId : Option TaskId) (lsp genUi : Bool) :
    Linked (new driverId taskId lsp genUi) := by
  refine ⟨fun p hp => ?_, fun p hp => ?_, fun id hid => ?_, fun p p' hp _ _ => ?_, fun p hp => ?_⟩
  · cases hp
  · cases hp
  · cases hid
  · cases hp
  · cases hp

theorem balanced_new (driverId : Uuid) (taskId : Option TaskId) (lsp genUi : Bool) :
    Balanced (new driverId taskId lsp genUi) [] := fun _ => rfl

/-- **Main result.** As long as every input is steady, the loop goes on, and every call is answered once, when its
operation is cancelled, rejected or run. -/
theorem gatewaySound_of_steady (sha256 : Value → String) (debug : ControlResponse → String) (driverId : Uuid)
    (taskId : Option TaskId) (lsp genUi : Bool) (inputs : List GatewayInput)
    (h : SteadyRun sha256 debug (new driverId taskId lsp genUi) inputs) :
    GatewaySound sha256 debug (new driverId taskId lsp genUi) inputs := by
  have hrun : ∀ more, SteadyRun sha256 debug (new driverId taskId lsp genUi) more → _ := fun more =>
    run_sound more (linked_new driverId taskId lsp genUi) (balanced_new driverId taskId lsp genUi)
  obtain ⟨hok, hlinked, hbalanced⟩ := hrun inputs h
  refine ⟨hok, hbalanced, fun id hid => ?_, fun before after event authority p heq hget hoperation hclosing => ?_⟩
  · obtain ⟨p, hp, hid'⟩ := hlinked.operation id hid
    exact ⟨p, ⟨hp, hid'⟩, fun q hq => hlinked.unique q p hq.1 hp (hq.2.trans hid'.symm)⟩
  · have hsteady := h before _ after heq
    subst heq
    obtain ⟨response, -, hevents, -⟩ := closing_progress (hrun before h.append).2.1 hsteady hget hoperation hclosing
    exact ⟨response, hevents⟩

/-! ## A call that the authority refuses to run -/

/-- The authority files the review under operation 7, and answers the request to run it. -/
def reviewAuthority (answer : ControlResponse) : Authority
  | .createTask _ => .ok (.taskCreated sampleTask)
  | .proposeBrokeredMcpTool _ _ _ => .ok (.operationUpdated ⟨7⟩ 2 .waitingHuman)
  | .runAuthorizedBrokeredMcpTool _ _ _ _ _ _ => .ok answer

def reviewEvent (sequence : Nat) (payload : DomainEvent) : ControlResponse :=
  .event (sampleEvent sequence (some ⟨7⟩) payload)

/-- A session in which a review is called for. -/
def reviewCalled (answer : ControlResponse) : List GatewayInput :=
  [.message (rpcMessage (some 1) "initialize" (.object [("protocolVersion", .string mcpProtocolVersion)]))
      (reviewAuthority answer),
    .message (rpcMessage none "notifications/initialized" (.object [])) (reviewAuthority answer),
    .message (rpcMessage (some 2) "tools/call" (.object
      [("arguments", .object [("after", .string "b"), ("before", .string "a")]),
        ("name", .string "hyper_term.diff.review")])) (reviewAuthority answer)]

/-- The review is allowed, and the authority refuses to run it. -/
def reviewRefused : List GatewayInput :=
  let refusal : ControlResponse := .error "operation_failed" "operation 7 is not authorized"
  reviewCalled refusal ++
    [.authority (reviewEvent 8 (.permissionDecided 2 .allowOnce .user)) (reviewAuthority refusal),
      .authority (reviewEvent 9 (.operationStateChanged 3 .waitingHuman .authorized .user none))
        (reviewAuthority refusal)]

theorem not_gatewaySound_reviewRefused :
    ¬GatewaySound (fun _ => reviewDigest) (fun _ => "") (new 5 none false false) reviewRefused := by
  intro h
  have hstopped : ((new 5 none false false).run (fun _ => reviewDigest) (fun _ => "") reviewRefused).result.isOk =
      false := by decide +kernel
  rw [h.running] at hstopped
  cases hstopped

/-! ## A review that is cancelled -/

def reviewCancelled : List GatewayInput :=
  reviewCalled (.other "") ++
    [.authority (reviewEvent 8 (.operationStateChanged 3 .waitingHuman .cancelled .user none))
      (reviewAuthority (.other ""))]

theorem steadyRun_nil : SteadyRun sha256 debug gateway [] := fun before input after h => by simp at h

theorem steadyRun_concat {inputs : List GatewayInput} {input : GatewayInput}
    (h : SteadyRun sha256 debug gateway inputs)
    (hinput : Steady debug (gateway.run sha256 debug inputs).gateway input) :
    SteadyRun sha256 debug gateway (inputs ++ [input]) := by
  intro before i after heq
  rcases List.eq_nil_or_concat after with rfl | ⟨rest, i', rfl⟩
  · obtain ⟨rfl, hi⟩ := List.append_inj' heq rfl
    obtain rfl := List.head_eq_of_cons_eq hi
    exact hinput
  · rw [List.concat_eq_append, ← List.cons_append, ← List.append_assoc] at heq
    exact h before i rest (List.append_inj' heq rfl).1

theorem steady_of_method {message : Value} {authority : Authority} (hsize : message.size ≤ maxMcpFrameBytes)
    (hmethod : (message.get "method").bind Value.asStr ≠ some "tools/call") :
    Steady debug gateway (.message message authority) :=
  ⟨hsize, fun _ _ _ _ hcalls => absurd hcalls.method hmethod⟩

theorem gatewaySound_reviewCancelled :
    GatewaySound (fun _ => reviewDigest) (fun _ => "") (new 5 none false false) reviewCancelled := by
  have hwaiting : (((new 5 none false false).run (fun _ => reviewDigest) (fun _ => "")
      (reviewCalled (.other ""))).gateway.pending.get? ⟨7⟩).map (fun q => (q.waitingRevision, q.decision)) =
      some (2, none) := by decide +kernel
  refine gatewaySound_of_steady _ _ 5 none false false reviewCancelled ?_
  refine steadyRun_concat (steadyRun_concat (steadyRun_concat (steadyRun_concat steadyRun_nil
    (steady_of_method (by decide) (by decide))) (steady_of_method (by decide) (by decide)))
    ⟨by decide, ?_⟩) ?_
  · rintro id profile name arguments ⟨-, -, hid, -, hname, hprofile, -, rfl, -⟩
    obtain rfl : reviewId = id := Option.some.inj hid
    obtain rfl : "hyper_term.diff.review" = name := Option.some.inj hname
    obtain rfl := Option.some.inj hprofile
    refine ⟨by decide +kernel, ?_, sampleTask, Or.inr ⟨?_, rfl⟩, ?_⟩
    · exact Option.not_isSome_iff_eq_none.mp (by decide +kernel)
    · exact Option.not_isSome_iff_eq_none.mp (by decide +kernel)
    · exact Option.not_isSome_iff_eq_none.mp (by decide +kernel)
  · intro event p hevent hoperation hget
    obtain rfl := ControlResponse.event.inj hevent
    have hkey : p.operationId = ⟨7⟩ := (Option.some.inj hoperation).symm
    have hfiled := congrArg (Option.map fun q => (q.waitingRevision, q.decision)) hget
    rw [hkey] at hfiled
    obtain ⟨hrevision, hdecision⟩ := Prod.ext_iff.mp (Option.some.inj (hfiled.symm.trans hwaiting))
    refine ⟨fun revision h => (nomatch Option.some.inj h), fun _ => ⟨?_, Or.inl ?_⟩⟩
    · rw [show p.waitingRevision = 2 from hrevision]
      decide
    · rw [show p.decision = none from hdecision]
      rfl

end McpGateway

end HyperTerm.Daemon
